import NamespaceManifest.CommandLine.Run

/-!
# What a command looks at

A command looks only at a few places of the file system: the root folder of the module, the
configuration file in it, the manifest, the block document, and the log file.  The manifest and the
block document are known once the configuration file has been read, so two looks are enough.
-/

namespace NamespaceManifest
namespace CommandLine

/-- The root folder that a command works in. -/
def Command.root? : Command → Option String
  | .build root _ _ _ _ => some root
  | .clean root => some root
  | .serve _ _ => none

/-- The block document that a command names itself. -/
def Command.blocks? : Command → Option String
  | .build _ blocks _ _ _ => blocks.bind Given.value?
  | _ => none

/-- The manifest and the block document of a module, if its configuration can be read. -/
def configuredPlaces (env : Environment) (root : String) (blocks : Option String) (t : Tree) :
    List Path :=
  match Build.configOf env root t with
  | .ok found =>
      let config := Build.override { blocks := blocks } found
      config.manifestPath :: (Build.blocksPath env config).toOption.toList
  | .error _ => []

/-- The places that are known of a command when a part of the file system has been seen. -/
def Command.places (env : Environment) (command : Command) (t : Tree) : List Path :=
  match command.root? with
  | none => []
  | some root =>
      match env.expand (Path.ofText root) with
      | .ok p =>
          let folder := env.resolve p
          folder :: folder.joinText Config.fileName ::
            configuredPlaces env root command.blocks? t
      | .error _ => []

/-- The places that are known of a command line when a part of the file system has been seen. -/
def footprint (env : Environment) (words : List String) (t : Tree) : List Path :=
  match parse words with
  | .run a =>
      ((a.logFile.bind Given.value?).map env.resolve).toList ++ a.command.places env t
  | _ => []

end CommandLine
end NamespaceManifest
