import NamespaceManifest.Block.Document
import NamespaceManifest.Directive.Pass
import NamespaceManifest.Json.Reader
import NamespaceManifest.Text.Encoding
import NamespaceManifest.Text.Lines

/-!
# The compile service

The service answers requests: a health check, and the compilation of blocks that come with the request
as JSON.  A request that does not have the expected form is refused with a list of the places at
fault; a document that cannot be compiled is refused with a message.

The service also has pages that describe it; of these only the routes are given here.  A path that
differs from a known one by slashes at its end is sent there.

The service has no evaluator and writes no files.
-/

namespace NamespaceManifest
namespace Service

/-- A request: its method, its path, and the bytes that come with it. -/
structure Request where
  method : String
  path : String
  body : List UInt8 := []

/-- What is wrong at a place of a request body. -/
inductive Refusal where
  | missing
  | invalidJson (position : Nat)
  | notAnObject
  | blocksNotAList
  | blockNotAMapping (index : Nat)
  | unknownStage
  deriving Repr, BEq, DecidableEq

/-- Which kinds of directives a request asks for. -/
inductive Extent where
  | imports
  | full
  deriving Repr, BEq, DecidableEq

/-- A request that has the expected form. -/
structure CompileRequest where
  blocks : List Value := []
  extent : Extent := .full

/-- What the service answers. -/
inductive Response where
  | healthy
  | compiled (lines : List String) (issues : List Issue)
  | described
  | redirected
  | failed (message : String)
  | unreadable
  | refused (refusals : List Refusal)
  | notFound
  | methodNotAllowed

/-- The status code of a response. -/
def Response.status : Response → Nat
  | healthy => 200
  | compiled _ _ => 200
  | described => 200
  | redirected => 307
  | failed _ => 400
  | unreadable => 400
  | refused _ => 422
  | notFound => 404
  | methodNotAllowed => 405

/-- The kind of a refusal as responses name it. -/
def Refusal.kind : Refusal → String
  | missing => "missing"
  | invalidJson _ => "json_invalid"
  | notAnObject => "model_attributes_type"
  | blocksNotAList => "list_type"
  | blockNotAMapping _ => "dict_type"
  | unknownStage => "literal_error"

/-- The place of a refusal in the request. -/
def Refusal.place : Refusal → List Value
  | missing => [.text "body"]
  | invalidJson position => [.text "body", .int position]
  | notAnObject => [.text "body"]
  | blocksNotAList => [.text "body", .text "blocks"]
  | blockNotAMapping index => [.text "body", .text "blocks", .int index]
  | unknownStage => [.text "body", .text "stage"]

/-- A mapping with textual keys. -/
def object (entries : List (String × Value)) : Value :=
  .map (entries.map fun entry => (.text entry.1, entry.2))

/-- An issue in a response. -/
def issueValue (i : Issue) : Value :=
  object [("location", .text i.location), ("tag", .text i.tag), ("message", .text i.message)]

/-- The body of a response. -/
def Response.body : Response → Value
  | healthy => object [("status", .text "ok")]
  | compiled lines issues =>
      object [("lines", .list (lines.map .text)), ("issues", .list (issues.map issueValue))]
  | described => .null
  | redirected => .null
  | failed message => object [("detail", .text message)]
  | unreadable => object [("detail", .text "There was an error parsing the body")]
  | refused refusals =>
      object [("detail", .list (refusals.map fun r =>
        object [("type", .text r.kind), ("loc", .list r.place)]))]
  | notFound => object [("detail", .text "Not Found")]
  | methodNotAllowed => object [("detail", .text "Method Not Allowed")]

/-- The blocks that are no mappings, from an index on. -/
def blockRefusals : Nat → List Value → List Refusal
  | _, [] => []
  | index, .map _ :: items => blockRefusals (index + 1) items
  | index, _ :: items => .blockNotAMapping index :: blockRefusals (index + 1) items

/-- What is wrong with the blocks of a request. -/
def refusalsOfBlocks : Option Value → List Refusal
  | none => []
  | some (.list items) => blockRefusals 0 items
  | some _ => [.blocksNotAList]

/-- The extent that a request names. -/
def extent? : Option Value → Option Extent
  | none => some .full
  | some (.text "pre") => some .imports
  | some (.text "full") => some .full
  | some _ => none

/-- A request body of the expected form, or all that is wrong with it. -/
def validate (body : Value) : Except (List Refusal) CompileRequest :=
  match body with
  | .map entries =>
      let blocks := Value.lookup "blocks" entries
      let faults := refusalsOfBlocks blocks
      match extent? (Value.lookup "stage" entries), faults, blocks with
      | some extent, [], some (.list items) => .ok { blocks := items, extent := extent }
      | some extent, [], _ => .ok { extent := extent }
      | some _, _, _ => .error faults
      | none, _, _ => .error (faults ++ [.unknownStage])
  | _ => .error [.notAnObject]

/-- The kinds of an extent. -/
def Extent.kinds : Extent → Directive.KindSet
  | imports => Directive.importKinds
  | full => Directive.allKinds

/-- The answer to a request of the expected form. -/
def compile (r : CompileRequest) : Response :=
  match BlockDocument.read (some "request") (.list r.blocks) with
  | .error e => .failed e.message
  | .ok (blocks, issues) =>
      match Directive.compile r.extent.kinds none blocks with
      | .error e => .failed e.message
      | .ok pass => .compiled pass.lines (issues ++ pass.issues)

/-- The answer to the body of a compile request. -/
def compileBody (body : List UInt8) : Response :=
  if body.isEmpty then .refused [.missing]
  else
    match (Text.Encoding.readDetected? body).map Json.parse with
    | none => .unreadable
    | some (.error (.malformed position)) => .refused [.invalidJson position]
    | some (.error _) => .unreadable
    | some (.ok v) =>
        match validate v with
        | .error refusals => .refused refusals
        | .ok r => compile r

/-- What the service has at a path. -/
inductive Route where
  | health
  | compile
  | description
  deriving Repr, BEq, DecidableEq

/-- The paths of the service. -/
def routes : List (String × Route) :=
  [("/openapi.json", .description), ("/docs", .description), ("/docs/oauth2-redirect", .description),
   ("/redoc", .description), ("/health", .health), ("/compile", .compile)]

/-- The route of a path, which may have one line feed at its end. -/
def route? (path : List Char) : Option Route :=
  (routes.find? fun entry =>
    Text.holdsUpToNewline (fun s => s == entry.1.toList) path).map (·.2)

/-- Whether a path with its slashes at the end taken away, or with one added, is known. -/
def isSlashVariant (path : List Char) : Bool :=
  let other :=
    if path.getLast? == some '/' then Text.dropEndWhile (· == '/') path else path ++ ['/']
  (route? other).isSome

/-- The answer to a request. -/
def respond (r : Request) : Response :=
  match route? r.path.toList with
  | some .health => if r.method == "GET" then .healthy else .methodNotAllowed
  | some .compile => if r.method == "POST" then compileBody r.body else .methodNotAllowed
  | some .description =>
      if r.method == "GET" || r.method == "HEAD" then .described else .methodNotAllowed
  | none => if isSlashVariant r.path.toList then .redirected else .notFound

end Service
end NamespaceManifest
