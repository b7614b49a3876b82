import NamespaceManifest.Block.Basic

/-!
# Issues

An issue is a problem with one tag of one block that does not end the work.  Either the raw text of
the tag does not fit its shape, or the tag asks for a directive that the block cannot complete.
-/

namespace NamespaceManifest

/-- What is wrong with a tag. -/
inductive Complaint where
  | shape (e : ShapeError)
  | nothingToExport
  | notAConventionMethod
  deriving Repr, BEq, DecidableEq

/-- A complaint in words. -/
def Complaint.message : Complaint → String
  | shape e => e.message
  | nothingToExport => "bare @export needs a documented object or @name"
  | notAConventionMethod =>
      "`@exportS3Method` and `@exportS3Method generic` must be used with an S3 method"

/-- A problem with one tag of one block. -/
structure Issue where
  location : String
  tag : String
  complaint : Complaint
  deriving Repr, BEq, DecidableEq

namespace Issue

/-- The complaint of an issue in words. -/
def message (i : Issue) : String :=
  i.complaint.message

/-- An issue on one line: location, tag and complaint. -/
def display (i : Issue) : String :=
  "[" ++ i.location ++ "] @" ++ i.tag ++ ": " ++ i.message

end Issue
end NamespaceManifest
