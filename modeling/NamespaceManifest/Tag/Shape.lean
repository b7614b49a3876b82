import NamespaceManifest.Tag.Value

/-!
# Tag shapes

Every namespace tag has a shape that its raw text must fit.

* A code tag takes any text that is not blank.
* A line tag takes words that stand on a single line, possibly none.
* A word tag takes words on any number of lines, with a least and possibly a greatest number.

Shaping turns the raw text into the value of the tag or says how it misses the shape.  A tag outside
the table keeps its text, trimmed.
-/

namespace NamespaceManifest

/-- What the raw text of a tag has to look like. -/
inductive Shape where
  | code
  | line
  | words (least : Int) (most : Option Int)
  deriving Repr, BEq, DecidableEq

/-- Why a raw text does not fit the shape of its tag. -/
inductive ShapeError where
  | blankCode (tag : String) (shape : Shape)
  | severalLines (tag : String) (shape : Shape)
  | tooFew (tag : String) (shape : Shape) (count : Nat)
  | tooMany (tag : String) (shape : Shape) (count : Nat)
  deriving Repr, BEq, DecidableEq

namespace Shape

/-- A shape in words. -/
def describe : Shape → String
  | code => "a code fragment"
  | line => "a single line of words"
  | words least none => "at least " ++ toString least ++ " word(s)"
  | words least (some most) =>
      if least = most then "exactly " ++ toString least ++ " word(s)"
      else toString least ++ " to " ++ toString most ++ " words"

/-- The shapes of the namespace tags. -/
def table : List (String × Shape) :=
  [("evalNamespace", code),
   ("export", line),
   ("exportClass", words 1 none),
   ("exportS3Method", words 0 (some 2)),
   ("exportMethod", words 1 none),
   ("exportPattern", words 1 none),
   ("import", words 1 none),
   ("importClassesFrom", words 2 none),
   ("importFrom", words 2 none),
   ("importMethodsFrom", words 2 none),
   ("rawNamespace", code),
   ("useDynLib", words 1 none)]

/-- The shape of a tag, if it is a namespace tag. -/
def ofTag? (tag : String) : Option Shape :=
  table.lookup tag

/-- Whether a number of words is above the greatest number that a shape allows. -/
def exceeds (count : Nat) : Option Int → Bool
  | none => false
  | some most => most < (count : Int)

/-- The value of a tag of a given shape with a given raw text. -/
def read (shape : Shape) (tag raw : String) : Except ShapeError TagValue :=
  match shape with
  | code =>
      if Text.isBlankText raw then .error (.blankCode tag shape)
      else .ok (.code (Text.trim raw))
  | line =>
      if (Text.trim raw).toList.contains '\n' then .error (.severalLines tag shape)
      else .ok (.words (Text.words raw))
  | words least most =>
      let items := Text.words raw
      if (items.length : Int) < least then .error (.tooFew tag shape items.length)
      else if exceeds items.length most then .error (.tooMany tag shape items.length)
      else .ok (.words items)

end Shape

namespace ShapeError

/-- A shape error in words. -/
def message : ShapeError → String
  | blankCode tag shape => "@" ++ tag ++ " requires " ++ shape.describe
  | severalLines tag shape => "@" ++ tag ++ " must be " ++ shape.describe
  | tooFew tag shape count =>
      "@" ++ tag ++ " requires " ++ shape.describe ++ ", got " ++ toString count
  | tooMany tag shape count =>
      "@" ++ tag ++ " takes " ++ shape.describe ++ ", got " ++ toString count

end ShapeError

/-- The value of a tag with a given raw text. -/
def shapeTag (tag raw : String) : Except ShapeError TagValue :=
  match Shape.ofTag? tag with
  | none => .ok (.text (Text.trim raw))
  | some shape => shape.read tag raw

end NamespaceManifest
