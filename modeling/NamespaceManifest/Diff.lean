/-!
# Unified diffs

A diff turns one list of lines into another.  It keeps the longest stretch of lines that both have in
common, the earliest in the old and then in the new list if there are several, and goes on in the same
way before and after that stretch.

A unified diff shows the changes with three lines of context, in hunks that are divided wherever more
than twice as many lines are kept.
-/

namespace NamespaceManifest
namespace Diff

/-- A step from old to new lines: lines that are kept, or old lines replaced by new ones. -/
inductive Edit where
  | keep (lines : List String)
  | change (old new : List String)
  deriving Repr, BEq, DecidableEq

/-- A stretch of lines that two lists have in common: where it starts in either, and its length. -/
structure Stretch where
  old : Nat
  new : Nat
  size : Nat
  deriving Repr, BEq, DecidableEq

/-- The number of lines that two lists start with in common. -/
def commonStart : List String → List String → Nat
  | a :: old, b :: new => if a == b then commonStart old new + 1 else 0
  | _, _ => 0

/-- The longer of two stretches, the first one if they are equally long. -/
def longer (a b : Stretch) : Stretch :=
  if a.size < b.size then b else a

/-- The longest stretch that starts with the first old line, looking through the new lines from an index
on. -/
def longestFrom (old : List String) (i : Nat) : Nat → List String → Stretch → Stretch
  | _, [], best => best
  | j, b :: new, best =>
      longestFrom old i (j + 1) new (longer best ⟨i, j, commonStart old (b :: new)⟩)

/-- The longest common stretch, looking through the old lines from an index on. -/
def longestAmong (new : List String) : Nat → List String → Stretch → Stretch
  | _, [], best => best
  | i, a :: old, best => longestAmong new (i + 1) old (longestFrom (a :: old) i 0 new best)

/-- The longest common stretch of two lists of lines. -/
def longest (old new : List String) : Stretch :=
  longestAmong new 0 old ⟨0, 0, 0⟩

/-- The step between two lists of lines that have nothing in common, if there is one. -/
def changeOf (old new : List String) : List Edit :=
  if old.isEmpty && new.isEmpty then [] else [.change old new]

/-- The steps from old to new lines; two neighbours may both keep lines. -/
def steps (old new : List String) : List Edit :=
  if 0 < (longest old new).size ∧ (longest old new).old + (longest old new).size ≤ old.length then
    steps (old.take (longest old new).old) (new.take (longest old new).new)
      ++ .keep ((old.drop (longest old new).old).take (longest old new).size)
      :: steps (old.drop ((longest old new).old + (longest old new).size))
        (new.drop ((longest old new).new + (longest old new).size))
  else changeOf old new
termination_by old.length
decreasing_by
  · simp only [List.length_take]; omega
  · simp only [List.length_drop]; omega

/-- Steps in which no two neighbours both keep lines. -/
def joinKept : List Edit → List Edit
  | [] => []
  | .keep a :: edits =>
      match joinKept edits with
      | .keep b :: more => .keep (a ++ b) :: more
      | more => .keep a :: more
  | edit :: edits => edit :: joinKept edits

/-- The edit script from old to new lines. -/
def script (old new : List String) : List Edit :=
  joinKept (steps old new)

/-- The number of lines around a change that are shown with it. -/
def context : Nat := 3

/-- Edits that are shown together, with the numbers of lines before them. -/
structure Hunk where
  oldStart : Nat
  newStart : Nat
  edits : List Edit
  deriving Repr, BEq, DecidableEq

namespace Edit

/-- The old lines of an edit. -/
def oldLines : Edit → List String
  | keep lines => lines
  | change old _ => old

/-- The new lines of an edit. -/
def newLines : Edit → List String
  | keep lines => lines
  | change _ new => new

/-- An edit as lines with a mark in front. -/
def render : Edit → List String
  | keep lines => lines.map (" " ++ ·)
  | change old new => old.map ("-" ++ ·) ++ new.map ("+" ++ ·)

/-- Whether an edit changes something. -/
def isChange : Edit → Bool
  | keep _ => false
  | change _ _ => true

end Edit

/-- The last lines of a list, up to the size of a context. -/
def lastLines (lines : List String) : List String :=
  lines.drop (lines.length - context)

/-- Hunks of a script, after the hunk that is being put together.  Kept lines at the end of the script
are cut to the context, and a longer run of kept lines divides two hunks. -/
def hunksFrom (current : Hunk) (oldLine newLine : Nat) : List Edit → List Hunk
  | [] => [current]
  | [.keep lines] => [{ current with edits := current.edits ++ [.keep (lines.take context)] }]
  | .keep lines :: edits =>
      let size := lines.length
      if 2 * context < size then
        { current with edits := current.edits ++ [.keep (lines.take context)] } ::
          hunksFrom
            { oldStart := oldLine + size - context
              newStart := newLine + size - context
              edits := [.keep (lastLines lines)] }
            (oldLine + size) (newLine + size) edits
      else
        hunksFrom { current with edits := current.edits ++ [.keep lines] } (oldLine + size)
          (newLine + size) edits
  | .change old new :: edits =>
      hunksFrom { current with edits := current.edits ++ [.change old new] } (oldLine + old.length)
        (newLine + new.length) edits

/-- The hunks of a script; kept lines at its start are cut to the context. -/
def hunks : List Edit → List Hunk
  | .keep lines :: edits =>
      let size := lines.length
      let shown := lastLines lines
      (hunksFrom
        { oldStart := size - shown.length, newStart := size - shown.length, edits := [.keep shown] }
        size size edits).filter fun h => h.edits.any Edit.isChange
  | edits =>
      (hunksFrom { oldStart := 0, newStart := 0, edits := [] } 0 0 edits).filter fun h =>
        h.edits.any Edit.isChange

/-- A range of lines in the header of a hunk: its first line, counted from one, and its length unless
that is one.  An empty range names the line before it. -/
def range (start length : Nat) : String :=
  if length == 1 then toString (start + 1)
  else if length == 0 then toString start ++ ",0"
  else toString (start + 1) ++ "," ++ toString length

/-- A hunk as lines. -/
def Hunk.render (h : Hunk) : List String :=
  let old := (h.edits.flatMap Edit.oldLines).length
  let new := (h.edits.flatMap Edit.newLines).length
  ("@@ -" ++ range h.oldStart old ++ " +" ++ range h.newStart new ++ " @@")
    :: h.edits.flatMap Edit.render

/-- The unified diff of two lists of lines with their titles; equal lists have none. -/
def unified (oldTitle newTitle : String) (old new : List String) : List String :=
  match hunks (script old new) with
  | [] => []
  | found => ("--- " ++ oldTitle) :: ("+++ " ++ newTitle) :: found.flatMap Hunk.render

end Diff
end NamespaceManifest
