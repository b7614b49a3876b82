import NamespaceManifest.Calendar

/-!
# Document values

The value that a configuration or a block document denotes: nothing, a truth value, an integer of
any size, a floating-point number, a text, a calendar date, a moment, a list, or a mapping whose
entries keep the order in which their keys first appeared.  A fragment of code can also denote
something that no document holds, of which only the kind is known.

Keys of a mapping may be values of any plain kind.  Two keys are the same when they are equal texts,
equal dates, the same moment, or equal numbers, where truth values count as the numbers zero and one.
-/

namespace NamespaceManifest

/-- A value of a document, or something foreign to documents of a named kind. -/
inductive Value where
  | null
  | bool (b : Bool)
  | int (n : Int)
  | real (x : Float)
  | text (s : String)
  | date (d : Date)
  | moment (m : Moment)
  | list (items : List Value)
  | map (entries : List (Value × Value))
  | foreign (kind : String)
  deriving Inhabited

namespace Value

/-- The integer that a floating-point number is equal to, if there is one. -/
def integerOfReal? (x : Float) : Option Int :=
  let bits := x.toBits.toNat
  let field : Nat := bits / Nat.pow 2 52 % 2048
  let fraction := bits % Nat.pow 2 52
  let mantissa := if field == 0 then fraction else Nat.pow 2 52 + fraction
  let shift : Int := if field == 0 then -1074 else (field : Int) - 1075
  if field == 2047 then none
  else
    let size? : Option Nat :=
      if 0 ≤ shift then some (mantissa * Nat.pow 2 shift.toNat)
      else if mantissa % Nat.pow 2 (-shift).toNat == 0 then
        some (mantissa / Nat.pow 2 (-shift).toNat)
      else none
    size?.map fun size => if bits / Nat.pow 2 63 == 1 then -(size : Int) else (size : Int)

/-- The integer that a key counts as. -/
def keyInteger? : Value → Option Int
  | bool b => some (if b then 1 else 0)
  | int n => some n
  | real x => integerOfReal? x
  | _ => none

/-- Whether two keys of a mapping are the same. -/
def sameKey : Value → Value → Bool
  | null, null => true
  | text s, text t => s == t
  | date d, date e => d == e
  | moment m, moment n => m.isSame n
  | real x, real y => x == y
  | a, b =>
      match keyInteger? a, keyInteger? b with
      | some m, some n => m == n
      | _, _ => false

/-- The value of the entry with a textual key. -/
def lookup (key : String) : List (Value × Value) → Option Value
  | [] => none
  | (text s, v) :: entries => if s == key then some v else lookup key entries
  | _ :: entries => lookup key entries

/-- The value that a mapping has for a textual key. -/
def get? (key : String) : Value → Option Value
  | map entries => lookup key entries
  | _ => none

/-- Entries with the value of a key set: the entry with that key gets the new value in its place,
and a new key comes last. -/
def insert (key v : Value) : List (Value × Value) → List (Value × Value)
  | [] => [(key, v)]
  | (k, w) :: entries => if sameKey k key then (k, v) :: entries else (k, w) :: insert key v entries

/-- A text that is not empty. -/
def nonemptyText? : Value → Option String
  | text s => if s.isEmpty then none else some s
  | _ => none

/-- The name by which messages call the kind of a value. -/
def kindName : Value → String
  | null => "NoneType"
  | bool _ => "bool"
  | int _ => "int"
  | real _ => "float"
  | text _ => "str"
  | date _ => "date"
  | moment _ => "datetime"
  | list _ => "list"
  | map _ => "dict"
  | foreign kind => kind

end Value
end NamespaceManifest
