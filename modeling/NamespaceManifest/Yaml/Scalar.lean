import NamespaceManifest.Number.Reading
import NamespaceManifest.Value.Basic
import NamespaceManifest.Yaml.Failure

/-!
# The meaning of plain scalars

A scalar without quotes denotes a truth value, a number, nothing, a date or a moment when it looks like
one, and a text otherwise.

* Integers are decimal, binary after `0b`, octal after a zero, hexadecimal after `0x`, or in base sixty
  with colons; underscores between the digits do not count.  Decimal digits must not be too many.
* A floating-point number has a point; an exponent has a sign.
* A date has four, two and two digits.  In a moment a time of day follows, and perhaps the distance from
  universal time.  Both must exist in the calendar.

A scalar that looks like one of these and cannot be read as one fails.
-/

namespace NamespaceManifest
namespace Yaml

namespace Scalar

/-- Words that denote truth. -/
def trueWords : List String :=
  ["yes", "Yes", "YES", "true", "True", "TRUE", "on", "On", "ON"]

/-- Words that denote falsehood. -/
def falseWords : List String :=
  ["no", "No", "NO", "false", "False", "FALSE", "off", "Off", "OFF"]

/-- Words that denote nothing. -/
def nullWords : List String :=
  ["", "~", "null", "Null", "NULL"]

/-- A digit. -/
def isDigit (c : Char) : Bool := '0' ≤ c && c ≤ '9'

/-- A digit or an underscore. -/
def isSpacedDigit (c : Char) : Bool := c == '_' || isDigit c

/-- A text without its underscores. -/
def dropUnderscores (s : List Char) : List Char := s.filter (· != '_')

/-- The sign of a number, true for a minus, and the rest. -/
def splitSign : List Char → Bool × List Char
  | '-' :: s => (true, s)
  | '+' :: s => (false, s)
  | s => (false, s)

/-- A text cut at its colons. -/
def cutAtColons : List Char → List (List Char)
  | [] => [[]]
  | c :: s =>
      if c = ':' then [] :: cutAtColons s
      else
        match cutAtColons s with
        | [] => [[c]]
        | piece :: pieces => (c :: piece) :: pieces

/-- One or two digits below sixty. -/
def isSixtieth : List Char → Bool
  | [c] => isDigit c
  | [c, d] => '0' ≤ c && c ≤ '5' && isDigit d
  | _ => false

/-- A digit from one to nine and then digits and underscores. -/
def isPositive : List Char → Bool
  | c :: s => '1' ≤ c && c ≤ '9' && s.all isSpacedDigit
  | [] => false

/-- A digit and then digits and underscores. -/
def isWhole : List Char → Bool
  | c :: s => isDigit c && s.all isSpacedDigit
  | [] => false

/-- Whether digits of a base, with underscores, follow. -/
def isBased (p : Char → Bool) (s : List Char) : Bool :=
  !s.isEmpty && s.all fun c => c == '_' || p c

/-- The number that digits of a base denote, underscores left out; there must be one. -/
def basedNumber (base : Nat) (digits : List Char) : Except ScalarError Nat :=
  let plain := dropUnderscores digits
  if plain.isEmpty then .error (.noDigits base)
  else .ok (Number.ofDigits base Number.hexValue plain)

/-- The number that decimal digits denote, underscores left out; there must not be too many. -/
def decimalNumber (digits : List Char) : Except ScalarError Nat :=
  let plain := dropUnderscores digits
  if Number.digitLimit < plain.length then .error (.tooManyDigits plain.length)
  else .ok (Number.ofDecimal plain)

/-- The natural number that a scalar of the form of an unsigned integer denotes. -/
def natural? (s : List Char) : Option (Except ScalarError Nat) :=
  match s with
  | ['0'] => some (.ok 0)
  | '0' :: 'b' :: digits =>
      if isBased (fun c => c == '0' || c == '1') digits then some (basedNumber 2 digits) else none
  | '0' :: 'x' :: digits =>
      if isBased Number.isHexDigit digits then some (basedNumber 16 digits) else none
  | '0' :: digits =>
      if isBased (fun c => '0' ≤ c && c ≤ '7') digits then some (basedNumber 8 ('0' :: digits))
      else none
  | _ =>
      match cutAtColons s with
      | [whole] => if isPositive whole then some (decimalNumber whole) else none
      | whole :: parts =>
          if isPositive whole && parts.all isSixtieth then
            some ((decimalNumber whole).map fun n =>
              parts.foldl (fun n part => n * 60 + Number.ofDecimal part) n)
          else none
      | [] => none

/-- The integer that a scalar of the form of an integer denotes. -/
def integer? (s : List Char) : Option (Except ScalarError Int) :=
  let (negative, digits) := splitSign s
  (natural? digits).map fun found =>
    found.map fun n => if negative then -(n : Int) else (n : Int)

/-- The exponent at the end of a floating-point number; it is zero when none is written. -/
def exponent? : List Char → Option Int
  | [] => some 0
  | e :: s =>
      if (e == 'e' || e == 'E') && (s.head? == some '-' || s.head? == some '+') then
        let digits := s.drop 1
        if !digits.isEmpty && digits.all isDigit then
          let n : Int := Number.ofDecimal digits
          some (if s.head? == some '-' then -n else n)
        else none
      else none

/-- The greatest whole number that a floating-point number can be near to. -/
def realLimit : Nat := Nat.pow 2 1024 - Nat.pow 2 970

/-- Digits in base sixty with colons before the last part, which has a point.  The parts are added up
from the last one, and the weight of every part must be a floating-point number. -/
def sixtyReal (parts : List (List Char)) : Except ScalarError Float :=
  let number (part : List Char) : Float :=
    let whole := part.takeWhile (· != '.')
    Number.realOfParts whole (part.drop (whole.length + 1)) 0
  if realLimit ≤ Nat.pow 60 (parts.length - 1) then .error .tooLarge
  else
    .ok (parts.reverse.foldl (fun (acc : Float × Nat) part =>
      (acc.1 + number part * Number.realOfDecimal acc.2 0, acc.2 * 60)) (0.0, 1)).1

/-- The floating-point number that a scalar of that form denotes without its sign, which only some may
have. -/
def unsigned? (signed : Bool) (s : List Char) : Option (Except ScalarError Float) :=
  let word := String.ofList s
  let whole := s.takeWhile isSpacedDigit
  let rest := s.drop whole.length
  if [".inf", ".Inf", ".INF"].contains word then some (.ok (1.0 / 0.0))
  else if !signed && [".nan", ".NaN", ".NAN"].contains word then some (.ok (0.0 / 0.0))
  else
    match rest with
    | '.' :: more =>
        let fraction := more.takeWhile isSpacedDigit
        let allowed :=
          if whole.isEmpty then !signed && fraction.head?.any isDigit else isWhole whole
        if allowed then
          (exponent? (more.drop fraction.length)).map fun e =>
            .ok (Number.realOfParts (dropUnderscores whole) (dropUnderscores fraction) e)
        else none
    | ':' :: _ =>
        match (cutAtColons s).reverse with
        | last :: before =>
            let seconds := last.takeWhile (· != '.')
            let after := last.drop seconds.length
            match before.reverse with
            | first :: middle =>
                if isWhole first && middle.all isSixtieth && isSixtieth seconds
                    && after.head? == some '.' && (after.drop 1).all isSpacedDigit then
                  some (sixtyReal ((cutAtColons s).map dropUnderscores))
                else none
            | [] => none
        | [] => none
    | _ => none

/-- The floating-point number that a scalar of that form denotes. -/
def real? (s : List Char) : Option (Except ScalarError Float) :=
  let (negative, digits) := splitSign s
  (unsigned? (digits.length != s.length) digits).map fun found =>
    found.map fun x => if negative then -x else x

/-- One or two digits at the start of a text, with the rest. -/
def shortNumber? : List Char → Option (Nat × List Char)
  | c :: d :: s =>
      if isDigit c then
        if isDigit d then some (Number.ofDecimal [c, d], s) else some (Number.ofDecimal [c], d :: s)
      else none
  | [c] => if isDigit c then some (Number.ofDecimal [c], []) else none
  | [] => none

/-- Two digits at the start of a text, with the rest. -/
def pair? : List Char → Option (Nat × List Char)
  | c :: d :: s => if isDigit c && isDigit d then some (Number.ofDecimal [c, d], s) else none
  | _ => none

/-- The rest of a text after a character that must come next. -/
def after? (mark : Char) : List Char → Option (List Char)
  | c :: s => if c = mark then some s else none
  | [] => none

/-- The year, month and day that a scalar of the form of a date names. -/
def date? (s : List Char) : Option Date := do
  let (century, s) ← pair? s
  let (year, s) ← pair? s
  let (month, s) ← pair? (← after? '-' s)
  let (day, s) ← pair? (← after? '-' s)
  if s.isEmpty then some ⟨century * 100 + year, month, day⟩ else none

/-- What stands between a date and a time: a letter, or spaces and tabs. -/
def dateSpace? : List Char → Option (List Char)
  | c :: s =>
      if c == 'T' || c == 't' then some s
      else if c == ' ' || c == '\t' then some (s.dropWhile fun d => d == ' ' || d == '\t')
      else none
  | [] => none

/-- The millionths of a second of digits after a point. -/
def millionths (digits : List Char) : Nat :=
  let six := digits.take 6
  Number.ofDecimal (six ++ List.replicate (6 - six.length) '0')

/-- The distance from universal time at the end of a moment, in minutes. -/
def offset? (s : List Char) : Option (Option Int) :=
  match s.dropWhile fun c => c == ' ' || c == '\t' with
  | [] => if s.isEmpty then some none else none
  | ['Z'] => some (some 0)
  | sign :: rest =>
      if sign == '-' || sign == '+' then do
        let (hours, more) ← shortNumber? rest
        let minutes ←
          match more with
          | [] => some 0
          | _ => do
              let (minutes, last) ← pair? (← after? ':' more)
              if last.isEmpty then some minutes else none
        let distance : Int := hours * 60 + minutes
        some (some (if sign == '-' then -distance else distance))
      else none

/-- The date and time that a scalar of the form of a moment names. -/
def moment? (s : List Char) : Option Moment := do
  let (century, s) ← pair? s
  let (year, s) ← pair? s
  let (month, s) ← shortNumber? (← after? '-' s)
  let (day, s) ← shortNumber? (← after? '-' s)
  let (hour, s) ← shortNumber? (← dateSpace? s)
  let (minute, s) ← pair? (← after? ':' s)
  let (second, s) ← pair? (← after? ':' s)
  let (fraction, s) : List Char × List Char :=
    match s with
    | '.' :: rest => (rest.takeWhile isDigit, rest.dropWhile isDigit)
    | _ => ([], s)
  let offset ← offset? s
  some
    { date := ⟨century * 100 + year, month, day⟩
      hour := hour
      minute := minute
      second := second
      microsecond := millionths fraction
      offset := offset }

/-- The value of a scalar that was read as what it looks like. -/
def reading {α : Type} (make : α → Value) : Except ScalarError α → Except Failure Value
  | .ok a => .ok (make a)
  | .error e => .error (.scalar e)

/-- A check of the calendar as the reading of a scalar. -/
def inCalendar {α : Type} : Except CalendarError α → Except ScalarError α
  | .ok a => .ok a
  | .error e => .error (.calendar e)

/-- What a plain scalar denotes. -/
def plain (text : String) : Except Failure Value :=
  let s := text.toList
  if trueWords.contains text then .ok (.bool true)
  else if falseWords.contains text then .ok (.bool false)
  else if nullWords.contains text then .ok .null
  else if text == "=" || text == "<<" then .error .malformed
  else
    match real? s, integer? s, date? s, moment? s with
    | some x, _, _, _ => reading .real x
    | none, some n, _, _ => reading .int n
    | none, none, some d, _ => reading .date (inCalendar d.checked)
    | none, none, none, some m => reading .moment (inCalendar m.checked)
    | none, none, none, none => .ok (.text text)

end Scalar
end Yaml
end NamespaceManifest
