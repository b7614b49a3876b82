import NamespaceManifest.Number.Integer
import NamespaceManifest.Number.Reading
import NamespaceManifest.Value.Basic

/-!
# Reading JSON

A JSON text denotes a document value.  Integers and floating-point numbers are told apart by whether
a fraction or an exponent is written, and of entries with the same key the last value counts.  The
three words for numbers that are not finite are read too.

A text that is not well formed is refused with the position, counted in characters, at which it
stops making sense.  A text is refused without a position when an integer in it has too many digits or
when its lists and mappings are too deep inside each other.
-/

namespace NamespaceManifest
namespace Json

/-- Why a text denotes no value. -/
inductive Fault where
  | malformed (position : Nat)
  | longNumber
  | tooDeep
  deriving Repr, BEq, DecidableEq

/-- How many lists and mappings may stand inside each other. -/
def depthLimit : Nat := 950

/-- A place in a text: the characters passed so far, and the rest. -/
structure Place where
  position : Nat
  rest : List Char

namespace Place

/-- A number of characters further on. -/
def forward (p : Place) (n : Nat) : Place :=
  { position := p.position + n, rest := p.rest.drop n }

/-- The first place from here on that is not white space. -/
def skipSpace (p : Place) : Place :=
  p.forward (p.rest.takeWhile fun c => c == ' ' || c == '\t' || c == '\n' || c == '\r').length

/-- Whether the rest starts with a word. -/
def startsWith (p : Place) (word : String) : Bool :=
  word.toList.isPrefixOf p.rest

end Place

/-- The character of a code point; one that is no character is replaced. -/
def charOf (n : Nat) : Char :=
  if n.isValidChar then Char.ofNat n else '\uFFFD'

/-- The four hexadecimal digits of an escape, or the position of its letter if there are none.  At
least one more character must follow them. -/
def readHex (p : Place) : Except Nat Nat :=
  let digits := p.rest.take 4
  if p.rest.length ≤ 4 || !digits.all Number.isHexDigit then .error (p.position - 1)
  else .ok (Number.ofDigits 16 Number.hexValue digits)

/-- The second half of a surrogate pair, if an escape follows and more text after it. -/
def readLowHalf (p : Place) : Except Nat (Option Nat) :=
  match p.rest with
  | '\\' :: 'u' :: digits =>
      if digits.length ≤ 4 then .ok none
      else if !(digits.take 4).all Number.isHexDigit then .error (p.position + 1)
      else
        let n := Number.ofDigits 16 Number.hexValue (digits.take 4)
        .ok (if 0xDC00 ≤ n && n ≤ 0xDFFF then some n else none)
  | _ => .ok none

/-- The character of an escape that starts after its backslash. -/
def readEscape (start : Nat) (p : Place) : Except Nat (Char × Place) :=
  match p.rest with
  | [] => .error start
  | c :: _ =>
      let simple (d : Char) : Except Nat (Char × Place) := .ok (d, p.forward 1)
      if c = '\x22' || c = '\\' || c = '/' then simple c
      else if c = 'b' then simple '\x08'
      else if c = 'f' then simple '\x0C'
      else if c = 'n' then simple '\n'
      else if c = 'r' then simple '\r'
      else if c = 't' then simple '\t'
      else if c = 'u' then do
        let high ← readHex (p.forward 1)
        let next := p.forward 5
        if 0xD800 ≤ high && high ≤ 0xDBFF then
          match ← readLowHalf next with
          | some low =>
              return (charOf (0x10000 + (high - 0xD800) * 0x400 + (low - 0xDC00)), next.forward 6)
          | none => return (charOf high, next)
        else return (charOf high, next)
      else .error (p.position - 1)

/-- The characters of a text up to its closing quote, after characters that are given last first. -/
def readChars (start : Nat) : Nat → List Char → Place → Except Nat (String × Place)
  | 0, _, _ => .error start
  | fuel + 1, done, p =>
      match p.rest with
      | [] => .error start
      | c :: _ =>
          if c = '\x22' then .ok (String.ofList done.reverse, p.forward 1)
          else if c.toNat ≤ 0x1F then .error p.position
          else if c = '\\' then do
            let (d, next) ← readEscape start (p.forward 1)
            readChars start fuel (d :: done) next
          else readChars start fuel (c :: done) (p.forward 1)

/-- A text that starts at its opening quote. -/
def readText (p : Place) : Except Nat (String × Place) :=
  readChars p.position (p.rest.length + 1) [] (p.forward 1)

/-- Whether a character is one of the digits `0` to `9`. -/
def isJsonDigit (c : Char) : Bool := '0' ≤ c && c ≤ '9'

/-- The digits before a decimal point: a zero stands alone. -/
def wholeDigits (s : List Char) : List Char :=
  match s with
  | '0' :: _ => ['0']
  | _ => s.takeWhile isJsonDigit

/-- The digits after a decimal point, if the point and a digit come next. -/
def fractionDigits : List Char → List Char
  | '.' :: s => s.takeWhile isJsonDigit
  | _ => []

/-- An exponent, if one comes next, with the number of characters that it takes. -/
def readExponent : List Char → Option (Int × Nat)
  | [] => none
  | e :: s =>
      if e = 'e' || e = 'E' then
        let (negative, signed, digits) : Bool × Nat × List Char :=
          match s with
          | '-' :: t => (true, 1, t.takeWhile isJsonDigit)
          | '+' :: t => (false, 1, t.takeWhile isJsonDigit)
          | _ => (false, 0, s.takeWhile isJsonDigit)
        if digits.isEmpty then none
        else
          let n : Int := Number.ofDecimal digits
          some (if negative then -n else n, 1 + signed + digits.length)
      else none

/-- A number. -/
def readNumber (p : Place) : Except Fault (Value × Place) :=
  let negative := p.startsWith "-"
  let unsigned := if negative then p.forward 1 else p
  let whole := wholeDigits unsigned.rest
  if whole.isEmpty then .error (.malformed p.position)
  else
    let afterWhole := unsigned.forward whole.length
    let fraction := fractionDigits afterWhole.rest
    let afterFraction :=
      if fraction.isEmpty then afterWhole else afterWhole.forward (fraction.length + 1)
    match fraction, readExponent afterFraction.rest with
    | [], none =>
        let n : Int := Number.ofDecimal whole
        if Number.digitLimit < whole.length then .error .longNumber
        else .ok (.int (if negative then -n else n), afterFraction)
    | _, exponent =>
        let (e, length) := exponent.getD (0, 0)
        let x := Number.realOfParts whole fraction e
        .ok (.real (if negative then -x else x), afterFraction.forward length)

/-- The words that stand for a value. -/
def constants : List (String × Value) :=
  [("null", .null), ("true", .bool true), ("false", .bool false), ("NaN", .real (0.0 / 0.0)),
   ("Infinity", .real (1.0 / 0.0)), ("-Infinity", .real (-1.0 / 0.0))]

/-- A text that starts at its opening quote, inside a value. -/
def readKey (p : Place) : Except Fault (String × Place) :=
  match readText p with
  | .ok found => .ok found
  | .error position => .error (.malformed position)

mutual

/-- A value that starts at a place, with room for a number of lists and mappings inside each other. -/
def readValue (room : Nat) : Nat → Place → Except Fault (Value × Place)
  | 0, p => .error (.malformed p.position)
  | fuel + 1, p =>
      match p.rest with
      | [] => .error (.malformed p.position)
      | c :: _ =>
          if c = '\x22' then (readKey p).map fun (s, next) => (.text s, next)
          else if c = '\x7b' then
            let q := (p.forward 1).skipSpace
            if room = 0 then .error .tooDeep
            else if q.startsWith "\x7d" then .ok (.map [], q.forward 1)
            else readEntries (room - 1) fuel [] q
          else if c = '[' then
            let q := (p.forward 1).skipSpace
            if room = 0 then .error .tooDeep
            else if q.startsWith "]" then .ok (.list [], q.forward 1)
            else readItems (room - 1) fuel [] q
          else
            match constants.find? fun entry => p.startsWith entry.1 with
            | some (word, v) => .ok (v, p.forward word.length)
            | none => readNumber p

/-- The items of a list, after items that are given last first. -/
def readItems (room : Nat) : Nat → List Value → Place → Except Fault (Value × Place)
  | 0, _, p => .error (.malformed p.position)
  | fuel + 1, done, p => do
      let (v, afterValue) ← readValue room fuel p
      let q := afterValue.skipSpace
      if q.startsWith "]" then return (.list (v :: done).reverse, q.forward 1)
      else if q.startsWith "," then readItems room fuel (v :: done) (q.forward 1).skipSpace
      else throw (.malformed q.position)

/-- The entries of a mapping, after entries that were read already. -/
def readEntries (room : Nat) : Nat → List (Value × Value) → Place → Except Fault (Value × Place)
  | 0, _, p => .error (.malformed p.position)
  | fuel + 1, done, p => do
      if !p.startsWith "\"" then throw (.malformed p.position)
      let (key, afterKey) ← readKey p
      let colon := afterKey.skipSpace
      if !colon.startsWith ":" then throw (.malformed colon.position)
      let (v, afterValue) ← readValue room fuel (colon.forward 1).skipSpace
      let entries := Value.insert (.text key) v done
      let q := afterValue.skipSpace
      if q.startsWith "\x7d" then return (.map entries, q.forward 1)
      else if q.startsWith "," then readEntries room fuel entries (q.forward 1).skipSpace
      else throw (.malformed q.position)

end

/-- The value that a JSON text denotes, or why it denotes none. -/
def parse (s : String) : Except Fault Value :=
  let start : Place := { position := 0, rest := s.toList }
  match readValue depthLimit (2 * s.length + 2) start.skipSpace with
  | .error fault => .error fault
  | .ok (v, after) =>
      let last := after.skipSpace
      if last.rest.isEmpty then .ok v else .error (.malformed last.position)

end Json
end NamespaceManifest
