import NamespaceManifest.Text.Utf8

/-!
# Encodings of a request

Bytes that are to be read as JSON are in one of five encodings, which their first bytes tell: a mark
stands for UTF-8, and since the first characters of JSON are not exotic, zero bytes among the first
four show units of two or four bytes and their order.  Everything else is UTF-8.

Halves of surrogate pairs that stand alone are let through, as replacement characters.
-/

namespace NamespaceManifest
namespace Text

/-- An encoding of text as bytes. -/
inductive Encoding where
  | utf8
  | markedUtf8
  | utf16 (bigEndian : Bool)
  | utf32 (bigEndian : Bool)
  deriving Repr, BEq, DecidableEq

namespace Encoding

/-- The encoding that the first bytes show. -/
def detect : List UInt8 → Encoding
  | 0xEF :: 0xBB :: 0xBF :: _ => markedUtf8
  | a :: b :: c :: d :: _ =>
      if a == 0 then if b == 0 then utf32 true else utf16 true
      else if b == 0 then if c == 0 && d == 0 then utf32 false else utf16 false
      else utf8
  | [a, b] => if a == 0 then utf16 true else if b == 0 then utf16 false else utf8
  | _ => utf8

/-- The character of a code point; half of a surrogate pair is replaced. -/
def charOf (n : Nat) : Char :=
  if n.isValidChar then Char.ofNat n else Utf8.replacement

/-- The units of two bytes, if the bytes make up whole ones. -/
def units16 (bigEndian : Bool) : List UInt8 → Option (List Nat)
  | [] => some []
  | [_] => none
  | a :: b :: bytes =>
      let unit := if bigEndian then a.toNat * 256 + b.toNat else b.toNat * 256 + a.toNat
      (units16 bigEndian bytes).map (unit :: ·)

/-- The characters of units of two bytes. -/
def joinUnits : List Nat → List Char
  | [] => []
  | [n] => [charOf n]
  | n :: m :: units =>
      if 0xD800 ≤ n && n ≤ 0xDBFF && 0xDC00 ≤ m && m ≤ 0xDFFF then
        charOf (0x10000 + (n - 0xD800) * 0x400 + (m - 0xDC00)) :: joinUnits units
      else charOf n :: joinUnits (m :: units)

/-- The characters of units of four bytes, if the bytes make up whole ones and all are in range. -/
def chars32 (bigEndian : Bool) : List UInt8 → Option (List Char)
  | [] => some []
  | a :: b :: c :: d :: bytes =>
      let parts := if bigEndian then [a, b, c, d] else [d, c, b, a]
      let n := parts.foldl (fun n b => n * 256 + b.toNat) 0
      if 0x110000 ≤ n then none else (chars32 bigEndian bytes).map (charOf n :: ·)
  | _ => none

/-- The text of bytes in an encoding. -/
def read? (bytes : List UInt8) : Encoding → Option String
  | utf8 => Utf8.readStrict? ⟨bytes.toArray⟩
  | markedUtf8 => Utf8.readStrict? ⟨(bytes.drop 3).toArray⟩
  | utf16 bigEndian => (units16 bigEndian bytes).map fun units => String.ofList (joinUnits units)
  | utf32 bigEndian => (chars32 bigEndian bytes).map String.ofList

/-- The text of bytes in the encoding that they show. -/
def readDetected? (bytes : List UInt8) : Option String :=
  (detect bytes).read? bytes

end Encoding
end Text
end NamespaceManifest
