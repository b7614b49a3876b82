/-!
# Reading bytes as text

Two readings of a byte sequence as UTF-8.  The strict one refuses a sequence that is not well
formed.  The lossy one puts one replacement character for every longest run of bytes that begins a
character and cannot be completed, and for every byte that begins none.
-/

namespace NamespaceManifest
namespace Text
namespace Utf8

/-- The character that stands for bytes that cannot be read. -/
def replacement : Char := '\uFFFD'

/-- A byte that continues a character, in a given range. -/
def within (lo hi : Nat) (b : UInt8) : Bool :=
  lo ≤ b.toNat && b.toNat ≤ hi

/-- The six value bits of a continuation byte. -/
def payload (b : UInt8) : Nat := b.toNat % 64

/-- One more continuation byte of a character of which the value so far and the number of bytes
already read after the first are known. -/
def third (value : Nat) : List UInt8 → Char × Nat
  | b :: _ => if within 0x80 0xBF b then (Char.ofNat (value * 64 + payload b), 2) else (replacement, 1)
  | [] => (replacement, 1)

/-- The last two continuation bytes of a character of four bytes. -/
def thirdAndFourth (value : Nat) : List UInt8 → Char × Nat
  | b :: c :: _ =>
      if within 0x80 0xBF b then
        if within 0x80 0xBF c then (Char.ofNat ((value * 64 + payload b) * 64 + payload c), 3)
        else (replacement, 2)
      else (replacement, 1)
  | [b] => if within 0x80 0xBF b then (replacement, 2) else (replacement, 1)
  | [] => (replacement, 1)

/-- A character of two bytes. -/
def two (value : Nat) : List UInt8 → Char × Nat
  | b :: _ => if within 0x80 0xBF b then (Char.ofNat (value * 64 + payload b), 1) else (replacement, 0)
  | [] => (replacement, 0)

/-- A character of three bytes, the second of which lies in a given range. -/
def three (value lo hi : Nat) : List UInt8 → Char × Nat
  | b :: bytes => if within lo hi b then third (value * 64 + payload b) bytes else (replacement, 0)
  | [] => (replacement, 0)

/-- A character of four bytes, the second of which lies in a given range. -/
def four (value lo hi : Nat) : List UInt8 → Char × Nat
  | b :: bytes =>
      if within lo hi b then thirdAndFourth (value * 64 + payload b) bytes else (replacement, 0)
  | [] => (replacement, 0)

/-- The character that begins with a byte, and how many of the bytes after it belong to it. -/
def leading (b : UInt8) (bytes : List UInt8) : Char × Nat :=
  let n := b.toNat
  if n < 0x80 then (Char.ofNat n, 0)
  else if n < 0xC2 then (replacement, 0)
  else if n < 0xE0 then two (n - 0xC0) bytes
  else if n == 0xE0 then three 0 0xA0 0xBF bytes
  else if n == 0xED then three 13 0x80 0x9F bytes
  else if n < 0xF0 then three (n - 0xE0) 0x80 0xBF bytes
  else if n == 0xF0 then four 0 0x90 0xBF bytes
  else if n < 0xF4 then four (n - 0xF0) 0x80 0xBF bytes
  else if n == 0xF4 then four 4 0x80 0x8F bytes
  else (replacement, 0)

/-- The characters of a byte sequence after a number of bytes that were read already. -/
def readAfter : Nat → List UInt8 → List Char
  | _, [] => []
  | n + 1, _ :: bytes => readAfter n bytes
  | 0, b :: bytes => (leading b bytes).1 :: readAfter (leading b bytes).2 bytes

/-- The lossy reading of a byte sequence. -/
def readLossy (bytes : ByteArray) : List Char :=
  readAfter 0 bytes.data.toList

/-- The strict reading of a byte sequence. -/
def readStrict? (bytes : ByteArray) : Option String :=
  String.fromUTF8? bytes

end Utf8
end Text
end NamespaceManifest
