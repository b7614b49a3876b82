import NamespaceManifest.Text.Printable

/-!
# Texts shown in messages

A text inside a message is shown between quotes, with everything that cannot stand for itself
written as an escape.  Apostrophes are the usual quotes; a text that holds an apostrophe and no
double quote is put between double quotes.
-/

namespace NamespaceManifest
namespace Text
namespace Literal

/-- The apostrophe. -/
def apostrophe : Char := '\x27'

/-- The double quote. -/
def doubleQuote : Char := '\x22'

/-- A number in hexadecimal, brought to a width by zeros in front. -/
def hex (width n : Nat) : List Char :=
  let digits := Nat.toDigits 16 n
  List.replicate (width - digits.length) '0' ++ digits

/-- A character as it is shown between given quotes. -/
def showChar (quote c : Char) : List Char :=
  if c = quote || c = '\\' then ['\\', c]
  else if c = '\t' then ['\\', 't']
  else if c = '\n' then ['\\', 'n']
  else if c = '\r' then ['\\', 'r']
  else if isPrintable c then [c]
  else if c.toNat < 0x100 then ['\\', 'x'] ++ hex 2 c.toNat
  else if c.toNat < 0x10000 then ['\\', 'u'] ++ hex 4 c.toNat
  else ['\\', 'U'] ++ hex 8 c.toNat

/-- The quotes between which a text is shown. -/
def quoteFor (s : List Char) : Char :=
  if s.contains apostrophe && !s.contains doubleQuote then doubleQuote else apostrophe

/-- A string as messages show it. -/
def quote (s : String) : String :=
  let q := quoteFor s.toList
  String.ofList ([q] ++ s.toList.flatMap (showChar q) ++ [q])

end Literal
end Text
end NamespaceManifest
