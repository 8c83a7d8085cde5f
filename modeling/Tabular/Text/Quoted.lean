import Tabular.Text.Printable

/-!
# Quoted text

Text between two marks. The mark is the apostrophe unless the text holds one and no quotation mark.
Inside, the backslash and the mark are escaped, line feed, carriage return and tab have short names,
every other unprintable character is written by its code point in hexadecimal, and all else stands
for itself.

* `quoteMark`: the mark of a text.
* `quotedChar`: a character between the marks.
* `quoteChars`: the quoted form.
-/

namespace Tabular.Text

/-- The quote that is used unless a text holds it and not the other one. -/
def apostrophe : Char := '\x27'

/-- The mark for text that holds an apostrophe. -/
def quotationMark : Char := '\x22'

/-- The character that begins an escape. -/
def backslash : Char := '\x5c'

/-- The mark that a text is quoted with. -/
def quoteMark (cs : List Char) : Char :=
  if apostrophe ∈ cs ∧ quotationMark ∉ cs then quotationMark else apostrophe

/-- A number in hexadecimal, padded with zeros to a width. -/
def hexadecimal (width n : Nat) : List Char :=
  let digits := Nat.toDigits 16 n
  List.replicate (width - digits.length) '0' ++ digits

/-- The letter that opens a numeric escape, and its count of digits: the smallest that suffices. -/
def numericEscape (n : Nat) : List Char :=
  if n < 0x100 then backslash :: 'x' :: hexadecimal 2 n
  else if n < 0x10000 then backslash :: 'u' :: hexadecimal 4 n
  else backslash :: 'U' :: hexadecimal 8 n

/-- One character inside quotes. -/
def quotedChar (mark c : Char) : List Char :=
  if c = backslash ∨ c = mark then [backslash, c]
  else if c = '\n' then [backslash, 'n']
  else if c = '\r' then [backslash, 'r']
  else if c = '\t' then [backslash, 't']
  else if isPrintable c then [c]
  else numericEscape c.toNat

/-- A text between its marks. -/
def quoteChars (cs : List Char) : List Char :=
  quoteMark cs :: cs.flatMap (quotedChar (quoteMark cs)) ++ [quoteMark cs]

/-- The quoted form of a string. -/
def quote (s : String) : String :=
  String.ofList (quoteChars s.toList)

end Tabular.Text
