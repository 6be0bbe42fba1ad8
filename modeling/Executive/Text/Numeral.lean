/-
Numerals as text: base ten and base sixteen, without leading zeros, and the fields of a line,
which are numerals or names brought to a least width and separated by single spaces. A field
wider than its least width is written in full.
-/

namespace Executive.Text

/-- `n` in base ten. -/
def decimal (n : Nat) : List Char := Nat.toDigits 10 n

/-- `n` in base sixteen, with the small letters a to f. -/
def hex (n : Nat) : List Char := Nat.toDigits 16 n

/-- `n` in base sixteen, with the capital letters A to F. -/
def capitalHex (n : Nat) : List Char := (hex n).map Char.toUpper

/-- A field that ends in column `width`, filled up with spaces on the left. -/
def alignRight (width : Nat) (field : List Char) : List Char := field.leftpad width ' '

/-- A field that begins in the first of `width` columns, filled up with spaces on the right. -/
def alignLeft (width : Nat) (field : List Char) : List Char := field.rightpad width ' '

/-- A numeral filled up with zeros on the left. -/
def zeroFill (width : Nat) (numeral : List Char) : List Char := numeral.leftpad width '0'

/-- Fields with a space between each two. -/
def fields (parts : List (List Char)) : List Char := List.intercalate [' '] parts

/-- Lines, each ended by a newline. -/
def ofLines (lines : List (List Char)) : String :=
  String.ofList (lines.flatMap (· ++ ['\n']))

/-- A 32-bit word as `0x` and eight digits. -/
def word (w : UInt32) : String :=
  "0x" ++ String.ofList (zeroFill 8 (hex w.toNat))

end Executive.Text
