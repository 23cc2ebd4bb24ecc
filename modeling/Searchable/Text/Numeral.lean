import Searchable.Text.Blank

/-!
# Whole numbers in texts

`Numeral.write` is the usual decimal form. `Numeral.read` is more generous: it takes the decimal
digits of every script, one sign, blank characters at both ends, leading zeros, and single
underscores between digits. The number of digits is limited both ways: a number of more than
`maxDigits` digits is neither read nor shown to anyone.
-/

namespace Searchable.Text

/-- The code points of the digit zero in each script that has decimal digits; the other nine
digits follow it in order. -/
def zeroDigits : List Nat :=
  [
    0x30, 0x660, 0x6F0, 0x7C0, 0x966, 0x9E6, 0xA66, 0xAE6, 0xB66, 0xBE6, 0xC66, 0xCE6, 0xD66,
    0xDE6, 0xE50, 0xED0, 0xF20, 0x1040, 0x1090, 0x17E0, 0x1810, 0x1946, 0x19D0, 0x1A80, 0x1A90,
    0x1B50, 0x1BB0, 0x1C40, 0x1C50, 0xA620, 0xA8D0, 0xA900, 0xA9D0, 0xA9F0, 0xAA50, 0xABF0, 0xFF10,
    0x104A0, 0x10D30, 0x11066, 0x110F0, 0x11136, 0x111D0, 0x112F0, 0x11450, 0x114D0, 0x11650,
    0x116C0, 0x11730, 0x118E0, 0x11950, 0x11C50, 0x11D50, 0x11DA0, 0x16A60, 0x16AC0, 0x16B50,
    0x1D7CE, 0x1D7D8, 0x1D7E2, 0x1D7EC, 0x1D7F6, 0x1E140, 0x1E2F0, 0x1E950, 0x1FBF0]

/-- The value of a decimal digit of any script. -/
def digitValue? (c : Char) : Option Nat :=
  (zeroDigits.find? fun nought => nought ≤ c.toNat && c.toNat < nought + 10).map (c.toNat - ·)

/-- A character that may surround a written number: a blank one, but for the control characters
that separate records. -/
def isNumeralBlank (c : Char) : Bool :=
  isBlankChar c && !(0x1C ≤ c.toNat && c.toNat ≤ 0x1F)

namespace Numeral

/-- The number that digits continue, given the number that the digits before them make. A single
underscore may stand between two digits. -/
def digitsFrom? (value : Nat) : List Char → Option Nat
  | [] => some value
  | '_' :: c :: rest => (digitValue? c).bind fun d => digitsFrom? (value * 10 + d) rest
  | c :: rest => (digitValue? c).bind fun d => digitsFrom? (value * 10 + d) rest

/-- The number that a nonempty run of digits makes. -/
def digits? : List Char → Option Nat
  | [] => none
  | c :: rest => (digitValue? c).bind fun d => digitsFrom? d rest

/-- The number that digits make after an optional sign. -/
def signed? (negative : Bool) (cs : List Char) : Option Int :=
  (digits? cs).map fun n => if negative then -(n : Int) else n

/-- Whether a text has a minus sign, and what follows its sign. -/
def afterSign : List Char → Bool × List Char
  | '-' :: cs => (true, cs)
  | '+' :: cs => (false, cs)
  | cs => (false, cs)

/-- The number of digits that go on, after a given number of them, up to the first character that
is neither a digit nor an underscore between two. -/
def runFrom (count : Nat) : List Char → Nat
  | [] => count
  | '_' :: c :: rest => if (digitValue? c).isSome then runFrom (count + 1) rest else 0
  | c :: rest =>
    if c = '_' then 0 else if (digitValue? c).isSome then runFrom (count + 1) rest else count

/-- The number of digits at the start of some characters; a run with an underscore at either end or
with two in a row counts for none. -/
def run (cs : List Char) : Nat :=
  if cs.head? = some '_' then 0 else runFrom 0 cs

/-- Why a text is not read as a whole number. -/
inductive Defect where
  /-- It does not stand for a whole number. -/
  | malformed
  /-- It starts with more digits than are read. -/
  | tooLong (digits : Nat)
  deriving DecidableEq, Repr

/-- Reads a whole number with a limit to its digits. That there are too many is noticed before
anything that follows them. -/
def read (limit : Nat) (s : String) : Except Defect Int :=
  let (negative, cs) := afterSign (trimWhile isNumeralBlank s.toList)
  if limit < run cs then .error (.tooLong (run cs))
  else
    match signed? negative cs with
    | some n => .ok n
    | none => .error .malformed

/-- Writes a whole number in decimal. -/
def write (n : Int) : String :=
  toString n

/-- The digits of a whole number, without its sign. -/
def digitsOf (n : Int) : List Char :=
  Nat.toDigits 10 n.natAbs

/-- The greatest number of digits of a whole number that is read or shown. -/
def maxDigits : Nat := 4300

/-- Whether a whole number has too many digits to be shown. -/
def isLong (n : Int) : Bool :=
  maxDigits < (digitsOf n).length

end Numeral

end Searchable.Text
