/-!
# Floating-point numbers

A binary64 number is kept as the shortest decimal that determines it: a sign, the significant
digits without trailing zeros, and the power of ten of the last digit. `Floating.write` is its
text. Whether the number is a whole one is asked of its exact value, `Floating.whole?`, which the
decimal gives directly below `2^53` and after rounding to a 53-bit significand above.
-/

namespace Searchable

/-- A binary64 number. -/
inductive Floating where
  /-- Plus or minus `digits · 10 ^ exponent`, where `digits` does not end in zero unless it is
  zero. -/
  | finite (negative : Bool) (digits : Nat) (exponent : Int)
  /-- Plus or minus infinity. -/
  | infinite (negative : Bool)
  /-- The result of an operation without one, which equals nothing; `mark` tells one such result
  from another. -/
  | undefined (mark : Nat)
  deriving DecidableEq, Repr

namespace Floating

/-- The number with the given sign, decimal digits and power of ten of the last digit. -/
def ofDigits (negative : Bool) (digits : List Char) (exponent : Int) : Floating :=
  let kept := (digits.reverse.dropWhile (· == '0')).reverse
  match Nat.ofDigitChars 10 kept 0 with
  | 0 => .finite negative 0 0
  | n + 1 => .finite negative (n + 1) (exponent + (digits.length - kept.length : Nat))

/-- The value of a run of digits, none for an empty run or another character. -/
def naturalOf? (cs : List Char) : Option Nat :=
  if cs ≠ [] ∧ cs.all Char.isDigit then some (Nat.ofDigitChars 10 cs 0) else none

/-- The power of ten that an exponent mark such as `e-07` stands for; nothing stands for none. -/
def exponentOf? : List Char → Option Int
  | [] => some 0
  | 'e' :: '-' :: cs => (naturalOf? cs).map fun n => -(n : Int)
  | 'e' :: '+' :: cs => (naturalOf? cs).map fun n => (n : Int)
  | 'e' :: cs => (naturalOf? cs).map fun n => (n : Int)
  | _ => none

/-- Reads digits with an optional fraction and an optional exponent mark. -/
def magnitude? (negative : Bool) (cs : List Char) : Option Floating :=
  let integral := cs.takeWhile Char.isDigit
  let rest := cs.dropWhile Char.isDigit
  let fraction := if rest.head? = some '.' then rest.tail.takeWhile Char.isDigit else []
  let mark := if rest.head? = some '.' then rest.tail.dropWhile Char.isDigit else rest
  (exponentOf? mark).map fun e =>
    ofDigits negative (integral ++ fraction) (e - (fraction.length : Nat))

/-- Reads the text of a number; `mark` is that of the number if it is undefined. -/
def read? (mark : Nat) (s : String) : Option Floating :=
  match s.toList with
  | ['n', 'a', 'n'] => some (.undefined mark)
  | ['i', 'n', 'f'] => some (.infinite false)
  | ['-', 'i', 'n', 'f'] => some (.infinite true)
  | '-' :: cs => magnitude? true cs
  | cs => magnitude? false cs

/-- The sign in front of a number. -/
def sign (negative : Bool) : String :=
  if negative then "-" else ""

/-- The exponent mark of a number written with one: a sign and at least two digits. -/
def exponentMark (e : Int) : String :=
  let digits := toString e.natAbs
  (if e < 0 then "e-" else "e+") ++ (if e.natAbs < 10 then "0" ++ digits else digits)

/-- Writes significant digits with the decimal point after `point` of them: positionally from
`10 ^ -4` up to `10 ^ 16`, with an exponent mark outside. -/
def writeDigits (digits : List Char) (point : Int) : String :=
  let count : Int := digits.length
  if -4 < point ∧ point ≤ 16 then
    if point ≤ 0 then
      "0." ++ String.ofList (List.replicate (-point).toNat '0' ++ digits)
    else if count ≤ point then
      String.ofList (digits ++ List.replicate (point - count).toNat '0') ++ ".0"
    else
      String.ofList (digits.take point.toNat) ++ "." ++ String.ofList (digits.drop point.toNat)
  else
    let fraction := digits.drop 1
    String.ofList (digits.take 1) ++ (if fraction = [] then "" else "." ++ String.ofList fraction)
      ++ exponentMark (point - 1)

/-- The text of a number, given the texts of infinity and of the undefined number. -/
def writeWith (infinity undefined : String) : Floating → String
  | .finite negative 0 _ => sign negative ++ "0.0"
  | .finite negative n e =>
    let digits := Nat.toDigits 10 n
    sign negative ++ writeDigits digits (e + digits.length)
  | .infinite negative => sign negative ++ infinity
  | .undefined _ => undefined

/-- The text of a number. -/
def write (x : Floating) : String :=
  x.writeWith "inf" "nan"

/-- The nearest number with a 53-bit significand; of two equally near, the one with an even
significand. -/
def roundToSignificand (n : Nat) : Nat :=
  if n < Nat.pow 2 53 then n
  else
    let unit := Nat.pow 2 (n.log2 - 52)
    let low := n / unit
    let rest := n % unit
    let up := unit < 2 * rest || (unit == 2 * rest && low % 2 == 1)
    (if up then low + 1 else low) * unit

/-- The exact value of a number without a fraction. -/
def whole? : Floating → Option Int
  | .finite negative digits (.ofNat e) =>
    let n : Int := roundToSignificand (digits * Nat.pow 10 e)
    some (if negative then -n else n)
  | _ => none

/-- The exact value of a number with its fraction, if any, cut off. -/
def truncate? : Floating → Option Int
  | .finite negative digits (.negSucc e) =>
    let n : Int := (digits / Nat.pow 10 (e + 1) : Nat)
    some (if negative then -n else n)
  | x => x.whole?

/-- Whether a number is plus or minus zero. -/
def isZero : Floating → Bool
  | .finite _ 0 _ => true
  | _ => false

/-- Whether a number is undefined. -/
def isUndefined : Floating → Bool
  | .undefined _ => true
  | _ => false

end Floating

end Searchable
