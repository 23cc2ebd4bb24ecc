import Searchable.Json

/-!
# Reading interchange texts

`Json.read` reads a text in the JSON format, whoever wrote it: blanks may stand between all parts,
a character may be escaped in several ways, and a name may be repeated in a map. A text between
quotes is read as 16-bit code units first, of which a surrogate pair makes one character. What
follows a number in the text decides where the number ends.

The reading of a number with a fraction or an exponent is a parameter, since the format leaves open
how exact it is.
-/

namespace Searchable.Json

/-- Whether a character may stand between the parts of a text. -/
def isSpace (c : Char) : Bool :=
  [' ', '\t', '\n', '\r'].contains c

/-- What follows the blanks at the front. -/
def skip (cs : List Char) : List Char :=
  cs.dropWhile isSpace

section Text

/-- The value of a hexadecimal digit. -/
def hexValue? (c : Char) : Option Nat :=
  if '0' ≤ c ∧ c ≤ '9' then some (c.toNat - '0'.toNat)
  else if 'a' ≤ c ∧ c ≤ 'f' then some (c.toNat - 'a'.toNat + 10)
  else if 'A' ≤ c ∧ c ≤ 'F' then some (c.toNat - 'A'.toNat + 10)
  else none

/-- The code unit of four hexadecimal digits. -/
def unit? (a b c d : Char) : Option Nat := do
  let a ← hexValue? a
  let b ← hexValue? b
  let c ← hexValue? c
  let d ← hexValue? d
  return ((a * 16 + b) * 16 + c) * 16 + d

/-- The characters that are escaped by one character, after that character. -/
def shortEscapes : List (Char × Char) :=
  [('"', '"'), ('\\', '\\'), ('/', '/'), ('b', '\x08'), ('f', '\x0c'), ('n', '\n'), ('r', '\r'),
    ('t', '\t')]

/-- The code units up to the quote that ends a text, and what follows it. A code point that is not
escaped stands for itself, so that it may be larger than a unit. -/
def units? : List Char → Option (List Nat × List Char)
  | [] => none
  | '"' :: cs => some ([], cs)
  | '\\' :: 'u' :: a :: b :: c :: d :: cs =>
    (unit? a b c d).bind fun unit => (units? cs).map fun r => (unit :: r.1, r.2)
  | '\\' :: escape :: cs =>
    (shortEscapes.lookup escape).bind fun c => (units? cs).map fun r => (c.toNat :: r.1, r.2)
  | c :: cs => if c.toNat < 0x20 then none else (units? cs).map fun r => (c.toNat :: r.1, r.2)

/-- The character of a code point. -/
def scalar? (code : Nat) : Option Char :=
  if code.isValidChar then some (Char.ofNat code) else none

/-- The code point of a surrogate pair. -/
def pair? (high low : Nat) : Option Nat :=
  if 0xD800 ≤ high ∧ high < 0xDC00 ∧ 0xDC00 ≤ low ∧ low < 0xE000 then
    some (0x10000 + (high - 0xD800) * 0x400 + (low - 0xDC00))
  else none

/-- The characters of code units; half a surrogate pair is none. -/
def joined? : List Nat → Option (List Char)
  | [] => some []
  | [unit] => (scalar? unit).map ([·])
  | high :: low :: units =>
    match pair? high low with
    | some code => (scalar? code).bind fun c => (joined? units).map (c :: ·)
    | none => (scalar? high).bind fun c => (joined? (low :: units)).map (c :: ·)

/-- The text after a quote, and what follows it. -/
def string? (cs : List Char) : Option (String × List Char) :=
  (units? cs).bind fun r => (joined? r.1).map fun text => (String.ofList text, r.2)

end Text

section Number

/-- The minus sign at the front, if there is one, and what follows it. -/
def minus : List Char → List Char × List Char
  | '-' :: cs => (['-'], cs)
  | cs => ([], cs)

/-- The digits at the front of `ds` after a mark, and what follows them; without digits the mark is
none, and all of `cs` follows. -/
def digitsAfter (mark ds cs : List Char) : List Char × List Char :=
  if ds.takeWhile Char.isDigit = [] then ([], cs)
  else (mark ++ ds.takeWhile Char.isDigit, ds.dropWhile Char.isDigit)

/-- The fraction at the front, if there is one, and what follows it. -/
def fraction : List Char → List Char × List Char
  | '.' :: ds => digitsAfter ['.'] ds ('.' :: ds)
  | cs => ([], cs)

/-- The sign at the front, if there is one, and what follows it. -/
def sign : List Char → List Char × List Char
  | '+' :: cs => (['+'], cs)
  | cs => minus cs

/-- The exponent at the front, if there is one, and what follows it. -/
def exponent : List Char → List Char × List Char
  | [] => ([], [])
  | e :: cs =>
    if e = 'e' ∨ e = 'E' then digitsAfter (e :: (sign cs).1) (sign cs).2 (e :: cs)
    else ([], e :: cs)

/-- The number at the front, and what follows it. A nought is followed by no other digit. -/
def number? (decimal : List Char → Json) (cs : List Char) : Option (Json × List Char) :=
  let signed := minus cs
  let whole := signed.2.takeWhile Char.isDigit
  if whole = [] ∨ whole.head? = some '0' ∧ whole ≠ ['0'] then none
  else
    let part := fraction (signed.2.dropWhile Char.isDigit)
    let scale := exponent part.2
    let size : Int := Nat.ofDigitChars 10 whole 0
    some (if part.1 ++ scale.1 = [] then .int (if signed.1 = [] then size else -size)
      else decimal (signed.1 ++ whole ++ part.1 ++ scale.1), scale.2)

end Number

section Tree

variable {α : Type}

/-- The words of the format, and what each stands for. -/
def words : List (String × Json) :=
  [("null", .null), ("true", .bool true), ("false", .bool false)]

/-- The word at the front, and what follows it. -/
def word? (cs : List Char) : Option (Json × List Char) :=
  words.findSome? fun w => (w.1.toList.isPrefixOf? cs).map (w.2, ·)

/-- Items with commas between them up to a closing bracket, and what follows it; `count` bounds the
number of items. -/
def items? (item : List Char → Option (α × List Char)) (close : Char) :
    Nat → List Char → Option (List α × List Char)
  | 0, _ => none
  | count + 1, cs =>
    (item (skip cs)).bind fun (a, cs) =>
      match skip cs with
      | [] => none
      | c :: cs =>
        if c = ',' then (items? item close count cs).map fun (as, cs) => (a :: as, cs)
        else if c = close then some ([a], cs)
        else none

/-- What stands after an opening bracket: nothing or items, of which there are no more than
characters. -/
def bracketed? (item : List Char → Option (α × List Char)) (close : Char) (cs : List Char) :
    Option (List α × List Char) :=
  match skip cs with
  | [] => none
  | c :: rest => if c = close then some ([], rest) else items? item close cs.length cs

/-- A name, a colon and what stands under the name. -/
def member? (item : List Char → Option (α × List Char)) (cs : List Char) :
    Option ((String × α) × List Char) :=
  match cs with
  | '"' :: cs =>
    (string? cs).bind fun (name, cs) =>
      match skip cs with
      | ':' :: cs => (item (skip cs)).map fun (a, cs) => ((name, a), cs)
      | _ => none
  | _ => none

/-- The tree at the front, and what follows it, if it is nested less deep than `depth`. -/
def tree? (decimal : List Char → Json) : Nat → List Char → Option (Json × List Char)
  | 0, _ => none
  | depth + 1, cs =>
    match cs with
    | '"' :: cs => (string? cs).map fun (s, cs) => (.text s, cs)
    | '[' :: cs => (bracketed? (tree? decimal depth) ']' cs).map fun (js, cs) => (.array js, cs)
    | '\x7b' :: cs =>
      (bracketed? (member? (tree? decimal depth)) '\x7d' cs).map fun (ms, cs) => (.object ms, cs)
    | cs => (number? decimal cs).or (word? cs)

/-- The tree of a text, which is nested no deeper than it has characters. -/
def read (decimal : List Char → Json) (s : String) : Option Json :=
  (tree? decimal (s.toList.length + 1) (skip s.toList)).bind fun (j, cs) =>
    if skip cs = [] then some j else none

end Tree

end Searchable.Json
