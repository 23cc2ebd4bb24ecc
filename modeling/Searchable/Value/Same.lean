import Searchable.Value

/-!
# Sameness of values

Numbers are the same when their exact values are, whatever their shape; truth values count as zero
and one. Texts are the same when their characters are, and a strategy is the same as its name.
Lists, tuples and byte strings go item by item and only with their like. Sets, fixed or not, are
the same when each item of one is found in the other, and maps when each entry is, so that the
order does not count. A stream, a loader or an error is the same as itself only, which its mark
tells, and so is an undefined number.

Sameness is what finds keys and items. To be equal is more: an undefined number is not equal to
anything, not even to itself.
-/

namespace Searchable

/-- The exact value of a number that is the same as some number. -/
inductive NumberKey where
  /-- A whole number. -/
  | whole (n : Int)
  /-- A number with a fraction, by its shortest decimal. -/
  | fraction (negative : Bool) (digits : Nat) (exponent : Int)
  /-- Plus or minus infinity. -/
  | infinite (negative : Bool)
  /-- No value, by the mark of the number. -/
  | undefined (mark : Nat)
  deriving DecidableEq

/-- The exact value of a floating-point number. -/
def Floating.key (x : Floating) : NumberKey :=
  match x.whole? with
  | some n => .whole n
  | none =>
    match x with
    | .finite negative digits exponent => .fraction negative digits exponent
    | .infinite negative => .infinite negative
    | .undefined mark => .undefined mark

namespace Value

/-- The exact value of a number or truth value. -/
def number? : Value → Option NumberKey
  | bool b => some (.whole (if b then 1 else 0))
  | int n => some (.whole n)
  | float x => some x.key
  | _ => none

/-- Whether two values without items are the same. -/
def sameAtom (a b : Value) : Bool :=
  match a, b with
  | null, null => true
  | bytes xs, bytes ys => xs == ys
  | recordType l, recordType r => l == r
  | model l, model r => l == r
  | stream l _, stream r _ => l == r
  | loader l _, loader r _ => l == r
  | error l _, error r _ => l == r
  | _, _ =>
    match a.number?, b.number? with
    | some x, some y => x == y
    | _, _ =>
      match a.text?, b.text? with
      | some s, some t => s == t
      | _, _ => false

mutual

/-- Whether two values are the same. -/
def same : Value → Value → Bool
  | list xs, list ys => sameItems xs ys
  | tuple xs, tuple ys => sameItems xs ys
  | set xs, set ys | set xs, frozenSet ys | frozenSet xs, set ys | frozenSet xs, frozenSet ys =>
    allFound xs ys && ys.all (anySame xs)
  | map es, map fs => allEntriesFound es fs && fs.all (anyEntrySame es)
  | a, b => sameAtom a b

/-- Whether two sequences are the same item by item. -/
def sameItems : List Value → List Value → Bool
  | [], [] => true
  | x :: xs, y :: ys => same x y && sameItems xs ys
  | _, _ => false

/-- Whether each of the first items is the same as one of the second. -/
def allFound : List Value → List Value → Bool
  | [], _ => true
  | x :: xs, ys => (ys.any fun y => same x y) && allFound xs ys

/-- Whether one of some items is the same as a value. -/
def anySame : List Value → Value → Bool
  | [], _ => false
  | x :: xs, y => same x y || anySame xs y

/-- Whether each of the first entries is the same as one of the second in key and value. -/
def allEntriesFound : List (Value × Value) → List (Value × Value) → Bool
  | [], _ => true
  | (k, v) :: es, fs => (fs.any fun f => same k f.1 && same v f.2) && allEntriesFound es fs

/-- Whether one of some entries is the same as an entry in key and value. -/
def anyEntrySame : List (Value × Value) → Value × Value → Bool
  | [], _ => false
  | (k, v) :: es, f => (same k f.1 && same v f.2) || anyEntrySame es f

end

/-- Whether a value is an undefined number. -/
def isUndefined : Value → Bool
  | float x => x.isUndefined
  | _ => false

/-- Whether two values are equal. -/
def equal (a b : Value) : Bool :=
  !a.isUndefined && same a b

mutual

/-- The kind of the first part of a value, the value itself included, that cannot be a key. -/
def unhashable? : Value → Option String
  | list items => some (list items).kind
  | set items => some (set items).kind
  | map entries => some (map entries).kind
  | tuple items => firstUnhashable? items
  | _ => none

/-- The kind of the first part of some items that cannot be a key. -/
def firstUnhashable? : List Value → Option String
  | [] => none
  | v :: vs => (unhashable? v).or (firstUnhashable? vs)

end

/-- The value under a key in a list of entries. -/
def find? {α : Type} (key : Value) : List (Value × α) → Option α
  | [] => none
  | (k, v) :: rest => if same k key then some v else find? key rest

/-- Sets the value under a key, at the end if no key is the same; a key that is keeps its form. -/
def putEntry {α : Type} (key : Value) (value : α) : List (Value × α) → List (Value × α)
  | [] => [(key, value)]
  | (k, v) :: rest => if same k key then (k, value) :: rest else (k, v) :: putEntry key value rest

/-- The entries with those of keys that are the same merged into the first. -/
def mergeEntries {α : Type} (pairs : List (Value × α)) : List (Value × α) :=
  pairs.foldl (fun es p => putEntry p.1 p.2 es) []

end Value

end Searchable
