/-!
# Sets of characters

A property of characters is kept as data: the code points at which it starts or stops to hold.
`CharSet.contains` reads the table from the left and leaves it at the first entry above the
character, so that a question about a small code point looks at few entries.
-/

namespace Searchable

/-- A set of characters, given by the code points at which membership changes, in increasing
order. Below the first entry nothing is a member. -/
structure CharSet where
  /-- The code points at which membership changes. -/
  changes : List Nat

namespace CharSet

/-- Whether a code point is a member, given the membership before the first of the changes. -/
def memberFrom (code : Nat) : Bool → List Nat → Bool
  | inside, [] => inside
  | inside, change :: changes =>
    if code < change then inside else memberFrom code (!inside) changes

/-- Whether a character is in the set. -/
def contains (s : CharSet) (c : Char) : Bool :=
  memberFrom c.toNat false s.changes

end CharSet

end Searchable
