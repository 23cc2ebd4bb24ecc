import Searchable.Misuse

/-!
# Orders

The order of the answers is a sequence of tokens which are joined by single spaces. It may be
written as one text, which is one token unless it is blank, or as any items. Tokens that are no
texts are noticed when they are joined.
-/

namespace Searchable.Order

/-- The tokens of an order as it is written; nothing is written as no value. -/
def tokens (written : Value) : Except Misuse (List Value) :=
  match written with
  | .null => .ok []
  | _ =>
    match written.text? with
    | some s => .ok (if Text.isBlank s then [] else [written])
    | none =>
      match written.items? with
      | some items => .ok items
      | none => .error (.notIterable written.kind)

/-- The texts of tokens, the first of which has the given index. -/
def textsFrom (index : Nat) : List Value → Except Misuse (List String)
  | [] => .ok []
  | v :: vs =>
    match v.text? with
    | none => .error (.notJoinable index v.kind)
    | some s => (textsFrom (index + 1) vs).map (s :: ·)

/-- The joined tokens; no tokens make no order. -/
def joined : List Value → Except Misuse (Option String)
  | [] => .ok none
  | vs => (textsFrom 0 vs).map fun texts => some (" ".intercalate texts)

/-- The tokens of an order can be written again as a tuple. -/
theorem tokens_tuple (items : List Value) : tokens (.tuple items) = .ok items := rfl

end Searchable.Order
