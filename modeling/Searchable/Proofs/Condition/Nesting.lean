import Searchable.Condition
import Mathlib.Data.List.Infix

/-!
# Reading a conjunction back

The expression of a condition joins texts by `AND`, and each of the texts may have an `AND` of its
own. What tells them apart is how many parentheses are open: `depth` counts them, and `conjuncts`
splits a text at those occurrences of ` AND ` that lie outside all parentheses. If each text closes
the parentheses that it opens and no others (`IsBalanced`), then at least one of the parentheses put
around it is open all the way through (`piecesFrom_inside`), and splitting the conjunction gives the
texts back (`conjuncts_conjunction`).
-/

namespace Searchable

/-- How many parentheses a character opens. One that closes a parenthesis counts as minus one. -/
def opens (c : Char) : Int :=
  if c = '(' then 1 else if c = ')' then -1 else 0

/-- How many more parentheses a text opens than it closes. -/
def depth : List Char → Int
  | [] => 0
  | c :: cs => opens c + depth cs

/-- Whether a text closes just the parentheses that it opens. -/
structure IsBalanced (text : String) : Prop where
  /-- It closes no parenthesis that it has not opened before. -/
  opened : ∀ front, front <+: text.toList → 0 ≤ depth front
  /-- It leaves no parenthesis open. -/
  closed : depth text.toList = 0

/-- The empty text opens nothing. -/
@[simp] theorem depth_nil : depth [] = 0 := rfl

/-- A text opens what its first character and the others open. -/
@[simp] theorem depth_cons (c : Char) (cs : List Char) : depth (c :: cs) = opens c + depth cs := rfl

/-- Two texts open what each of them opens. -/
@[simp] theorem depth_append (xs ys : List Char) : depth (xs ++ ys) = depth xs + depth ys := by
  induction xs with
  | nil => rw [List.nil_append, depth_nil, Int.zero_add]
  | cons c xs ih => rw [List.cons_append, depth_cons, ih, depth_cons, Int.add_assoc]

/-- A text without parentheses opens none. -/
theorem depth_of_plain {cs : List Char} (h : ∀ c ∈ cs, opens c = 0) : depth cs = 0 := by
  induction cs with
  | nil => rfl
  | cons c cs ih =>
    obtain ⟨hc, hcs⟩ := List.forall_mem_cons.1 h
    rw [depth_cons, hc, ih hcs, Int.add_zero]

/-- The characters of a text between parentheses. -/
theorem toList_parenthesised (text : String) :
    (parenthesised text).toList = '(' :: (text.toList ++ [')']) := by
  rw [parenthesised, String.toList_append, String.toList_append]
  rfl

/-- What is opened around a text is closed again. -/
theorem depth_parenthesised (text : String) :
    depth (parenthesised text).toList = depth text.toList := by
  have hopen : opens '(' = 1 := by decide
  have hclose : depth [')'] = -1 := by decide
  rw [toList_parenthesised, depth_cons, depth_append, hopen, hclose]
  omega

/-- Whether a text is balanced is found out by going through it. -/
instance (text : String) : Decidable (IsBalanced text) :=
  decidable_of_iff ((∀ front ∈ text.toList.inits, 0 ≤ depth front) ∧ depth text.toList = 0)
    ⟨fun h => ⟨fun front hfront => h.1 front ((List.mem_inits _ _).2 hfront), h.2⟩,
      fun h => ⟨fun front hfront => h.opened front ((List.mem_inits _ _).1 hfront), h.closed⟩⟩

namespace IsBalanced

variable {a b : String}

/-- A text without parentheses is balanced. -/
theorem of_plain (h : ∀ c ∈ a.toList, opens c = 0) : IsBalanced a where
  opened _ hfront := Int.le_of_eq (depth_of_plain fun c hc => h c (hfront.subset hc)).symm
  closed := depth_of_plain h

/-- One balanced text after another is balanced. -/
theorem append (ha : IsBalanced a) (hb : IsBalanced b) : IsBalanced (a ++ b) where
  opened front hfront := by
    rw [String.toList_append] at hfront
    rcases List.prefix_or_prefix_of_prefix hfront (List.prefix_append a.toList b.toList) with
      hshort | ⟨rest, rfl⟩
    · exact ha.opened front hshort
    · have hrest := hb.opened rest ((List.prefix_append_right_inj _).1 hfront)
      rw [depth_append, ha.closed]
      omega
  closed := by rw [String.toList_append, depth_append, ha.closed, hb.closed, Int.add_zero]

/-- A balanced text between parentheses is balanced. -/
theorem parenthesised (ha : IsBalanced a) : IsBalanced (parenthesised a) where
  opened front hfront := by
    rw [toList_parenthesised] at hfront
    rcases List.prefix_cons_iff.1 hfront with rfl | ⟨rest, rfl, hrest⟩
    · exact Int.le_refl 0
    · rcases List.prefix_concat_iff.1 hrest with rfl | hrest
      · -- The front is the whole text.
        have hwhole : depth (Searchable.parenthesised a).toList = 0 := by
          rw [depth_parenthesised, ha.closed]
        rw [← toList_parenthesised]
        exact Int.le_of_eq hwhole.symm
      · have hopen : opens '(' = 1 := by decide
        have hdepth := ha.opened rest hrest
        rw [depth_cons, hopen]
        omega
  closed := by rw [depth_parenthesised, ha.closed]

end IsBalanced

/-- What stands between two texts of a conjunction. -/
def joint : List Char :=
  [' ', 'A', 'N', 'D', ' ']

/-- Puts a character before the first of some pieces. -/
def consFirst (c : Char) : List (List Char) → List (List Char)
  | [] => [[c]]
  | piece :: pieces => (c :: piece) :: pieces

/-- The pieces of a text between the joints outside all parentheses, where so many parentheses are
open before the text, and so many characters of a joint are still to be passed over. -/
def piecesFrom (level : Int) (skip : Nat) : List Char → List (List Char)
  | [] => [[]]
  | c :: cs =>
    match skip with
    | skip + 1 => piecesFrom level skip cs
    | 0 =>
      if level = 0 ∧ joint <+: c :: cs then [] :: piecesFrom level (joint.length - 1) cs
      else consFirst c (piecesFrom (level + opens c) 0 cs)

/-- The pieces of a text between those occurrences of ` AND ` that lie outside all parentheses. -/
def conjuncts (text : String) : List String :=
  (piecesFrom 0 0 text.toList).map String.ofList

section Pieces

variable {level : Int} {rest : List Char}

/-- Where the nesting is above the ground all the way through a text, nothing is split there. -/
theorem piecesFrom_inside {text : List Char}
    (h : ∀ front, front <+: text → 0 < level + depth front) :
    piecesFrom level 0 (text ++ rest) =
      text.foldr consFirst (piecesFrom (level + depth text) 0 rest) := by
  induction text generalizing level with
  | nil => rw [List.nil_append, List.foldr_nil, depth_nil, Int.add_zero]
  | cons c cs ih =>
    have hlevel : level ≠ 0 := by
      have hstart := h [] (List.nil_prefix ..)
      rw [depth_nil] at hstart
      omega
    have hcs : ∀ front, front <+: cs → 0 < level + opens c + depth front := by
      intro front hfront
      have hc := h (c :: front) (List.cons_prefix_cons.2 ⟨rfl, hfront⟩)
      rw [depth_cons] at hc
      omega
    rw [List.cons_append, piecesFrom, if_neg fun hsplit => hlevel hsplit.1, ih hcs,
      List.foldr_cons, depth_cons, Int.add_assoc]

/-- A balanced text between parentheses belongs to one piece. -/
theorem piecesFrom_parenthesised {text : String} (h : IsBalanced text) :
    piecesFrom 0 0 ((parenthesised text).toList ++ rest) =
      (parenthesised text).toList.foldr consFirst (piecesFrom 0 0 rest) := by
  have hinside : ∀ front, front <+: text.toList → 0 < (1 : Int) + depth front := by
    intro front hfront
    have := h.opened front hfront
    omega
  -- The opening parenthesis begins no joint, and the closing one is still inside.
  calc piecesFrom 0 0 ((parenthesised text).toList ++ rest)
      = consFirst '(' (piecesFrom 1 0 (text.toList ++ (')' :: rest))) := by
        rw [toList_parenthesised, List.cons_append, List.append_assoc]
        rfl
    _ = consFirst '(' (text.toList.foldr consFirst (piecesFrom 1 0 (')' :: rest))) := by
        rw [piecesFrom_inside hinside, h.closed, Int.add_zero]
    _ = consFirst '(' (text.toList.foldr consFirst (consFirst ')' (piecesFrom 0 0 rest))) := rfl
    _ = (parenthesised text).toList.foldr consFirst (piecesFrom 0 0 rest) := by
        rw [toList_parenthesised, List.foldr_cons, List.foldr_append]
        rfl

/-- A joint outside all parentheses ends a piece. -/
theorem piecesFrom_joint : piecesFrom 0 0 (joint ++ rest) = [] :: piecesFrom 0 0 rest := by
  have hjoint : joint ++ rest = ' ' :: (['A', 'N', 'D', ' '] ++ rest) := rfl
  have hsplit : (0 : Int) = 0 ∧ joint <+: ' ' :: (['A', 'N', 'D', ' '] ++ rest) :=
    ⟨rfl, rest, hjoint⟩
  rw [hjoint, piecesFrom, if_pos hsplit]
  -- The other characters of the joint are passed over.
  rfl

/-- Putting characters before pieces puts them before the first. -/
theorem foldr_consFirst (text piece : List Char) (pieces : List (List Char)) :
    text.foldr consFirst (piece :: pieces) = (text ++ piece) :: pieces := by
  induction text with
  | nil => rfl
  | cons c cs ih => rw [List.foldr_cons, ih, consFirst, List.cons_append]

end Pieces

/-- The conjunction of one text is the text between parentheses. -/
theorem toList_conjunction_singleton (a : String) :
    (Condition.conjunction [a]).toList = (parenthesised a).toList := by
  rw [Condition.conjunction, List.map_singleton, String.intercalate_singleton]

/-- A conjunction of several texts starts with the first between parentheses, and goes on with the
conjunction of the others after a joint. -/
theorem toList_conjunction_cons (a b : String) (texts : List String) :
    (Condition.conjunction (a :: b :: texts)).toList =
      (parenthesised a).toList ++ (joint ++ (Condition.conjunction (b :: texts)).toList) := by
  rw [Condition.conjunction, List.map_cons, List.map_cons, String.intercalate_cons_cons,
    String.toList_append, String.toList_append, List.append_assoc]
  rfl

/-- A conjunction is empty exactly when nothing is joined. -/
theorem Condition.conjunction_eq_empty_iff {texts : List String} :
    conjunction texts = "" ↔ texts = [] := by
  cases texts with
  | nil => exact ⟨fun _ => rfl, fun _ => rfl⟩
  | cons text texts =>
    refine ⟨fun h => ?_, fun h => by cases h⟩
    -- A conjunction of texts begins with a parenthesis.
    have hnil : (conjunction (text :: texts)).toList = [] := congrArg String.toList h
    cases texts with
    | nil =>
      rw [toList_conjunction_singleton, toList_parenthesised] at hnil
      cases hnil
    | cons next texts =>
      rw [toList_conjunction_cons, toList_parenthesised] at hnil
      cases hnil

/-- The pieces of a conjunction of balanced texts are the texts between their parentheses. -/
theorem piecesFrom_conjunction {texts : List String} (hne : texts ≠ [])
    (h : ∀ text ∈ texts, IsBalanced text) :
    piecesFrom 0 0 (Condition.conjunction texts).toList =
      texts.map fun text => (parenthesised text).toList := by
  induction texts with
  | nil => exact absurd rfl hne
  | cons a texts ih =>
    have ha := h a List.mem_cons_self
    cases texts with
    | nil =>
      calc piecesFrom 0 0 (Condition.conjunction [a]).toList
          = piecesFrom 0 0 ((parenthesised a).toList ++ []) := by
            rw [toList_conjunction_singleton, List.append_nil]
        _ = (parenthesised a).toList.foldr consFirst [[]] := piecesFrom_parenthesised ha
        _ = [(parenthesised a).toList] := by rw [foldr_consFirst, List.append_nil]
    | cons b texts =>
      have hrest := ih (List.cons_ne_nil _ _) fun text ht => h text (List.mem_cons_of_mem a ht)
      rw [toList_conjunction_cons, piecesFrom_parenthesised ha, piecesFrom_joint, hrest,
        foldr_consFirst, List.append_nil]
      rfl

/-- Splitting a conjunction of balanced texts gives them back, each between its parentheses. -/
theorem conjuncts_conjunction {texts : List String} (hne : texts ≠ [])
    (h : ∀ text ∈ texts, IsBalanced text) :
    conjuncts (Condition.conjunction texts) = texts.map parenthesised := by
  rw [conjuncts, piecesFrom_conjunction hne h, List.map_map]
  exact List.map_congr_left fun text _ => String.ofList_toList

example : conjuncts (Condition.conjunction ["a AND b", "(c) AND f(d AND e)"]) =
    ["(a AND b)", "((c) AND f(d AND e))"] := by
  decide

end Searchable
