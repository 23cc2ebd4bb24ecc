import Searchable.Proofs.Statement.BindNames

/-!
# The marks in the text of a condition

The text that `TextClause.interleave` writes has a site for each placeholder of the condition, and a
site has a mark for each bind of its parameter. Sites and marks keep the characters before and after
them, since these decide whether a mark is taken for a bind, and under which name. They are read off
the recursions that write the text, so that each of them makes up the whole text again
(`text_of_mem_sitesFrom`, `text_of_mem_marksOf`).

`occurrences` goes through a text and lists where some way of finding names finds one. Whatever that
way is, as long as it takes only colons, and none after a backslash, `occurrences_interleave` says
that it finds nothing but marks, and finds them in order: each in turn is found to be what
`Mark.read` says. `mem_occurrences` is what a single entry of the list means.
-/

namespace Searchable

/-- A way to find the name that a character stands before, given the character before that one and
the characters after it. -/
abbrev NameFinder := Option Char → Char → List Char → Option String

/-- A bind in a text, with the characters before and after its mark. -/
structure Mark where
  /-- The characters before the mark. -/
  left : List Char
  /-- The bind. -/
  bind : Bind
  /-- The characters after the mark. -/
  right : List Char

namespace Mark

/-- The text that a mark is part of. -/
def text (m : Mark) : List Char :=
  m.left ++ m.bind.mark.toList ++ m.right

/-- The name that is found at the colon of a mark. -/
def read (f : NameFinder) (m : Mark) : Option String :=
  f m.left.getLast? bindMark (m.bind.name.toList ++ m.right)

end Mark

/-- What a text has in the place of a placeholder, with the characters before and after it. -/
structure Site where
  /-- The characters before the site. -/
  left : List Char
  /-- The binds of the site. -/
  binds : List Bind
  /-- The characters after the site. -/
  right : List Char

namespace Site

/-- The text that a site is part of. -/
def text (s : Site) : List Char :=
  s.left ++ (Bind.marks s.binds).toList ++ s.right

/-- The marks of binds that follow another at the same site. -/
def followers : List Bind → List Char
  | [] => []
  | b :: bs => ", ".toList ++ b.mark.toList ++ followers bs

/-- The marks of the binds of a site that has the given characters before and after it. -/
def marksOf (left : List Char) (binds : List Bind) (right : List Char) : List Mark :=
  match binds with
  | [] => []
  | b :: bs =>
    ⟨left, b, followers bs ++ right⟩ :: marksOf (left ++ b.mark.toList ++ ", ".toList) bs right

/-- The marks of a site, in order. -/
def marks (s : Site) : List Mark :=
  marksOf s.left s.binds s.right

end Site

namespace TextClause

/-- The sites of pieces with binds between them, in a text that starts with the given characters. -/
def sitesFrom (left : List Char) : List (List Char) → List (List Bind) → List Site
  | p :: ps, binds :: rest =>
    ⟨left ++ escapeColons p, binds, interleave ps rest⟩ ::
      sitesFrom (left ++ escapeColons p ++ (Bind.marks binds).toList) ps rest
  | _, _ => []

/-- The places at which names are found, each given by the characters before it, and the names. -/
def occurrences (f : NameFinder) (left : List Char) : List Char → List (List Char × String)
  | [] => []
  | c :: rest =>
    (f left.getLast? c rest).toList.map (left, ·) ++ occurrences f (left ++ [c]) rest

/-- What is found at a mark. -/
def occurrenceAt? (f : NameFinder) (m : Mark) : Option (List Char × String) :=
  (m.read f).map (m.left, ·)

end TextClause

/-! ## The text around sites and marks -/

/-- The characters of a mark: a colon and the name. -/
theorem Bind.toList_mark (b : Bind) : b.mark.toList = bindMark :: b.name.toList := by
  unfold mark
  rw [String.toList_append, String.toList_singleton]
  rfl

namespace Site

/-- The text of a site is its first mark and those that follow it. -/
theorem toList_marks_cons (b : Bind) (bs : List Bind) :
    (Bind.marks (b :: bs)).toList = b.mark.toList ++ followers bs := by
  unfold Bind.marks
  induction bs generalizing b with
  | nil => simp [followers]
  | cons b' bs ih =>
    simp only [List.map_cons] at ih ⊢
    rw [String.intercalate_cons_cons, String.toList_append, String.toList_append, ih b', followers]
    simp only [List.append_assoc]

/-- Each mark of a site makes up the text of the site with what is around it. -/
theorem text_of_mem_marksOf {left right : List Char} {binds : List Bind} {m : Mark}
    (h : m ∈ marksOf left binds right) :
    m.text = left ++ (Bind.marks binds).toList ++ right := by
  induction binds generalizing left with
  | nil => simp [marksOf] at h
  | cons b bs ih =>
    rw [toList_marks_cons]
    rw [marksOf, List.mem_cons] at h
    rcases h with h | h
    · rw [h]
      simp only [Mark.text, List.append_assoc]
    · rw [ih h]
      cases bs with
      | nil => simp [marksOf] at h
      | cons b' bs =>
        rw [toList_marks_cons, followers]
        simp only [List.append_assoc]

/-- The marks of a site are those of its binds, in order. -/
theorem map_bind_marksOf (left : List Char) (binds : List Bind) (right : List Char) :
    (marksOf left binds right).map Mark.bind = binds := by
  induction binds generalizing left with
  | nil => rfl
  | cons b bs ih => rw [marksOf, List.map_cons, ih]

end Site

namespace TextClause

/-- Each site makes up the whole text with what is around it. -/
theorem text_of_mem_sitesFrom {left : List Char} {ps : List (List Char)} {bss : List (List Bind)}
    {s : Site} (h : s ∈ sitesFrom left ps bss) : s.text = left ++ interleave ps bss := by
  induction ps generalizing left bss with
  | nil => simp [sitesFrom] at h
  | cons p ps ih =>
    cases bss with
    | nil => simp [sitesFrom] at h
    | cons bs bss =>
      rw [sitesFrom, List.mem_cons] at h
      rw [interleave]
      rcases h with h | h
      · rw [h]
        simp only [Site.text, List.append_assoc]
      · rw [ih h]
        simp only [List.append_assoc]

/-- There is a site for each parameter where there are enough pieces. -/
theorem map_binds_sitesFrom (left : List Char) {ps : List (List Char)} {bss : List (List Bind)}
    (h : bss.length ≤ ps.length) : (sitesFrom left ps bss).map Site.binds = bss := by
  induction ps generalizing left bss with
  | nil =>
    rw [List.length_eq_zero_iff.mp (Nat.le_zero.mp h)]
    rfl
  | cons p ps ih =>
    cases bss with
    | nil => rfl
    | cons bs bss =>
      rw [sitesFrom, List.map_cons, ih _ (Nat.le_of_succ_le_succ h)]

/-! ## What is found in the text -/

/-- A name is found at a place exactly when the character there stands before it. -/
theorem mem_occurrences {f : NameFinder} {left : List Char} {cs : List Char} {place : List Char}
    {name : String} :
    (place, name) ∈ occurrences f left cs ↔
      ∃ before c after, cs = before ++ c :: after ∧ place = left ++ before ∧
        f place.getLast? c after = some name := by
  induction cs generalizing left with
  | nil => simp [occurrences]
  | cons d ds ih =>
    rw [occurrences, List.mem_append, ih]
    constructor
    · rintro (h | ⟨before, c, after, rfl, rfl, h⟩)
      · rw [List.mem_map] at h
        obtain ⟨n, hn, heq⟩ := h
        rw [Prod.mk.injEq] at heq
        rw [Option.mem_toList, heq.1, heq.2] at hn
        exact ⟨[], d, ds, rfl, by rw [heq.1, List.append_nil], hn⟩
      · exact ⟨d :: before, c, after, rfl, by simp, h⟩
    · rintro ⟨before, c, after, hcs, rfl, h⟩
      cases before with
      | nil =>
        rw [List.nil_append, List.cons.injEq] at hcs
        rw [List.append_nil] at h ⊢
        left
        rw [hcs.1, hcs.2, h]
        simp
      | cons e before =>
        rw [List.cons_append, List.cons.injEq] at hcs
        right
        exact ⟨before, c, after, hcs.2, by simp [hcs.1], h⟩

/-- Where no character stands before a name, nothing is found. -/
theorem occurrences_append {f : NameFinder} {left cs rest : List Char}
    (h : ∀ before c after, cs = before ++ c :: after →
      f (left ++ before).getLast? c (after ++ rest) = none) :
    occurrences f left (cs ++ rest) = occurrences f (left ++ cs) rest := by
  induction cs generalizing left with
  | nil => rw [List.nil_append, List.append_nil]
  | cons d ds ih =>
    have hd := h [] d ds rfl
    rw [List.append_nil] at hd
    rw [List.cons_append, occurrences, hd, ih, List.append_assoc]
    · rfl
    · intro before c after hcs
      have := h (d :: before) c after (by rw [hcs]; rfl)
      rwa [List.append_cons] at this

/-- The way of finding names takes only colons, and none after a backslash. -/
def Heeds (f : NameFinder) : Prop :=
  ∀ before c rest, f before c rest ≠ none → c = bindMark ∧ before ≠ some escapeMark

section Heeding

variable {f : NameFinder} (hf : Heeds f)
include hf

/-- Nothing is found in characters without a colon. -/
theorem occurrences_plain {left cs : List Char} (rest : List Char) (h : bindMark ∉ cs) :
    occurrences f left (cs ++ rest) = occurrences f (left ++ cs) rest := by
  refine occurrences_append fun before c after hcs => ?_
  by_contra hfound
  have hc : c = bindMark := (hf _ _ _ hfound).1
  rw [hcs, hc] at h
  simp at h

/-- Nothing is found in characters whose colons are escaped. -/
theorem occurrences_escapeColons (left p rest : List Char) :
    occurrences f left (escapeColons p ++ rest) = occurrences f (left ++ escapeColons p) rest := by
  induction p generalizing left with
  | nil => rw [escapeColons, List.nil_append, List.append_nil]
  | cons c p ih =>
    by_cases hc : c = bindMark
    -- Neither the backslash nor the colon after it is taken.
    · have hmark : escapeMark ≠ bindMark := by decide
      have hfirst : f left.getLast? escapeMark (c :: (escapeColons p ++ rest)) = none := by
        by_contra hfound
        exact hmark (hf _ _ _ hfound).1
      have hsecond : f (left ++ [escapeMark]).getLast? c (escapeColons p ++ rest) = none := by
        by_contra hfound
        exact (hf _ _ _ hfound).2 List.getLast?_concat
      rw [escapeColons, if_pos hc, List.cons_append, List.cons_append, occurrences, hfirst,
        occurrences, hsecond, ih]
      simp
    · have hfirst : f left.getLast? c (escapeColons p ++ rest) = none := by
        by_contra hfound
        exact hc (hf _ _ _ hfound).1
      rw [escapeColons, if_neg hc, List.cons_append, occurrences, hfirst, ih]
      simp

/-- At a mark there is what `Mark.read` says, and nothing in the name of its bind. -/
theorem occurrences_mark {left : List Char} {b : Bind} (rest : List Char)
    (hb : bindMark ∉ b.name.toList) :
    occurrences f left (b.mark.toList ++ rest) =
      (occurrenceAt? f ⟨left, b, rest⟩).toList ++ occurrences f (left ++ b.mark.toList) rest := by
  rw [Bind.toList_mark, List.cons_append, occurrences, occurrences_plain hf rest hb,
    List.append_assoc, List.singleton_append]
  congr 1
  unfold occurrenceAt? Mark.read
  cases f left.getLast? bindMark (b.name.toList ++ rest) with
  | none => rfl
  | some name => rfl

/-- At a site there is what its marks say. -/
theorem occurrences_marks {left : List Char} {bs : List Bind} (rest : List Char)
    (hbs : ∀ b ∈ bs, bindMark ∉ b.name.toList) :
    occurrences f left ((Bind.marks bs).toList ++ rest) =
      (Site.marksOf left bs rest).filterMap (occurrenceAt? f) ++
        occurrences f (left ++ (Bind.marks bs).toList) rest := by
  induction bs generalizing left with
  | nil => exact occurrences_plain hf rest (by decide)
  | cons b bs ih =>
    have hb := hbs b List.mem_cons_self
    rw [Site.toList_marks_cons, List.append_assoc, occurrences_mark hf _ hb, Site.marksOf,
      List.filterMap_cons]
    -- After the first mark the site ends or goes on with a separator, which has no colon.
    have hrest : occurrences f (left ++ b.mark.toList) (Site.followers bs ++ rest) =
        (Site.marksOf (left ++ b.mark.toList ++ ", ".toList) bs rest).filterMap
            (occurrenceAt? f) ++
          occurrences f (left ++ (b.mark.toList ++ Site.followers bs)) rest := by
      cases bs with
      | nil => simp [Site.followers, Site.marksOf]
      | cons b' bs =>
        have hsep : occurrences f (left ++ b.mark.toList)
              (", ".toList ++ ((Bind.marks (b' :: bs)).toList ++ rest)) =
            occurrences f (left ++ b.mark.toList ++ ", ".toList)
              ((Bind.marks (b' :: bs)).toList ++ rest) :=
          occurrences_plain hf _ (by decide)
        rw [ih fun a ha => hbs a (List.mem_cons_of_mem b ha), Site.toList_marks_cons] at hsep
        rw [Site.followers]
        simp only [List.append_assoc] at hsep ⊢
        exact hsep
    rw [hrest]
    cases occurrenceAt? f ⟨left, b, Site.followers bs ++ rest⟩ with
    | none => rfl
    | some found => rfl

/-- In the text of a condition there is what the marks say, in their order. -/
theorem occurrences_interleave {left : List Char} {ps : List (List Char)}
    {bss : List (List Bind)} (hbss : ∀ b ∈ bss.flatten, bindMark ∉ b.name.toList) :
    occurrences f left (interleave ps bss) =
      ((sitesFrom left ps bss).flatMap Site.marks).filterMap (occurrenceAt? f) := by
  induction ps generalizing left bss with
  | nil => rfl
  | cons p ps ih =>
    cases bss with
    | nil =>
      have := occurrences_escapeColons hf left p []
      rw [List.append_nil] at this
      rw [interleave, this]
      rfl
    | cons bs bss =>
      rw [interleave, List.append_assoc, occurrences_escapeColons hf,
        occurrences_marks hf _ (fun b hb => hbss b (by simp [hb])),
        ih (fun b hb => hbss b (by rw [List.flatten_cons]; exact List.mem_append_right bs hb)),
        sitesFrom, List.flatMap_cons, List.filterMap_append]
      rfl

end Heeding

end TextClause

end Searchable
