import Searchable.Fault
import Searchable.Proofs.Chains

/-!
# Causes that show a value

A refusal shows forms of the values that it is about, and a value that contains a whole number of
too many digits, or an error without a text, has no such form. `Failure.showing` is what a refusal
comes to that shows one form that may be missing. By `Failure.ofCause_eq_showing` every refusal is
of this kind whose other forms are there.
-/

namespace Searchable.Failure

/-- The refusal for a cause that shows a form of a value. Where the value has none, it is reported
why, and the cause is not. -/
def showing (c : Cause) : Except Unwritable String → Failure
  | .ok _ => .fault (.ofCause c)
  | .error why => .misuse (.unwritable why)

/-- Such a refusal is that for its cause exactly if the form is there. -/
theorem showing_eq_fault_iff {c : Cause} {form : Except Unwritable String} {f : Fault} :
    showing c form = .fault f ↔ (∃ text, form = .ok text) ∧ f = .ofCause c := by
  cases form with
  | ok text => simp [showing, eq_comm]
  | error why => simp [showing]

/-- Forms that are there do not stop a check. -/
theorem checkShown_eq {c : Cause} {texts : List String} {form : Except Unwritable String}
    (h : c.shownForms = texts.map .ok ++ [form]) :
    c.checkShown = (form.map fun _ => ()).mapError .unwritable := by
  unfold Cause.checkShown
  rw [h]
  clear h
  induction texts with
  | nil => cases form <;> rfl
  | cons text texts ih => exact ih

/-- A cause that shows one form after others that are there is refused as far as the form is there
too. -/
theorem ofCause_eq_showing {c : Cause} (texts : List String) {form : Except Unwritable String}
    (h : c.shownForms = texts.map .ok ++ [form]) : ofCause c = showing c form := by
  rw [ofCause, checkShown_eq h]
  cases form <;> rfl

end Searchable.Failure
