import Searchable.Proofs.Chains
import Searchable.Proofs.Schema.RequestNames
import Searchable.Settings.Search

/-!
# How the loading of settings fails

Loading goes through the settings of a plan in order and then checks all values together. A setting
may have an obstacle (`Plan.Obstacle`), and an error of the check is reported in one of three ways
(`Raised.Reported`). `Plan.load_failsOnlySo` says that the first obstacle decides, that the check
does where there is none, and what of all this says that the configuration is wrong: a text that is
read as no whole number does not, for it is refused while the settings are read.
-/

namespace Searchable

/-- What keeps a setting of a plan from being read, and the failure that reports it. -/
inductive Plan.Obstacle (p : Plan) (env : Environment) (s : Setting) : Failure → Prop where
  /-- Its variable is absent, and nothing stands in for it. -/
  | absent (hvariable : env.get? (variableName p.family s.name) = none) (husual : s.usual = none) :
    Obstacle p env s
      (.fault (.ofCause (.missingSetting (.text (variableName p.family s.name)))))
  /-- It is a whole number, and the text of its variable stands for none. -/
  | malformed (raw : String) (hvariable : env.get? (variableName p.family s.name) = some raw)
      (hhint : s.hint = .number)
      (hread : Text.Numeral.read Text.Numeral.maxDigits raw = .error .malformed) :
    Obstacle p env s (.misuse (.notNumeral (Text.Literal.ofText raw)))
  /-- It is a whole number, and the text of its variable has more digits than are read. -/
  | tooLong (raw : String) (digits : Nat)
      (hvariable : env.get? (variableName p.family s.name) = some raw) (hhint : s.hint = .number)
      (hread : Text.Numeral.read Text.Numeral.maxDigits raw = .error (.tooLong digits)) :
    Obstacle p env s (.misuse (.longNumeral digits))

/-- How an error of a check is reported. -/
inductive Raised.Reported : Raised → Failure → Prop where
  /-- One that says that the configuration is wrong stands. -/
  | stands (f : Failure) (h : f.IsOf .config) : Reported (.own f) f
  /-- Any other becomes the origin of one that says so and shows its text. -/
  | wrapped (e : Raised) (text : String) (hother : ∀ f, e = .own f → ¬f.IsOf .config)
      (htext : e.text = .ok text) :
    Reported e (.fault ⟨.loadFailed text, .null, some e.view⟩)
  /-- It cannot if it has no text. -/
  | wordless (e : Raised) (why : Unwritable) (hother : ∀ f, e = .own f → ¬f.IsOf .config)
      (htext : e.text = .error why) : Reported e (.misuse (.unwritable why))

/-- That loading fails for obstacles and in the check only, and how. -/
structure Plan.FailsOnlySo (p : Plan) (env : Environment) : Prop where
  /-- The first setting that has an obstacle decides, whatever is wrong after it. -/
  first : ∀ before s after f, p.settings = before ++ s :: after →
    (∀ b ∈ before, ∀ g, ¬p.Obstacle env b g) → p.Obstacle env s f → p.load env = .error f
  /-- Where no setting has one, there is a value for each, and the check of the values decides. -/
  checked : (∀ s ∈ p.settings, ∀ g, ¬p.Obstacle env s g) →
    ∃ values, values.names = p.settings.map Setting.name ∧
      (∀ after, p.check values = .ok after → p.load env = .ok after) ∧
      ∀ e f, p.check values = .error e → e.Reported f → p.load env = .error f
  /-- A failure says that the configuration is wrong, unless a text is read as no whole number or
  the check fails with an error without a text. -/
  config : ∀ f, p.load env = .error f → f.IsOf .config ∨
    (∃ s ∈ p.settings, ∃ m, f = .misuse m ∧ p.Obstacle env s (.misuse m)) ∨
    ∃ values e why, p.check values = .error e ∧ e.text = .error why ∧
      f = .misuse (.unwritable why)

/-- A failure of the library says that the configuration is wrong exactly when its kind does. -/
theorem Raised.isConfig_own_iff {f : Failure} : (own f).isConfig = true ↔ f.IsOf .config := by
  cases f with
  | fault x =>
    constructor
    · exact fun h => ⟨x, rfl, h⟩
    · rintro ⟨y, hy, h⟩
      cases hy
      exact h
  | misuse m =>
    constructor
    · intro h
      cases h
    · rintro ⟨y, hy, -⟩
      cases hy

/-- Each error of a check is reported. -/
theorem Raised.exists_reported (e : Raised) : ∃ f, e.Reported f := by
  by_cases hconfig : ∃ f, e = .own f ∧ f.IsOf .config
  · obtain ⟨f, rfl, hf⟩ := hconfig
    exact ⟨f, .stands f hf⟩
  · have hother : ∀ f, e = .own f → ¬f.IsOf .config := fun f he hf => hconfig ⟨f, he, hf⟩
    cases htext : e.text with
    | ok text => exact ⟨_, .wrapped e text hother htext⟩
    | error why => exact ⟨_, .wordless e why hother htext⟩

namespace Plan

variable {p : Plan} {env : Environment} {s : Setting} {f : Failure}

/-- A setting is read unless it has an obstacle. -/
theorem readSetting_eq_error_iff : p.readSetting env s = .error f ↔ p.Obstacle env s f := by
  constructor
  · intro h
    unfold readSetting at h
    cases hvariable : env.get? (variableName p.family s.name) with
    | none =>
      simp only [hvariable] at h
      cases husual : s.usual with
      | none =>
        rw [husual] at h
        obtain rfl := Except.error.inj h
        exact .absent hvariable husual
      | some v =>
        rw [husual] at h
        cases h
    | some raw =>
      simp only [hvariable] at h
      cases hhint : s.hint with
      | truth | text =>
        rw [hhint] at h
        cases h
      | number =>
        rw [hhint, Hint.read, readWhole] at h
        cases hread : Text.Numeral.read Text.Numeral.maxDigits raw with
        | ok n =>
          rw [hread] at h
          cases h
        | error defect => cases defect with
          | malformed =>
            rw [hread] at h
            obtain rfl := Except.error.inj h
            exact .malformed raw hvariable hhint hread
          | tooLong digits =>
            rw [hread] at h
            obtain rfl := Except.error.inj h
            exact .tooLong raw digits hvariable hhint hread
  · intro h
    cases h with
    | absent hvariable husual =>
      simp only [readSetting, hvariable, husual]
      rfl
    | malformed raw hvariable hhint hread =>
      simp only [readSetting, hvariable, hhint, Hint.read, readWhole, hread]
      rfl
    | tooLong raw digits hvariable hhint hread =>
      simp only [readSetting, hvariable, hhint, Hint.read, readWhole, hread]
      rfl

/-- Settings are read one by one. -/
theorem readSettings_eq_mapM (settings : List Setting) :
    p.readSettings env settings =
      settings.mapM fun s => (p.readSetting env s).map fun v => (s.name, v) := by
  induction settings with
  | nil => rfl
  | cons s settings ih =>
    rw [readSettings, ih, List.mapM_cons]
    cases p.readSetting env s <;> rfl

/-- Reading several settings fails for the first that has an obstacle. -/
theorem readSettings_eq_error_iff {settings : List Setting} :
    p.readSettings env settings = .error f ↔
      ∃ before s after, settings = before ++ s :: after ∧
        (∀ b ∈ before, ∀ g, ¬p.Obstacle env b g) ∧ p.Obstacle env s f := by
  have hclear (s : Setting) : (∃ e, (p.readSetting env s).map (fun v => (s.name, v)) = .ok e) ↔
      ∀ g, ¬p.Obstacle env s g := by
    cases hread : p.readSetting env s with
    | ok v =>
      have hnone : ∀ g, ¬p.Obstacle env s g := by
        intro g hg
        cases hread.symm.trans (readSetting_eq_error_iff.2 hg)
      exact ⟨fun _ => hnone, fun _ => ⟨_, rfl⟩⟩
    | error g =>
      have hsome : p.Obstacle env s g := readSetting_eq_error_iff.1 hread
      exact ⟨fun ⟨_, h⟩ => (by cases h), fun h => absurd hsome (h g)⟩
  rw [readSettings_eq_mapM, mapM_eq_error_iff]
  simp only [hclear, map_eq_error_iff, readSetting_eq_error_iff]

/-- Where settings are not read, one of them has an obstacle, and it is reported. -/
theorem exists_obstacle {settings : List Setting} (h : p.readSettings env settings = .error f) :
    ∃ s ∈ settings, p.Obstacle env s f := by
  obtain ⟨before, s, after, rfl, -, hs⟩ := readSettings_eq_error_iff.1 h
  exact ⟨s, List.mem_append_right before List.mem_cons_self, hs⟩

/-- The values that are read have the names of their settings. -/
theorem names_readSettings {settings : List Setting} {values : Entries Value}
    (h : p.readSettings env settings = .ok values) :
    values.names = settings.map Setting.name := by
  induction settings generalizing values with
  | nil =>
    obtain rfl := Except.ok.inj h
    rfl
  | cons s settings ih =>
    obtain ⟨v, -, h⟩ := bind_eq_ok_iff.1 h
    obtain ⟨es, hes, h⟩ := bind_eq_ok_iff.1 h
    obtain rfl := Except.ok.inj h
    exact congrArg (List.cons s.name) (ih hes)

/-- What is made of an error of the check is how the error is reported. -/
theorem failureOf_of_reported {e : Raised} (h : e.Reported f) : failureOf e = f := by
  have hplain {e : Raised} (hother : ∀ f, e = .own f → ¬f.IsOf .config) :
      failureOf e = e.loadFailure := by
    cases e with
    | own g =>
      have hconfig : (Raised.own g).isConfig = false :=
        Bool.eq_false_iff.2 (mt Raised.isConfig_own_iff.1 (hother g rfl))
      simp only [failureOf, hconfig, Bool.false_eq_true, if_false]
    | foreign e => rfl
  cases h with
  | stands f h =>
    simp only [failureOf, Raised.isConfig_own_iff.2 h, if_true]
  | wrapped e text hother htext => rw [hplain hother, Raised.loadFailure, htext]
  | wordless e why hother htext => rw [hplain hother, Raised.loadFailure, htext]

/-- Loading fails for the first obstacle or in the check, and but for two cases it fails with a
failure that says that the configuration is wrong. -/
theorem load_failsOnlySo (p : Plan) (env : Environment) : p.FailsOnlySo env := by
  have hload {values : Entries Value} (hread : p.readSettings env p.settings = .ok values) :
      p.load env = p.checked values := by
    rw [load, hread]
    rfl
  have hunread {f : Failure} (hread : p.readSettings env p.settings = .error f) :
      p.load env = .error f := by
    rw [load, hread]
    rfl
  constructor
  case first =>
    intro before s after f hsplit hbefore hs
    exact hunread (readSettings_eq_error_iff.2 ⟨before, s, after, hsplit, hbefore, hs⟩)
  case checked =>
    intro hclear
    cases hread : p.readSettings env p.settings with
    | error f =>
      obtain ⟨s, hmem, hs⟩ := exists_obstacle hread
      exact absurd hs (hclear s hmem f)
    | ok values =>
      refine ⟨values, names_readSettings hread, fun after hafter => ?_, fun e f he hf => ?_⟩
      · rw [hload hread, checked, hafter]
        rfl
      · rw [hload hread, checked, he, mapError_error, failureOf_of_reported hf]
  case config =>
    intro f hf
    cases hread : p.readSettings env p.settings with
    | error g =>
      -- The obstacles that are no fault of the configuration's kind are the unreadable numbers.
      obtain rfl := Except.error.inj ((hunread hread).symm.trans hf)
      obtain ⟨s, hmem, hs⟩ := exists_obstacle hread
      cases hs with
      | absent hvariable husual => exact .inl ⟨_, rfl, rfl⟩
      | malformed raw hvariable hhint hraw =>
        exact .inr (.inl ⟨s, hmem, _, rfl, .malformed raw hvariable hhint hraw⟩)
      | tooLong raw digits hvariable hhint hraw =>
        exact .inr (.inl ⟨s, hmem, _, rfl, .tooLong raw digits hvariable hhint hraw⟩)
    | ok values =>
      rw [hload hread, checked] at hf
      cases hcheck : p.check values with
      | ok after =>
        rw [hcheck] at hf
        cases hf
      | error e =>
        -- Nor is an error of the check that has no text to be reported with.
        rw [hcheck, mapError_error] at hf
        obtain rfl := Except.error.inj hf
        obtain ⟨f, hf⟩ := e.exists_reported
        rw [failureOf_of_reported hf]
        cases hf with
        | stands f h => exact .inl h
        | wrapped e text hother htext => exact .inl ⟨_, rfl, rfl⟩
        | wordless e why hother htext => exact .inr (.inr ⟨values, e, why, hcheck, htext, rfl⟩)

/-- The plan of one whole number. -/
def numberPlan : Plan :=
  .ofFamily "app" [⟨"n", .number, none⟩] .ok

/-- A plan whose check fails with an error without a text. -/
def wordlessPlan : Plan :=
  .ofFamily "" [] fun _ =>
    .error (.own (.fault (.ofCause (.unknownSearchColumn (.map [(.tuple [.int 1], .int 2)])))))

/-- Not every failure says that the configuration is wrong: a text that is no whole number does not,
and neither does an error without a text. -/
theorem failure_not_config :
    numberPlan.load [("APP_N", "abc")] = .error (.misuse (.notNumeral "'abc'")) ∧
      ¬(Failure.misuse (.notNumeral "'abc'")).IsOf .config ∧
      wordlessPlan.load [] = .error (.misuse (.unwritable (.key "tuple"))) ∧
      ¬(Failure.misuse (.unwritable (.key "tuple"))).IsOf .config := by
  have hother (m : Misuse) : ¬(Failure.misuse m).IsOf .config := by
    rintro ⟨x, hx, -⟩
    cases hx
  refine ⟨?_, hother _, ?_, hother _⟩
  · rfl
  · rfl

end Plan

end Searchable
