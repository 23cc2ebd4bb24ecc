import Searchable.Proofs.Chains
import Searchable.Settings.Search

/-!
# Which variables have a say

What is loaded depends on the variables of a plan's settings and on no others (`Plan.load_congr`).
The search has five settings, four of which are documented with their variables. The fifth is the
family, which every plan holds as its first setting and which therefore has a variable as well.
`SearchSettings.load_dependsOn` says what follows for two environments that agree on the documented
variables: from both the same is loaded but for the family, which is what the fifth variable says in
each, and `SearchSettings.prefixed_differs` that this one exception is met.

The two runs are compared through the first setting. It is always read, so that the settings after
it decide whether reading fails, and the check hands the family on without looking at it.
-/

namespace Searchable

namespace Plan

variable {p : Plan} {env env' : Environment}

/-- Settings are read from their own variables only. -/
theorem readSettings_congr {settings : List Setting}
    (h : ∀ s ∈ settings,
      env.get? (variableName p.family s.name) = env'.get? (variableName p.family s.name)) :
    p.readSettings env settings = p.readSettings env' settings := by
  induction settings with
  | nil => rfl
  | cons s settings ih =>
    obtain ⟨hs, hrest⟩ := List.forall_mem_cons.1 h
    have hsetting : p.readSetting env s = p.readSetting env' s := by
      rw [readSetting, readSetting]
      simp only [hs]
    rw [readSettings, readSettings, hsetting, ih hrest]

/-- A plan is loaded from the variables of its settings only. -/
theorem load_congr
    (h : ∀ s ∈ p.settings,
      env.get? (variableName p.family s.name) = env'.get? (variableName p.family s.name)) :
    p.load env = p.load env' := by
  rw [load, load, readSettings_congr h]

end Plan

namespace SearchSettings

variable {env env' : Environment}

/-- The variables that are documented, one for each setting but the family. -/
def documentedVariables : List String :=
  ["MP_SEARCH_LOG_LEVEL", "MP_SEARCH_LOG_JSON", "MP_SEARCH_DEFAULT_FINDER",
    "MP_SEARCH_STRICT_REREGISTRATION"]

/-- The variable of the family. -/
def familyVariable : String := "MP_SEARCH__PREFIX"

/-- The family that an environment says. -/
def familyIn (env : Environment) : Value :=
  match env.get? familyVariable with
  | some text => .text text
  | none => .text usualFamily

/-- The settings after the family. -/
def ownSettings : List Setting :=
  plan.settings.tail

/-- The settings have the documented variables, after that of the family. -/
theorem map_variableName :
    plan.settings.map (fun s => variableName plan.family s.name) =
      familyVariable :: documentedVariables := by
  decide +kernel

/-- The variables of the settings after the family are the documented ones. -/
theorem variableName_mem_documentedVariables {s : Setting} (h : s ∈ ownSettings) :
    variableName plan.family s.name ∈ documentedVariables := by
  have htail : ownSettings.map (fun s => variableName plan.family s.name) = documentedVariables :=
    congrArg List.tail map_variableName
  rw [← htail]
  exact List.mem_map_of_mem h

/-- The family is always read. -/
theorem readSetting_family (env : Environment) :
    plan.readSetting env (familySetting usualFamily) = .ok (familyIn env) := by
  have hvariable : variableName usualFamily "_prefix" = familyVariable :=
    List.head_eq_of_cons_eq map_variableName
  have hread : plan.readSetting env (familySetting usualFamily) =
      match env.get? (variableName usualFamily "_prefix") with
      | some text => .ok (.text text)
      | none => .ok (.text usualFamily) := rfl
  rw [hread, hvariable, familyIn]
  cases env.get? familyVariable <;> rfl

/-- Loading reads the settings after the family and checks their values together with it. -/
theorem load_eq (env : Environment) :
    plan.load env =
      (do
        let values ← plan.readSettings env ownSettings
        plan.checked (("_prefix", familyIn env) :: values)) := by
  have hread : plan.readSettings env plan.settings =
      (do
        let family ← plan.readSetting env (familySetting usualFamily)
        let values ← plan.readSettings env ownSettings
        return ("_prefix", family) :: values) := rfl
  rw [Plan.load, hread, readSetting_family]
  cases plan.readSettings env ownSettings <;> rfl

/-- The settings that values make, the family aside, do not depend on it. -/
theorem ofEntries_family (family other : Value) (values : Entries Value) :
    ofEntries (("_prefix", other) :: values) =
      (ofEntries (("_prefix", family) :: values)).map fun s => { s with family := other } := by
  have hnames : Entries.names (("_prefix", other) :: values) =
      Entries.names (("_prefix", family) :: values) := rfl
  rw [ofEntries, ofEntries, hnames]
  -- Each look-up passes over the family, but for its own.
  have hget (name : String) (h : "_prefix" ≠ name) (v : Value) :
      Entries.get? name (("_prefix", v) :: values) = values.get? name := if_neg h
  simp only [hget "log_level" (by decide), hget "default_finder" (by decide),
    hget "log_json" (by decide), hget "strict_reregistration" (by decide)]
  cases (signature.check 1 (Entries.names (("_prefix", family) :: values))) with
  | error m => rfl
  | ok _ =>
    cases levelOf ((values.get? "log_level").getD (.text usual.level.label)) with
    | error f => rfl
    | ok level => cases finderOf ((values.get? "default_finder").getD usual.finder) <;> rfl

/-- The check hands the family on as it is, and what else it comes to does not depend on it. -/
theorem checked_family (family other : Value) (values : Entries Value) :
    plan.checked (("_prefix", other) :: values) =
      (plan.checked (("_prefix", family) :: values)).map (·.put "_prefix" other) := by
  have hchecked (values : Entries Value) :
      plan.checked values = (((ofEntries values).map entries).mapError .own).mapError
        Plan.failureOf := rfl
  rw [hchecked, hchecked, ofEntries_family family other]
  cases ofEntries (("_prefix", family) :: values) <;> rfl

/-- From two environments that agree on the documented variables the same is loaded, or the same
failure comes of it, but for the family, which each environment may say in a variable of its own. -/
theorem load_dependsOn
    (h : ∀ name ∈ documentedVariables, env.get? name = env'.get? name) :
    plan.load env' = (plan.load env).map (·.put "_prefix" (familyIn env')) ∧
      (env.get? familyVariable = env'.get? familyVariable → plan.load env = plan.load env') := by
  have hrest : plan.readSettings env ownSettings = plan.readSettings env' ownSettings :=
    Plan.readSettings_congr fun s hs => h _ (variableName_mem_documentedVariables hs)
  constructor
  · rw [load_eq, load_eq, hrest]
    cases plan.readSettings env' ownSettings with
    | error f => rfl
    | ok values => exact checked_family (familyIn env) (familyIn env') values
  · intro hfamily
    have hall : ∀ name ∈ familyVariable :: documentedVariables, env.get? name = env'.get? name :=
      List.forall_mem_cons.2 ⟨hfamily, h⟩
    exact Plan.load_congr fun s hs => hall _ (map_variableName ▸ List.mem_map_of_mem hs)

/-- An environment that asks for all events and says a family. -/
def verbose : Environment :=
  [("MP_SEARCH__PREFIX", "x"), ("MP_SEARCH_LOG_LEVEL", "debug"), ("HOME", "/root")]

/-- One that differs in variables whose names are alike. -/
def verboseToo : Environment :=
  [("_MP_SEARCH_LOG_JSON", "no"), ("mp_search_log_level", "info"), ("MP_SEARCH_LOG_LEVEL", "debug")]

/-- These two differ in the family only. -/
theorem verbose_load_dependsOn :
    (∀ name ∈ documentedVariables, verbose.get? name = verboseToo.get? name) ∧
      plan.load verboseToo = (plan.load verbose).map (·.put "_prefix" (.text "MP_SEARCH")) := by
  have hagree : ∀ name ∈ documentedVariables, verbose.get? name = verboseToo.get? name := by
    decide
  exact ⟨hagree, (load_dependsOn hagree).1⟩

/-- An environment with nothing but the variable of the family. -/
def prefixed : Environment :=
  [("MP_SEARCH__PREFIX", "x")]

/-- Agreement on the documented variables is not enough: the variable of the family, which is none
of them, has a say as well. -/
theorem prefixed_differs :
    (∀ name ∈ documentedVariables, Entries.get? name ([] : Environment) = prefixed.get? name) ∧
      plan.load [] = .ok usual.entries ∧
      plan.load prefixed = .ok { usual with family := .text "x" }.entries ∧
      plan.load [] ≠ plan.load prefixed := by
  have hagree : ∀ name ∈ documentedVariables,
      Entries.get? name ([] : Environment) = prefixed.get? name := by
    decide
  have hempty : plan.load [] = .ok usual.entries := rfl
  have hprefixed : plan.load prefixed = .ok { usual with family := .text "x" }.entries := by
    have hrest : plan.readSettings [] ownSettings = plan.readSettings prefixed ownSettings :=
      Plan.readSettings_congr fun s hs => hagree _ (variableName_mem_documentedVariables hs)
    rw [load_eq, ← hrest]
    rfl
  refine ⟨hagree, hempty, hprefixed, ?_⟩
  rw [hempty, hprefixed]
  intro h
  have hfamily : Value.text "MP_SEARCH" = .text "x" :=
    congrArg Prod.snd (List.head_eq_of_cons_eq (Except.ok.inj h))
  exact absurd (Value.text.inj hfamily) (by decide)

end SearchSettings

end Searchable
