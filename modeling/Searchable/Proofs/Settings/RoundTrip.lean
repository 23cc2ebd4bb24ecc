import Mathlib.Data.List.Forall2
import Searchable.Proofs.Settings.Influence
import Searchable.Proofs.Text.Numerals

/-!
# Settings that are read back

An environment holds values for the settings of a plan if it has the text of each value under the
variable of its setting (`Plan.IsHeldBy`); what else it has does not count, and neither does what
stands in for an absent variable. `Plan.load_roundTrip` says that what the check makes of these
values is loaded, which is exactly these values where the check keeps them, as it does those of
valid search settings. That it may make others of them shows in `Plan.loweredLevel_rewritten`.

It comes from what is true of a single text, which is read as the value that it was made of
(`Hint.read_of_admits`). That two settings have different variables is not needed for it: where two
share one, the environment holds values with the same text for both.
-/

namespace Searchable

/-- Whether a value is of the kind with which a setting is declared. -/
inductive Hint.Admits : Hint → Value → Prop where
  /-- A truth value. -/
  | truth (b : Bool) : Admits .truth (.bool b)
  /-- A whole number. -/
  | number (n : Int) : Admits .number (.int n)
  /-- A text. -/
  | text (s : String) : Admits .text (.text s)

/-- The text of a value is read as the value, if it is of the kind with which the setting is
declared. -/
theorem Hint.read_of_admits {h : Hint} {v : Value} {text : String} (hv : h.Admits v)
    (htext : v.plain = .ok text) : h.read text = .ok v := by
  cases hv with
  | truth b =>
    obtain rfl := Except.ok.inj htext
    cases b <;> rfl
  | number n =>
    -- A number with a text has no more digits than are read.
    have hwhole : Value.wholeText n = .ok text := htext
    unfold Value.wholeText at hwhole
    split at hwhole
    · cases hwhole
    · rename_i hshort
      obtain rfl := Except.ok.inj hwhole
      have hlength : (Text.Numeral.digitsOf n).length ≤ Text.Numeral.maxDigits := by
        simpa [Text.Numeral.isLong] using hshort
      rw [read, readWhole, Text.Numeral.read_write, if_pos hlength]
      rfl
  | text s =>
    obtain rfl := Except.ok.inj htext
    rfl

/-- Whether an environment holds a value under the variable of a setting of a family. -/
structure Setting.IsHeldBy (s : Setting) (family : String) (env : Environment)
    (e : String × Value) : Prop where
  /-- The value is that of the setting. -/
  name : e.1 = s.name
  /-- It is of the kind with which the setting is declared. -/
  admits : s.hint.Admits e.2
  /-- The variable of the setting has its text. -/
  held : ∃ text, e.2.plain = .ok text ∧
    env.get? (variableName family s.name) = some text

/-- Whether an environment holds values for the settings of a plan, one for each. -/
def Plan.IsHeldBy (p : Plan) (env : Environment) (values : Entries Value) : Prop :=
  List.Forall₂ (fun s e => s.IsHeldBy p.family env e) p.settings values

namespace Plan

variable {p : Plan} {env : Environment} {values : Entries Value}

/-- A value that is held is read, whatever stands in for it where it is absent. -/
theorem readSetting_of_held {s : Setting} {e : String × Value}
    (h : s.IsHeldBy p.family env e) : p.readSetting env s = .ok e.2 := by
  obtain ⟨text, htext, hvariable⟩ := h.held
  simp only [readSetting, hvariable, Hint.read_of_admits h.admits htext, mapError_ok]

/-- Values that are held are read in the order of their settings. -/
theorem readSettings_of_held {settings : List Setting}
    (h : List.Forall₂ (fun s e => s.IsHeldBy p.family env e) settings values) :
    p.readSettings env settings = .ok values := by
  induction h with
  | nil => rfl
  | @cons s e settings values hs _ ih =>
    rw [readSettings, readSetting_of_held hs, ih, ← hs.name]
    rfl

/-- Where values are held, they are what the check is given. -/
theorem load_of_held (h : p.IsHeldBy env values) : p.load env = p.checked values := by
  rw [load, readSettings_of_held h]
  rfl

end Plan

/-- The label of a level is in upper case. -/
theorem Level.upper_label (l : Level) : Text.upper l.label = l.label := by
  cases l <;> decide +kernel

namespace SearchSettings

variable {x : SearchSettings}

/-- The label of a level names the level. -/
theorem levelOf_label (l : Level) : levelOf (.text l.label) = .ok l := by
  have hupper : upperOf (.text l.label) = .ok (.text l.label) :=
    congrArg (fun s => Except.ok (Value.text s)) l.upper_label
  rw [levelOf, hupper]
  simp only [mapError_ok, bind, Except.bind, Value.text?, Option.bind_some, Level.ofLabel?_label]

/-- The values of settings whose finder has a name that is not blank make these settings. -/
theorem ofEntries_entries (h : isBlankName x.finder = .ok false) : ofEntries x.entries = .ok x := by
  have hfit : signature.check 1 x.entries.names = .ok () := rfl
  have hfinder : finderOf x.finder = .ok x.finder := by
    rw [finderOf, h]
    rfl
  have hlevel : x.entries.get? "log_level" = some (.text x.level.label) := rfl
  have hname : x.entries.get? "default_finder" = some x.finder := rfl
  rw [ofEntries, hfit, hlevel, hname, Option.getD_some, Option.getD_some, levelOf_label, hfinder]
  rfl

/-- The values of such settings pass the check of their plan as they are. -/
theorem check_entries (h : isBlankName x.finder = .ok false) :
    plan.check x.entries = .ok x.entries := by
  have hplan (values : Entries Value) :
      plan.check values = ((ofEntries values).map entries).mapError .own := rfl
  rw [hplan, ofEntries_entries h]
  rfl

end SearchSettings

/-- What the check makes of the values that an environment holds for the settings of a plan is
loaded, and so exactly these where the check keeps them. This is so for all search settings with a
finder whose name is not blank. -/
theorem Plan.load_roundTrip :
    (∀ (p : Plan) (env : Environment) (values after : Entries Value), p.IsHeldBy env values →
      p.check values = .ok after → p.load env = .ok after) ∧
    (∀ (p : Plan) (env : Environment) (values : Entries Value), p.IsHeldBy env values →
      p.check values = .ok values → p.load env = .ok values) ∧
    ∀ (x : SearchSettings) (env : Environment), SearchSettings.plan.IsHeldBy env x.entries →
      SearchSettings.isBlankName x.finder = .ok false →
      SearchSettings.plan.load env = .ok x.entries := by
  have hload : ∀ (p : Plan) (env : Environment) (values after : Entries Value),
      p.IsHeldBy env values → p.check values = .ok after → p.load env = .ok after := by
    intro p env values after hheld hcheck
    rw [load_of_held hheld, checked, hcheck]
    rfl
  refine ⟨hload, fun p env values => hload p env values values, fun x env hheld hfinder => ?_⟩
  exact hload SearchSettings.plan env x.entries x.entries hheld
    (SearchSettings.check_entries hfinder)

/-- The settings of a server. -/
def serverPlan : Plan :=
  .ofFamily "app"
    [⟨"port", .number, none⟩, ⟨"debug", .truth, some (.bool true)⟩, ⟨"title", .text, none⟩] .ok

/-- Values for the settings of a server. -/
def serverValues : Entries Value :=
  [("_prefix", .text ""), ("port", .int (-8080)), ("debug", .bool false), ("title", .text "True")]

/-- An environment with these values and with more. -/
def serverVariables : Environment :=
  [("HOME", "/root"), ("APP_TITLE", "True"), ("APP_DEBUG", "False"), ("APP_PORT", "-8080"),
    ("APP__PREFIX", "")]

/-- Settings of the search. -/
def debugged : SearchSettings :=
  ⟨.text "S", .debug, .bool false, .text "find_first", .bool true⟩

/-- The values of these settings with a text for the level. -/
def valuesAt (level : String) : Entries Value :=
  [("_prefix", .text "S"), ("log_level", .text level), ("log_json", .bool false),
    ("default_finder", .text "find_first"), ("strict_reregistration", .bool true)]

/-- An environment with these values. -/
def variablesAt (level : String) : Environment :=
  [("MP_SEARCH__PREFIX", "S"), ("MP_SEARCH_LOG_LEVEL", level), ("MP_SEARCH_LOG_JSON", "False"),
    ("MP_SEARCH_DEFAULT_FINDER", "find_first"), ("MP_SEARCH_STRICT_REREGISTRATION", "True")]

/-- The environment holds these values. -/
theorem valuesAt_isHeldBy (level : String) :
    SearchSettings.plan.IsHeldBy (variablesAt level) (valuesAt level) := by
  have hvariables : ["_prefix", "log_level", "log_json", "default_finder",
      "strict_reregistration"].map (variableName SearchSettings.usualFamily) =
        SearchSettings.familyVariable :: SearchSettings.documentedVariables :=
    SearchSettings.map_variableName
  simp only [SearchSettings.documentedVariables, List.map_cons, List.map_nil, List.cons.injEq,
    and_true] at hvariables
  obtain ⟨hfamily, hlevel, hjson, hfinder, hstrict⟩ := hvariables
  have hget {name variableOf text : String}
      (hname : variableName SearchSettings.usualFamily name = variableOf)
      (htext : (variablesAt level).get? variableOf = some text) :
      (variablesAt level).get? (variableName SearchSettings.usualFamily name) = some text := by
    rw [hname, htext]
  exact .cons ⟨rfl, .text "S", "S", rfl, hget hfamily rfl⟩
    (.cons ⟨rfl, .text level, level, rfl, hget hlevel rfl⟩
      (.cons ⟨rfl, .truth false, "False", rfl, hget hjson rfl⟩
        (.cons ⟨rfl, .text "find_first", "find_first", rfl, hget hfinder rfl⟩
          (.cons ⟨rfl, .truth true, "True", rfl, hget hstrict rfl⟩ .nil))))

/-- The check of the search settings makes the level one in upper case. -/
theorem check_valuesAt_debug :
    SearchSettings.plan.check (valuesAt "debug") = .ok debugged.entries := by
  have hupper : SearchSettings.upperOf (.text "debug") = .ok (.text Level.debug.label) :=
    congrArg (fun s => Except.ok (Value.text s))
      (by decide +kernel : Text.upper "debug" = Level.debug.label)
  have hlevel : SearchSettings.levelOf (.text "debug") = .ok .debug := by
    rw [SearchSettings.levelOf, hupper]
    rfl
  have hgiven : (valuesAt "debug").get? "log_level" = some (.text "debug") := rfl
  have hmade : SearchSettings.ofEntries (valuesAt "debug") = .ok debugged := by
    rw [SearchSettings.ofEntries, hgiven, Option.getD_some, hlevel]
    rfl
  have hcheck : SearchSettings.plan.check (valuesAt "debug") =
      ((SearchSettings.ofEntries (valuesAt "debug")).map SearchSettings.entries).mapError .own :=
    rfl
  rw [hcheck, hmade]
  rfl

/-- Settings of a server and of the search are loaded as they are held, and what is held of the
search in lower case as the check makes it. -/
theorem server_roundTrip :
    serverPlan.IsHeldBy serverVariables serverValues ∧
      serverPlan.load serverVariables = .ok serverValues ∧
      SearchSettings.plan.IsHeldBy (variablesAt "DEBUG") debugged.entries ∧
      SearchSettings.isBlankName debugged.finder = .ok false ∧
      SearchSettings.plan.load (variablesAt "DEBUG") = .ok debugged.entries ∧
      SearchSettings.plan.IsHeldBy (variablesAt "debug") (valuesAt "debug") ∧
      SearchSettings.plan.check (valuesAt "debug") = .ok debugged.entries ∧
      SearchSettings.plan.load (variablesAt "debug") = .ok debugged.entries := by
  have hserver : serverPlan.IsHeldBy serverVariables serverValues := by
    refine .cons ⟨rfl, .text "", "", rfl, ?_⟩ (.cons ⟨rfl, .number (-8080), "-8080", rfl, ?_⟩
      (.cons ⟨rfl, .truth false, "False", rfl, ?_⟩
        (.cons ⟨rfl, .text "True", "True", rfl, ?_⟩ .nil)))
    all_goals decide +kernel
  have hdebugged : SearchSettings.plan.IsHeldBy (variablesAt "DEBUG") debugged.entries :=
    valuesAt_isHeldBy "DEBUG"
  have hfinder : SearchSettings.isBlankName debugged.finder = .ok false :=
    congrArg Except.ok (show Text.isBlank "find_first" = false by decide)
  exact ⟨hserver, Plan.load_roundTrip.2.1 _ _ _ hserver rfl, hdebugged, hfinder,
    Plan.load_roundTrip.2.2 debugged _ hdebugged hfinder, valuesAt_isHeldBy "debug",
    check_valuesAt_debug,
    Plan.load_roundTrip.1 _ _ _ _ (valuesAt_isHeldBy "debug") check_valuesAt_debug⟩

/-- That the check refuses nothing does not mean that it keeps the values: the plan of the search
has a variable for each setting and a check that the values in lower case pass, and others are
loaded. -/
theorem Plan.loweredLevel_rewritten : ¬∀ (p : Plan) (env : Environment) (values : Entries Value),
    (p.settings.map fun s => variableName p.family s.name).Nodup → p.IsHeldBy env values →
      (∃ after, p.check values = .ok after) → p.load env = .ok values := by
  intro h
  have hdistinct : (SearchSettings.plan.settings.map fun s =>
      variableName SearchSettings.plan.family s.name).Nodup := by
    rw [SearchSettings.map_variableName]
    decide
  have hheld := valuesAt_isHeldBy "debug"
  have hloaded := h _ _ _ hdistinct hheld ⟨_, check_valuesAt_debug⟩
  rw [load_of_held hheld, checked, check_valuesAt_debug] at hloaded
  -- They differ in the text of the level.
  have hlevel := congrArg (fun es => (es.get? "log_level").bind Value.text?)
    (Except.ok.inj hloaded)
  exact absurd hlevel (by decide)

end Searchable
