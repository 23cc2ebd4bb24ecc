import Searchable.Logger

/-!
# What loggers can be called for

The abilities of loggers by name, and what else a logger has under a name. A logger that is not set
up has few abilities of its own; for any other it is set up first.
-/

namespace Searchable.Logger

/-- An ability by its name, with the parameters after the logger itself. -/
def ability (owner name : String) (required optional : List String) (takesMore : Bool)
    (task : Task) : String × Ability :=
  (name, ⟨⟨owner ++ "." ++ name, receiver :: required, optional, [], takesMore⟩, task⟩)

/-- The ability to note something. -/
def noteAbility (name : String) (task : Task) : String × Ability :=
  ability readyKind name [] [Note.eventName] true task

/-- The abilities to note something; one has two names. -/
def noteAbilities : List (String × Ability) :=
  Level.all.map (fun l => noteAbility l.name (.note l)) ++
    [("warn", (noteAbility Level.warning.name (.note .warning)).2),
      noteAbility "fatal" (.note .critical), noteAbility "exception" .noteFailure,
      ability readyKind "log" ["level"] [Note.eventName] true .noteAt,
      ability readyKind "_proxy_to_logger" ["method_name"] [Note.eventName] true .noteNamed]

/-- The abilities to note something later, at a time that never comes. -/
def laterAbilities : List (String × Ability) :=
  ["adebug", "ainfo", "awarning", "aerror", "acritical", "afatal", "aexception"].map
      (fun name => ability readyKind name ["event"] [] true .quiet) ++
    [ability readyKind "alog" ["level", "event"] [] true .quiet]

/-- The abilities to change the fields that are added to every note. -/
def fieldAbilities (owner : String) : List (String × Ability) :=
  [ability owner "bind" [] [] true .quiet, ability owner "new" [] [] true .quiet,
    ability owner "unbind" [] [] false (.forget true),
    ability owner "try_unbind" [] [] false (.forget false)]

/-- The abilities of what keeps the threshold. -/
def coreAbilities : List (String × Ability) :=
  [ability readyKind "setLevel" ["level"] [] false .setThreshold,
    ability readyKind "isEnabledFor" ["level"] [] false .compare,
    ability readyKind "getEffectiveLevel" [] [] false .quiet,
    ability readyKind "getChild" ["suffix"] [] false .child,
    ability readyKind "handle" ["record"] [] false .handle,
    ability readyKind "callHandlers" ["record"] [] false .handle,
    ability readyKind "hasHandlers" [] [] false .quiet,
    ability readyKind "addHandler" ["hdlr"] [] false .quiet,
    ability readyKind "removeHandler" ["hdlr"] [] false .quiet,
    ability readyKind "findCaller" [] ["stack_info"] false .quiet,
    ability readyKind "makeRecord" ["name", "level", "fn", "lno", "msg", "args", "exc_info"]
      ["func", "extra"] false .quiet]

/-- What a logger that is set up needs in order to exist. -/
def setUpAbility : Ability :=
  (ability baseKind "__init__" ["logger", "processors", "context"] [] false .quiet).2

/-- The abilities of a logger that is set up. -/
def readyAbilities : List (String × Ability) :=
  noteAbilities ++ laterAbilities ++ fieldAbilities readyKind ++ coreAbilities ++
    [ability baseKind "_process_event" ["method_name", "event", "event_kw"] [] false .quiet,
      ability readyKind "_dispatch_to_sync" ["meth", "event", "args", "kw"] [] false .quiet,
      ("__init__", setUpAbility), ("__class__", setUpAbility),
      ability baseKind "__repr__" [] [] false .quiet,
      ability baseKind "__eq__" ["other"] [] false .quiet,
      ability baseKind "__ne__" ["other"] [] false .quiet]

/-- What a logger that is not set up needs in order to exist. -/
def lazyAbility : Ability :=
  (ability lazyKind "__init__" ["logger"]
    ["wrapper_class", "processors", "context_class", "cache_logger_on_first_use",
      "initial_values", "logger_factory_args"] false .quiet).2

/-- What a logger that is not set up answers by itself. -/
def lazyAbilities : List (String × Ability) :=
  fieldAbilities lazyKind ++
    [("__init__", lazyAbility), ("__class__", lazyAbility),
      ability lazyKind "__repr__" [] [] false .quiet,
      ability lazyKind "__getstate__" [] [] false .quiet,
      ability lazyKind "__setstate__" ["state"] [] false .restore]

/-- What a logger has besides abilities, and the kinds of these values. -/
def holdings (l : Logger) : List (String × String) :=
  (if l.isSetUp then []
    else
      ["_logger", "_processors", "_wrapper_class", "_context_class",
        "_cache_logger_on_first_use"].map (fun name => (name, "NoneType")) ++
        [("_initial_values", "dict"), ("_logger_factory_args", "tuple")]) ++
    [("name", "str"), ("level", "int"), ("parent", if l.isRoot then "NoneType" else "RootLogger"),
      ("propagate", "bool"), ("handlers", "list"), ("disabled", "bool"), ("_logger", l.coreKind),
      ("_processors", "list"), ("_context", "dict"), ("__doc__", "str"), ("__module__", "str"),
      ("__dict__", "dict"), ("__weakref__", "NoneType")] ++
    if l.isSetUp then [("__hash__", "NoneType")] else []

/-- What a logger does by itself under a name. -/
def ownAbility? (l : Logger) (name : String) : Option Ability :=
  if l.isSetUp then Entries.get? name readyAbilities else Entries.get? name lazyAbilities

end Searchable.Logger
