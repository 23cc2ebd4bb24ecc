import Searchable.Logger.Call
import Searchable.Note.Line
import Searchable.Settings.Search

/-!
# Journals

A journal keeps the lines that were written and the thresholds of loggers. A note below the
threshold of its logger gives no line. A logger without a threshold of its own has that of the
nearest logger whose name its own goes on, and in the end that of the logger without a name, which
the settings set.
-/

namespace Searchable

/-- The log so far. -/
structure Journal where
  /-- The settings, which say how lines are written. -/
  settings : SearchSettings
  /-- The thresholds that were set, by the names of loggers. -/
  thresholds : Entries Int
  /-- The lines, the oldest first. -/
  lines : List String

namespace Journal

/-- A journal without lines. -/
def empty (settings : SearchSettings) : Journal :=
  ⟨settings, [(Logger.rootName, settings.level.number)], []⟩

/-- The threshold of a logger, where none is zero. -/
def ownThreshold (j : Journal) (name : String) : Int :=
  (j.thresholds.get? name).getD 0

/-- The threshold of the logger without a name. -/
def rootThreshold (j : Journal) : Int :=
  j.ownThreshold Logger.rootName

/-- The names of which a name goes on, the name itself first. -/
def lineage (name : String) : List String :=
  let parts := name.splitOn "."
  (List.range parts.length).map fun k => ".".intercalate (parts.take (parts.length - k))

/-- The threshold that holds for a logger. -/
def threshold (j : Journal) (name : String) : Int :=
  (((lineage name).map j.ownThreshold).find? (· != 0)).getD j.rootThreshold

/-- The line of a note. A note that cannot be written gives none. -/
def lineOf (j : Journal) (time : String) (n : Note) : Option String :=
  let line := if j.settings.asJson.isTrue then n.jsonLine time else n.plainLine time
  line.toOption.map (· ++ "\n")

/-- Takes what came of the call of a logger. -/
def take (j : Journal) (time : String) (l : Logger) (e : Effect) : Journal :=
  match e with
  | .nothing => j
  | .threshold number => ⟨j.settings, j.thresholds.put l.name number, j.lines⟩
  | .note n =>
    -- A note at the threshold is written.
    if n.level.number < j.threshold l.name then j
    else ⟨j.settings, j.thresholds, j.lines ++ (j.lineOf time n).toList⟩

/-- All that was written. -/
def text (j : Journal) : String :=
  String.join j.lines

end Journal

end Searchable
