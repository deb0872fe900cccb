import AxisMixer.Log

/-!
# Logging — which entries of the log are shown, and how

Logging is set up once, by whoever needs it first, and again only by force.  The level that is asked
for goes before the one in the environment, and a level that does not exist counts as `info`.

* `Logging.setUp`: setting up.
* `Logging.lines`: the lines that show an entry.
-/

namespace AxisMixer

/-- A level asked for by name or by number. -/
inductive LevelRequest where
  | named (name : String)
  | numbered (number : Int)
  deriving DecidableEq, Repr

/-- The state of logging.  Before it is set up nothing is shown. -/
structure Logging where
  isSetUp : Bool := false
  /-- The least number of a level whose entries are shown. -/
  threshold : Int := Level.warning.number
  /-- The number of places where entries are shown. -/
  handlers : Nat := 0
  deriving DecidableEq, Repr

namespace Logging

/-- The variable of the environment that names a level. -/
def variableName : String := "PMA_LOG_LEVEL"

def numberOf (name : String) : Int := ((Level.ofText? name).getD .info).number

/-- The number of the level asked for, or else of the level in the environment. -/
def requested (setting : Option String) : Option LevelRequest → Int
  | some (.numbered n) => n
  | some (.named name) => numberOf name
  | none => numberOf (setting.getD Level.info.name)

def setUp (l : Logging) (setting : Option String) (level : Option LevelRequest)
    (force : Bool) : Logging :=
  if l.isSetUp && !force then l
  else { isSetUp := true, threshold := requested setting level, handlers := 1 }

/-- Whoever wants to write to the log sets it up if nobody has done so. -/
def ensureSetUp (l : Logging) (setting : Option String) : Logging := l.setUp setting none false

/-- The logger with no name is the one called root. -/
def loggerName (name : String) : String := if name.isEmpty then "root" else name

/-! ### Lines -/

/-- The name of the level with this number. -/
def levelName (n : Int) : String :=
  match Level.ofNumber? n with
  | some level => level.name
  | none => if n = 0 then "NOTSET" else "Level " ++ toString n

/-- Level, logger and message, the level filled up to eight characters. -/
def text (level : Int) (logger message : String) : String :=
  let name := levelName level
  let padding := String.ofList (List.replicate (8 - name.length) ' ')
  name ++ padding ++ " | " ++ logger ++ " | " ++ message

/-- A line of the log behind the time. -/
def line (level : Int) (logger message : String) : String := " | " ++ text level logger message

/-- The lines that the places show, one for each of them. -/
def lines (l : Logging) (level : Int) (logger message : String) : List String :=
  List.replicate l.handlers (line level logger message)

/-- The entries that are shown. -/
def shown (l : Logging) (log : Log) : Log := log.filter fun e => l.threshold ≤ e.level.number

end Logging

end AxisMixer
