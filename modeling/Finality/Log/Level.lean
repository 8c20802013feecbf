/-!
# Log levels

Levels are numbers, of which six have names.
-/

namespace Finality

/-- A log level. -/
structure Level where
  severity : Int
deriving DecidableEq

namespace Level

def critical : Level := ⟨50⟩
def error : Level := ⟨40⟩
def warning : Level := ⟨30⟩
def info : Level := ⟨20⟩
def debug : Level := ⟨10⟩
def unset : Level := ⟨0⟩

/-- The levels with names. -/
def named : List (Level × String) :=
  [(critical, "CRITICAL"), (error, "ERROR"), (warning, "WARNING"), (info, "INFO"),
    (debug, "DEBUG"), (unset, "NOTSET")]

/-- Other names that are understood for levels. -/
def otherNames : List (Level × String) := [(critical, "FATAL"), (warning, "WARN")]

/-- The name of a level. -/
def name (level : Level) : String :=
  match named.find? fun entry => entry.1 = level with
  | some entry => entry.2
  | none => "Level " ++ toString level.severity

/-- The level with a name. -/
def ofName? (name : String) : Option Level :=
  ((named ++ otherNames).find? fun entry => entry.2 = name).map (·.1)

end Level

end Finality
