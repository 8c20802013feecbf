import Finality.Config.Load
import Finality.Log.Record

/-!
# Log output

The records of the library's loggers go to one output, which has a format and a lowest
level. Without an output, records are dropped. Loggers are named by paths below the
library's own logger; one that is outside has no output.
-/

namespace Finality

/-- Where records go. -/
structure LogOutput where
  /-- How records are written. -/
  format : LogFormat
  /-- The lowest level that is written, if it is not zero. -/
  level : Level

namespace LogOutput

/-- The library's own logger. -/
def rootLogger : String := "lightclient"

/-- The variable that chooses a format. -/
def formatVariable : String := "LIGHTCLIENT_LOG_FORMAT"

/-- The format of a choice: what is asked for, else what the environment says, else text for a
terminal and JSON for any other output. -/
def chooseFormat (choice : Option LogFormat) (environment : Environment) (terminal : Bool) :
    LogFormat :=
  let raw := (environment.lookup formatVariable).getD ""
  let setting := Text.fold (String.ofList (Text.trim Text.isBlank raw.toList))
  match choice with
  | some format => format
  | none =>
    if setting = "json" then .json
    else if setting = "text" then .text
    else if terminal then .text
    else .json

/-- The level of a name in any letter case. An unknown name stands for the level of plain
information. -/
def levelOf (name : String) : Level := (Level.ofName? (Text.upper name)).getD .info

/-- The level of a choice: a number, a truth value that counts as one, a name, or plain information
where nothing is chosen. -/
def chooseLevel? : Datum → Option Level
  | .int severity => some ⟨severity⟩
  | .bool value => some ⟨if value then 1 else 0⟩
  | .text name => some (levelOf name)
  | .brokenText _ | .null => some .info
  | _ => none

/-- The format that a configuration asks for. -/
def formatOf (config : Config) : Option LogFormat :=
  if config.logging.format = "auto" then none
  else if config.logging.format = "json" then some .json
  else some .text

/-- The output that a configuration asks for. -/
def ofConfig (config : Config) (environment : Environment) (terminal : Bool) : LogOutput :=
  ⟨chooseFormat (formatOf config) environment terminal, levelOf config.logging.level⟩

/-- The lowest level that is written. An unset level stands for warnings. -/
def threshold (output : LogOutput) : Level :=
  if output.level = .unset then .warning else output.level

/-- Whether a logger is the library's own or below it. -/
def covers (logger : String) : Bool :=
  logger = rootLogger || logger.startsWith (rootLogger ++ ".")

/-- Whether an output takes the records of a level. No output takes those of level zero or
below. -/
def enables (output : LogOutput) (level : Level) : Bool :=
  Level.unset.severity < level.severity && output.threshold.severity ≤ level.severity

/-- The lines that a record adds to an output, without its time. A record whose arguments do not
fit its message adds none. -/
def lines (output : LogOutput) (record : LogRecord) (context : LogContext) : List String :=
  if covers record.logger then
    match record.timeless output.format context with
    | .ok line => line.splitOn "\n"
    | .error _ => []
  else []

end LogOutput

end Finality
