import ReportQuery.Text.Quoted
import ReportQuery.Text.Uppercase

namespace ReportQuery

namespace Log

inductive Level where
  | notset
  | debug
  | info
  | warning
  | error
  | critical
  deriving DecidableEq

structure Record where
  level : Level
  logger : String
  text : String
  deriving DecidableEq

structure UnknownLevel where
  name : String
  deriving DecidableEq

def UnknownLevel.message (e : UnknownLevel) : String := "Unknown level: " ++ Text.quoted e.name

namespace Level

def name : Level → String
  | notset => "NOTSET"
  | debug => "DEBUG"
  | info => "INFO"
  | warning => "WARNING"
  | error => "ERROR"
  | critical => "CRITICAL"

def severity : Level → Nat
  | notset => 0
  | debug => 10
  | info => 20
  | warning => 30
  | error => 40
  | critical => 50

/-- The level of a name, in letters of any case. Two levels have a second name. -/
def ofName (name : String) : Except UnknownLevel Level :=
  match Text.upper name with
  | "NOTSET" => .ok notset
  | "DEBUG" => .ok debug
  | "INFO" => .ok info
  | "WARNING" | "WARN" => .ok warning
  | "ERROR" => .ok error
  | "CRITICAL" | "FATAL" => .ok critical
  | other => .error ⟨other⟩

end Level

def Record.line (r : Record) (time : String) : String :=
  time ++ " " ++ r.level.name ++ " [" ++ r.logger ++ "] " ++ r.text

def rootName : String := "ga4_adapter"

def loggerName (name : String) : String := rootName ++ "." ++ name

structure Config where
  handlers : Nat
  level : Level
  deriving DecidableEq

namespace Config

def fresh : Config := ⟨0, .notset⟩

/-- Sets the level. The handler is added before the level's name is looked at, and only once. -/
def configure (c : Config) (level : String) : Config × Except UnknownLevel Unit :=
  let handled := { c with handlers := if c.handlers = 0 then 1 else c.handlers }
  match Level.ofName level with
  | .ok l => ({ handled with level := l }, .ok ())
  | .error e => (handled, .error e)

/-- The level that holds for every logger below the root; one that is not set is a warning. -/
def effectiveLevel (c : Config) : Level := if c.level = .notset then .warning else c.level

def emitted (c : Config) (records : List Record) : List Record :=
  records.filter fun r => c.effectiveLevel.severity ≤ r.level.severity

end Config

end Log

end ReportQuery
