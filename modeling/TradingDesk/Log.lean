/-! Lines of the program's log. -/

namespace TradingDesk

inductive LogLevel where
  | info
  | warn
  | error
  deriving DecidableEq, Repr

def LogLevel.name : LogLevel → String
  | .info => "INFO"
  | .warn => "WARN"
  | .error => "ERROR"

structure LogLine where
  level : LogLevel
  message : String
  deriving DecidableEq, Repr

namespace LogLine

def info (message : String) : LogLine := ⟨.info, message⟩
def warn (message : String) : LogLine := ⟨.warn, message⟩
def error (message : String) : LogLine := ⟨.error, message⟩

end LogLine
end TradingDesk
