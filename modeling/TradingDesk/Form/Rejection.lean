import TradingDesk.Number.Reading
import TradingDesk.Payload.Choice

/-! Why an input was rejected. -/

namespace TradingDesk

inductive Rejection where
  | notEditing
  | notNumber (label : String) (cause : Number.Unreadable)
  | negative (label : String)
  | notWhole (label : String)
  | notPositive (label : String)
  | noSymbol
  | unknown (name : UnknownName)
  deriving DecidableEq, Repr

namespace Rejection

def message : Rejection → String
  | .notEditing => "Not editing"
  | .notNumber label _ => label ++ " must be a number"
  | .negative label => label ++ " must be a non-negative number"
  | .notWhole label => label ++ " must be a whole number"
  | .notPositive label => label ++ " must be greater than zero"
  | .noSymbol => "Symbol is required"
  | .unknown name => name.message

/-- The message and the cause behind it, if there is one. -/
def chain : Rejection → String
  | .notNumber label cause => label ++ " must be a number: " ++ cause.message
  | r => r.message

end Rejection
end TradingDesk
