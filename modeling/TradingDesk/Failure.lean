import TradingDesk.Text.Blank

/-! Why a request to the backend gave no value: no answer, an answer with a failing status, or an answer
that could not be read. -/

namespace TradingDesk

inductive Failure where
  | network (reason : String)
  | status (code : Nat) (reason : String)
  | payload (reason : String)
  deriving DecidableEq, Repr

namespace Failure

def message : Failure → String
  | .network reason => "Network error: " ++ reason
  | .status code reason => "Request failed (" ++ toString code ++ "): " ++ reason
  | .payload reason => "Unexpected response: " ++ reason

def statusCode? : Failure → Option Nat
  | .status code _ => some code
  | _ => none

def fallbackMessage : String :=
  "An unexpected error occurred"

/-- The text of an error, or the fallback when there is none or it is blank. -/
def shown (error : Option String) (fallback : String) : String :=
  match error with
  | some text => if Text.isBlankText text then fallback else text
  | none => fallback

end Failure
end TradingDesk
