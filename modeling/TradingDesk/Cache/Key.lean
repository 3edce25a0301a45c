/-! Keys of cached answers: the name of a resource and its parameters. -/

namespace TradingDesk

structure Key where
  parts : List String
  deriving DecidableEq, Repr

namespace Key

def extend (key : Key) (part : String) : Key :=
  ⟨key.parts ++ [part]⟩

/-- The key is the prefix followed by any number of parts. -/
def startsWith (key start : Key) : Bool :=
  start.parts.isPrefixOf key.parts

def shown (key : Key) : String :=
  String.intercalate "/" key.parts

end Key
end TradingDesk
