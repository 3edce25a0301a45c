/-! The status of the feed's connection. -/

namespace TradingDesk

/-- `attempt` counts the drops since data last came. -/
structure Connection where
  isConnected : Bool
  isReconnecting : Bool
  attempt : UInt32
  deriving DecidableEq, Repr

namespace Connection

def initial : Connection := ⟨false, false, 0⟩

def connected : Connection := ⟨true, false, 0⟩

/-- The socket is open and nothing came yet; the count stays. -/
def opened (c : Connection) : Connection := ⟨true, false, c.attempt⟩

/-- The connection was lost or could not be made. The count stays at its greatest value. -/
def dropped (c : Connection) : Connection :=
  ⟨false, true, if c.attempt = 0xFFFFFFFF then c.attempt else c.attempt + 1⟩

end Connection
end TradingDesk
