import TradingDesk.Book.Prices
import TradingDesk.Feed.Connection
import TradingDesk.Feed.Message

/-! The feed over all its connections: what it has received, the status of the connection, and how long it
waits before it connects again. The delay doubles up to a limit and starts anew only when a
connection that brought text was closed in order. -/

namespace TradingDesk

inductive Frame where
  | text (content : String)
  | ping
  | pong
  | binary
  | close
  deriving DecidableEq

inductive Ending where
  | refused
  | closed
  | broken
  deriving DecidableEq

/-- A connection from beginning to end. `ending` says how it ends when no close frame comes. -/
structure Contact where
  frames : List Frame := []
  ending : Ending

namespace Contact

/-- Nothing is read after a close frame. -/
def heard (c : Contact) : List Frame :=
  c.frames.takeWhile (· ≠ .close)

/-- A close frame closes the connection in order. -/
def closing (c : Contact) : Ending :=
  if .close ∈ c.frames then .closed else c.ending

end Contact

/-- `address` is where the feed connects to. Delays are counts of one unit. -/
structure FeedOptions where
  address : String := ""
  symbols : List String := []
  initialDelay : Nat
  maxDelay : Nat

/-- `delay` is the next delay; `received` tells whether the current connection brought text. -/
structure Feed where
  connection : Connection := .initial
  delay : Nat
  received : Bool := false
  stream : TickerStream := []
  events : List SystemEvent := []

namespace Feed

def new (o : FeedOptions) : Feed :=
  { delay := o.initialDelay }

def subscription (o : FeedOptions) : Json :=
  .object [("channels", .list [.text "tickers", .text "system"]),
    ("symbols", .list (o.symbols.map .text)), ("type", .text "subscribe")]

/-- A new connection: the address it is made to as it stands, and what is sent on it first. -/
def dial (o : FeedOptions) : String × Json :=
  (o.address, subscription o)

def opened (f : Feed) : Feed :=
  { f with connection := f.connection.opened, received := false }

/-- A ticker takes its symbol's place, an event is passed on. -/
def take (m : FeedMessage) (f : Feed) : Feed :=
  match m with
  | .ticker t => { f with stream := f.stream.apply t }
  | .system e => { f with events := f.events ++ [e] }

/-- A text that is no message changes nothing but the status. Pings, pongs and binary frames are of no interest. -/
def receive (frame : Frame) (f : Feed) : Feed :=
  match frame with
  | .text content =>
    let f := if f.received then f else { f with connection := .connected, received := true }
    match FeedMessage.ofText content with
    | .ok (some m) => f.take m
    | _ => f
  | _ => f

def drop (o : FeedOptions) (ending : Ending) (f : Feed) : Feed × Nat :=
  let delay := if ending = .closed && f.received then o.initialDelay else f.delay
  ({ f with connection := f.connection.dropped, delay := min (2 * delay) o.maxDelay, received := false },
    delay)

def contact (o : FeedOptions) (c : Contact) (f : Feed) : Feed × Nat :=
  match c.ending with
  | .refused => f.drop o .refused
  | _ => (c.heard.foldl (fun f frame => f.receive frame) f.opened).drop o c.closing

/-- The status and the time at the beginning of each connection, and the feed after all of them. -/
def run (o : FeedOptions) : List Contact → Nat → Feed → List (Connection × Nat) × Feed
  | [], now, f => ([(f.connection, now)], f)
  | c :: rest, now, f =>
    let (next, delay) := f.contact o c
    let (moments, last) := run o rest (now + delay) next
    ((f.connection, now) :: moments, last)

def capacity : Nat := 256

/-- What a subscriber finds that has read nothing yet: how many events are lost, and the others. -/
def unread (f : Feed) : Nat × List SystemEvent :=
  let lost := f.events.length - capacity
  (lost, f.events.drop lost)

end Feed
end TradingDesk
