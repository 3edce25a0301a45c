import TradingDesk.Json.Basic
import TradingDesk.Number.Written
import TradingDesk.Text.Blank
import TradingDesk.Time.Duration

/-! The settings of the program, their defaults, and which settings are accepted. -/

namespace TradingDesk

structure AppSettings where
  logLevel : String := "info"
  logFile : String := "investor-desk.log"
  prefsPath : String := "investor-desk.db"
  refreshRate : Float := 1.0

structure ApiSettings where
  baseUrl : String := "http://localhost:8000/api"
  wsUrl : String := "ws://localhost:8000/ws/market/"
  timeoutSeconds : Float := 15.0
  retries : UInt32 := 0

structure PollingSettings where
  tickerIntervalSeconds : Float := 30.0

structure FeedSettings where
  symbols : List String := []
  reconnectInitialMs : UInt64 := 1000
  reconnectMaxSeconds : UInt64 := 30

structure UiSettings where
  toastTtlSeconds : Float := 4.0
  maxToasts : UInt64 := 5

structure Settings where
  app : AppSettings := {}
  api : ApiSettings := {}
  polling : PollingSettings := {}
  feed : FeedSettings := {}
  ui : UiSettings := {}
  token : Option String := none

inductive SettingsError where
  | unreadableFile
  | malformedFile
  | notPositive (name : String)
  | tooLong (name : String)
  | baseUrlScheme
  | wsUrlScheme
  | tooManyRetries
  | noReconnectDelay
  | reconnectRange
  | blankSymbol
  | noToasts
  deriving DecidableEq, Repr

def longestInterval : Float := 604800.0

def SettingsError.message : SettingsError → String
  | .unreadableFile => "reading config file"
  | .malformedFile => "parsing config YAML"
  | .notPositive name => name ++ " must be a finite number > 0"
  | .tooLong name => name ++ " must be at most " ++ Number.plain longestInterval ++ " seconds"
  | .baseUrlScheme => "api.base_url must start with http:// or https://"
  | .wsUrlScheme => "api.ws_url must start with ws:// or wss://"
  | .tooManyRetries => "api.retries must be <= 10"
  | .noReconnectDelay => "feed.reconnect_initial_ms must be > 0"
  | .reconnectRange => "feed.reconnect_max_seconds must cover feed.reconnect_initial_ms"
  | .blankSymbol => "feed.symbols entries must be non-empty"
  | .noToasts => "ui.max_toasts must be > 0"

namespace Settings

/-- Seconds in nanoseconds. What is no duration counts as none. -/
def nanoseconds (seconds : Float) : Nat :=
  (Duration.ofSeconds? seconds).getD 0

def requestTimeout (s : Settings) : Nat := nanoseconds s.api.timeoutSeconds
def tickerInterval (s : Settings) : Nat := nanoseconds s.polling.tickerIntervalSeconds
def refreshInterval (s : Settings) : Nat := nanoseconds s.app.refreshRate
def toastTtl (s : Settings) : Nat := nanoseconds s.ui.toastTtlSeconds
def reconnectInitial (s : Settings) : Nat := s.feed.reconnectInitialMs.toNat * Duration.millisecond
def reconnectMax (s : Settings) : Nat := s.feed.reconnectMaxSeconds.toNat * Duration.second

/-- An interval is finite, longer than nothing and at most a week. -/
def checkInterval (name : String) (seconds : Float) : Except SettingsError Unit :=
  if !seconds.isFinite || seconds <= 0.0 then .error (.notPositive name)
  else if seconds > longestInterval then .error (.tooLong name)
  else .ok ()

def check (condition : Bool) (e : SettingsError) : Except SettingsError Unit :=
  if condition then .ok () else .error e

def hasScheme (schemes : List String) (url : String) : Bool :=
  schemes.any fun scheme => scheme.toList.isPrefixOf (Text.trim url).toList

/-- Seconds in milliseconds, as far as 64 bits reach. -/
def saturatedMs (seconds : UInt64) : Nat :=
  min (seconds.toNat * 1000) (UInt64.size - 1)

def validate (s : Settings) : Except SettingsError Unit := do
  checkInterval "app.refresh_rate" s.app.refreshRate
  checkInterval "api.timeout_seconds" s.api.timeoutSeconds
  checkInterval "polling.ticker_interval_seconds" s.polling.tickerIntervalSeconds
  checkInterval "ui.toast_ttl_seconds" s.ui.toastTtlSeconds
  check (hasScheme ["http://", "https://"] s.api.baseUrl) .baseUrlScheme
  check (hasScheme ["ws://", "wss://"] s.api.wsUrl) .wsUrlScheme
  check (s.api.retries ≤ 10) .tooManyRetries
  check (s.feed.reconnectInitialMs ≠ 0) .noReconnectDelay
  checkInterval "feed.reconnect_max_seconds" s.feed.reconnectMaxSeconds.toFloat
  check (s.feed.reconnectInitialMs.toNat ≤ saturatedMs s.feed.reconnectMaxSeconds) .reconnectRange
  check (s.feed.symbols.all fun symbol => !Text.isBlankText symbol) .blankSymbol
  check (s.ui.maxToasts ≠ 0) .noToasts

/-- The settings without the token. -/
def toJson (s : Settings) : Json :=
  .object [
    ("app", .object [("log_level", .text s.app.logLevel), ("log_file", .text s.app.logFile),
      ("prefs_path", .text s.app.prefsPath), ("refresh_rate", .double s.app.refreshRate)]),
    ("api", .object [("base_url", .text s.api.baseUrl), ("ws_url", .text s.api.wsUrl),
      ("timeout_seconds", .double s.api.timeoutSeconds), ("retries", .ofNat s.api.retries.toNat)]),
    ("polling", .object [("ticker_interval_seconds", .double s.polling.tickerIntervalSeconds)]),
    ("feed", .object [("symbols", .list (s.feed.symbols.map .text)),
      ("reconnect_initial_ms", .ofNat s.feed.reconnectInitialMs.toNat),
      ("reconnect_max_seconds", .ofNat s.feed.reconnectMaxSeconds.toNat)]),
    ("ui", .object [("toast_ttl_seconds", .double s.ui.toastTtlSeconds),
      ("max_toasts", .ofNat s.ui.maxToasts.toNat)])]

end Settings
end TradingDesk
