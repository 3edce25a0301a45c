import TradingDesk.Number.Reading
import TradingDesk.Settings.Basic
import TradingDesk.Yaml.Document

/-! Settings in a YAML file. Sections and entries that are left out keep their defaults, unknown ones are
ignored; an entry that is given twice or with a value of another kind makes the file unusable. -/

namespace TradingDesk
namespace Settings

def isNothing : Yaml → Bool
  | .scalar true "" => true
  | _ => false

def text? : Yaml → Option String
  | .scalar _ s => some s
  | _ => none

/-- The entries of a section, whose keys are scalars. A section may be left empty. -/
def entries? (node : Yaml) : Option (List (String × Yaml)) :=
  match node with
  | .mapping entries => entries.mapM fun (key, v) => (text? key).map fun name => (name, v)
  | node => if isNothing node then some [] else none

def list? (node : Yaml) : Option (List String) :=
  match node with
  | .list items => items.mapM text?
  | node => if isNothing node then some [] else none

/-- Text that stood without quotes. -/
def plain? : Yaml → Option String
  | .scalar true s => some s
  | _ => none

def unboundedWords : List (String × Float) :=
  let infinity := [".inf", ".Inf", ".INF"]
  infinity.map (fun w => (w, Number.endless false)) ++
    infinity.map (fun w => ("+" ++ w, Number.endless false)) ++
    infinity.map (fun w => ("-" ++ w, Number.endless true)) ++
    [".nan", ".NaN", ".NAN"].map fun w => (w, Number.undefined)

def double? (node : Yaml) : Option Float := do
  let s ← plain? node
  match unboundedWords.lookup s with
  | some x => return x
  | none =>
    let x ← (Number.read s).toOption
    if x.isFinite then return x else none

def digitsIn? (base : Nat) (digits : List Char) : Option Nat :=
  if digits.isEmpty then none
  else do
    let values ← digits.mapM Yaml.hexValue?
    if values.all (· < base) then return values.foldl (fun n d => base * n + d) 0 else none

/-- A whole number in decimal, hexadecimal, octal or binary digits. A decimal one has no leading zero. -/
def wholeDigits? (cs : List Char) : Option Nat :=
  match cs with
  | '0' :: 'x' :: rest => digitsIn? 16 rest
  | '0' :: 'o' :: rest => digitsIn? 8 rest
  | '0' :: 'b' :: rest => digitsIn? 2 rest
  | '0' :: _ :: _ => none
  | cs => digitsIn? 10 cs

def nat? (limit : Nat) (node : Yaml) : Option Nat := do
  let s ← plain? node
  let n ← wholeDigits? (match s.toList with
    | '+' :: rest => rest
    | cs => cs)
  if n < limit then return n else none

def nat32? (node : Yaml) : Option UInt32 := (nat? UInt32.size node).map .ofNat
def nat64? (node : Yaml) : Option UInt64 := (nat? UInt64.size node).map .ofNat

/-- The value of an entry, which stands at most once, or its default. -/
def field (entries : List (String × Yaml)) (name : String) (read : Yaml → Option α) (default : α) :
    Option α :=
  match entries.filter fun entry => entry.1 = name with
  | [] => some default
  | [(_, v)] => read v
  | _ => none

def app? (node : Yaml) : Option AppSettings := do
  let e ← entries? node
  let d : AppSettings := {}
  return { logLevel := ← field e "log_level" text? d.logLevel
           logFile := ← field e "log_file" text? d.logFile
           prefsPath := ← field e "prefs_path" text? d.prefsPath
           refreshRate := ← field e "refresh_rate" double? d.refreshRate }

def api? (node : Yaml) : Option ApiSettings := do
  let e ← entries? node
  let d : ApiSettings := {}
  return { baseUrl := ← field e "base_url" text? d.baseUrl
           wsUrl := ← field e "ws_url" text? d.wsUrl
           timeoutSeconds := ← field e "timeout_seconds" double? d.timeoutSeconds
           retries := ← field e "retries" nat32? d.retries }

def polling? (node : Yaml) : Option PollingSettings := do
  let e ← entries? node
  let d : PollingSettings := {}
  return { tickerIntervalSeconds := ← field e "ticker_interval_seconds" double? d.tickerIntervalSeconds }

def feed? (node : Yaml) : Option FeedSettings := do
  let e ← entries? node
  let d : FeedSettings := {}
  return { symbols := ← field e "symbols" list? d.symbols
           reconnectInitialMs := ← field e "reconnect_initial_ms" nat64? d.reconnectInitialMs
           reconnectMaxSeconds := ← field e "reconnect_max_seconds" nat64? d.reconnectMaxSeconds }

def ui? (node : Yaml) : Option UiSettings := do
  let e ← entries? node
  let d : UiSettings := {}
  return { toastTtlSeconds := ← field e "toast_ttl_seconds" double? d.toastTtlSeconds
           maxToasts := ← field e "max_toasts" nat64? d.maxToasts }

def ofYaml? (node : Yaml) : Option Settings := do
  let e ← entries? node
  return { app := ← field e "app" app? {}
           api := ← field e "api" api? {}
           polling := ← field e "polling" polling? {}
           feed := ← field e "feed" feed? {}
           ui := ← field e "ui" ui? {} }

def ofText (text : String) : Except SettingsError Settings :=
  match (Yaml.ofText text).bind ofYaml? with
  | some s => .ok s
  | none => .error .malformedFile

end Settings
end TradingDesk
