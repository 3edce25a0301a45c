import TradingDesk.Dashboard.Terminal
import TradingDesk.Watch.Background

/-! The loop of a watch. A run is a list of events in any order: keys, answers of the backend, results that
are looked at, and messages of the feed. -/

namespace TradingDesk

/-- `answered` and `removed` name an open call by its place. -/
inductive WatchEvent where
  | clock (now : Nat)
  | input (i : Keyboard.Input)
  | interrupted
  | taskBegins
  | answered (place : Nat) (o : Outcome Cached)
  | removed (place : Nat) (o : Outcome Unit)
  | pollerRuns
  | noticeSeen
  | pollSeen
  | feedOpened
  | frame (f : Frame)
  | feedLost (e : Ending)
  | pollerEnded

/-- A line of what comes in: an object is a message of the feed, all else was typed. The end is `none`. -/
def WatchEvent.ofLine : Option String → List WatchEvent
  | none => [.interrupted]
  | some line =>
    if line.toList.head? = some '\x7b' then [.frame (.text line)]
    else (Keyboard.inputs line).map .input

namespace Watch

def toast (level : ToastLevel) (message : String) (w : Watch) : Watch :=
  { w with session := w.session.toast w.now level message }

def record (message : String) (w : Watch) : Watch :=
  { w with dashboard := w.dashboard.record w.now message }

/-- Without a dashboard the value is logged. -/
def tellValuation (w : Watch) : Watch :=
  if w.headless then w.note w.dashboard.valuationLines else w

def finish (w : Watch) : Watch :=
  { w with ended := true }.note [.info "Watch session ended"]

/-- Everything is asked for again, by a new poller too. -/
def retry (w : Watch) : Watch :=
  ((w.spawn (.load .refetch)).invalidate Query.tickersKey).1.dropPoller.syncPoller

def cycleAssetClass (w : Watch) : Watch :=
  let (session, preferences) := w.session.cycleAssetClass w.preferences
  { w with session, preferences }.toast .info ("Asset class: " ++ session.selections.assetClass.name)

def toggleTheme (w : Watch) : Watch :=
  let (session, preferences) := w.session.toggleTheme w.preferences
  { w with session, preferences }

/-- The removal that waits is begun; none waits any longer. -/
def confirmRemoval (w : Watch) : Watch :=
  let (id, removal) := w.dashboard.removal.confirm
  let w := { w with dashboard := { w.dashboard with removal } }
  id.elim w fun id => w.spawn (.remove id)

def dismissToast (w : Watch) : Watch :=
  match (w.session.toasts.visible w.now).getLast? with
  | some t => { w with session := { w.session with toasts := (w.session.toasts.dismiss t.id).2 } }
  | none => w

def act (a : Keyboard.Action) (w : Watch) : Watch :=
  match a with
  | .quit => w.finish
  | .retry => w.retry
  | .toggleTheme => w.toggleTheme
  | .cycleAssetClass => w.cycleAssetClass
  | .nextPortfolio => { w with dashboard := w.dashboard.selectNext }
  | .previousPortfolio => { w with dashboard := w.dashboard.selectPrevious }
  | .requestRemoval => { w with dashboard := w.dashboard.requestRemoval }
  | .confirmRemoval => w.confirmRemoval
  | .cancelRemoval => { w with dashboard := { w.dashboard with removal := w.dashboard.removal.cancel } }
  | .dismissToast => w.dismissToast

def press (i : Keyboard.Input) (w : Watch) : Watch :=
  if w.headless then w
  else match Keyboard.action? w.dashboard.removal.pending?.isSome i with
    | some a => w.act a
    | none => w

def observe (n : Notice) (w : Watch) : Watch :=
  match n with
  | .portfolios state =>
    let w := match state.error? with
      | some text => w.record ("ERROR loading portfolios: " ++ text)
      | none => w
    { w with dashboard := w.dashboard.setPortfolios state }.syncPoller.tellValuation
  | .removed id none =>
    ((w.toast .success "Portfolio deleted").record ("Deleted portfolio #" ++ toString id.toInt)).spawn
      (.load .fetch)
  | .removed id (some text) =>
    (w.toast .error ("Delete failed: " ++ text)).record
      ("ERROR deleting portfolio #" ++ toString id.toInt ++ ": " ++ text)

def takeNotice (w : Watch) : Option (Notice × Watch) :=
  match w.notices with
  | [] => none
  | n :: notices => some (n, { w with notices })

def observeNotice (w : Watch) : Watch :=
  match w.takeNotice with
  | some (n, w) => w.observe n
  | none => w

def observePoll (w : Watch) : Watch :=
  match w.poller with
  | some p => if p.unseen then (w.showPoll p).tellValuation else w
  | none => w

/-- The task of the poller has come to an end by itself, and what it published last has been looked at. The symbols
stay noted, so that the next portfolios start another one. -/
def losePoller (w : Watch) : Watch :=
  if w.hasPublication then w
  else { w.dropPoller with polledSymbols := w.polledSymbols }

def observeEvent (w : Watch) (e : SystemEvent) : Watch :=
  let (dashboard, session, lines) := w.dashboard.observe w.now e w.session
  { w with dashboard, session }.note lines

def follow (feed : Feed) (w : Watch) : Watch :=
  let news := feed.events.drop w.feed.events.length
  let dashboard := w.dashboard.setConnection w.now feed.connection
  news.foldl observeEvent { w with feed, dashboard }

/-- Before the loop waits again, the dashboard shows the stream and whether portfolios are being asked
for, and toasts that have had their time are gone. -/
def refresh (w : Watch) : Watch :=
  { w with
    dashboard := { w.dashboard with stream := w.feed.stream, refreshing := w.isFetching }
    session := { w.session with toasts := (w.session.toasts.prune w.now).2 } }

def handle (e : WatchEvent) (w : Watch) : Watch :=
  match e with
  | .clock now => { w with now := max w.now now }
  | .input i => w.press i
  | .interrupted => if w.headless then w.finish else w
  | .taskBegins => w.beginTask
  | .answered place o => w.answer place o
  | .removed place o => w.answerRemoval place o
  | .pollerRuns => w.runPoller
  | .noticeSeen => w.observeNotice
  | .pollSeen => w.observePoll
  | .feedOpened => w.follow w.feed.opened
  | .frame f => w.follow (w.feed.receive f)
  | .feedLost e => w.follow (w.feed.drop w.feedOptions e).1
  | .pollerEnded => w.losePoller

/-- Nothing happens any more once the watch has ended. -/
def step (w : Watch) (e : WatchEvent) : Watch :=
  if w.ended then w else (w.handle e).refresh

def run (w : Watch) (events : List WatchEvent) : Watch :=
  events.foldl step w

def start (s : Settings) (baseUrl : String) (p : Preferences) (headless : Bool) : Watch :=
  let feedOptions : FeedOptions :=
    { address := s.api.wsUrl
      symbols := s.feed.symbols
      initialDelay := s.reconnectInitial / Duration.millisecond
      maxDelay := s.reconnectMax / Duration.millisecond }
  let w : Watch :=
    { session := Session.load p (s.toastTtl / Duration.millisecond) s.ui.maxToasts.toNat
      preferences := p
      headless
      interval := s.tickerInterval
      feedOptions
      feed := Feed.new feedOptions
      traffic := { cache := { options := { retries := s.api.retries.toNat } } } }
  ((w.note (Selections.restoreLines p)).spawn (.load .fetch)).note
    [.info ("Watching portfolios at " ++ baseUrl)]

end Watch
end TradingDesk
