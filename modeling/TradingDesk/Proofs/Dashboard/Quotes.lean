import TradingDesk.Proofs.Book.Prices
import TradingDesk.Proofs.Dashboard.Parts
import TradingDesk.Proofs.Feed.Stream

/-! Where the prices of a dashboard come from. A symbol that was ever streamed has the price of its last ticker, any
other one the price in the last good poll, and a holding of neither is valued at what it was bought for. -/

namespace TradingDesk

/-- What a dashboard and its feed learn, in any order. -/
inductive News where
  | opened
  | frame (f : Frame)
  | lost (e : Ending)
  | polled (state : QueryState (List Ticker)) (lastGood : Option (List Ticker))
  | listed (state : QueryState (List Portfolio))

namespace News

def text? : News → Option String
  | .frame f => f.text?
  | _ => none

def good? : News → Option (List Ticker)
  | .polled _ lastGood => lastGood
  | _ => none

def list? : News → Option (QueryState (List Portfolio))
  | .listed state => some state
  | _ => none

def texts (history : List News) : List String :=
  history.filterMap text?

def lastGood (history : List News) : List Ticker :=
  (history.filterMap good?).getLast?.getD []

def lastList (history : List News) : QueryState (List Portfolio) :=
  (history.filterMap list?).getLast?.getD .loading

def Streamed (history : List News) (symbol : String) : Prop :=
  ∃ text ∈ texts history, ∃ t, Conveys text (.ticker t) ∧ t.symbol = symbol

/-- The price of a symbol, if it has one. -/
inductive Quoted (history : List News) (symbol : String) : Option Float → Prop where
  | streamed (t : Ticker) (latest : Latest (texts history) symbol t) : Quoted history symbol (some t.price)
  | polled (t : Ticker) (never : ¬Streamed history symbol) (found : Listed (lastGood history) symbol t) :
    Quoted history symbol (some t.price)
  | unknown (never : ¬Streamed history symbol) (absent : ∀ t ∈ lastGood history, t.symbol ≠ symbol) :
    Quoted history symbol none

theorem held_iff (history : List News) (symbol : String) (t : Ticker) :
    (Feed.streamOf (texts history)).get? symbol = some t ↔ Latest (texts history) symbol t := by
  rw [Feed.get?_streamOf]
  exact Feed.latest_iff (texts history) symbol t

section

variable {history : List News} {symbol : String}

theorem latest_of_streamed (streamed : Streamed history symbol) : ∃ t, Latest (texts history) symbol t := by
  obtain ⟨text, heard, t, conveyed, own⟩ := streamed
  have told := (Feed.tickerOf?_iff symbol text t).mpr ⟨conveyed, own⟩
  have some : (texts history).filterMap (Feed.tickerOf? symbol) ≠ [] :=
    List.ne_nil_of_mem (List.mem_filterMap.mpr ⟨text, heard, told⟩)
  exact ⟨_, (Feed.latest_iff _ _ _).mp (List.getLast?_eq_some_getLast some)⟩

theorem streamed_of_latest {t : Ticker} (latest : Latest (texts history) symbol t) : Streamed history symbol := by
  obtain ⟨before, text, after, split, conveyed, own, -⟩ := latest
  refine ⟨text, ?_, t, conveyed, own⟩
  rw [split]
  exact List.mem_append_right before List.mem_cons_self

theorem unstreamed_iff : (Feed.streamOf (texts history)).get? symbol = none ↔ ¬Streamed history symbol := by
  rw [Option.eq_none_iff_forall_ne_some]
  constructor
  · intro none streamed
    obtain ⟨t, latest⟩ := latest_of_streamed streamed
    exact none t ((held_iff history symbol t).mpr latest)
  · intro never t held
    exact never (streamed_of_latest ((held_iff history symbol t).mp held))

theorem quoted_iff (price : Option Float) : Quoted history symbol price ↔
    price = (((Feed.streamOf (texts history)).get? symbol).or (listed? (lastGood history) symbol)).map Ticker.price := by
  constructor
  · intro quoted
    cases quoted with
    | streamed t latest => rw [(held_iff history symbol t).mpr latest, Option.some_or, Option.map_some]
    | polled t never found =>
      rw [unstreamed_iff.mpr never, Option.none_or, (listed?_iff _ symbol t).mpr found, Option.map_some]
    | unknown never absent =>
      rw [unstreamed_iff.mpr never, Option.none_or, (listed?_none_iff _ symbol).mpr absent, Option.map_none]
  · rintro rfl
    cases held : (Feed.streamOf (texts history)).get? symbol with
    | some t => exact .streamed t ((held_iff history symbol t).mp held)
    | none =>
      have never := unstreamed_iff.mp held
      rw [Option.none_or]
      cases found : listed? (lastGood history) symbol with
      | some t => exact .polled t never ((listed?_iff _ symbol t).mp found)
      | none => exact .unknown never ((listed?_none_iff _ symbol).mp found)

theorem quoted_none_iff :
    Quoted history symbol none ↔ ¬Streamed history symbol ∧ ∀ t ∈ lastGood history, t.symbol ≠ symbol := by
  constructor
  · intro quoted
    cases quoted with
    | unknown never absent => exact ⟨never, absent⟩
  · rintro ⟨never, absent⟩
    exact .unknown never absent

end

end News

/-- A dashboard and the feed whose stream it shows. -/
structure Board where
  feed : Feed
  dashboard : Dashboard := {}

namespace Board
open News

def take (o : FeedOptions) (b : Board) : News → Board
  | .opened => { b with feed := b.feed.opened }
  | .frame f => { b with feed := b.feed.receive f }
  | .lost e => { b with feed := (b.feed.drop o e).1 }
  | .polled state lastGood => { b with dashboard := b.dashboard.setTickers state lastGood }
  | .listed state => { b with dashboard := b.dashboard.setPortfolios state }

/-- The loop shows the stream before it waits for more. -/
def learn (o : FeedOptions) (b : Board) (n : News) : Board :=
  let next := b.take o n
  { next with dashboard := { next.dashboard with stream := next.feed.stream } }

def after (o : FeedOptions) (history : List News) : Board :=
  history.foldl (learn o) { feed := Feed.new o }

theorem after_concat (o : FeedOptions) (history : List News) (n : News) :
    after o (history ++ [n]) = (after o history).learn o n := by
  unfold after
  rw [List.foldl_append]
  rfl

/-- What a board has kept of a history. -/
structure Kept (history : List News) (b : Board) : Prop where
  stream : b.feed.stream = Feed.streamOf (texts history)
  shown : b.dashboard.stream = b.feed.stream
  polled : b.dashboard.polled = lastGood history
  portfolios : b.dashboard.portfolios = lastList history

theorem stream_receive (frame : Frame) (texts : List String) (f : Feed) (stream : f.stream = Feed.streamOf texts) :
    (f.receive frame).stream = Feed.streamOf (texts ++ [frame].filterMap Frame.text?) := by
  have told : f.receive frame = f.told ([frame].filterMap Frame.text?) := Feed.hear_told [frame] f
  rw [told]
  unfold Feed.streamOf Feed.tickers at *
  rw [List.filterMap_append, List.foldl_append, ← stream]
  rfl

theorem kept_learn (o : FeedOptions) {history : List News} {b : Board} (kept : Kept history b) (n : News) :
    Kept (history ++ [n]) (b.learn o n) := by
  obtain ⟨stream, shown, polled, portfolios⟩ := kept
  unfold lastGood at polled
  unfold lastList at portfolios
  have same (silent : n.text? = none) : texts (history ++ [n]) = texts history := by
    rw [texts, List.filterMap_append, List.filterMap_cons_none silent]
    exact List.append_nil _
  have good : lastGood (history ++ [n]) = n.good?.getD b.dashboard.polled := by
    rw [lastGood, List.filterMap_append, List.getLast?_append, polled]
    cases n with
    | polled state lastGood => cases lastGood <;> rfl
    | _ => rfl
  have list : lastList (history ++ [n]) = n.list?.getD b.dashboard.portfolios := by
    rw [lastList, List.filterMap_append, List.getLast?_append, portfolios]
    cases n <;> rfl
  cases n with
  | opened => exact ⟨(same rfl).symm ▸ stream, rfl, good.symm, list.symm⟩
  | frame f =>
    refine ⟨?_, rfl, good.symm, list.symm⟩
    rw [texts, List.filterMap_append]
    exact stream_receive f _ b.feed stream
  | lost e => exact ⟨(same rfl).symm ▸ stream, rfl, good.symm, list.symm⟩
  | polled state lastGood => exact ⟨(same rfl).symm ▸ stream, rfl, good.symm, list.symm⟩
  | listed state =>
    obtain ⟨place, symbols, parts⟩ := b.dashboard.setPortfolios_parts state
    refine ⟨(same rfl).symm ▸ stream, rfl, ?_, ?_⟩
    · exact (congrArg Dashboard.polled parts).trans good.symm
    · exact (congrArg Dashboard.portfolios parts).trans list.symm

theorem kept_after (o : FeedOptions) (history : List News) : Kept history (after o history) := by
  induction history using List.reverseRecOn with
  | nil => exact ⟨rfl, rfl, rfl, rfl⟩
  | append_singleton history n ih =>
    rw [after_concat]
    exact kept_learn o ih n

variable (o : FeedOptions) (history : List News) (symbol : String)

theorem quoted_iff_price (price : Option Float) :
    Quoted history symbol price ↔ price = (after o history).dashboard.prices.get? symbol := by
  have kept := kept_after o history
  have prices : (after o history).dashboard.prices =
      Prices.reconcile (lastGood history) (Feed.streamOf (texts history)) := by
    unfold Dashboard.prices
    rw [kept.shown, kept.stream, kept.polled]
  rw [quoted_iff, prices, Prices.get?_reconcile _ (Feed.tidy_streamOf (texts history)) symbol]

theorem unavailable_iff : (after o history).dashboard.pricesUnavailable = true ↔
    ∃ p ∈ (after o history).dashboard.shown, ∃ h ∈ p.holdings,
      ¬Streamed history h.symbol ∧ ∀ t ∈ lastGood history, t.symbol ≠ h.symbol := by
  have absent (symbol : String) : (!(after o history).dashboard.prices.has symbol) = true ↔
      ¬Streamed history symbol ∧ ∀ t ∈ lastGood history, t.symbol ≠ symbol := by
    rw [← quoted_none_iff, quoted_iff_price o history symbol none]
    unfold Table.has
    cases (after o history).dashboard.prices.get? symbol <;> simp
  unfold Dashboard.pricesUnavailable Prices.unavailable
  simp only [List.any_eq_true, absent]

/-- Every holding on show has the price of the last ticker of its symbol that was streamed, else the one in the last
good poll, else none. A poll that failed and a lost connection change no price, and a symbol that was streamed has
the price of a streamed ticker ever after. -/
theorem quotes (o : FeedOptions) (history : List News) :
    let d := (after o history).dashboard
    d.shown = (lastList history).data?.getD [] ∧
    (∀ p ∈ d.shown, ∀ h ∈ p.holdings, ∃ price, Quoted history h.symbol price ∧
      (∀ other, Quoted history h.symbol other → other = price) ∧ (h.row d.prices).price = price ∧
      (h.row d.prices).value = h.amount * price.getD h.avgBuyPrice ∧ h.mark d.prices = price.getD h.avgBuyPrice) ∧
    (∀ state good, good = none ∨ good = some d.polled →
      (after o (history ++ [.polled state good])).dashboard.prices = d.prices) ∧
    (∀ e, (after o (history ++ [.lost e])).dashboard.prices = d.prices) ∧
    (∀ symbol, Streamed history symbol → ∀ more, ∃ t, Latest (texts (history ++ more)) symbol t ∧
      (after o (history ++ more)).dashboard.prices.get? symbol = some t.price) ∧
    (d.pricesUnavailable = true ↔ ∃ p ∈ d.shown, ∃ h ∈ p.holdings,
      ¬Streamed history h.symbol ∧ ∀ t ∈ lastGood history, t.symbol ≠ h.symbol) := by
  have kept := kept_after o history
  refine ⟨?_, ?_, ?_, ?_, ?_, unavailable_iff o history⟩
  · unfold Dashboard.shown
    rw [kept.portfolios]
  · intro p _ h _
    have quoted := quoted_iff_price o history h.symbol
    exact ⟨_, (quoted _).mpr rfl, fun other also => (quoted other).mp also, rfl, rfl, rfl⟩
  · intro state good failed
    rw [after_concat]
    have same : good.getD (after o history).dashboard.polled = (after o history).dashboard.polled := by
      rcases failed with rfl | rfl <;> rfl
    unfold Dashboard.prices
    rw [kept.shown]
    exact congrArg (Prices.reconcile · _) same
  · intro e
    rw [after_concat]
    unfold Dashboard.prices
    rw [kept.shown]
    rfl
  · intro symbol streamed more
    have still : Streamed (history ++ more) symbol := by
      obtain ⟨text, heard, told⟩ := streamed
      refine ⟨text, ?_, told⟩
      rw [texts, List.filterMap_append]
      exact List.mem_append_left _ heard
    obtain ⟨t, latest⟩ := latest_of_streamed still
    exact ⟨t, latest, ((quoted_iff_price o (history ++ more) symbol _).mp (.streamed t latest)).symm⟩

end Board
end TradingDesk
