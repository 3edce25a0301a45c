import TradingDesk.Proofs.Book.Prices
import TradingDesk.Proofs.Feed.Heard
import TradingDesk.Proofs.Feed.Message

/-! What the feed makes of all that it heard: of the last ticker of each symbol its stream, of the system messages its
events. -/

namespace TradingDesk
open Json

/-- The text is an object of this type with data that the reader takes. -/
def Carries {α : Type} (type : String) (decoder : Decoder α) (text : String) (a : α) : Prop :=
  ∃ v data, Json.parse text = .ok v ∧ v.member? "type" = some (.text type) ∧ v.member? "data" = some data ∧
    decoder.ofAside data = .ok a

/-- The text is a valid message. -/
inductive Conveys (text : String) : FeedMessage → Prop where
  | ticker (t : Ticker) (carried : Carries "ticker" Ticker.decoder text t) : Conveys text (.ticker t)
  | halt (s : HaltStatus) (carried : Carries "halt_status" HaltStatus.decoder text s) : Conveys text (.system (.halt s))
  | orderUpdate (o : Order) (carried : Carries "order_update" Order.decoder text o) :
    Conveys text (.system (.orderUpdate o))
  | riskAlert (a : RiskAlert) (carried : Carries "risk_alert" RiskAlert.decoder text a) :
    Conveys text (.system (.riskAlert a))

namespace FeedMessage

theorem inText?_iff (text : String) (m : FeedMessage) : inText? text = some m ↔
    ∃ (k : Kind) (p : k.Payload), Carries k.type k.decoder text p ∧ k.message p = m := by
  have read : inText? text = some m ↔ ∃ v, Json.parse text = .ok v ∧ ofJson v = .ok (some m) := by
    unfold inText? ofText
    cases Json.parse text with
    | error e => simp [bind, Except.bind]
    | ok v => cases taken : ofJson v <;> simp [bind, Except.bind, taken]
  rw [read]
  constructor
  · rintro ⟨v, parsed, taken⟩
    obtain ⟨k, data, p, typed, there, decoded, same⟩ := (ofJson_iff v m).mp taken
    exact ⟨k, p, ⟨v, data, parsed, typed, there, decoded⟩, same⟩
  · rintro ⟨k, p, ⟨v, data, parsed, typed, there, decoded⟩, same⟩
    exact ⟨v, parsed, (ofJson_iff v m).mpr ⟨k, data, p, typed, there, decoded, same⟩⟩

theorem conveys_iff (text : String) (m : FeedMessage) : inText? text = some m ↔ Conveys text m := by
  rw [inText?_iff]
  constructor
  · rintro ⟨k, p, carried, rfl⟩
    cases k with
    | ticker => exact .ticker p carried
    | haltStatus => exact .halt p carried
    | orderUpdate => exact .orderUpdate p carried
    | riskAlert => exact .riskAlert p carried
  · intro conveyed
    cases conveyed with
    | ticker t carried => exact ⟨.ticker, t, carried, rfl⟩
    | halt s carried => exact ⟨.haltStatus, s, carried, rfl⟩
    | orderUpdate o carried => exact ⟨.orderUpdate, o, carried, rfl⟩
    | riskAlert a carried => exact ⟨.riskAlert, a, carried, rfl⟩

theorem tickerIn?_iff (text : String) (t : Ticker) : tickerIn? text = some t ↔ Conveys text (.ticker t) := by
  rw [← conveys_iff]
  unfold tickerIn?
  cases inText? text with
  | none => simp
  | some m => cases m <;> simp

theorem eventIn?_iff (text : String) (e : SystemEvent) : eventIn? text = some e ↔ Conveys text (.system e) := by
  rw [← conveys_iff]
  unfold eventIn?
  cases inText? text with
  | none => simp
  | some m => cases m <;> simp

end FeedMessage

/-- The system messages among the texts, in their order. -/
inductive Announced : List String → List SystemEvent → Prop where
  | nothing : Announced [] []
  | event {text : String} {texts : List String} {e : SystemEvent} {events : List SystemEvent}
    (conveyed : Conveys text (.system e)) (rest : Announced texts events) : Announced (text :: texts) (e :: events)
  | other {text : String} {texts : List String} {events : List SystemEvent}
    (none : ∀ e, ¬Conveys text (.system e)) (rest : Announced texts events) : Announced (text :: texts) events

/-- A text is a ticker of this symbol, and none after it is. -/
def Latest (texts : List String) (symbol : String) (t : Ticker) : Prop :=
  ∃ before text after, texts = before ++ text :: after ∧ Conveys text (.ticker t) ∧ t.symbol = symbol ∧
    ∀ later ∈ after, ∀ u, Conveys later (.ticker u) → u.symbol ≠ symbol

namespace Feed

theorem announced_events (texts : List String) : Announced texts (systemEvents texts) := by
  unfold systemEvents
  induction texts with
  | nil => exact .nothing
  | cons text rest ih =>
    cases found : FeedMessage.eventIn? text with
    | some e =>
      rw [List.filterMap_cons_some found]
      exact .event ((FeedMessage.eventIn?_iff text e).mp found) ih
    | none =>
      rw [List.filterMap_cons_none found]
      refine .other (fun e conveyed => ?_) ih
      rw [(FeedMessage.eventIn?_iff text e).mpr conveyed] at found
      exact Option.some_ne_none e found

/-! The stream of texts. -/

def streamOf (texts : List String) : TickerStream :=
  (tickers texts).foldl (fun stream t => stream.apply t) []

def tickerOf? (symbol text : String) : Option Ticker :=
  (FeedMessage.tickerIn? text).filter fun t => t.symbol = symbol

theorem tickerOf?_iff (symbol text : String) (t : Ticker) :
    tickerOf? symbol text = some t ↔ Conveys text (.ticker t) ∧ t.symbol = symbol := by
  unfold tickerOf?
  rw [Option.filter_eq_some_iff, FeedMessage.tickerIn?_iff, decide_eq_true_iff]

theorem tickerOf?_none_iff (symbol text : String) :
    tickerOf? symbol text = none ↔ ∀ t, Conveys text (.ticker t) → t.symbol ≠ symbol := by
  rw [Option.eq_none_iff_forall_ne_some]
  refine forall_congr' fun t => ?_
  rw [ne_eq, tickerOf?_iff, not_and]

theorem get?_streamOf (symbol : String) (texts : List String) :
    (streamOf texts).get? symbol = (texts.filterMap (tickerOf? symbol)).getLast? := by
  have held := TickerStream.get?_ofTickers (tickers texts) symbol
  unfold listed? tickers at held
  rw [List.filter_filterMap] at held
  exact held

theorem tidy_streamOf (texts : List String) : (streamOf texts).Tidy :=
  TickerStream.tidy_ofTickers (tickers texts)

theorem latest_iff (texts : List String) (symbol : String) (t : Ticker) :
    (texts.filterMap (tickerOf? symbol)).getLast? = some t ↔ Latest texts symbol t := by
  rw [List.getLast?_eq_head?_reverse, ← List.filterMap_reverse, List.head?_filterMap, List.findSome?_eq_some_iff]
  constructor
  · rintro ⟨after, text, before, split, found, silent⟩
    obtain ⟨conveyed, own⟩ := (tickerOf?_iff symbol text t).mp found
    refine ⟨before.reverse, text, after.reverse, ?_, conveyed, own, fun later member => ?_⟩
    · simpa using congrArg List.reverse split
    · exact (tickerOf?_none_iff symbol later).mp (silent later (List.mem_reverse.mp member))
  · rintro ⟨before, text, after, rfl, conveyed, own, silent⟩
    refine ⟨after.reverse, text, before.reverse, by simp, (tickerOf?_iff symbol text t).mpr ⟨conveyed, own⟩, ?_⟩
    intro later member
    exact (tickerOf?_none_iff symbol later).mpr (silent later (List.mem_reverse.mp member))

/-- Each symbol has the same tickers in the same order. -/
def Reordered (texts others : List String) : Prop :=
  ∀ symbol, texts.filterMap (tickerOf? symbol) = others.filterMap (tickerOf? symbol)

/-- A ticker comes once more before the next one of its symbol. -/
def Replayed (texts others : List String) : Prop :=
  ∃ before text between after t, texts = before ++ text :: between ++ after ∧
    others = before ++ text :: between ++ text :: after ∧ Conveys text (.ticker t) ∧
    ∀ later ∈ between, ∀ u, Conveys later (.ticker u) → u.symbol ≠ t.symbol

theorem streamOf_reordered {texts others : List String} (reordered : Reordered texts others) :
    streamOf texts = streamOf others := by
  refine Table.ascending_ext (tidy_streamOf texts).ascending (tidy_streamOf others).ascending fun symbol => ?_
  rw [get?_streamOf, get?_streamOf, reordered symbol]

theorem streamOf_replayed {texts others : List String} (replayed : Replayed texts others) :
    streamOf texts = streamOf others := by
  obtain ⟨before, text, between, after, t, rfl, rfl, conveyed, silent⟩ := replayed
  refine Table.ascending_ext (tidy_streamOf _).ascending (tidy_streamOf _).ascending fun symbol => ?_
  rw [get?_streamOf, get?_streamOf]
  by_cases own : t.symbol = symbol
  · subst own
    have nothing : between.filterMap (tickerOf? t.symbol) = [] :=
      List.filterMap_eq_nil_iff.mpr fun later member =>
        (tickerOf?_none_iff t.symbol later).mpr (silent later member)
    have found := (tickerOf?_iff t.symbol text t).mpr ⟨conveyed, rfl⟩
    simp only [List.filterMap_append, List.filterMap_cons_some found, nothing]
    cases after.filterMap (tickerOf? t.symbol) <;> simp [List.getLast?_append]
  · have other : tickerOf? symbol text = none := by
      refine (tickerOf?_none_iff symbol text).mpr fun u said => ?_
      have same := ((FeedMessage.tickerIn?_iff text u).mpr said).symm.trans
        ((FeedMessage.tickerIn?_iff text t).mpr conveyed)
      obtain rfl := Option.some.inj same
      exact own
    simp only [List.filterMap_append, List.filterMap_cons_none other]

/-! Runs. -/

/-- In the middle of a connection: whole connections have gone, and so many frames were read on one more. -/
def midway (o : FeedOptions) (contacts : List Contact) (c : Contact) (n : Nat) : Feed :=
  (run o contacts 0 (new o)).2.opened.hear (c.heard.take n)

def textsUntil (contacts : List Contact) (c : Contact) (n : Nat) : List String :=
  contacts.flatMap Contact.texts ++ (c.heard.take n).filterMap Frame.text?

theorem told_run (o : FeedOptions) (contacts : List Contact) (now : Nat) (f : Feed) :
    (run o contacts now f).2.stream =
        (tickers (contacts.flatMap Contact.texts)).foldl (fun stream t => stream.apply t) f.stream ∧
      (run o contacts now f).2.events = f.events ++ systemEvents (contacts.flatMap Contact.texts) := by
  induction contacts generalizing now f with
  | nil => exact ⟨rfl, (List.append_nil f.events).symm⟩
  | cons c rest ih =>
    obtain ⟨stream, events⟩ := ih (now + (f.contact o c).2) (f.contact o c).1
    have next : (run o (c :: rest) now f).2 = (run o rest (now + (f.contact o c).2) (f.contact o c).1).2 := rfl
    rw [next, stream, events, contact_texts, List.flatMap_cons]
    unfold tickers systemEvents
    rw [List.filterMap_append, List.filterMap_append, List.foldl_append, List.append_assoc]
    exact ⟨rfl, rfl⟩

theorem told_midway (o : FeedOptions) (contacts : List Contact) (c : Contact) (n : Nat) :
    (midway o contacts c n).stream = streamOf (textsUntil contacts c n) ∧
      (midway o contacts c n).events = systemEvents (textsUntil contacts c n) := by
  obtain ⟨stream, events⟩ := told_run o contacts 0 (new o)
  unfold midway textsUntil streamOf
  rw [hear_told]
  unfold told opened
  simp only [stream, events]
  unfold tickers systemEvents
  rw [List.filterMap_append, List.filterMap_append, List.foldl_append]
  exact ⟨rfl, rfl⟩

theorem receive_unmoved (frame : Frame) (f : Feed) (none : ∀ text m, frame = .text text → ¬Conveys text m) :
    (f.receive frame).stream = f.stream ∧ (f.receive frame).events = f.events := by
  have heard : f.receive frame = f.told ([frame].filterMap Frame.text?) := hear_told [frame] f
  rw [heard]
  cases spoken : frame.text? with
  | none =>
    rw [List.filterMap_cons_none spoken, List.filterMap_nil, told_nothing]
    exact ⟨rfl, rfl⟩
  | some text =>
    have unread : FeedMessage.inText? text = Option.none := by
      refine Option.eq_none_iff_forall_ne_some.mpr fun m read => ?_
      obtain rfl : frame = .text text := by cases frame <;> simp_all [Frame.text?]
      exact none text m rfl ((FeedMessage.conveys_iff text m).mp read)
    rw [List.filterMap_cons_some spoken, List.filterMap_nil]
    simp [told, tickers, systemEvents, FeedMessage.tickerIn?, FeedMessage.eventIn?, unread]

/-- The stream and the events are what was heard makes of them, and nothing else is in them. -/
structure Follows (texts : List String) (f : Feed) : Prop where
  holds : ∀ symbol t, f.stream.get? symbol = some t ↔ Latest texts symbol t
  entries : ∀ entry, entry ∈ f.stream ↔ Latest texts entry.1 entry.2
  own : ∀ entry ∈ f.stream, entry.1 = entry.2.symbol
  ascending : Table.Ascending f.stream
  announces : Announced texts f.events

theorem follows_midway (o : FeedOptions) (contacts : List Contact) (c : Contact) (n : Nat) :
    Follows (textsUntil contacts c n) (midway o contacts c n) := by
  obtain ⟨stream, events⟩ := told_midway o contacts c n
  have holds (symbol : String) (t : Ticker) :
      (streamOf (textsUntil contacts c n)).get? symbol = some t ↔ Latest (textsUntil contacts c n) symbol t := by
    rw [get?_streamOf, latest_iff]
  have entries (entry : String × Ticker) :
      entry ∈ streamOf (textsUntil contacts c n) ↔ Latest (textsUntil contacts c n) entry.1 entry.2 := by
    rw [← holds]
    exact Table.mem_iff_get? (tidy_streamOf _).ascending entry.1 entry.2
  have tidy := tidy_streamOf (textsUntil contacts c n)
  rw [← stream] at holds entries tidy
  exact ⟨holds, entries, tidy.own, tidy.ascending, events ▸ announced_events _⟩

/-- At every moment of a run the stream holds the last ticker of each symbol that had one, and the events are the
system messages in the order of their coming. What conveys no message changes neither, nor does the end of a
connection; a ticker that is replayed does not show, nor does the order in which symbols take turns. -/
theorem feed_follows (o : FeedOptions) (contacts : List Contact) (c : Contact) (n : Nat) :
    Follows (textsUntil contacts c n) (midway o contacts c n) ∧
    (∀ f : Feed, ∀ frame, (∀ text m, frame = .text text → ¬Conveys text m) →
      (f.receive frame).stream = f.stream ∧ (f.receive frame).events = f.events) ∧
    (∀ f : Feed, ∀ ending, (f.drop o ending).1.opened.stream = f.stream ∧
      (f.drop o ending).1.opened.events = f.events) ∧
    ∀ others d m, Reordered (textsUntil contacts c n) (textsUntil others d m) ∨
        Replayed (textsUntil contacts c n) (textsUntil others d m) →
      (midway o contacts c n).stream = (midway o others d m).stream := by
  refine ⟨follows_midway o contacts c n, fun f frame => receive_unmoved frame f, fun f ending => ⟨rfl, rfl⟩, ?_⟩
  intro others d m alike
  rw [(told_midway o contacts c n).1, (told_midway o others d m).1]
  rcases alike with reordered | replayed
  · exact streamOf_reordered reordered
  · exact streamOf_replayed replayed

end Feed
end TradingDesk
