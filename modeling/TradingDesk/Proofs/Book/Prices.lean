import TradingDesk.Book.Valuation
import TradingDesk.Proofs.Table

/-! What a price map holds for a symbol. In a list the last ticker of the symbol counts, and a streamed ticker counts
before a listed one. -/

namespace TradingDesk

/-- The last ticker of the symbol in a list. -/
def Listed (tickers : List Ticker) (symbol : String) (t : Ticker) : Prop :=
  ∃ before after, tickers = before ++ t :: after ∧ t.symbol = symbol ∧ ∀ later ∈ after, later.symbol ≠ symbol

def listed? (tickers : List Ticker) (symbol : String) : Option Ticker :=
  (tickers.filter fun t => t.symbol = symbol).getLast?

theorem listed?_iff (tickers : List Ticker) (symbol : String) (t : Ticker) :
    listed? tickers symbol = some t ↔ Listed tickers symbol t := by
  unfold listed? Listed
  rw [List.getLast?_eq_head?_reverse, ← List.filter_reverse, List.head?_filter, List.find?_eq_some_iff_append]
  constructor
  · rintro ⟨own, after, before, split, others⟩
    refine ⟨before.reverse, after.reverse, ?_, of_decide_eq_true own, ?_⟩
    · simpa using congrArg List.reverse split
    · intro later member
      simpa using others later (List.mem_reverse.mp member)
  · rintro ⟨before, after, rfl, own, others⟩
    refine ⟨decide_eq_true own, after.reverse, before.reverse, by simp, ?_⟩
    intro later member
    simpa using others later (List.mem_reverse.mp member)

theorem listed?_none_iff (tickers : List Ticker) (symbol : String) :
    listed? tickers symbol = none ↔ ∀ t ∈ tickers, t.symbol ≠ symbol := by
  unfold listed?
  rw [List.getLast?_eq_none_iff, List.filter_eq_nil_iff]
  simp

namespace TickerStream

/-- Each ticker is kept under its own symbol, in ascending order. -/
structure Tidy (stream : TickerStream) : Prop where
  own : ∀ entry ∈ stream, entry.1 = entry.2.symbol
  ascending : Table.Ascending stream

theorem listed?_tickers {stream : TickerStream} (tidy : Tidy stream) (symbol : String) :
    listed? stream.tickers symbol = stream.get? symbol := by
  rw [← Table.last?_ascending symbol tidy.ascending]
  have same : (stream.filter fun entry => entry.2.symbol = symbol) = stream.filter fun entry => entry.1 = symbol := by
    refine List.filter_congr fun entry member => ?_
    rw [tidy.own entry member]
  unfold listed? tickers Table.last?
  rw [List.filter_map, List.getLast?_map, ← same]
  rfl

/-- The stream after these tickers, from the first to the last. -/
def ofTickers (tickers : List Ticker) : TickerStream :=
  tickers.foldl (fun stream t => stream.apply t) []

theorem ofTickers_eq (tickers : List Ticker) :
    ofTickers tickers = Table.ofList (tickers.map fun t => (t.symbol, t)) := by
  unfold ofTickers Table.ofList
  rw [List.foldl_map]
  rfl

theorem get?_ofTickers (tickers : List Ticker) (symbol : String) :
    (ofTickers tickers).get? symbol = listed? tickers symbol := by
  unfold listed?
  rw [ofTickers_eq, Table.get?_ofList, Table.last?, List.filter_map, List.getLast?_map, Option.map_map]
  exact Option.map_id'

theorem tidy_ofTickers (tickers : List Ticker) : Tidy (ofTickers tickers) := by
  have ascending : Table.Ascending (ofTickers tickers) := by
    rw [ofTickers_eq]
    exact Table.ascending_ofList _
  refine ⟨fun entry member => ?_, ascending⟩
  have held := (Table.mem_iff_get? ascending entry.1 entry.2).mp member
  rw [get?_ofTickers] at held
  obtain ⟨_, _, _, own, _⟩ := (listed?_iff _ _ _).mp held
  exact own.symm

end TickerStream

namespace Prices

theorem ascending_ofTickers (tickers : List Ticker) : Table.Ascending (ofTickers tickers) :=
  Table.ascending_ofList _

theorem get?_ofTickers (tickers : List Ticker) (symbol : String) :
    (ofTickers tickers).get? symbol = (listed? tickers symbol).map Ticker.price := by
  unfold ofTickers listed?
  rw [Table.get?_ofList, Table.last?, List.filter_map, List.getLast?_map, Option.map_map]
  rfl

theorem get?_merge {polled streamed : Prices} (first : Table.Ascending polled) (second : Table.Ascending streamed)
    (symbol : String) : (merge polled streamed).get? symbol = (streamed.get? symbol).or (polled.get? symbol) := by
  have puts := Table.get?_puts symbol streamed (Table.ofList polled)
  rw [Table.last?_ascending symbol second, Table.get?_ofList, Table.last?_ascending symbol first] at puts
  exact puts

theorem get?_reconcile (polled : List Ticker) {stream : TickerStream} (tidy : stream.Tidy) (symbol : String) :
    (reconcile polled stream).get? symbol =
      ((stream.get? symbol).or (listed? polled symbol)).map Ticker.price := by
  unfold reconcile
  rw [get?_merge (ascending_ofTickers _) (ascending_ofTickers _), get?_ofTickers, get?_ofTickers,
    TickerStream.listed?_tickers tidy]
  cases stream.get? symbol <;> rfl

end Prices
end TradingDesk
