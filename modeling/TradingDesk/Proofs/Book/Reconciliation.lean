import TradingDesk.Proofs.Book.Prices

/-! The prices of a poll and of a stream in one map. The maps on the way to it may be gone through in any order: the
stream keeps one ticker for each symbol, under that symbol, so no two of its entries are about the same price. Only the
order of the polled list counts. -/

namespace TradingDesk

theorem TickerStream.ascending_prices {stream : TickerStream} (tidy : Tidy stream) :
    Table.Ascending (stream.tickers.map fun t => (t.symbol, t.price)) := by
  have same : (stream.tickers.map fun t => (t.symbol, t.price)) = stream.map fun entry => (entry.1, entry.2.price) := by
    unfold tickers
    rw [List.map_map]
    refine List.map_congr_left fun entry member => ?_
    exact congrArg (·, entry.2.price) (tidy.own entry member).symm
  rw [same]
  exact tidy.ascending.map _ fun _ _ before => before

namespace Prices

/-- The prices of a stream, whichever way it is gone through. -/
theorem ofTickers_perm {stream : TickerStream} (tidy : stream.Tidy) {tickers : List Ticker}
    (shuffled : tickers.Perm stream.tickers) : ofTickers tickers = ofTickers stream.tickers := by
  have ascending := TickerStream.ascending_prices tidy
  unfold ofTickers
  rw [Table.ofList_ascending ascending]
  exact Table.ofList_perm ascending (shuffled.map _)

/-- Entries that are put into a map one after the other, from two maps that are gone through in any order. -/
theorem merge_perm {polled streamed : Prices} (first : Table.Ascending polled) (second : Table.Ascending streamed)
    {listed heard : List (String × Float)} (shuffled : listed.Perm polled) (also : heard.Perm streamed) :
    merge listed heard = merge polled streamed := by
  unfold merge
  rw [Table.ofList_perm first shuffled, Table.ofList_ascending first]
  refine Table.ascending_ext (Table.ascending_puts _ first) (Table.ascending_puts _ first) fun symbol => ?_
  rw [Table.get?_puts, Table.get?_puts, Table.last?_perm symbol second.keys_nodup also,
    Table.last?_ascending symbol second]

theorem ascending_merge (polled streamed : Prices) : Table.Ascending (merge polled streamed) :=
  Table.ascending_puts _ (Table.ascending_ofList _)

theorem merge_again {polled streamed : Prices} (first : Table.Ascending polled) (second : Table.Ascending streamed) :
    merge (merge polled streamed) streamed = merge polled streamed := by
  have merged := ascending_merge polled streamed
  refine Table.ascending_ext (ascending_merge _ _) merged fun symbol => ?_
  rw [get?_merge merged second, get?_merge first second]
  cases streamed.get? symbol <;> rfl

/-- A symbol has the price of its last ticker in the stream, else the one of its last ticker in the polled list, and
none if it is in neither. The maps may be gone through in any order, and to merge the stream's prices once more changes
nothing. -/
theorem prices_reconciled (polled heard : List Ticker) :
    let stream := TickerStream.ofTickers heard
    let prices := reconcile polled stream
    (∀ symbol t, stream.get? symbol = some t ↔ Listed heard symbol t) ∧
    (∀ symbol t, stream.get? symbol = some t → prices.get? symbol = some t.price) ∧
    (∀ symbol t, stream.get? symbol = none → Listed polled symbol t → prices.get? symbol = some t.price) ∧
    (∀ symbol, prices.get? symbol = none ↔ (∀ t ∈ heard, t.symbol ≠ symbol) ∧ ∀ t ∈ polled, t.symbol ≠ symbol) ∧
    ∀ tickers : List Ticker, tickers.Perm stream.tickers →
      ∀ listed streamed : List (String × Float), listed.Perm (ofTickers polled) → streamed.Perm (ofTickers tickers) →
        merge listed streamed = prices ∧
        ∀ again : List (String × Float), again.Perm prices → merge again streamed = prices := by
  have tidy := TickerStream.tidy_ofTickers heard
  have held := TickerStream.get?_ofTickers heard
  have price := fun symbol => get?_reconcile polled tidy symbol
  refine ⟨fun symbol t => ?_, fun symbol t streamed => ?_, fun symbol t never found => ?_, fun symbol => ?_, ?_⟩
  · rw [held, listed?_iff]
  · rw [price, streamed]
    rfl
  · rw [price, never, (listed?_iff polled symbol t).mpr found]
    rfl
  · rw [price, Option.map_eq_none_iff, Option.or_eq_none_iff, held, listed?_none_iff, listed?_none_iff]
  · intro tickers shuffled listed streamed first second
    rw [ofTickers_perm tidy shuffled] at second
    have polledUp := ascending_ofTickers polled
    have streamedUp := ascending_ofTickers (TickerStream.ofTickers heard).tickers
    refine ⟨merge_perm polledUp streamedUp first second, fun again third => ?_⟩
    rw [merge_perm (ascending_merge _ _) streamedUp third second]
    exact merge_again polledUp streamedUp

end Prices
end TradingDesk
