import Mathlib.Data.List.Forall2
import Mathlib.Data.List.Induction
import TradingDesk.Book.Valuation

/-! The ways to value holdings agree. The totals are the sums of the columns of the rows, and what has no price is told
alike by the rows, the list of symbols and the notice. No law of doubles is needed for it: equal doubles are the same
doubles here, to the bit. -/

namespace TradingDesk

/-- What numbers come to when they are added one after the other, in their order. -/
inductive Summed : List Float → Float → Prop where
  | nothing : Summed [] negativeZero
  | more {xs : List Float} {total : Float} (summed : Summed xs total) (x : Float) : Summed (xs ++ [x]) (total + x)

theorem sum_concat (xs : List Float) (x : Float) : sum (xs ++ [x]) = sum xs + x := by
  unfold sum
  rw [List.foldl_append]
  rfl

theorem summed_iff (xs : List Float) (total : Float) : Summed xs total ↔ total = sum xs := by
  constructor
  · intro summed
    induction summed with
    | nothing => rfl
    | more _ x ih => rw [sum_concat, ih]
  · rintro rfl
    induction xs using List.reverseRecOn with
    | nil => exact .nothing
    | append_singleton xs x ih =>
      rw [sum_concat]
      exact .more ih x

/-- The row is about this holding, and values it at the price of its symbol, or at cost when there is none. -/
structure Row.Values (prices : Prices) (h : Holding) (r : Row) : Prop where
  symbol : r.symbol = h.symbol
  amount : r.amount = h.amount
  avgBuyPrice : r.avgBuyPrice = h.avgBuyPrice
  price : ∀ price, r.price = some price ↔ prices.get? h.symbol = some price
  cost : r.cost = h.amount * h.avgBuyPrice
  priced : ∀ price, r.price = some price → r.value = h.amount * price
  unpriced : r.price = none → r.value = r.cost

namespace Holding

variable (prices : Prices) (h : Holding)

theorem row_values : (h.row prices).Values prices h where
  symbol := rfl
  amount := rfl
  avgBuyPrice := rfl
  price _ := Iff.rfl
  cost := rfl
  priced price found := by
    change h.amount * (prices.get? h.symbol).getD h.avgBuyPrice = _
    rw [show prices.get? h.symbol = some price from found]
    rfl
  unpriced missing := by
    change h.amount * (prices.get? h.symbol).getD h.avgBuyPrice = _
    rw [show prices.get? h.symbol = none from missing]
    rfl

theorem row_congr {others : Prices} (same : others.get? h.symbol = prices.get? h.symbol) :
    h.row others = h.row prices := by
  unfold row
  rw [same]

end Holding

section

variable (holdings : List Holding) (prices : Prices)

theorem rows_congr {others : Prices} (same : ∀ h ∈ holdings, others.get? h.symbol = prices.get? h.symbol) :
    rows holdings others = rows holdings prices :=
  List.map_congr_left fun h member => h.row_congr prices (same h member)

theorem metrics_rows : metrics holdings prices =
    .ofTotals (sum ((rows holdings prices).map Row.cost)) (sum ((rows holdings prices).map Row.value)) := by
  unfold metrics rows
  rw [List.map_map, List.map_map]
  rfl

theorem unpriced_rows : Prices.unpriced holdings prices =
    ((rows holdings prices).filter fun r => !r.priced).map Row.symbol := by
  unfold Prices.unpriced rows
  rw [List.filter_map, List.map_map]
  rfl

theorem unavailable_rows :
    Prices.unavailable holdings prices = true ↔ ∃ r ∈ rows holdings prices, r.price = none := by
  have missing (h : Holding) : (!prices.has h.symbol) = true ↔ (h.row prices).price = none := by
    rw [Bool.not_eq_true', ← Bool.not_eq_true]
    exact Option.not_isSome_iff_eq_none
  unfold Prices.unavailable rows
  simp only [List.any_eq_true, missing, List.mem_map, exists_exists_and_eq_and]

theorem value_unpriced (none : ∀ h ∈ holdings, prices.get? h.symbol = none) :
    (rows holdings prices).map Row.value = (rows holdings prices).map Row.cost := by
  refine List.map_congr_left fun r member => ?_
  obtain ⟨h, held, rfl⟩ := List.mem_map.mp member
  exact (h.row_values prices).unpriced (none h held)

end

/-- Rows, totals and notices say the same of any holdings at any prices: there is a row for each holding in its place,
the totals are what the columns of cost and value come to from the left, and the symbols without a price are those of
the rows without one. Without any price the value is the cost, and the prices of other symbols play no part. -/
theorem valuations_agree (holdings : List Holding) (prices : Prices) :
    let rs := rows holdings prices
    let m := metrics holdings prices
    List.Forall₂ (Row.Values prices) holdings rs ∧
    (∀ total, Summed (rs.map Row.cost) total ↔ total = m.totalCost) ∧
    (∀ total, Summed (rs.map Row.value) total ↔ total = m.totalValue) ∧
    Prices.unpriced holdings prices = (rs.filter fun r => r.price.isNone).map Row.symbol ∧
    (Prices.unavailable holdings prices = true ↔ ∃ r ∈ rs, r.price = none) ∧
    ((∀ h ∈ holdings, prices.get? h.symbol = none) → m.totalValue = m.totalCost) ∧
    ∀ others : Prices, (∀ h ∈ holdings, others.get? h.symbol = prices.get? h.symbol) →
      rows holdings others = rs ∧ metrics holdings others = m := by
  have totals := metrics_rows holdings prices
  refine ⟨?_, fun total => ?_, fun total => ?_, ?_, unavailable_rows holdings prices, fun none => ?_,
    fun others same => ?_⟩
  · exact List.forall₂_map_right_iff.mpr (List.forall₂_same.mpr fun h _ => h.row_values prices)
  · rw [totals]
    exact summed_iff _ total
  · rw [totals]
    exact summed_iff _ total
  · rw [unpriced_rows]
    simp only [Row.priced, Option.not_isSome]
  · rw [totals, value_unpriced holdings prices none]
    rfl
  · have rows := rows_congr holdings prices same
    refine ⟨rows, ?_⟩
    rw [metrics_rows, rows, ← totals]

end TradingDesk
