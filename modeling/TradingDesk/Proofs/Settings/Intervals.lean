import TradingDesk.Proofs.Number.Rounding
import TradingDesk.Proofs.Number.Whole
import TradingDesk.Settings.Basic

/-! The intervals of accepted settings. They are judged in seconds and used in whole nanoseconds: none is longer than
a week, but one of half a nanosecond or less is accepted and rounds to nothing. -/

namespace TradingDesk
namespace Settings
open Exact

def week : Nat := 604800 * Duration.second

/-- The span of an accepted interval is the whole number of nanoseconds that is nearest to its worth. -/
structure Spans (seconds : Float) (span : Nat) : Prop where
  computed : Duration.ofSeconds? seconds = some span
  bounded : span ≤ week
  rounded : ∃ worth, (ofFloat seconds).worth? = some worth ∧ 0 < worth ∧
    |(span : ℚ) - Duration.second * worth| ≤ 1 / 2 ∧ (0 < span ↔ 1 / 2 < Duration.second * worth)

private theorem longest_worth : (ofFloat longestInterval).worth? = some 604800 := by
  have taken : ofFloat longestInterval = .finite false (604800 * 2 ^ 33) (-33) := by decide +kernel
  rw [taken]
  norm_num [worth?]

private theorem nothing_worth : (ofFloat 0.0).worth? = some 0 := by
  have taken : ofFloat 0.0 = .finite false 0 0 := by decide +kernel
  rw [taken]
  norm_num [worth?]

theorem checkInterval_iff (name : String) (seconds : Float) : checkInterval name seconds = .ok () ↔
    ∃ worth, (ofFloat seconds).worth? = some worth ∧ 0 < worth ∧ worth ≤ 604800 := by
  unfold checkInterval
  cases found : (ofFloat seconds).worth? with
  | none =>
    have unbounded : seconds.isFinite = false := by
      rw [← Bool.not_eq_true, isFinite_iff, found]
      simp
    simp [unbounded]
  | some worth =>
    have finite : seconds.isFinite = true := (isFinite_iff seconds).mpr ⟨worth, found⟩
    have small : seconds ≤ 0.0 ↔ worth ≤ 0 := le_iff_worth found nothing_worth
    have large : seconds > longestInterval ↔ 604800 < worth := lt_iff_worth longest_worth found
    simp only [finite, small, large, Option.some.injEq, exists_eq_left']
    by_cases positive : 0 < worth
    · by_cases short : worth ≤ 604800
      · simp [positive, short, not_le.mpr positive, not_lt.mpr short]
      · simp [short, not_le.mpr positive, not_le.mp short]
    · simp [positive, not_lt.mp positive]

private theorem worth_finite {negative : Bool} {m : Nat} {e : Int} {worth : ℚ} (positive : 0 < worth)
    (found : worth? (.finite negative m e) = some worth) : negative = false ∧ worth = m * 2 ^ e := by
  have unit : (0 : ℚ) ≤ m * 2 ^ e := mul_nonneg (Nat.cast_nonneg m) (zpow_pos two_pos e).le
  have value := (Option.some.inj found).symm
  cases negative with
  | false => exact ⟨rfl, value.trans (by simp)⟩
  | true =>
    have turned : worth = -(m * 2 ^ e) := value.trans (by simp)
    rw [turned] at positive
    exact absurd positive (by linarith)

theorem spans_nanoseconds {name : String} {seconds : Float} (accepted : checkInterval name seconds = .ok ()) :
    Spans seconds (nanoseconds seconds) := by
  obtain ⟨worth, found, positive, short⟩ := (checkInterval_iff name seconds).mp accepted
  cases taken : ofFloat seconds with
  | undefined => simp [taken, worth?] at found
  | endless negative => simp [taken, worth?] at found
  | finite negative m e =>
    rw [taken] at found
    obtain ⟨rfl, rfl⟩ := worth_finite positive found
    have bounded : units Duration.second m e ≤ week := units_le Duration.second m 604800 e (by exact_mod_cast short)
    have fits : ¬UInt64.size * Duration.second ≤ units Duration.second m e := by
      have room : week < UInt64.size * Duration.second := by norm_num [week, Duration.second]
      omega
    have computed : Duration.ofSeconds? seconds = some (units Duration.second m e) := by
      simp [Duration.ofSeconds?, taken, fits]
    have same : nanoseconds seconds = units Duration.second m e := by
      rw [nanoseconds, computed, Option.getD_some]
    rw [same]
    refine ⟨computed, bounded, _, taken ▸ found, positive, units_near Duration.second m e, ?_⟩
    exact units_pos_iff Duration.second m e

/-! Settings. -/

structure Accepted (s : Settings) : Prop where
  refreshRate : checkInterval "app.refresh_rate" s.app.refreshRate = .ok ()
  timeout : checkInterval "api.timeout_seconds" s.api.timeoutSeconds = .ok ()
  tickerInterval : checkInterval "polling.ticker_interval_seconds" s.polling.tickerIntervalSeconds = .ok ()
  toastTtl : checkInterval "ui.toast_ttl_seconds" s.ui.toastTtlSeconds = .ok ()
  reconnectInitial : s.feed.reconnectInitialMs ≠ 0
  reconnectMax : checkInterval "feed.reconnect_max_seconds" s.feed.reconnectMaxSeconds.toFloat = .ok ()
  reconnectRange : s.feed.reconnectInitialMs.toNat ≤ saturatedMs s.feed.reconnectMaxSeconds

theorem passed {next : Unit → Except SettingsError Unit} {first : Except SettingsError Unit}
    (accepted : (first >>= next) = .ok ()) : first = .ok () ∧ next () = .ok () := by
  cases first with
  | ok done => exact ⟨rfl, accepted⟩
  | error e => contradiction

theorem check_ok {condition : Bool} {e : SettingsError} (accepted : check condition e = .ok ()) :
    condition = true := by
  cases condition with
  | true => rfl
  | false => contradiction

theorem accepted_of_validate {s : Settings} (accepted : s.validate = .ok ()) : Accepted s := by
  obtain ⟨refreshRate, accepted⟩ := passed accepted
  obtain ⟨timeout, accepted⟩ := passed accepted
  obtain ⟨tickerInterval, accepted⟩ := passed accepted
  obtain ⟨toastTtl, accepted⟩ := passed accepted
  obtain ⟨-, accepted⟩ := passed accepted
  obtain ⟨-, accepted⟩ := passed accepted
  obtain ⟨-, accepted⟩ := passed accepted
  obtain ⟨reconnectInitial, accepted⟩ := passed accepted
  obtain ⟨reconnectMax, accepted⟩ := passed accepted
  obtain ⟨reconnectRange, -⟩ := passed accepted
  exact ⟨refreshRate, timeout, tickerInterval, toastTtl, of_decide_eq_true (check_ok reconnectInitial), reconnectMax,
    of_decide_eq_true (check_ok reconnectRange)⟩

theorem reconnect_bounded {s : Settings} (accepted : Accepted s) :
    0 < s.reconnectInitial ∧ s.reconnectInitial ≤ s.reconnectMax ∧ s.reconnectMax ≤ week := by
  obtain ⟨worth, found, positive, short⟩ := (checkInterval_iff _ _).mp accepted.reconnectMax
  obtain ⟨value, same, exact, long⟩ := worth_toFloat s.feed.reconnectMaxSeconds
  obtain rfl : value = worth := Option.some.inj (same.symm.trans found)
  have few : s.feed.reconnectMaxSeconds.toNat < 2 ^ 53 := by
    by_contra many
    have large := long (Nat.le_of_not_lt many)
    norm_num at large
    linarith
  have seconds : s.feed.reconnectMaxSeconds.toNat ≤ 604800 := by
    rw [exact few] at short
    exact_mod_cast short
  have range := accepted.reconnectRange
  have some : s.feed.reconnectInitialMs.toNat ≠ 0 := by
    intro none
    exact accepted.reconnectInitial (UInt64.toNat_inj.mp none)
  unfold saturatedMs at range
  unfold Settings.reconnectInitial Settings.reconnectMax week Duration.millisecond Duration.second
  refine ⟨?_, ?_, ?_⟩ <;> omega

/-- No interval of accepted settings is refused by the clock or longer than a week, and the delays of the feed last.
An interval in seconds lasts exactly when it is worth more than half a nanosecond. -/
theorem accepted_intervals (s : Settings) (accepted : s.validate = .ok ()) :
    Spans s.api.timeoutSeconds s.requestTimeout ∧ Spans s.polling.tickerIntervalSeconds s.tickerInterval ∧
      Spans s.app.refreshRate s.refreshInterval ∧ Spans s.ui.toastTtlSeconds s.toastTtl ∧
      0 < s.reconnectInitial ∧ s.reconnectInitial ≤ s.reconnectMax ∧ s.reconnectMax ≤ week := by
  have checked := accepted_of_validate accepted
  exact ⟨spans_nanoseconds checked.timeout, spans_nanoseconds checked.tickerInterval,
    spans_nanoseconds checked.refreshRate, spans_nanoseconds checked.toastTtl, reconnect_bounded checked⟩

/-- A screen that is to be drawn ten times in each nanosecond. -/
def hasty : Settings := { app := { refreshRate := 1e-10 } }

theorem hasty_vanishes : hasty.validate = .ok () ∧ hasty.refreshInterval = 0 := by
  decide +kernel

theorem hasty_intervals : hasty.validate = .ok () ∧ Spans hasty.app.refreshRate 0 ∧
    hasty.reconnectMax = 30 * Duration.second ∧ hasty.reconnectMax ≤ week := by
  have accepted : hasty.validate = .ok () := by decide +kernel
  have nothing : hasty.refreshInterval = 0 := by decide +kernel
  obtain ⟨-, -, refresh, -, -, -, bounded⟩ := accepted_intervals hasty accepted
  exact ⟨accepted, nothing ▸ refresh, by decide +kernel, bounded⟩

end Settings
end TradingDesk
