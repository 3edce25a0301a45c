import TradingDesk.Proofs.Feed.Delay
import TradingDesk.Proofs.Settings.Intervals
import TradingDesk.Watch.Loop

/-! How long the feed of accepted settings waits between two connections: never shorter than the first delay, never
longer than the limit, and doubled with each drop in between. -/

namespace TradingDesk
namespace Feed

/-- One drop after the other since a connection that begins the count anew, or since the start. -/
theorem drops_since {anew : Contact → Bool} {before : List Contact} {c : Contact}
    (first : before = [] ∨ anew c = true) {later : List Contact} (onward : ∀ d ∈ later, anew d = false) :
    drops anew (before ++ c :: later) = later.length + 1 := by
  induction later using List.reverseRecOn with
  | nil =>
    rw [drops_concat]
    rcases first with rfl | renewed
    · simp [drops]
    · exact if_pos renewed
  | append_singleton later d ih =>
    have last : anew d = false := onward d List.mem_concat_self
    have counted := ih fun e member => onward e (List.mem_append_left [d] member)
    rw [← List.cons_append, ← List.append_assoc, drops_concat, last, counted, List.length_append]
    rfl

theorem run_waits (o : FeedOptions) (bounded : o.initialDelay ≤ o.maxDelay) (contacts : List Contact) (start : Nat)
    {i : Nat} (inside : i < contacts.length) : ∃ status next since,
      (run o contacts start (new o)).1[i]? = some (status, since) ∧
      (run o contacts start (new o)).1[i + 1]? = some (next,
        since + min (o.initialDelay * 2 ^ (drops Contact.renews (contacts.take (i + 1)) - 1)) o.maxDelay) := by
  obtain ⟨since, here, next⟩ := run_moment o contacts start (new o) i contacts[i] (List.getElem?_eq_getElem inside)
  have waits := pause_counted (counted_after o bounded (contacts.take i)) bounded contacts[i]
  rw [List.take_append_getElem inside] at waits
  rw [contact_texts] at next
  exact ⟨_, _, since, here, waits ▸ next⟩

end Feed

namespace Settings
open Feed

/-- The watch counts the delays of its feed in milliseconds, and nothing is lost by it. -/
theorem feed_delays (s : Settings) (baseUrl : String) (p : Preferences) (headless : Bool) :
    (Watch.start s baseUrl p headless).feedOptions.initialDelay * Duration.millisecond = s.reconnectInitial ∧
      (Watch.start s baseUrl p headless).feedOptions.maxDelay * Duration.millisecond = s.reconnectMax := by
  change s.reconnectInitial / Duration.millisecond * Duration.millisecond = _ ∧
    s.reconnectMax / Duration.millisecond * Duration.millisecond = _
  unfold reconnectInitial reconnectMax Duration.second Duration.millisecond
  omega

/-- The feed of accepted settings waits at least the first delay and at most the limit. Twice a delay is always a span of
time, and the delays since the start, or since the last connection that brought text and was closed in order, are the
first delay doubled one time after the other, up to the limit. -/
theorem accepted_waits (s : Settings) (accepted : s.validate = .ok ()) (baseUrl : String) (p : Preferences)
    (headless : Bool) (contacts : List Contact) (start : Nat) :
    let o := (Watch.start s baseUrl p headless).feedOptions
    let moments := (run o contacts start (new o)).1
    s.reconnectInitial ≤ s.reconnectMax ∧ ∀ i < contacts.length, ∃ status next since delay,
      moments[i]? = some (status, since) ∧ moments[i + 1]? = some (next, since + delay) ∧
      s.reconnectInitial ≤ delay * Duration.millisecond ∧ delay * Duration.millisecond ≤ s.reconnectMax ∧
      2 * (delay * Duration.millisecond) < UInt64.size * Duration.second ∧
      ∀ before c later, contacts.take (i + 1) = before ++ c :: later → (before = [] ∨ c.renews = true) →
        (∀ d ∈ later, d.renews = false) →
        delay * Duration.millisecond = min (s.reconnectInitial * 2 ^ later.length) s.reconnectMax := by
  intro o moments
  obtain ⟨-, ordered, short⟩ := reconnect_bounded (accepted_of_validate accepted)
  obtain ⟨initial, limit⟩ := feed_delays s baseUrl p headless
  have unit : 0 < Duration.millisecond := by decide
  have bounded : o.initialDelay ≤ o.maxDelay := by
    refine Nat.le_of_mul_le_mul_right ?_ unit
    rw [initial, limit]
    exact ordered
  -- In nanoseconds, as the settings give them.
  have scaled (k : Nat) : min (o.initialDelay * 2 ^ k) o.maxDelay * Duration.millisecond =
      min (s.reconnectInitial * 2 ^ k) s.reconnectMax := by
    rw [← Nat.mul_min_mul_right, Nat.mul_right_comm, initial, limit]
  refine ⟨ordered, fun i inside => ?_⟩
  obtain ⟨status, next, since, here, later⟩ := run_waits o bounded contacts start inside
  refine ⟨status, next, since, _, here, later, ?_, ?_, ?_, ?_⟩
  · rw [scaled]
    exact le_min (Nat.le_mul_of_pos_right _ (Nat.two_pow_pos _)) ordered
  · rw [scaled]
    exact min_le_right _ _
  · rw [scaled]
    have room : 2 * week < UInt64.size * Duration.second := by norm_num [week, Duration.second]
    exact (Nat.mul_le_mul_left 2 ((min_le_right _ _).trans short)).trans_lt room
  · intro before c more taken first onward
    rw [scaled, taken, drops_since first onward, Nat.add_sub_cancel]

/-- Two connections are refused, the third brings a text and is closed in order, the fourth is refused. -/
def mended : List Contact :=
  [⟨[], .refused⟩, ⟨[], .refused⟩, ⟨[.text "tick"], .closed⟩, ⟨[], .refused⟩]

/-- With the usual settings the second delay since the third connection is two seconds. -/
theorem waits_mended : ({} : Settings).validate = .ok () ∧
    let o := (Watch.start {} "" {} true).feedOptions
    let moments := (run o mended 0 (new o)).1
    ∃ status next since delay, moments[3]? = some (status, since) ∧ moments[4]? = some (next, since + delay) ∧
      delay * Duration.millisecond = 2 * Duration.second := by
  have accepted : ({} : Settings).validate = .ok () := by decide +kernel
  refine ⟨accepted, ?_⟩
  obtain ⟨-, waits⟩ := accepted_waits {} accepted "" {} true mended 0
  obtain ⟨status, next, since, delay, here, later, -, -, -, doubled⟩ := waits 3 (by decide)
  have second := doubled [⟨[], .refused⟩, ⟨[], .refused⟩] ⟨[.text "tick"], .closed⟩ [⟨[], .refused⟩] rfl (.inr rfl)
    (by decide)
  exact ⟨status, next, since, delay, here, later, second.trans (by decide)⟩

end Settings
end TradingDesk
