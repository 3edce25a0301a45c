import Mathlib.Algebra.Ring.Nat
import Mathlib.Data.List.Induction
import TradingDesk.Proofs.Feed.Heard

/-! How long the feed waits. The attempts are counted from the last connection that brought text, the doublings of
the delay from the last one that brought text and was closed in order as well. -/

namespace TradingDesk

namespace Contact

def brings (c : Contact) : Bool :=
  !c.texts.isEmpty

def renews (c : Contact) : Bool :=
  c.closing = .closed && c.brings

end Contact

namespace Feed

/-- The drops so far, from the last connection that begins the count anew. -/
def drops (anew : Contact → Bool) (contacts : List Contact) : Nat :=
  contacts.foldl (fun n c => if anew c then 1 else n + 1) 0

theorem drops_concat (anew : Contact → Bool) (contacts : List Contact) (c : Contact) :
    drops anew (contacts ++ [c]) = if anew c then 1 else drops anew contacts + 1 := by
  unfold drops
  rw [List.foldl_append]
  rfl

theorem drops_pos (anew : Contact → Bool) (contacts : List Contact) (c : Contact) :
    0 < drops anew (contacts ++ [c]) := by
  rw [drops_concat]
  split <;> omega

theorem drops_le (contacts : List Contact) : drops Contact.brings contacts ≤ drops Contact.renews contacts := by
  induction contacts using List.reverseRecOn with
  | nil => exact Nat.le_refl 0
  | append_singleton contacts c ih =>
    rw [drops_concat, drops_concat]
    cases renewed : c.renews with
    | true =>
      have brought : c.brings = true := (Bool.and_eq_true_iff.mp renewed).2
      simp [brought]
    | false =>
      rw [if_neg Bool.false_ne_true]
      split <;> omega

/-! What a connection does to the two counts. -/

theorem dropped_attempt (c : Connection) : c.dropped.attempt.toNat = min (c.attempt.toNat + 1) (2 ^ 32 - 1) := by
  have bound := c.attempt.toNat_lt
  unfold Connection.dropped
  by_cases full : c.attempt = 0xFFFFFFFF
  · simp [full]
  · have room : c.attempt.toNat ≠ 2 ^ 32 - 1 := fun same => full (UInt32.toNat_inj.mp same)
    simp only [full, if_false, UInt32.toNat_add]
    change (c.attempt.toNat + 1) % 2 ^ 32 = _
    omega

structure Counted (o : FeedOptions) (contacts : List Contact) (f : Feed) : Prop where
  delay : f.delay = min (o.initialDelay * 2 ^ drops Contact.renews contacts) o.maxDelay
  attempt : f.connection.attempt.toNat = min (drops Contact.brings contacts) (2 ^ 32 - 1)

theorem counted_new (o : FeedOptions) (bounded : o.initialDelay ≤ o.maxDelay) : Counted o [] (new o) where
  delay := by
    change o.initialDelay = min (o.initialDelay * 1) o.maxDelay
    omega
  attempt := rfl

theorem pause_counted {o : FeedOptions} {contacts : List Contact} {f : Feed} (counted : Counted o contacts f)
    (bounded : o.initialDelay ≤ o.maxDelay) (c : Contact) :
    f.pause o c = min (o.initialDelay * 2 ^ (drops Contact.renews (contacts ++ [c]) - 1)) o.maxDelay := by
  rw [drops_concat]
  have anew : (c.closing = .closed ∧ c.texts ≠ []) ↔ c.renews = true := by
    simp [Contact.renews, Contact.brings]
  unfold pause
  simp only [anew]
  split
  · change o.initialDelay = min (o.initialDelay * 1) o.maxDelay
    omega
  · exact counted.delay

theorem counted_contact {o : FeedOptions} {contacts : List Contact} {f : Feed} (counted : Counted o contacts f)
    (bounded : o.initialDelay ≤ o.maxDelay) (c : Contact) : Counted o (contacts ++ [c]) (f.contact o c).1 where
  delay := by
    have again : drops Contact.renews (contacts ++ [c]) =
        drops Contact.renews (contacts ++ [c]) - 1 + 1 := (Nat.sub_add_cancel (drops_pos _ contacts c)).symm
    rw [contact_texts, pause_counted counted bounded c, again, Nat.pow_succ, ← Nat.mul_assoc]
    simp only [Nat.add_sub_cancel]
    omega
  attempt := by
    rw [contact_texts, dropped_attempt, drops_concat]
    have counts := counted.attempt
    by_cases silent : c.texts = []
    · have brought : c.brings = false := by simp [Contact.brings, silent]
      simp only [silent, brought, if_true, Bool.false_eq_true, if_false]
      omega
    · have brought : c.brings = true := by simp [Contact.brings, silent]
      simp only [silent, brought, if_true, if_false]
      rfl

theorem counted_after (o : FeedOptions) (bounded : o.initialDelay ≤ o.maxDelay) (contacts : List Contact) :
    Counted o contacts (after o contacts) := by
  induction contacts using List.reverseRecOn with
  | nil => exact counted_new o bounded
  | append_singleton contacts c ih =>
    rw [after_concat]
    exact counted_contact ih bounded c

private theorem capped_eq_iff {a m : Nat} (initial cap : Nat) (fewer : a ≤ m) :
    min (initial * 2 ^ m) cap = min (initial * 2 ^ a) cap ↔ initial = 0 ∨ cap ≤ initial * 2 ^ a ∨ a = m := by
  have grows : initial * 2 ^ a ≤ initial * 2 ^ m :=
    Nat.mul_le_mul_left initial (Nat.pow_le_pow_right Nat.two_pos fewer)
  constructor
  · intro same
    by_cases reached : cap ≤ initial * 2 ^ a
    · exact .inr (.inl reached)
    · have equal : initial * 2 ^ a = initial * 2 ^ m := by omega
      rcases Nat.eq_zero_or_pos initial with none | some
      · exact .inl none
      · have powers : 2 ^ a = 2 ^ m := Nat.eq_of_mul_eq_mul_left some equal
        exact .inr (.inr ((Nat.pow_right_inj Nat.one_lt_two).mp powers))
  · rintro (none | reached | same)
    · simp [none]
    · omega
    · rw [same]

/-- Between two connections the feed waits the first delay, doubled for each drop since the last connection that
brought text and was closed in order, up to the limit. The attempts count the drops since the last one that brought
text, so they do not tell the delay once that one broke off. -/
theorem waits_between (o : FeedOptions) (bounded : o.initialDelay ≤ o.maxDelay) (contacts : List Contact)
    (start i : Nat) (inside : i < contacts.length) :
    ∃ status since attempt delay,
      (run o contacts start (new o)).1[i]? = some (status, since) ∧
      (run o contacts start (new o)).1[i + 1]? = some (⟨false, true, attempt⟩, since + delay) ∧
      attempt.toNat = min (drops Contact.brings (contacts.take (i + 1))) (2 ^ 32 - 1) ∧
      delay = min (o.initialDelay * 2 ^ (drops Contact.renews (contacts.take (i + 1)) - 1)) o.maxDelay ∧
      (delay = min (o.initialDelay * 2 ^ (attempt.toNat - 1)) o.maxDelay ↔
        o.initialDelay = 0 ∨ o.maxDelay ≤ o.initialDelay * 2 ^ (attempt.toNat - 1) ∨
          attempt.toNat = drops Contact.renews (contacts.take (i + 1))) := by
  have before := counted_after o bounded (contacts.take i)
  have taken : contacts.take (i + 1) = contacts.take i ++ [contacts[i]] := (List.take_append_getElem inside).symm
  obtain ⟨since, here, next⟩ := run_moment o contacts start (new o) i contacts[i] (List.getElem?_eq_getElem inside)
  let dropped := ((after o (contacts.take i)).contact o contacts[i]).1
  have published : dropped.connection = ⟨false, true, dropped.connection.attempt⟩ := by
    simp only [dropped, contact_texts, Connection.dropped]
  have counts : dropped.connection.attempt.toNat =
      min (drops Contact.brings (contacts.take (i + 1))) (2 ^ 32 - 1) := by
    rw [taken]
    exact (counted_contact before bounded contacts[i]).attempt
  have waits : ((after o (contacts.take i)).contact o contacts[i]).2 =
      min (o.initialDelay * 2 ^ (drops Contact.renews (contacts.take (i + 1)) - 1)) o.maxDelay := by
    rw [taken, contact_texts]
    exact pause_counted before bounded contacts[i]
  refine ⟨_, since, dropped.connection.attempt, _, here, published ▸ next, counts, waits, ?_⟩
  have fewer := drops_le (contacts.take (i + 1))
  have some : 0 < drops Contact.brings (contacts.take (i + 1)) := by
    rw [taken]
    exact drops_pos Contact.brings (contacts.take i) contacts[i]
  have steps : dropped.connection.attempt.toNat - 1 ≤ drops Contact.renews (contacts.take (i + 1)) - 1 := by omega
  change ((after o (contacts.take i)).contact o contacts[i]).2 = _ ↔ _
  rw [waits, capped_eq_iff o.initialDelay o.maxDelay steps]
  have same : dropped.connection.attempt.toNat - 1 = drops Contact.renews (contacts.take (i + 1)) - 1 ↔
      dropped.connection.attempt.toNat = drops Contact.renews (contacts.take (i + 1)) := by omega
  rw [same]

def brief : FeedOptions := { initialDelay := 100, maxDelay := 800 }

/-- Nothing comes over the first connection, the second one brings a text and breaks off. -/
def brokenOff : List Contact :=
  [⟨[], .closed⟩, ⟨[.text "tick"], .broken⟩]

theorem broken_off_waits :
    (run brief brokenOff 0 (new brief)).1 = [(.initial, 0), (⟨false, true, 1⟩, 100), (⟨false, true, 1⟩, 300)] ∧
      300 - 100 ≠ min (brief.initialDelay * 2 ^ ((1 : UInt32).toNat - 1)) brief.maxDelay := by
  decide +kernel

theorem waits_after_break : brief.initialDelay ≤ brief.maxDelay ∧ 1 < brokenOff.length ∧
    ∃ status since attempt delay,
      (run brief brokenOff 0 (new brief)).1[1]? = some (status, since) ∧
      (run brief brokenOff 0 (new brief)).1[2]? = some (⟨false, true, attempt⟩, since + delay) ∧
      attempt.toNat = 1 ∧ delay = 200 := by
  have bounded : brief.initialDelay ≤ brief.maxDelay := by decide
  have inside : 1 < brokenOff.length := by decide
  obtain ⟨status, since, attempt, delay, here, next, attempts, waited, _⟩ :=
    waits_between brief bounded brokenOff 0 1 inside
  exact ⟨bounded, inside, status, since, attempt, delay, here, next, attempts, waited⟩

end Feed
end TradingDesk
