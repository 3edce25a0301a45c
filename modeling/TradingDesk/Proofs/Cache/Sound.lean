import TradingDesk.Proofs.Cache.Crowd

/-! What holds after every run of a crowd: the history is orderly, every slot tallies with it, and every visitor
stands where the history put it. -/

namespace TradingDesk
open History

variable {V : Type}

/-- The stand of visitor `i`, which called for `v.key`, fits the history. An answer shows the outcome of the
request that the visitor was bound to. -/
def Fits (i : Nat) (v : Visitor V) (h : History V) (requests : Nat → Attempts V) : Stand V → Prop
  | .looking => Unserved i h
  | .joining => Unserved i h
  | .waiting r => ∃ isNew, .joined i v.key r isNew ∈ h
  | .settling r outcome => (∃ isNew, .joined i v.key r isNew ∈ h) ∧ (requests r).outcome = some outcome
  | .answered source state => ∃ r outcome, source = some r ∧
      (.hit i v.key source ∈ h ∨ ∃ isNew, .joined i v.key r isNew ∈ h) ∧
      (requests r).outcome = some outcome ∧ state = Cache.answerOf v.accepts v.key outcome
  | .gone => True

/-- The cache is what the history made of it. -/
structure Recorded (h : History V) (c : Cache V) : Prop where
  orderly : Orderly h
  numbered : ∀ r ∈ started h, r < c.nextRequest
  distinct : c.keys.Nodup
  tallies : ∀ key, Tallies key h (c.slotAt key)

namespace Recorded

variable {h : History V} {c : Cache V}

theorem empty (options : CacheOptions) : Recorded ([] : History V) { options } where
  orderly := trivial
  numbered := by simp [History.started]
  distinct := List.nodup_nil
  tallies := Tallies.empty

theorem called (recorded : Recorded h c) (caller : Nat) (key : Key) (allowed : Allowed (.called caller key) h) :
    Recorded (.called caller key :: h) c where
  orderly := ⟨allowed, recorded.orderly⟩
  numbered := recorded.numbered
  distinct := recorded.distinct
  tallies := fun other => (recorded.tallies other).called caller key

theorem hit (recorded : Recorded h c) (caller : Nat) (key : Key) (source : Option Nat)
    (allowed : Allowed (.hit caller key source) h) : Recorded (.hit caller key source :: h) c where
  orderly := ⟨allowed, recorded.orderly⟩
  numbered := recorded.numbered
  distinct := recorded.distinct
  tallies := fun other => (recorded.tallies other).hit caller key source

theorem joined (recorded : Recorded h c) (caller : Nat) (key : Key) (flight : Flight)
    (called : .called caller key ∈ h) (alone : Unserved caller h)
    (under : (c.slotAt key).flight = some flight) : Recorded (.joined caller key flight.id false :: h) c where
  orderly := by
    have on : attached key h = some flight.id := by
      rw [← (recorded.tallies key).flight, under]
      rfl
    exact ⟨⟨called, alone, on⟩, recorded.orderly⟩
  numbered := recorded.numbered
  distinct := recorded.distinct
  tallies := fun other => (recorded.tallies other).joined caller key flight.id

theorem started (recorded : Recorded h c) (caller : Nat) (key : Key) (called : .called caller key ∈ h)
    (alone : Unserved caller h) (idle : (c.slotAt key).flight = none) :
    Recorded (.joined caller key c.nextRequest true :: h)
      { c.setSlot key { c.slotAt key with flight := some ⟨c.nextRequest, (c.slotAt key).generation⟩ } with
        nextRequest := c.nextRequest + 1 } where
  orderly := by
    have off : attached key h = none := by
      rw [← (recorded.tallies key).flight, idle]
      rfl
    have new : c.nextRequest ∉ History.started h := by
      intro old
      exact absurd (recorded.numbered _ old) (Nat.lt_irrefl _)
    exact ⟨⟨called, alone, off, new⟩, recorded.orderly⟩
  numbered := by
    intro r member
    rcases List.mem_cons.mp member with rfl | old
    · exact Nat.lt_succ_self _
    · exact Nat.lt_succ_of_lt (recorded.numbered r old)
  distinct := Cache.keys_setSlot key _ c recorded.distinct
  tallies := by
    intro other
    have slot := Cache.slotAt_setSlot key other
      { c.slotAt key with flight := some ⟨c.nextRequest, (c.slotAt key).generation⟩ } c
    change Tallies other _ (Cache.slotAt other (c.setSlot key _))
    rw [slot]
    by_cases same : other = key
    · subst same
      rw [if_pos rfl]
      exact (recorded.tallies other).started caller c.nextRequest
    · rw [if_neg same]
      exact (recorded.tallies other).startedElsewhere caller c.nextRequest (Ne.symm same)

/-- The outcome of an attached request goes into the slot, any other outcome changes nothing. -/
theorem seen (recorded : Recorded h c) (caller : Nat) (isNew : Bool) (key : Key) (r : Nat) (outcome : Outcome V)
    (now : Nat) (joined : .joined caller key r isNew ∈ h) :
    Recorded (.seen key r outcome now :: h) (c.settle key r outcome now).1 := by
  have orderly : Orderly (.seen key r outcome now :: h) := ⟨⟨caller, isNew, joined⟩, recorded.orderly⟩
  by_cases on : attached key h = some r
  · have waits := ((recorded.tallies key).waitsFor_iff r).mpr on
    rw [Cache.settle_waiting key r outcome now c waits]
    refine ⟨orderly, recorded.numbered, Cache.keys_setSlot key _ c recorded.distinct, ?_⟩
    intro other
    rw [Cache.slotAt_setSlot]
    by_cases same : other = key
    · subst same
      rw [if_pos rfl]
      exact (recorded.tallies other).seen outcome now on
    · rw [if_neg same]
      exact (recorded.tallies other).seenElsewhere outcome now fun both => same both.1.symm
  · have detached := (recorded.tallies key).waitsFor_false on
    rw [Cache.settle_other key r outcome now c detached]
    refine ⟨orderly, recorded.numbered, recorded.distinct, ?_⟩
    intro other
    refine (recorded.tallies other).seenElsewhere outcome now ?_
    rintro ⟨rfl, again⟩
    exact on again

theorem invalidated (recorded : Recorded h c) (start : Key) :
    Recorded (.invalidated start :: h) (c.invalidate start).1 where
  orderly := ⟨trivial, recorded.orderly⟩
  numbered := recorded.numbered
  distinct := by
    rw [Cache.keys_invalidate]
    exact recorded.distinct
  tallies := by
    intro key
    have t := recorded.tallies key
    cases below : key.startsWith start with
    | false =>
      rw [Cache.slotAt_invalidate_other start key c below]
      exact t.invalidatedElsewhere below
    | true =>
      cases found : c.slot? key with
      | none =>
        have blank : c.slotAt key = {} := by simp [Cache.slotAt, found]
        rw [Cache.slotAt_invalidate_absent start key c found]
        exact (blank ▸ t).invalidatedAbsent start
      | some s =>
        have slot : c.slotAt key = s := by simp [Cache.slotAt, found]
        rw [Cache.slotAt_invalidate start key c s found below]
        exact (slot ▸ t).invalidated below

end Recorded

namespace Crowd

structure Sound (c : Crowd V) : Prop where
  recorded : Recorded c.history c.cache
  called : ∀ i key, .called i key ∈ c.history → ∃ v, c.visitors[i]? = some v ∧ v.key = key
  caller : ∀ i v, c.visitors[i]? = some v → .called i v.key ∈ c.history
  seen : ∀ key r outcome now, .seen key r outcome now ∈ c.history → (c.requests r).outcome = some outcome
  fits : ∀ i v, c.visitors[i]? = some v → Fits i v c.history c.requests v.stand

theorem Sound.fits_at {c : Crowd V} (sound : Sound c) {i : Nat} {v : Visitor V} {stand : Stand V}
    (here : c.visitors[i]? = some v) (stands : v.stand = stand) : Fits i v c.history c.requests stand :=
  stands ▸ sound.fits i v here

theorem sound_empty (options : CacheOptions) : Sound ({ cache := { options } } : Crowd V) where
  recorded := .empty options
  called := by simp
  caller := by simp
  seen := by simp
  fits := by simp

/-! The parts of a step that several moves share. -/

private theorem fits_later {i : Nat} {v : Visitor V} {h more : History V} {requests later : Nat → Attempts V}
    {stand : Stand V} (fits : Fits i v h requests stand) (inside : h ⊆ more)
    (others : ∀ e ∈ more, served? e = some i → e ∈ h)
    (kept : ∀ r outcome, (requests r).outcome = some outcome → (later r).outcome = some outcome) :
    Fits i v more later stand := by
  -- A visitor that was not served yet is not served by the new events either.
  have unserved (alone : Unserved i h) : Unserved i more := by
    intro e member serves
    exact alone e (others e member serves) serves
  cases stand with
  | looking => exact unserved fits
  | joining => exact unserved fits
  | waiting r =>
    obtain ⟨isNew, joined⟩ := fits
    exact ⟨isNew, inside joined⟩
  | settling r outcome =>
    obtain ⟨⟨isNew, joined⟩, finished⟩ := fits
    exact ⟨⟨isNew, inside joined⟩, kept r outcome finished⟩
  | answered source state =>
    obtain ⟨r, outcome, same, bound, finished, shown⟩ := fits
    refine ⟨r, outcome, same, ?_, kept r outcome finished, shown⟩
    rcases bound with hit | ⟨isNew, joined⟩
    · exact .inl (inside hit)
    · exact .inr ⟨isNew, inside joined⟩
  | gone => trivial

private theorem at_put {c : Crowd V} {i j : Nat} {v w : Visitor V} {stand : Stand V}
    (here : c.visitors[i]? = some v) (found : (c.put i v stand).visitors[j]? = some w) :
    (j = i ∧ w = { v with stand := stand }) ∨ (j ≠ i ∧ c.visitors[j]? = some w) := by
  by_cases same : j = i
  · subst same
    rw [put_visitor c j v stand here] at found
    exact .inl ⟨rfl, (Option.some.inj found).symm⟩
  · rw [put_other c i j v stand same] at found
    exact .inr ⟨same, found⟩

private theorem kept_by_put {c : Crowd V} {i j : Nat} {v : Visitor V} {stand : Stand V} {key : Key}
    (here : c.visitors[i]? = some v) (found : ∃ w, c.visitors[j]? = some w ∧ w.key = key) :
    ∃ w, (c.put i v stand).visitors[j]? = some w ∧ w.key = key := by
  obtain ⟨w, there, same⟩ := found
  by_cases equal : j = i
  · subst equal
    obtain rfl : v = w := Option.some.inj (here.symm.trans there)
    exact ⟨{ v with stand := stand }, put_visitor c j v stand here, same⟩
  · exact ⟨w, (put_other c i j v stand equal).trans there, same⟩

/-- A visitor takes a new stand without an event. Requests may go on, but what is finished stays. -/
private theorem sound_stand {c : Crowd V} (sound : Sound c) {i : Nat} {v : Visitor V} {stand : Stand V}
    (here : c.visitors[i]? = some v) (requests : Nat → Attempts V)
    (kept : ∀ r outcome, (c.requests r).outcome = some outcome → (requests r).outcome = some outcome)
    (fits : Fits i v c.history requests stand) : Sound { c.put i v stand with requests := requests } where
  recorded := sound.recorded
  called := fun j key member => kept_by_put here (sound.called j key member)
  caller := by
    intro j w found
    rcases at_put here found with ⟨rfl, rfl⟩ | ⟨-, there⟩
    · exact sound.caller j v here
    · exact sound.caller j w there
  seen := fun key r outcome now member => kept r outcome (sound.seen key r outcome now member)
  fits := by
    intro j w found
    rcases at_put here found with ⟨rfl, rfl⟩ | ⟨-, there⟩
    · exact fits
    · exact fits_later (sound.fits j w there) (List.Subset.refl _) (fun e member _ => member) kept

/-- A visitor takes a new stand with an event that serves nobody else. -/
private theorem sound_event {c : Crowd V} (sound : Sound c) {i : Nat} {v : Visitor V} {stand : Stand V}
    (here : c.visitors[i]? = some v) (cache : Cache V) (e : CacheEvent V) (recorded : Recorded (e :: c.history) cache)
    (noCall : ∀ j key, e ≠ .called j key) (serves : ∀ j, served? e = some j → j = i)
    (finished : ∀ key r outcome now, e = .seen key r outcome now → (c.requests r).outcome = some outcome)
    (fits : Fits i v (e :: c.history) c.requests stand) :
    Sound { c.put i v stand with cache := cache, history := e :: c.history } where
  recorded := recorded
  called := by
    intro j key member
    rcases List.mem_cons.mp member with same | before
    · exact absurd same.symm (noCall j key)
    · exact kept_by_put here (sound.called j key before)
  caller := by
    intro j w found
    rcases at_put here found with ⟨rfl, rfl⟩ | ⟨-, there⟩
    · exact List.mem_cons_of_mem e (sound.caller j v here)
    · exact List.mem_cons_of_mem e (sound.caller j w there)
  seen := by
    intro key r outcome now member
    rcases List.mem_cons.mp member with same | before
    · exact finished key r outcome now same.symm
    · exact sound.seen key r outcome now before
  fits := by
    intro j w found
    rcases at_put here found with ⟨rfl, rfl⟩ | ⟨differ, there⟩
    · exact fits
    · refine fits_later (sound.fits j w there) (List.subset_cons_self e _) ?_ (fun r outcome done => done)
      intro other member also
      rcases List.mem_cons.mp member with rfl | before
      · exact absurd (serves j also) differ
      · exact before

/-- Every event speaks of visitors that are there already. -/
private theorem new_visitor {c : Crowd V} (sound : Sound c) :
    Unserved c.visitors.length c.history ∧ ∀ key, .called c.visitors.length key ∉ c.history := by
  have absent (key : Key) : .called c.visitors.length key ∉ c.history := by
    intro member
    obtain ⟨v, found, -⟩ := sound.called _ key member
    exact absurd (List.getElem?_eq_some_iff.mp found).1 (Nat.lt_irrefl _)
  refine ⟨?_, absent⟩
  intro e member serves
  obtain ⟨key, called⟩ := sound.recorded.orderly.served_called member serves
  exact absent key called

private theorem at_append {visitors : List (Visitor V)} {v w : Visitor V} {j : Nat}
    (found : (visitors ++ [v])[j]? = some w) : visitors[j]? = some w ∨ (j = visitors.length ∧ w = v) := by
  rw [List.getElem?_append] at found
  split at found
  · exact .inl found
  · rename_i beyond
    obtain ⟨zero, same⟩ := List.getElem?_eq_some_iff.mp found
    rw [List.length_singleton] at zero
    exact .inr ⟨by omega, by simpa using same.symm⟩

private theorem sound_called {c : Crowd V} (sound : Sound c) (key : Key) (accepts : V → Bool) (stand : Stand V)
    (begun : stand = .looking ∨ stand = .joining) :
    Sound { c with
      visitors := c.visitors ++ [⟨key, accepts, stand⟩]
      history := .called c.visitors.length key :: c.history } := by
  obtain ⟨alone, absent⟩ := new_visitor sound
  refine ⟨sound.recorded.called _ key ⟨alone, absent⟩, ?_, ?_, ?_, ?_⟩
  · intro j other member
    rcases List.mem_cons.mp member with same | before
    · obtain ⟨rfl, rfl⟩ := CacheEvent.called.inj same
      exact ⟨⟨other, accepts, stand⟩, by simp, rfl⟩
    · obtain ⟨w, found, same⟩ := sound.called j other before
      have inside := (List.getElem?_eq_some_iff.mp found).1
      exact ⟨w, by simpa [List.getElem?_append_left inside] using found, same⟩
  · intro j w found
    rcases at_append found with old | ⟨rfl, rfl⟩
    · exact List.mem_cons_of_mem _ (sound.caller j w old)
    · exact List.mem_cons_self
  · intro other r outcome now member
    rcases List.mem_cons.mp member with same | before
    · simp at same
    · exact sound.seen other r outcome now before
  · intro j w found
    have others (i : Nat) (e : CacheEvent V) (member : e ∈ .called c.visitors.length key :: c.history)
        (serves : served? e = some i) : e ∈ c.history := by
      rcases List.mem_cons.mp member with rfl | before
      · simp [served?] at serves
      · exact before
    have inside : c.history ⊆ .called c.visitors.length key :: c.history := List.subset_cons_self _ _
    rcases at_append found with old | ⟨rfl, rfl⟩
    · exact fits_later (sound.fits j w old) inside (others j) (fun r outcome done => done)
    · have quiet : Unserved c.visitors.length (.called c.visitors.length key :: c.history) := by
        intro e member serves
        exact alone e (others _ e member serves) serves
      rcases begun with rfl | rfl
      · exact quiet
      · exact quiet

private theorem sound_invalidated {c : Crowd V} (sound : Sound c) (start : Key) (mutations : List (List Key)) :
    Sound { c.invalidated start with mutations := mutations } where
  recorded := sound.recorded.invalidated start
  called := by
    intro i key member
    rcases List.mem_cons.mp member with same | before
    · simp at same
    · exact sound.called i key before
  caller := fun i v found => List.mem_cons_of_mem _ (sound.caller i v found)
  seen := by
    intro key r outcome now member
    rcases List.mem_cons.mp member with same | before
    · simp at same
    · exact sound.seen key r outcome now before
  fits := by
    intro i v found
    refine fits_later (sound.fits i v found) (List.subset_cons_self _ _) ?_ (fun r outcome done => done)
    intro e member serves
    rcases List.mem_cons.mp member with rfl | before
    · simp [served?] at serves
    · exact before

/-- An answer at once comes from a settled outcome: the one its request ended with. -/
theorem hit_source {c : Crowd V} (sound : Sound c) (accepts : V → Bool) (now : Nat) (key : Key) (value : V)
    (fresh : c.cache.fresh? accepts now key = some value) :
    ∃ last, (settlements key c.history).head? = some last ∧ c.lastSource key = some last.request ∧
      outdated key c.history = false ∧ accepts value = true ∧
      (c.requests last.request).outcome = some (.ok value) := by
  have told := (Cache.fresh?_of_tallies accepts now key _ c.cache (sound.recorded.tallies key) value).mp fresh
  obtain ⟨last, found, good, accepted, current, -⟩ := told
  have seen := (settlement_seen (List.mem_of_head? found)).1
  refine ⟨last, found, by simp [lastSource, found], current, accepted, ?_⟩
  rw [← good]
  exact sound.seen key last.request last.outcome last.time seen

theorem sound_moved {c next : Crowd V} (sound : Sound c) (m : Moved c next) : Sound next := by
  cases m with
  | rest => exact sound
  | called key accepts stand begun => exact sound_called sound key accepts stand begun
  | hit i v now value here stands fresh =>
    obtain ⟨last, found, same, current, accepted, finished⟩ := hit_source sound v.accepts now v.key value fresh
    have alone : Unserved i c.history := sound.fits_at here stands
    have recorded := sound.recorded.hit i v.key (c.lastSource v.key)
      ⟨sound.caller i v here, alone, current, last, found, same⟩
    refine sound_event sound here c.cache _ recorded (by simp) (by simp [served?]) (by simp) ?_
    refine ⟨last.request, .ok value, same, .inl List.mem_cons_self, finished, ?_⟩
    simp [Cache.answerOf, Cache.shownAs, accepted]
  | missed i v here stands =>
    have fits := sound.fits_at here stands
    exact sound_stand sound here c.requests (fun r outcome done => done) fits
  | joined i v flight here stands under =>
    have fits := sound.fits_at here stands
    have recorded := sound.recorded.joined i v.key flight (sound.caller i v here) fits under
    exact sound_event sound here c.cache _ recorded (by simp) (by simp [served?]) (by simp)
      ⟨false, List.mem_cons_self⟩
  | started i v here stands idle =>
    have fits := sound.fits_at here stands
    have recorded := sound.recorded.started i v.key (sound.caller i v here) fits idle
    exact sound_event sound here _ _ recorded (by simp) (by simp [served?]) (by simp)
      ⟨true, List.mem_cons_self⟩
  | polled i v r attempts here stands kept =>
    have fits := sound.fits_at here stands
    have stays := outcome_moved (.polled i v r attempts here stands kept)
    refine sound_stand sound here _ stays ?_
    unfold afterPoll
    cases done : attempts.outcome with
    | none => exact fits
    | some outcome => exact ⟨fits, by simp [done]⟩
  | settled i v r outcome now here stands =>
    obtain ⟨⟨isNew, joined⟩, finished⟩ := sound.fits_at here stands
    have recorded := sound.recorded.seen i isNew v.key r outcome now joined
    refine sound_event sound here _ _ recorded (by simp) (by simp [served?]) ?_ ?_
    · intro key id result time same
      simp only [CacheEvent.seen.injEq] at same
      obtain ⟨-, rfl, rfl, -⟩ := same
      exact finished
    · exact ⟨r, outcome, rfl, .inr ⟨isNew, List.mem_cons_of_mem _ joined⟩, finished, rfl⟩
  | left i v here =>
    exact sound_stand sound here c.requests (fun r outcome done => done) trivial
  | mutated mutations => exact ⟨sound.recorded, sound.called, sound.caller, sound.seen, sound.fits⟩
  | invalidated start mutations => exact sound_invalidated sound start mutations

theorem sound_steps {c : Crowd V} (sound : Sound c) (moves : List (Move V)) : Sound (steps moves c) := by
  induction moves generalizing c with
  | nil => exact sound
  | cons m rest ih => exact ih (sound_moved sound (moved c m))

theorem sound_run (options : CacheOptions) (moves : List (Move V)) : Sound (run options moves) :=
  sound_steps (sound_empty options) moves

/-! What a sound crowd tells of a single visitor. -/

/-- A visitor has joined the request it is bound to, or was answered at once by its outcome. -/
theorem bound_of_stand {c : Crowd V} (sound : Sound c) {i r : Nat} {v : Visitor V}
    (here : c.visitors[i]? = some v) (bound : v.stand.request? = some r) :
    .hit i v.key (some r) ∈ c.history ∨ ∃ isNew, .joined i v.key r isNew ∈ c.history := by
  have fits := sound.fits i v here
  cases stands : v.stand with
  | waiting request =>
    rw [stands] at fits bound
    obtain rfl : request = r := Option.some.inj bound
    exact .inr fits
  | settling request outcome =>
    rw [stands] at fits bound
    obtain rfl : request = r := Option.some.inj bound
    exact .inr fits.1
  | answered source state =>
    rw [stands] at fits bound
    obtain rfl : source = some r := bound
    obtain ⟨request, outcome, same, there, -, -⟩ := fits
    obtain rfl : r = request := Option.some.inj same
    exact there
  | looking => simp [stands, Stand.request?] at bound
  | joining => simp [stands, Stand.request?] at bound
  | gone => simp [stands, Stand.request?] at bound

/-- An answer is the outcome of the request it came from, as the visitor's type shows it. -/
theorem answer_outcome {c : Crowd V} (sound : Sound c) {i : Nat} {v : Visitor V} {source : Option Nat}
    {state : QueryState V} (here : c.visitors[i]? = some v) (stands : v.stand = .answered source state) :
    ∃ r outcome, source = some r ∧ (c.requests r).outcome = some outcome ∧
      state = Outcome.shownTo v.accepts v.key outcome := by
  obtain ⟨r, outcome, same, -, finished, shown⟩ := sound.fits_at here stands
  rw [Cache.answerOf_shownTo] at shown
  exact ⟨r, outcome, same, finished, shown⟩

end Crowd
end TradingDesk
