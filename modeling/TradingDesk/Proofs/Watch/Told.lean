import TradingDesk.Proofs.Watch.Quiet

/-! What those that wait for portfolios are told, and what the cache keeps of it. Whoever is told the outcome of a
request that the slot waits for is told what the slot then holds. The outcome of any other request is told all
the same, and the slot does not take it. -/

namespace TradingDesk
namespace Watch
open Query Traffic

/-- What the cache says of the portfolios. -/
def listed (w : Watch) : QueryState (List Portfolio) :=
  (w.traffic.cache.state Cached.arePortfolios portfoliosKey).narrow Cached.portfolios?

/-- The slot of the portfolios waits for this request. -/
def awaits (r : Nat) (w : Watch) : Bool :=
  (w.traffic.cache.slotAt portfoliosKey).waitsFor r

def shownOf (outcome : Outcome Cached) : QueryState (List Portfolio) :=
  (Cache.answerOf Cached.arePortfolios portfoliosKey outcome).narrow Cached.portfolios?

private theorem listed_of_parts {w next : Watch}
    (error : (next.traffic.cache.slotAt portfoliosKey).error = (w.traffic.cache.slotAt portfoliosKey).error)
    (data : (next.traffic.cache.slotAt portfoliosKey).data = (w.traffic.cache.slotAt portfoliosKey).data) :
    listed next = listed w := by
  unfold listed
  rw [Cache.state_slotAt, Cache.state_slotAt, error, data]

theorem listed_of_slot {w next : Watch}
    (slot : next.traffic.cache.slotAt portfoliosKey = w.traffic.cache.slotAt portfoliosKey) :
    listed next = listed w :=
  listed_of_parts (by rw [slot]) (by rw [slot])

private theorem state_settled (accepts : Cached → Bool) (key : Key) (s : Slot Cached) (outcome : Outcome Cached)
    (now : Nat) (c : Cache Cached) (slot : c.slotAt key = s.settled outcome now) :
    c.state accepts key = Cache.answerOf accepts key outcome := by
  rw [Cache.state_slotAt, slot]
  cases outcome with
  | ok v => rfl
  | error e => rfl

private theorem state_of_fresh (accepts : Cached → Bool) (now : Nat) (key : Key) (c : Cache Cached) (v : Cached)
    (fresh : c.fresh? accepts now key = some v) : c.state accepts key = .data v := by
  rw [Cache.fresh?_slotAt] at fresh
  split at fresh
  · simp at fresh
  · rename_i usable
    obtain ⟨data, accepted⟩ := Option.filter_eq_some_iff.mp fresh
    have noError : (c.slotAt key).error = none := by
      cases error : (c.slotAt key).error with
      | none => rfl
      | some text => simp [error] at usable
    rw [Cache.state_slotAt, noError, data]
    simp [Cache.shownAs, accepted]

theorem seated_settled {t : Traffic Cached} (seated : Seated t) (r : Nat) (outcome : Outcome Cached) (now : Nat) :
    Seated { t with cache := (t.cache.settle portfoliosKey r outcome now).1 } := by
  refine ⟨seated.distinct, seated.load, seated.poller, ?_⟩
  intro flight under
  change ((t.cache.settle portfoliosKey r outcome now).1.slotAt portfoliosKey).flight = some flight at under
  change flight.generation = ((t.cache.settle portfoliosKey r outcome now).1.slotAt portfoliosKey).generation
  rw [Cache.slotAt_settle] at under ⊢
  split at under
  · simp [Cache.flight_settled] at under
  · rename_i other
    rw [if_neg other]
    exact seated.generation flight under

theorem seated_drop {t : Traffic Cached} (seated : Seated t) (name : String) (differ : name ≠ Poller.callerName) :
    Seated (t.drop name) := by
  refine ⟨seated.distinct.drop name, ?_, ?_, seated.generation⟩
  · intro other caller found apart
    rw [lookup_drop] at found
    split at found
    · simp at found
    · exact seated.load other caller found apart
  · intro caller found
    rw [lookup_drop, if_neg (Ne.symm differ)] at found
    exact seated.poller caller found

/-- What has gone on between two watches, `states` being what was told in between about request `r`. -/
structure Telling (r : Nat) (w next : Watch) (states : List (QueryState (List Portfolio))) : Prop where
  steady : Steady next
  loads : ∀ name caller, name ≠ Poller.callerName → next.traffic.callers.lookup name = some caller →
    w.traffic.callers.lookup name = some caller
  notices : next.notices = w.notices ++ states.map .portfolios
  screen : next.dashboard.portfolios = w.dashboard.portfolios
  awaits : next.awaits r = (w.awaits r && states.isEmpty)
  listed : next.listed = if w.awaits r then states.getLast?.getD w.listed else w.listed
  finished : ∀ state ∈ states,
    ∃ outcome, (next.traffic.request r).outcome = some outcome ∧ state = shownOf outcome

private theorem told_parts (polled : Polled Cached) (w : Watch) : (w.told polled).traffic = w.traffic ∧
    (w.told polled).poller = w.poller ∧ (w.told polled).dashboard = w.dashboard ∧
    (w.told polled).notices = w.notices ++
      (polled.state.map fun state => Notice.portfolios (state.narrow Cached.portfolios?)).toList := by
  unfold told
  cases polled.state with
  | none => exact ⟨rfl, rfl, rfl, (List.append_nil _).symm⟩
  | some state => exact ⟨rfl, rfl, rfl, rfl⟩

namespace Telling

variable {r : Nat} {w mid next : Watch} {states : List (QueryState (List Portfolio))}

theorem refl (steady : Steady w) : Telling r w w [] where
  steady := steady
  loads := fun name caller differ found => found
  notices := by simp
  screen := rfl
  awaits := by simp
  listed := by simp
  finished := by simp

theorem quiet (telling : Telling r w mid states) (quiet : Quiet mid next) : Telling r w next states where
  steady := quiet.steady
  loads := by
    intro name caller differ found
    rw [quiet.aside.loads name differ] at found
    exact telling.loads name caller differ found
  notices := quiet.notices.trans telling.notices
  screen := quiet.screen.trans telling.screen
  awaits := by
    rw [← telling.awaits]
    unfold Watch.awaits
    rw [quiet.aside.slot]
  listed := (listed_of_slot quiet.aside.slot).trans telling.listed
  finished := by
    intro state member
    obtain ⟨outcome, done, same⟩ := telling.finished state member
    exact ⟨outcome, quiet.aside.outcomes r outcome done, same⟩

/-- Everything that is told about a request is the same. -/
private theorem agree (telling : Telling r w mid states) (caller : Caller Cached) (same : caller.request = r)
    (world : Traffic.World Cached) (now : Nat) (outcome : Outcome Cached)
    (finished : (driven world now caller mid.traffic).outcome = some outcome)
    (state : QueryState (List Portfolio)) (member : state ∈ states) : state = shownOf outcome := by
  obtain ⟨old, done, shown⟩ := telling.finished state member
  rw [← same] at done
  rw [driven_finished world now caller mid.traffic old done, done] at finished
  rw [shown, Option.some.inj finished]

private theorem awaited (telling : Telling r w mid states) (waits : mid.awaits r = true) : w.awaits r = true := by
  have told := telling.awaits
  rw [waits] at told
  exact (Bool.and_eq_true_iff.mp told.symm).1

/-- The slot gave up the request only when its outcome was told. -/
private theorem spoken (telling : Telling r w mid states) (waits : mid.awaits r = false)
    (on : w.awaits r = true) : states ≠ [] := by
  have told := telling.awaits
  rw [waits, on, Bool.true_and] at told
  intro silent
  simp [silent] at told

/-- What the cache lists once the outcome was brought to the slot. -/
private theorem listed_settled (telling : Telling r w mid states) (outcome : Outcome Cached) (now : Nat)
    (agree : ∀ state ∈ states, state = shownOf outcome)
    (slot : next.traffic.cache.slotAt portfoliosKey =
      if mid.awaits r then (mid.traffic.cache.slotAt portfoliosKey).settled outcome now
      else mid.traffic.cache.slotAt portfoliosKey) :
    next.listed = if w.awaits r then shownOf outcome else w.listed := by
  cases waits : mid.awaits r with
  | true =>
    rw [waits, if_pos rfl] at slot
    rw [telling.awaited waits, if_pos rfl]
    unfold Watch.listed shownOf
    rw [state_settled Cached.arePortfolios portfoliosKey _ outcome now _ slot]
  | false =>
    rw [waits, if_neg Bool.false_ne_true] at slot
    rw [listed_of_slot slot, telling.listed]
    cases on : w.awaits r with
    | false => rfl
    | true =>
      -- The request was told before, and all it tells is the same.
      have some := telling.spoken waits on
      rw [if_pos rfl, if_pos rfl, List.getLast?_eq_some_getLast some]
      exact agree _ (List.getLast_mem some)

section Poll

variable (telling : Telling r w mid states) (name : String) (caller : Caller Cached)
  (differ : name ≠ Poller.callerName) (load : caller.key = portfoliosKey ∧ caller.accepts = Cached.arePortfolios)
  (same : caller.request = r) (traffic : next.traffic = (mid.traffic.pollCaller mid.world mid.now name caller).1)
  (poller : next.poller = mid.poller) (screen : next.dashboard.portfolios = mid.dashboard.portfolios)
  (notices : next.notices = mid.notices ++ ((mid.traffic.pollCaller mid.world mid.now name caller).2.state.map
    fun state => .portfolios (state.narrow Cached.portfolios?)).toList)

include telling traffic poller screen notices

private theorem unfinished (goesOn : (driven mid.world mid.now caller mid.traffic).outcome = none) :
    Telling r w next states := by
  obtain ⟨after, silent⟩ := pollCaller_unfinished mid.world mid.now name caller mid.traffic goesOn
  refine telling.quiet ⟨?_, ?_, ?_, screen⟩
  · rw [traffic, after]
    exact Aside.setRequest telling.steady.seated mid.world mid.now caller
  · rw [poller]
    exact telling.steady.poller
  · rw [notices, silent]
    simp

include differ load same

private theorem ended (outcome : Outcome Cached)
    (finished : (driven mid.world mid.now caller mid.traffic).outcome = some outcome) :
    Telling r w next (states ++ [shownOf outcome]) := by
  subst same
  have set := Aside.setRequest telling.steady.seated mid.world mid.now caller
  have settled := seated_settled set.seated caller.request outcome mid.now
  obtain ⟨after, tells⟩ := pollCaller_finished mid.world mid.now name caller mid.traffic outcome finished
  have agree := telling.agree caller rfl mid.world mid.now outcome finished
  have slot : next.traffic.cache.slotAt portfoliosKey =
      if mid.awaits caller.request then (mid.traffic.cache.slotAt portfoliosKey).settled outcome mid.now
      else mid.traffic.cache.slotAt portfoliosKey := by
    rw [traffic, after, load.1]
    exact Cache.slotAt_settle portfoliosKey caller.request outcome mid.now mid.traffic.cache
  refine ⟨⟨?_, ?_⟩, ?_, ?_, screen.trans telling.screen, ?_, ?_, ?_⟩
  · rw [traffic, after, load.1]
    exact seated_drop settled name differ
  · rw [poller]
    exact telling.steady.poller
  · intro other waiting apart found
    rw [traffic, after, lookup_drop] at found
    split at found
    · simp at found
    · exact telling.loads other waiting apart found
  · rw [notices, tells, load.1, load.2, telling.notices]
    simp [shownOf]
  · rw [Watch.awaits, slot]
    cases waits : mid.awaits caller.request with
    | true => simp [Slot.waitsFor, Cache.flight_settled]
    | false =>
      have off : (mid.traffic.cache.slotAt portfoliosKey).waitsFor caller.request = false := waits
      simp [off]
  · rw [List.getLast?_concat, Option.getD_some]
    exact telling.listed_settled outcome mid.now agree slot
  · intro state member
    refine ⟨outcome, ?_, ?_⟩
    · rw [traffic, after]
      change ((mid.traffic.setRequest caller.request _).request caller.request).outcome = some outcome
      rw [request_setRequest, if_pos rfl]
      exact finished
    · rcases List.mem_append.mp member with old | new
      · exact agree state old
      · exact List.mem_singleton.mp new

/-- One of those that wait for the request is polled, and posts what it is told. -/
theorem polled : ∃ more, Telling r w next (states ++ more) := by
  cases finished : (driven mid.world mid.now caller mid.traffic).outcome with
  | none =>
    refine ⟨[], ?_⟩
    rw [List.append_nil]
    exact telling.unfinished name caller traffic poller screen notices finished
  | some outcome =>
    exact ⟨_, telling.ended name caller differ load same traffic poller screen notices outcome finished⟩

end Poll

theorem wake (telling : Telling r w mid states) (name : String)
    (waits : name ≠ Poller.callerName → ∀ caller, w.traffic.callers.lookup name = some caller →
      caller.request = r) : ∃ more, Telling r w (mid.wake name) (states ++ more) := by
  unfold Watch.wake
  by_cases polls : name = Poller.callerName
  · rw [if_pos polls]
    refine ⟨[], ?_⟩
    rw [List.append_nil]
    exact telling.quiet (quiet_runPoller telling.steady)
  · rw [if_neg polls]
    unfold Traffic.poll
    cases found : mid.traffic.callers.lookup name with
    | none =>
      refine ⟨[], ?_⟩
      rw [List.append_nil]
      exact telling
    | some caller =>
      have load := telling.steady.seated.load name caller found polls
      have same := waits polls caller (telling.loads name caller polls found)
      obtain ⟨traffic, poller, dashboard, notices⟩ := told_parts
        (mid.traffic.pollCaller mid.world mid.now name caller).2 (mid.moved .portfolios _ _)
      exact telling.polled name caller polls load same traffic poller
        (congrArg Dashboard.portfolios dashboard) notices

private theorem wakes (telling : Telling r w mid states) (names : List String)
    (waits : ∀ name ∈ names, name ≠ Poller.callerName → ∀ caller,
      w.traffic.callers.lookup name = some caller → caller.request = r) :
    ∃ more, Telling r w (names.foldl (fun w name => w.wake name) mid) (states ++ more) := by
  induction names generalizing mid states with
  | nil => exact ⟨[], by simpa using telling⟩
  | cons name rest ih =>
    obtain ⟨first, woken⟩ := telling.wake name (waits name List.mem_cons_self)
    obtain ⟨more, done⟩ := ih woken fun other member => waits other (List.mem_cons_of_mem name member)
    exact ⟨first ++ more, by simpa using done⟩

end Telling

theorem telling_answer {w : Watch} (steady : Steady w) (place r attempt : Nat) (o : Outcome Cached)
    (out : w.calls[place]? = some (.query r attempt)) : ∃ states, Telling r w (w.answer place o) states := by
  simp only [answer, out]
  have base : Telling r w
      { w with calls := w.calls.eraseIdx place, arrived := ((r, attempt), o) :: w.arrived } [] :=
    (Telling.refl steady).quiet (.same steady rfl rfl rfl rfl)
  refine base.wakes _ ?_
  intro name member apart caller found
  simp only [callersOf, List.mem_reverse, List.mem_map, List.mem_filter, decide_eq_true_eq] at member
  obtain ⟨⟨other, waiting⟩, ⟨present, same⟩, rfl⟩ := member
  have there := steady.seated.distinct.lookup present
  obtain rfl : waiting = caller := Option.some.inj (there.symm.trans found)
  exact same

/-! A load begins. -/

theorem load_apart (n : Nat) : "load " ++ toString n ≠ Poller.callerName := by
  intro same
  have first := congrArg (fun s => s.toList.head?) same
  simp [Poller.callerName, String.toList_append] at first

private theorem seated_joined {t : Traffic Cached} (seated : Seated t) (name : String)
    (differ : name ≠ Poller.callerName) : Seated (t.joined name Cached.arePortfolios portfoliosKey) := by
  refine ⟨seated.distinct.joined _ _ _, ?_, ?_, ?_⟩
  · intro other caller found apart
    rw [lookup_joined] at found
    split at found
    · obtain rfl := Option.some.inj found
      exact ⟨rfl, rfl⟩
    · exact seated.load other caller found apart
  · intro caller found
    rw [lookup_joined, if_neg (Ne.symm differ)] at found
    exact seated.poller caller found
  · obtain ⟨joins, -, slot, current⟩ := Cache.slotAt_joinOrStart portfoliosKey t.cache
    intro flight under
    change ((t.cache.joinOrStart portfoliosKey).1.slotAt portfoliosKey).flight = some flight at under
    change flight.generation = ((t.cache.joinOrStart portfoliosKey).1.slotAt portfoliosKey).generation
    rw [slot] at under ⊢
    obtain rfl : joins = flight := Option.some.inj under
    rcases current with same | there
    · exact same
    · exact seated.generation joins there

private theorem joined_load {w : Watch} (steady : Steady w) (name : String) (differ : name ≠ Poller.callerName) :
    let mid : Watch := { w with traffic := w.traffic.joined name Cached.arePortfolios portfoliosKey }
    Steady mid ∧ mid.awaits (w.traffic.cache.joinOrStart portfoliosKey).2.1 = true ∧ mid.listed = w.listed := by
  obtain ⟨flight, id, slot, current⟩ := Cache.slotAt_joinOrStart portfoliosKey w.traffic.cache
  have generation : flight.generation = (w.traffic.cache.slotAt portfoliosKey).generation := by
    rcases current with same | there
    · exact same
    · exact steady.seated.generation flight there
  refine ⟨⟨seated_joined steady.seated name differ, steady.poller⟩, ?_, ?_⟩
  · change ((w.traffic.cache.joinOrStart portfoliosKey).1.slotAt portfoliosKey).waitsFor _ = true
    rw [slot]
    simp [Slot.waitsFor, id, generation]
  · have error := congrArg Slot.error slot
    have data := congrArg Slot.data slot
    exact listed_of_parts error data

/-- A load that begins is told what the slot holds, if it is told anything. -/
theorem told_beginLoad {w : Watch} (steady : Steady w) (mode : FetchMode) :
    ∃ states : List (QueryState (List Portfolio)), Steady (w.beginLoad mode) ∧
      (w.beginLoad mode).notices = w.notices ++ states.map .portfolios ∧
      (w.beginLoad mode).dashboard.portfolios = w.dashboard.portfolios ∧
      (w.beginLoad mode).listed = states.getLast?.getD w.listed := by
  have apart := load_apart w.loads
  unfold beginLoad
  generalize "load " ++ toString w.loads = name at apart
  rcases start_cases w.world w.now name mode Cached.arePortfolios portfoliosKey w.traffic with
    ⟨v, fresh, hits⟩ | ⟨_, joins⟩
  · have shows := state_of_fresh Cached.arePortfolios w.now portfoliosKey w.traffic.cache v fresh
    simp only [hits]
    refine ⟨[(QueryState.data v).narrow Cached.portfolios?], ⟨steady.seated, steady.poller⟩, rfl, rfl, ?_⟩
    change (w.traffic.cache.state Cached.arePortfolios portfoliosKey).narrow Cached.portfolios? = _
    rw [shows]
    rfl
  · simp only [joins]
    obtain ⟨ready, waits, unchanged⟩ := joined_load steady name apart
    obtain ⟨traffic, poller, dashboard, notices⟩ := told_parts
      ((w.traffic.joined name Cached.arePortfolios portfoliosKey).pollCaller w.world w.now name
        ⟨portfoliosKey, (w.traffic.cache.joinOrStart portfoliosKey).2.1, Cached.arePortfolios⟩).2
      (Watch.moved .portfolios _ _ { w with loads := w.loads + 1 })
    obtain ⟨states, telling⟩ := (Telling.refl ready).polled name _ apart ⟨rfl, rfl⟩ rfl traffic poller
      (congrArg Dashboard.portfolios dashboard) notices
    have shows := telling.listed
    rw [waits, if_pos rfl, unchanged] at shows
    exact ⟨states, telling.steady, telling.notices, telling.screen, shows⟩

/-! A removal is answered. -/

/-- The slot lets go of its request and keeps what it holds. -/
private theorem invalidate_portfolios {w next : Watch} (steady : Steady w)
    (traffic : next.traffic = { w.traffic with cache := (w.traffic.cache.invalidate portfoliosKey).1 }) :
    Seated next.traffic ∧ next.listed = w.listed := by
  have seated := steady.seated
  have below : portfoliosKey.startsWith portfoliosKey = true := by decide
  cases found : w.traffic.cache.slot? portfoliosKey with
  | none =>
    have slot : next.traffic.cache.slotAt portfoliosKey = w.traffic.cache.slotAt portfoliosKey := by
      rw [traffic]
      change (w.traffic.cache.invalidate portfoliosKey).1.slotAt portfoliosKey = _
      rw [Cache.slotAt_invalidate_absent portfoliosKey portfoliosKey w.traffic.cache found, Cache.slotAt, found]
      rfl
    refine ⟨⟨?_, ?_, ?_, slot ▸ seated.generation⟩, listed_of_slot slot⟩
    · rw [traffic]; exact seated.distinct
    · rw [traffic]; exact seated.load
    · rw [traffic]; exact seated.poller
  | some s =>
    have held : w.traffic.cache.slotAt portfoliosKey = s := by rw [Cache.slotAt, found]; rfl
    have slot : next.traffic.cache.slotAt portfoliosKey = s.invalidated := by
      rw [traffic]
      exact Cache.slotAt_invalidate portfoliosKey portfoliosKey w.traffic.cache s found below
    refine ⟨⟨?_, ?_, ?_, ?_⟩, listed_of_parts ?_ ?_⟩
    · rw [traffic]; exact seated.distinct
    · rw [traffic]; exact seated.load
    · rw [traffic]; exact seated.poller
    · intro flight under
      rw [slot] at under
      simp [Slot.invalidated] at under
    · rw [slot, held]; rfl
    · rw [slot, held]; rfl

theorem mutate_portfolios {w : Watch} (steady : Steady w) (o : Outcome Unit) (next : Watch)
    (traffic : next.traffic = { w.traffic with cache := (w.traffic.cache.mutate o [portfoliosKey]).1 }) :
    Seated next.traffic ∧ next.listed = w.listed := by
  cases o with
  | ok done => exact invalidate_portfolios steady traffic
  | error e =>
    refine ⟨?_, listed_of_slot ?_⟩
    · rw [traffic]
      exact steady.seated
    · rw [traffic]
      rfl

end Watch
end TradingDesk
