import TradingDesk.Proofs.Cache.Alone

/-! What a move of a crowd is to the part of a key: the same move there, when it is made for the key or reaches it,
and nothing otherwise. -/

namespace TradingDesk
open History

variable {V : Type}

namespace Crowd

theorem apart_number (key : Key) (c : Crowd V) : Apart key (c.number key) c.history := by
  intro r r' on _ same
  exact (List.idxOf_inj (mem_begun.mpr on)).mp same

section Numbers

variable {c : Crowd V} (sound : Sound c) {key : Key}

include sound

theorem lastSource_only : (c.only key).lastSource key = (c.lastSource key).map (c.number key) := by
  have settled : settlements key (within key (c.seat key) (c.number key) c.history) =
      (settlements key c.history).map (Settlement.numbered (c.number key)) :=
    (reads_within sound.recorded.orderly (apart_number key c)).2
  unfold lastSource
  change (settlements key (within key (c.seat key) (c.number key) c.history)).head?.map _ = _
  rw [settled, List.head?_map, Option.map_map, Option.map_map]
  rfl

theorem flight_begun (f : Flight) (under : (c.cache.slotAt key).flight = some f) :
    f.id ∈ begun key c.history := by
  have on := (sound.recorded.tallies key).flight
  rw [under] at on
  exact mem_begun.mpr (attached_started on.symm)

theorem request_begun {i : Nat} {v : Visitor V} (here : c.visitors[i]? = some v) (r : Nat)
    (bound : v.stand.request? = some r) : r ∈ begun v.key c.history := by
  have fits := sound.fits i v here
  have o := sound.recorded.orderly
  cases stands : v.stand with
  | waiting request =>
    rw [stands] at fits bound
    obtain rfl := Option.some.inj bound
    obtain ⟨isNew, joined⟩ := fits
    exact mem_begun.mpr (o.joined_started joined)
  | settling request outcome =>
    rw [stands] at fits bound
    obtain rfl := Option.some.inj bound
    obtain ⟨⟨isNew, joined⟩, -⟩ := fits
    exact mem_begun.mpr (o.joined_started joined)
  | answered source state =>
    rw [stands] at fits bound
    obtain ⟨request, outcome, same, hit | ⟨isNew, joined⟩, -, -⟩ := fits
    · obtain ⟨last, settled, source⟩ := o.hit_settled hit
      obtain rfl : r = last.request := Option.some.inj (Eq.trans (Eq.symm bound) source)
      exact mem_begun.mpr (settlement_seen settled).2
    · obtain rfl : r = request := Option.some.inj (Eq.trans (Eq.symm bound) same)
      exact mem_begun.mpr (o.joined_started joined)
  | looking => simp [stands, Stand.request?] at bound
  | joining => simp [stands, Stand.request?] at bound
  | gone => simp [stands, Stand.request?] at bound

end Numbers

/-- Nobody has asked for a request that was not begun. -/
def Blank (c : Crowd V) : Prop :=
  ∀ r, c.cache.nextRequest ≤ r → c.requests r = {}

theorem blank_moved {c next : Crowd V} (sound : Sound c) (blank : Blank c) (m : Moved c next) : Blank next := by
  cases m with
  | polled i v r attempts here stands kept =>
    intro other late
    have old : r < c.cache.nextRequest := by
      have on := mem_begun.mp (request_begun sound here r (by rw [stands]; rfl))
      exact sound.recorded.numbered r (mem_started.mpr ⟨v.key, on⟩)
    have differ : other ≠ r := by
      rintro rfl
      exact absurd old (Nat.not_lt.mpr late)
    change Function.update c.requests r attempts other = {}
    rw [Function.update_of_ne differ]
    exact blank other late
  | settled i v r outcome now here stands =>
    intro other late
    refine blank other ?_
    rwa [← Cache.nextRequest_settle v.key r outcome now c.cache]
  | started i v here stands idle => exact fun other late => blank other (Nat.le_of_succ_le late)
  | rest => exact blank
  | called key accepts stand begun => exact blank
  | hit i v now value here stands fresh => exact blank
  | missed i v here stands => exact blank
  | joined i v flight here stands under => exact blank
  | left i v here => exact blank
  | mutated mutations => exact blank
  | invalidated start mutations => exact blank

/-- The first free number goes to the request begun next. -/
private theorem only_begin {c : Crowd V} (sound : Sound c) (blank : Blank c) {key : Key} {accepts : V → Bool}
    {i : Nat} (here : c.visitors[i]? = some ⟨key, accepts, .joining⟩)
    (idle : (c.cache.slotAt key).flight = none) :
    ({ c.put i ⟨key, accepts, .joining⟩ (.waiting c.cache.nextRequest) with
        cache := { c.cache.setSlot key { c.cache.slotAt key with
            flight := some ⟨c.cache.nextRequest, (c.cache.slotAt key).generation⟩ } with
          nextRequest := c.cache.nextRequest + 1 }
        history := .joined i key c.cache.nextRequest true :: c.history } : Crowd V).only key =
      { (c.only key).put (c.seat key i) ⟨key, accepts, .joining⟩ (.waiting (c.only key).cache.nextRequest) with
        cache := ((c.only key).cache.joinOrStart key).1
        history := .joined (c.seat key i) key (c.only key).cache.nextRequest true :: (c.only key).history } := by
  let begun := begun key c.history
  let next := c.cache.nextRequest
  let renumbered := (begun ++ [next]).idxOf
  have new : next ∉ begun := by
    intro old
    exact absurd (sound.recorded.numbered _ (mem_started.mpr ⟨key, mem_begun.mp old⟩)) (Nat.lt_irrefl _)
  have last : renumbered next = begun.length := by simp [renumbered, List.idxOf_append_of_notMem new]
  have kept (r : Nat) (on : StartedOn key r c.history) : renumbered r = c.number key r :=
    List.idxOf_append_of_mem (mem_begun.mpr on)
  have cache := Cache.only_start key begun c.cache next idle new (next + 1)
  have requests : requestsOf (begun ++ [next]) c.requests = requestsOf begun c.requests :=
    requestsOf_new next c.requests (blank next (Nat.le_refl _))
  have visitors : (c.visitors.filter fun v => v.key = key).map (Visitor.numbered renumbered) =
      (c.visitors.filter fun v => v.key = key).map (Visitor.numbered (c.number key)) := by
    refine List.map_congr_left ?_
    intro v member
    obtain ⟨found, mine⟩ := List.mem_filter.mp member
    obtain ⟨j, there⟩ := List.mem_iff_getElem?.mp found
    obtain rfl : v.key = key := by simpa using mine
    unfold Visitor.numbered
    rw [Stand.numbered_congr renumbered (c.number v.key) v.stand]
    intro r bound
    exact kept r (mem_begun.mp (request_begun sound there r bound))
  have moved := visitors_put here rfl (.waiting next) renumbered
  have history : within key (c.seat key) renumbered (.joined i key next true :: c.history) =
      .joined (c.seat key i) key begun.length true :: within key (c.seat key) (c.number key) c.history := by
    rw [within_some (by simp only [CacheEvent.within, if_true]; rfl), last,
      within_congr sound.recorded.orderly (c.seat key) renumbered (fun i k called => rfl) kept]
  rw [only, begun_joined]
  change reduced key (begun ++ [next]) ((c.put i _ _).seat key) _ = _
  rw [seat_put here]
  refine of_parts cache requests ?_ rfl history
  change ((c.put i ⟨key, accepts, .joining⟩ (.waiting next)).visitors.filter fun v => v.key = key).map
    (Visitor.numbered renumbered) = _
  rw [moved, visitors]
  change _ = ((c.visitors.filter fun v => v.key = key).map (Visitor.numbered (c.number key))).set (c.seat key i)
    ⟨key, accepts, .waiting begun.length⟩
  rw [← last]
  rfl

/-! The moves of a visitor. -/

section Here

variable {c : Crowd V} (sound : Sound c) {key : Key} {accepts : V → Bool} {i : Nat} (now : Nat)
  (ready : Nat → Nat → Option (Outcome V))

include sound

private theorem only_look (here : c.visitors[i]? = some ⟨key, accepts, .looking⟩) :
    (c.advance i ⟨key, accepts, .looking⟩ now ready).only key =
      (c.only key).advance (c.seat key i) ⟨key, accepts, .looking⟩ now ready := by
  have same : (c.only key).cache.fresh? accepts now key = c.cache.fresh? accepts now key := Cache.fresh?_only ..
  simp only [advance, same, lastSource_only sound]
  cases c.cache.fresh? accepts now key with
  | none => exact only_put here rfl .joining
  | some value =>
    exact only_event here rfl rfl (.answered (c.lastSource key) (.data value)) c.cache
      (by simp only [CacheEvent.within, if_true])

private theorem only_join (blank : Blank c) (here : c.visitors[i]? = some ⟨key, accepts, .joining⟩) :
    (c.advance i ⟨key, accepts, .joining⟩ now ready).only key =
      (c.only key).advance (c.seat key i) ⟨key, accepts, .joining⟩ now ready := by
  have slot : (c.only key).cache.slotAt key = (c.cache.slotAt key).numbered (c.number key) :=
    Cache.slotAt_only ..
  cases under : (c.cache.slotAt key).flight with
  | some flight =>
    have also : ((c.only key).cache.slotAt key).flight = some ⟨c.number key flight.id, flight.generation⟩ := by
      rw [slot, Slot.numbered, under]
      rfl
    simp only [advance, Cache.joinOrStart_flight key _ _ under, Cache.joinOrStart_flight key _ _ also]
    exact only_event here rfl rfl (.waiting flight.id) c.cache (by simp only [CacheEvent.within, if_true])
  | none =>
    have idle : ((c.only key).cache.slotAt key).flight = none := by
      rw [slot, Slot.numbered, under]
      rfl
    simp only [advance, Cache.joinOrStart_start key _ under]
    rw [only_begin sound blank here under, Cache.joinOrStart_start key _ idle]

private theorem only_poll (r : Nat) (here : c.visitors[i]? = some ⟨key, accepts, .waiting r⟩) :
    (c.advance i ⟨key, accepts, .waiting r⟩ now ready).only key =
      (c.only key).advance (c.seat key i) ⟨key, accepts, .waiting (c.number key r)⟩ now ready := by
  have inside : r ∈ begun key c.history := request_begun sound here r rfl
  have request : (c.only key).requests (c.number key r) = c.requests r := requestsOf_number inside c.requests
  have options : (c.only key).cache.options = c.cache.options := rfl
  simp only [advance, request, options]
  generalize ((c.requests r).drive c.cache.options.retries ready now).1 = attempts
  have after : (afterPoll r attempts).numbered (c.number key) = afterPoll (c.number key r) attempts := by
    unfold afterPoll
    cases attempts.outcome <;> rfl
  have moved := only_put here rfl (afterPoll r attempts)
  rw [after] at moved
  have updated := requestsOf_update (sound.recorded.orderly.begun_nodup key) inside c.requests attempts
  have cache := congrArg Crowd.cache moved
  have visitors := congrArg Crowd.visitors moved
  have mutations := congrArg Crowd.mutations moved
  have history := congrArg Crowd.history moved
  exact of_parts cache updated visitors mutations history

private theorem only_bring (r : Nat) (outcome : Outcome V)
    (here : c.visitors[i]? = some ⟨key, accepts, .settling r outcome⟩) :
    (c.advance i ⟨key, accepts, .settling r outcome⟩ now ready).only key =
      (c.only key).advance (c.seat key i) ⟨key, accepts, .settling (c.number key r) outcome⟩ now ready := by
  have settled := Cache.only_settle key (begun key c.history) c.cache r outcome now
    (flight_begun sound)
  have seen : (CacheEvent.seen key r outcome now).within key (c.seat key) (c.number key) =
      some (.seen key (c.number key r) outcome now) := by simp only [CacheEvent.within, if_true]
  have event := only_event here rfl rfl (.answered (some r) (Cache.answerOf accepts key outcome))
    (c.cache.settle key r outcome now).1 seen
  rw [settled] at event
  exact event

theorem only_advance (blank : Blank c) {v : Visitor V} (here : c.visitors[i]? = some v) (mine : v.key = key) :
    (c.advance i v now ready).only key =
      (c.only key).advance (c.seat key i) (v.numbered (c.number key)) now ready := by
  obtain ⟨k, accepts, stand⟩ := v
  obtain rfl : k = key := mine
  cases stand with
  | looking => exact only_look sound now ready here
  | joining => exact only_join sound now ready blank here
  | waiting r => exact only_poll sound now ready r here
  | settling r outcome => exact only_bring sound now ready r outcome here
  | answered source state => rfl
  | gone => rfl

end Here

theorem only_advance_other {c : Crowd V} (sound : Sound c) {key : Key} {i : Nat} {v : Visitor V}
    (here : c.visitors[i]? = some v) (differ : v.key ≠ key) (now : Nat)
    (ready : Nat → Nat → Option (Outcome V)) : (c.advance i v now ready).only key = c.only key := by
  unfold advance
  cases stands : v.stand with
  | looking =>
    cases c.cache.fresh? v.accepts now v.key with
    | none => exact only_put_other here differ .joining
    | some value =>
      exact only_event_other here rfl differ (.answered (c.lastSource v.key) (.data value)) c.cache rfl rfl
        (by simp only [CacheEvent.within, if_neg differ])
  | joining =>
    cases under : (c.cache.slotAt v.key).flight with
    | some flight =>
      simp only [Cache.joinOrStart_flight v.key _ _ under]
      exact only_event_other here rfl differ (.waiting flight.id) c.cache rfl rfl
        (by simp only [CacheEvent.within, if_neg differ])
    | none =>
      simp only [Cache.joinOrStart_start v.key _ under]
      refine only_event_other here ?_ differ (.waiting c.cache.nextRequest) _ ?_ rfl
        (by simp only [CacheEvent.within, if_neg differ])
      · simp only [begunFor?, if_neg differ]
      · exact (Cache.slot?_setSlot v.key key _ c.cache).trans (if_neg (Ne.symm differ))
  | waiting r =>
    have elsewhere : r ∉ begun key c.history := by
      intro inside
      have on := request_begun sound here r (by rw [stands]; rfl)
      exact differ (sound.recorded.orderly.same_key (mem_begun.mp on) (mem_begun.mp inside))
    simp only
    generalize ((c.requests r).drive c.cache.options.retries ready now).1 = attempts
    have moved := only_put_other here differ (afterPoll r attempts)
    have updated := requestsOf_update_other elsewhere c.requests attempts
    have cache := congrArg Crowd.cache moved
    have visitors := congrArg Crowd.visitors moved
    have mutations := congrArg Crowd.mutations moved
    have history := congrArg Crowd.history moved
    exact of_parts cache updated visitors mutations history
  | settling r outcome =>
    exact only_event_other here rfl differ (.answered (some r) (Cache.answerOf v.accepts v.key outcome)) _
      (Cache.slot?_settle_other v.key key r outcome now c.cache (Ne.symm differ))
      (Cache.options_settle v.key r outcome now c.cache) (by simp only [CacheEvent.within, if_neg differ])
  | answered source state => rfl
  | gone => rfl

/-! The other moves. -/

section Moves

variable {c : Crowd V} {key : Key}

private theorem seat_called {v : Visitor V} {i : Nat} (inside : i < c.visitors.length) :
    ({ c with visitors := c.visitors ++ [v] } : Crowd V).seat key i = c.seat key i := by
  unfold seat
  rw [List.take_append_of_le_length (Nat.le_of_lt inside)]

private theorem within_called (sound : Sound c) (v : Visitor V) :
    within key (({ c with visitors := c.visitors ++ [v] } : Crowd V).seat key) (c.number key) c.history =
      within key (c.seat key) (c.number key) c.history := by
  refine within_congr sound.recorded.orderly _ _ ?_ fun r on => rfl
  intro i k called
  obtain ⟨w, found, -⟩ := sound.called i k called
  exact seat_called (List.getElem?_eq_some_iff.mp found).1

theorem only_call (sound : Sound c) (mode : FetchMode) (accepts : V → Bool) :
    (c.step (.call mode accepts key)).only key = (c.only key).step (.call mode accepts key) := by
  let v : Visitor V := ⟨key, accepts, if mode = .fetch then .looking else .joining⟩
  let called : Crowd V := { c with visitors := c.visitors ++ [v] }
  have last : called.seat key c.visitors.length = (c.only key).visitors.length := by
    change ((c.visitors ++ [v]).take c.visitors.length).countP _ =
      ((c.visitors.filter fun v => v.key = key).map (Visitor.numbered (c.number key))).length
    rw [List.take_left, List.length_map, List.countP_eq_length_filter]
  have visitors : ((c.visitors ++ [v]).filter fun v => v.key = key).map (Visitor.numbered (c.number key)) =
      (c.only key).visitors ++ [v] := by
    have same : v.numbered (c.number key) = v := by cases mode <;> rfl
    rw [List.filter_append, List.map_append, List.filter_cons_of_pos (by simp [v])]
    simp only [List.filter_nil, List.map_cons, List.map_nil, same]
    rfl
  have history : within key (called.seat key) (c.number key) (.called c.visitors.length key :: c.history) =
      .called (c.only key).visitors.length key :: (c.only key).history := by
    rw [within_some (by simp only [CacheEvent.within, if_true]; rfl), last, within_called sound v]
    rfl
  exact of_parts rfl rfl visitors rfl history

theorem only_call_other (sound : Sound c) (mode : FetchMode) (accepts : V → Bool) (other : Key)
    (differ : other ≠ key) : (c.step (.call mode accepts other)).only key = c.only key := by
  let v : Visitor V := ⟨other, accepts, if mode = .fetch then .looking else .joining⟩
  let called : Crowd V := { c with visitors := c.visitors ++ [v] }
  have visitors : ((c.visitors ++ [v]).filter fun v => v.key = key) = c.visitors.filter fun v => v.key = key := by
    rw [List.filter_append, List.filter_cons_of_neg (by simpa [v] using differ), List.filter_nil,
      List.append_nil]
  have history : within key (called.seat key) (c.number key) (.called c.visitors.length other :: c.history) =
      (c.only key).history := by
    rw [within_none (by simp only [CacheEvent.within, if_neg differ]), within_called sound v]
    rfl
  exact of_parts rfl rfl (congrArg (List.map (Visitor.numbered (c.number key))) visitors) rfl history

theorem only_leave {i : Nat} {v : Visitor V} (here : c.visitors[i]? = some v) (mine : v.key = key) :
    (c.leave i v).only key = (c.only key).leave (c.seat key i) (v.numbered (c.number key)) := by
  obtain ⟨k, accepts, stand⟩ := v
  cases stand with
  | answered source state => rfl
  | looking => exact only_put here mine .gone
  | joining => exact only_put here mine .gone
  | waiting r => exact only_put here mine .gone
  | settling r outcome => exact only_put here mine .gone
  | gone => exact only_put here mine .gone

theorem only_leave_other {i : Nat} {v : Visitor V} (here : c.visitors[i]? = some v) (differ : v.key ≠ key) :
    (c.leave i v).only key = c.only key := by
  unfold leave
  split
  · rfl
  · exact only_put_other here differ .gone

theorem only_invalidated (start : Key) (below : key.startsWith start = true) :
    (c.invalidated start).only key = (c.only key).invalidated start := by
  have cache := Cache.only_invalidate key (begun key c.history) c.cache start below
  have image : (.invalidated start : CacheEvent V).within key (c.seat key) (c.number key) =
      some (.invalidated start) := by simp only [CacheEvent.within, below, if_true]
  exact of_parts cache rfl rfl rfl (within_some image)

theorem only_invalidated_other (start : Key) (outside : key.startsWith start = false) :
    (c.invalidated start).only key = c.only key := by
  have cache := Cache.only_invalidate_other key (begun key c.history) c.cache start outside
  have image : (.invalidated start : CacheEvent V).within key (c.seat key) (c.number key) = none := by
    simp [CacheEvent.within, outside]
  exact of_parts cache rfl rfl rfl (within_none image)

theorem only_mutate (outcome : Outcome Unit) (starts : List Key) :
    (c.step (.mutate outcome starts)).only key =
      (c.only key).step (.mutate outcome (starts.filter key.startsWith)) := by
  cases outcome with
  | error e => rfl
  | ok done => exact of_parts rfl rfl rfl List.map_append rfl

section Mutation

variable {n : Nat} {start : Key} {rest : List Key} (left : c.mutations[n]? = some (start :: rest))

include left

theorem only_mutateNext (below : key.startsWith start = true) :
    (c.step (.mutateNext n)).only key = (c.only key).step (.mutateNext n) := by
  have waits : (c.only key).mutations[n]? = some (start :: rest.filter key.startsWith) := by
    change (c.mutations.map fun starts => starts.filter key.startsWith)[n]? = _
    rw [List.getElem?_map, left, Option.map_some, List.filter_cons_of_pos below]
  have invalidated := only_invalidated (c := c) start below
  simp only [step, left, waits]
  rw [← invalidated]
  exact of_parts rfl rfl rfl List.map_set rfl

theorem only_mutateNext_other (outside : key.startsWith start = false) :
    (c.step (.mutateNext n)).only key = c.only key := by
  have waits : (c.only key).mutations[n]? = some (rest.filter key.startsWith) := by
    change (c.mutations.map fun starts => starts.filter key.startsWith)[n]? = _
    rw [List.getElem?_map, left, Option.map_some, List.filter_cons_of_neg (by simp [outside])]
  have stays : (c.only key).mutations.set n (rest.filter key.startsWith) = (c.only key).mutations := by
    obtain ⟨bound, found⟩ := List.getElem?_eq_some_iff.mp waits
    rw [← found]
    exact List.set_getElem_self bound
  have invalidated := only_invalidated_other (c := c) start outside
  have cache := congrArg Crowd.cache invalidated
  have history := congrArg Crowd.history invalidated
  simp only [step, left]
  exact of_parts cache rfl rfl (List.map_set.trans stays) history

end Mutation

end Moves

end Crowd
end TradingDesk
