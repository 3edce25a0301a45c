import TradingDesk.Proofs.Watch.Front
import TradingDesk.Proofs.Watch.Onward

/-! Which request brought the polled prices on the dashboard. The requests of one set of symbols follow one another, so
its prices never go back. A set that is held again starts with the prices it had, and these are older than what the
other set has brought meanwhile. -/

namespace TradingDesk
namespace Watch
open Traffic

/-- The tickers that a step puts on the dashboard, with the key that they were polled for. -/
def passes? (w : Watch) (e : WatchEvent) : Option (Key × List Ticker) :=
  match w.learns e, w.poller with
  | some (.polled _ (some list)), some p => some (p.key, list)
  | _, _ => none

/-- The request whose value a step stored under a key: the slot waited for it, and it has succeeded. -/
def brought (key : Key) (w next : Watch) : Option Nat :=
  let before := w.traffic.cache.slotAt key
  let after := next.traffic.cache.slotAt key
  match before.flight with
  | none => none
  | some flight =>
    if after.generation = before.generation ∧ after.flight ≠ some flight then
      match (next.traffic.request flight.id).outcome with
      | some (.ok _) => some flight.id
      | _ => none
    else none

/-- Which requests the values come from. Requests have numbers in the order in which they began. `kept` are those in
the cache, `shown` is the one on the dashboard with its key, and those from `since` on began after the present poller
did. -/
structure Sources where
  kept : Key → Option Nat := fun _ => none
  shown : Option (Key × Nat) := none
  since : Nat := 0

def Sources.after (s : Sources) (w : Watch) (e : WatchEvent) : Sources where
  kept key := (brought key w (w.step e)).or (s.kept key)
  shown := ((passes? w e).bind fun (key, _) => (s.kept key).map (key, ·)).or s.shown
  since := if w.poller.any Poller.first then w.traffic.cache.nextRequest else s.since

def sources (w : Watch) (s : Sources) : List WatchEvent → Sources
  | [] => s
  | e :: rest => sources (w.step e) (s.after w e) rest

/-- The request asked for the key, and this list is its answer. -/
def Brings (w : Watch) (r : Nat) (key : Key) (list : List Ticker) : Prop :=
  (w.queries.lookup r).map Query.key = some key ∧ (w.traffic.request r).outcome = some (.ok (.tickers list))

/-! What is kept. -/

/-- The value under a key is that of the request, if any, and no request under way is older. -/
def Holds (w : Watch) (key : Key) : Option Nat → Prop
  | none => (w.traffic.cache.slotAt key).data = none
  | some r =>
    r < w.traffic.cache.nextRequest ∧ (w.queries.lookup r).map Query.key = some key ∧
      (∃ v, (w.traffic.request r).outcome = some (.ok v) ∧ (w.traffic.cache.slotAt key).data = some v) ∧
      ∀ flight, (w.traffic.cache.slotAt key).flight = some flight → r < flight.id

section

variable {w next : Watch} (orderly : Orderly w) (onward : Onward w next) (key : Key)

include orderly onward

/-- A value stays with a slot until the request that the slot waits for brings another. -/
theorem Onward.brings :
    (brought key w next = none ∧
      (next.traffic.cache.slotAt key).data = (w.traffic.cache.slotAt key).data ∧
      ∀ flight, (next.traffic.cache.slotAt key).flight = some flight →
        (w.traffic.cache.slotAt key).flight = some flight ∨ w.traffic.cache.nextRequest ≤ flight.id) ∨
    ∃ flight v, brought key w next = some flight.id ∧
      (w.traffic.cache.slotAt key).flight = some flight ∧
      (next.traffic.request flight.id).outcome = some (.ok v) ∧
      (next.traffic.cache.slotAt key).data = some v ∧
      ∀ young, (next.traffic.cache.slotAt key).flight = some young → w.traffic.cache.nextRequest ≤ young.id := by
  rcases onward.slots key with turn | ⟨data, idle, generation⟩
  · cases turn with
    | kept data generation flight =>
      left
      rcases flight with same | ⟨free, young⟩
      · refine ⟨?_, data, fun flight under => .inl (same.symm.trans under)⟩
        cases under : (w.traffic.cache.slotAt key).flight with
        | none => simp [brought, under]
        | some flight => simp [brought, same, under]
      · refine ⟨?_, data, fun flight under => .inr (young flight under)⟩
        simp [brought, free]
    | settled flight outcome under finished data generation fresh =>
      -- The slot waits for this request no longer: one that begins now has a number of its own.
      have known := orderly.traffic.flights key flight under
      have gone : (next.traffic.cache.slotAt key).flight ≠ some flight := by
        intro stays
        have young := fresh flight stays
        omega
      cases outcome with
      | error e =>
        left
        refine ⟨?_, data, fun young flies => .inr (fresh young flies)⟩
        simp [brought, under, finished]
      | ok v =>
        right
        refine ⟨flight, v, ?_, under, finished, data, fresh⟩
        simp [brought, under, finished, generation, gone]
  · left
    refine ⟨?_, data, fun flight under => absurd (idle.symm.trans under) nofun⟩
    have later := Nat.ne_of_gt generation
    cases under : (w.traffic.cache.slotAt key).flight with
    | none => simp [brought, under]
    | some flight => simp [brought, under, later]

theorem Holds.step {source : Option Nat} (holds : Holds w key source) :
    Holds next key ((brought key w next).or source) := by
  rcases onward.brings orderly key with ⟨nothing, data, flights⟩ | ⟨flight, v, new, under, finished, data, fresh⟩
  · rw [nothing, Option.none_or]
    cases source with
    | none => exact data.trans holds
    | some r =>
      obtain ⟨known, asked, ⟨v, finished, stored⟩, later⟩ := holds
      refine ⟨Nat.lt_of_lt_of_le known onward.number, ?_, ⟨v, onward.outcomes r _ finished, data.trans stored⟩, ?_⟩
      · rw [onward.queries r known]
        exact asked
      · intro flight flies
        rcases flights flight flies with old | young
        · exact later flight old
        · exact Nat.lt_of_lt_of_le known young
  · rw [new, Option.some_or]
    have known := orderly.traffic.flights key flight under
    refine ⟨Nat.lt_of_lt_of_le known onward.number, ?_, ⟨v, finished, data⟩, ?_⟩
    · rw [onward.queries flight.id known]
      exact orderly.asked key flight under
    · exact fun young flies => Nat.lt_of_lt_of_le known (fresh young flies)

/-- What is brought is newer. -/
theorem Holds.newer {r : Nat} (holds : Holds w key (some r)) :
    ∃ last, (brought key w next).or (some r) = some last ∧ r ≤ last := by
  rcases onward.brings orderly key with ⟨nothing, _⟩ | ⟨flight, v, new, under, _⟩
  · rw [nothing]
    exact ⟨r, rfl, Nat.le_refl r⟩
  · rw [new]
    exact ⟨flight.id, rfl, Nat.le_of_lt (holds.2.2.2 flight under)⟩

end

/-! What is shown. -/

theorem learns_polled {w : Watch} {e : WatchEvent} {state : QueryState (List Ticker)} {lastGood : Option (List Ticker)}
    (news : w.learns e = some (.polled state lastGood)) : ∃ p, w.poller = some p ∧ p.unseen = true ∧
      lastGood = (w.traffic.cache.lastData Cached.areTickers p.key).bind Cached.tickers? := by
  unfold learns at news
  split at news
  · exact nomatch news
  · cases e with
    | pollSeen =>
      obtain ⟨p, published, same⟩ := Option.map_eq_some_iff.mp news
      obtain ⟨held, unseen⟩ := Option.filter_eq_some_iff.mp published
      injection same with _ good
      exact ⟨p, held, unseen, good.symm⟩
    | noticeSeen =>
      simp only at news
      split at news
      · exact nomatch news
      · exact nomatch news
    | _ => exact nomatch news

theorem tickers_of_lastData {c : Cache Cached} {key : Key} {list : List Ticker}
    (good : (c.lastData Cached.areTickers key).bind Cached.tickers? = some list) :
    (c.slotAt key).data = some (.tickers list) := by
  obtain ⟨v, last, same⟩ := Option.bind_eq_some_iff.mp good
  rw [Cache.lastData_slotAt] at last
  rw [(Option.filter_eq_some_iff.mp last).1]
  cases v with
  | portfolios other => exact nomatch same
  | tickers held => exact congrArg (fun list => some (Cached.tickers list)) (Option.some.inj same)

theorem passes?_parts {w : Watch} {e : WatchEvent} {key : Key} {list : List Ticker}
    (passes : passes? w e = some (key, list)) : ∃ p, w.poller = some p ∧ p.unseen = true ∧ p.key = key ∧
      (w.traffic.cache.slotAt key).data = some (.tickers list) := by
  unfold passes? at passes
  split at passes
  · rename_i state shown p news poller
    obtain ⟨rfl, rfl⟩ := Prod.mk.inj (Option.some.inj passes)
    obtain ⟨q, held, unseen, good⟩ := learns_polled news
    obtain rfl := Option.some.inj (poller.symm.trans held)
    exact ⟨p, poller, unseen, rfl, tickers_of_lastData good.symm⟩
  · exact nomatch passes

theorem polled_step (w : Watch) (e : WatchEvent) :
    (w.step e).dashboard.polled = ((passes? w e).map Prod.snd).getD w.dashboard.polled := by
  unfold Watch.step
  split
  · rename_i ended
    simp [passes?, learns, ended]
  · rename_i running
    change (w.handle e).dashboard.polled = _
    unfold passes?
    cases news : w.learns e with
    | none => exact (still_handle w (Bool.eq_false_iff.mpr running) news).polled
    | some n =>
      let b : Board := { dashboard := w.dashboard, feed := w.feed }
      have same : Mirrors w.feedOptions b w := ⟨rfl, rfl, rfl, rfl, rfl⟩
      have taken := (same.handle news).polled
      rw [taken]
      cases n with
      | polled state lastGood =>
        obtain ⟨p, poller, _⟩ := learns_polled news
        rw [poller]
        cases lastGood <;> rfl
      | listed state =>
        obtain ⟨place, symbols, parts⟩ := w.dashboard.setPortfolios_parts state
        have kept := congrArg Dashboard.polled parts
        exact kept
      | _ => rfl

structure Traced (w : Watch) (s : Sources) : Prop where
  orderly : Orderly w
  kept : ∀ key, Holds w key (s.kept key)
  blank : s.shown = none → w.dashboard.polled = []
  shown : ∀ key r, s.shown = some (key, r) →
    Brings w r key w.dashboard.polled ∧ ∃ last, s.kept key = some last ∧ r ≤ last
  since : s.since ≤ w.traffic.cache.nextRequest
  rested : ∀ p, w.poller = some p → p.Rested
  present : ∀ p key r, w.poller = some p → s.shown = some (key, r) → key = p.key ∨ p.first = true ∨ r < s.since

theorem Traced.start (s : Settings) (baseUrl : String) (p : Preferences) (headless : Bool) :
    Traced (start s baseUrl p headless) {} where
  orderly := ⟨⟨nofun, nofun, nofun⟩, nofun, nofun, nofun, nofun⟩
  kept := fun _ => rfl
  blank := fun _ => rfl
  shown := nofun
  since := Nat.le_refl 0
  rested := nofun
  present := nofun

theorem Traced.source {w : Watch} {s : Sources} (traced : Traced w s) {e : WatchEvent} {key : Key}
    {list : List Ticker} (passes : passes? w e = some (key, list)) :
    ∃ p, w.poller = some p ∧ p.unseen = true ∧ p.key = key ∧
      ∃ r, s.kept key = some r ∧ Brings w r key list := by
  obtain ⟨p, poller, unseen, same, stored⟩ := passes?_parts passes
  refine ⟨p, poller, unseen, same, ?_⟩
  have holds := traced.kept key
  cases source : s.kept key with
  | none =>
    rw [source] at holds
    exact absurd (holds.symm.trans stored) nofun
  | some r =>
    rw [source] at holds
    obtain ⟨_, asked, ⟨v, finished, value⟩, _⟩ := holds
    obtain rfl := Option.some.inj (value.symm.trans stored)
    exact ⟨r, rfl, asked, finished⟩

/-- What is shown next is what was shown, or it has just been passed on. -/
theorem Traced.turn {w : Watch} {s : Sources} (traced : Traced w s) (e : WatchEvent) :
    ((s.after w e).shown = s.shown ∧ (w.step e).dashboard.polled = w.dashboard.polled) ∨
      ∃ p r, w.poller = some p ∧ s.kept p.key = some r ∧ (s.after w e).shown = some (p.key, r) ∧
        Brings w r p.key (w.step e).dashboard.polled := by
  rw [polled_step w e]
  unfold Sources.after
  cases passes : passes? w e with
  | none => exact .inl ⟨rfl, rfl⟩
  | some pair =>
    obtain ⟨key, list⟩ := pair
    obtain ⟨p, poller, _, rfl, r, source, brings⟩ := traced.source passes
    refine .inr ⟨p, r, poller, source, ?_, brings⟩
    simp [source]

theorem Traced.known {w : Watch} {s : Sources} (traced : Traced w s) {key : Key} {r : Nat}
    (shows : s.shown = some (key, r)) : r < w.traffic.cache.nextRequest := by
  obtain ⟨_, last, source, newer⟩ := traced.shown key r shows
  have holds := traced.kept key
  rw [source] at holds
  exact Nat.lt_of_le_of_lt newer holds.1

section

variable {w : Watch} {s : Sources} (traced : Traced w s) (e : WatchEvent)

include traced

theorem Traced.newer {key : Key} {r : Nat} (source : s.kept key = some r) :
    ∃ last, (s.after w e).kept key = some last ∧ r ≤ last := by
  have holds := traced.kept key
  rw [source] at holds
  obtain ⟨last, next, later⟩ := holds.newer traced.orderly (onward_step traced.orderly e) key
  rw [← source] at next
  exact ⟨last, next, later⟩

theorem Traced.brings {key : Key} {r : Nat} {list : List Ticker} (known : r < w.traffic.cache.nextRequest)
    (brings : Brings w r key list) : Brings (w.step e) r key list := by
  have onward := onward_step traced.orderly e
  refine ⟨?_, onward.outcomes r _ brings.2⟩
  rw [onward.queries r known]
  exact brings.1

theorem Traced.since_le : s.since ≤ (s.after w e).since := by
  unfold Sources.after
  dsimp only
  split
  · exact traced.since
  · exact Nat.le_refl _

theorem Traced.step : Traced (w.step e) (s.after w e) where
  orderly := (onward_step traced.orderly e).orderly
  kept := fun key => (traced.kept key).step traced.orderly (onward_step traced.orderly e) key
  blank := by
    intro nothing
    rcases traced.turn e with ⟨same, polled⟩ | ⟨p, r, _, _, shows, _⟩
    · exact polled.trans (traced.blank (same.symm.trans nothing))
    · exact absurd (shows.symm.trans nothing) nofun
  shown := by
    intro key r shows
    rcases traced.turn e with ⟨same, polled⟩ | ⟨p, new, _, source, passed, brings⟩
    · have before := same.symm.trans shows
      obtain ⟨brings, last, source, later⟩ := traced.shown key r before
      obtain ⟨next, holds, latest⟩ := traced.newer e source
      rw [polled]
      exact ⟨traced.brings e (traced.known before) brings, next, holds, Nat.le_trans later latest⟩
    · obtain ⟨rfl, rfl⟩ := Prod.mk.inj (Option.some.inj (passed.symm.trans shows))
      have holds := traced.kept p.key
      rw [source] at holds
      exact ⟨traced.brings e holds.1 brings, traced.newer e source⟩
  since := by
    have number := (onward_step traced.orderly e).number
    unfold Sources.after
    dsimp only
    split
    · exact number
    · exact Nat.le_trans traced.since number
  rested := by
    intro q found
    rcases (onward_step traced.orderly e).poller q found with ⟨_, rested⟩ | ⟨p, held, _, rests⟩
    · exact rested
    · exact rests (traced.rested p held)
  present := by
    intro q key r found shows
    rcases (onward_step traced.orderly e).poller q found with ⟨fresh, _⟩ | ⟨p, held, same, _⟩
    · exact .inr (.inl fresh)
    · rw [same]
      rcases traced.turn e with ⟨kept, _⟩ | ⟨other, new, poller, _, passed, _⟩
      · have before := kept.symm.trans shows
        rcases traced.present p key r held before with here | first | older
        · exact .inl here
        · -- The poller may begin now. Whatever is shown has been asked for before.
          right; right
          have known := traced.known before
          unfold Sources.after
          rw [held, Option.any_some, if_pos first]
          exact known
        · exact .inr (.inr (Nat.lt_of_lt_of_le older (traced.since_le e)))
      · obtain rfl := Option.some.inj (poller.symm.trans held)
        obtain ⟨rfl, _⟩ := Prod.mk.inj (Option.some.inj (passed.symm.trans shows))
        exact .inl rfl

end

theorem traced_sources {w : Watch} {s : Sources} (traced : Traced w s) (events : List WatchEvent) :
    Traced (run w events) (sources w s events) := by
  induction events generalizing w s with
  | nil => exact traced
  | cons e rest ih => exact ih (traced.step e)

/-- In every run, the polled prices are replaced by what the last successful request of the poller's key has brought.
That request began no earlier than the one it replaces, if both were for the same key or it began after the present
poller did. -/
theorem polled_in_order (settings : Settings) (baseUrl : String) (p : Preferences) (headless : Bool)
    (events : List WatchEvent) (e : WatchEvent) :
    let first := start settings baseUrl p headless
    let w := run first events
    let s := sources first {} events
    match passes? w e with
    | none => (w.step e).dashboard.polled = w.dashboard.polled
    | some (key, list) =>
      key = (Query.tickers w.polledSymbols).key ∧ (w.step e).dashboard.polled = list ∧
        ∃ r, s.kept key = some r ∧ Brings w r key list ∧
          match s.shown with
          | none => w.dashboard.polled = []
          | some (old, before) =>
            Brings w before old w.dashboard.polled ∧ (old = key ∨ s.since ≤ r → before ≤ r) := by
  intro first w s
  have traced : Traced w s := traced_sources (.start settings baseUrl p headless) events
  have replaced := polled_step w e
  cases passes : passes? w e with
  | none =>
    rw [passes] at replaced
    exact replaced
  | some pair =>
    obtain ⟨key, list⟩ := pair
    rw [passes] at replaced
    obtain ⟨poller, held, unseen, rfl, r, source, brings⟩ := traced.source passes
    refine ⟨traced.orderly.poller poller held, replaced, r, source, brings, ?_⟩
    cases shown : s.shown with
    | none => exact traced.blank shown
    | some pair =>
      obtain ⟨old, before⟩ := pair
      obtain ⟨polled, last, kept, older⟩ := traced.shown old before shown
      have sameKey : old = poller.key → before ≤ r := by
        rintro rfl
        obtain rfl := Option.some.inj (kept.symm.trans source)
        exact older
      refine ⟨polled, ?_⟩
      rintro (same | since)
      · exact sameKey same
      · rcases traced.present poller old before held shown with same | ticks | earlier
        · exact sameKey same
        · have quiet := (traced.rested poller held ticks).2
          exact absurd (quiet.symm.trans unseen) Bool.false_ne_true
        · exact Nat.le_of_lt (Nat.lt_of_lt_of_le earlier since)

private def trader (id : Int64) (symbols : List String) : Portfolio :=
  ⟨id, "", "", "", symbols.map fun symbol => ⟨0, id, symbol, 0, 0, "", ""⟩, "", ""⟩

private def offer (symbol : String) (price : Float) : Ticker := ⟨symbol, price, 0, 0, 0, 0, ""⟩

private def typed (c : Char) : WatchEvent := .input (.key (.letter c) false true)

/-- The selected portfolio is removed, and the others are listed again. -/
private def removing (rest : List Portfolio) : List WatchEvent :=
  [typed 'd', typed 'y', .taskBegins, .removed 0 (.ok ()), .noticeSeen, .taskBegins,
    .answered 0 (.ok (.portfolios rest)), .noticeSeen, .taskBegins]

/-- A second symbol comes and goes. -/
def excursion : List WatchEvent :=
  [.taskBegins, .answered 0 (.ok (.portfolios [trader 3 [], trader 2 [], trader 1 ["A"]])), .noticeSeen,
    .taskBegins, .answered 0 (.ok (.tickers [offer "A" 1])), .pollSeen] ++
  removing [trader 2 ["B"], trader 1 ["A"]] ++
  [.answered 0 (.ok (.tickers [offer "A" 2, offer "B" 3])), .pollSeen] ++
  removing [trader 1 ["A"]]

/-- The prices of the third request give way to those of the first. -/
theorem polled_goes_back :
    let first := start {} "" {} false
    let w := run first excursion
    let s := sources first {} excursion
    w.dashboard.polled = [offer "A" 2, offer "B" 3] ∧ s.shown = some ((Query.tickers ["A", "B"]).key, 3) ∧
      passes? w .pollSeen = some ((Query.tickers ["A"]).key, [offer "A" 1]) ∧
      s.kept (Query.tickers ["A"]).key = some 1 ∧ (w.step .pollSeen).dashboard.polled = [offer "A" 1] := by
  decide +kernel

end Watch
end TradingDesk
