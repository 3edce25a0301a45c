import TradingDesk.Cache.Poller

/-! A cache, a poller and one more caller on a clock of their own, with written answers. The clock moves
only while everybody waits, and then to the next moment at which something can happen. -/

namespace TradingDesk

/-- A written answer and how long it takes. -/
structure Line (V : Type) where
  outcome : Outcome V
  delay : Nat := 0

/-- `scripts` holds the answers of each request and who asks; `pollerScript` those of the poller, over all
its requests. `calls` names who asked, in order. `horizon` bounds how many moments a wait can take. -/
structure Rehearsal (V : Type) where
  traffic : Traffic V := {}
  scripts : List (Nat × String × List (Line V)) := []
  poller : Option (Poller V) := none
  pollerScript : List (Line V) := []
  now : Nat := 0
  calls : List String := []
  horizon : Nat := 0

namespace Rehearsal

variable {V : Type}

def script (id : Nat) (r : Rehearsal V) : String × List (Line V) :=
  (r.scripts.lookup id).getD ("", [])

/-- The answer to call `n`; the last one is given again and again. -/
def line? (id n : Nat) (r : Rehearsal V) : Option (Line V) :=
  let lines := (r.script id).2
  (lines[n]?).or lines.getLast?

def world (r : Rehearsal V) : Traffic.World V := fun id n since => do
  let line ← r.line? id n
  if since + line.delay ≤ r.now then some line.outcome else none

def isOpen (t : Traffic V) (id : Nat) (q : Attempts V) : Bool :=
  q.outcome.isNone || t.callers.any fun (_, caller) => caller.request == id

/-- The traffic has gone on; the calls made are noted, and what is over is forgotten. -/
def moved (t : Traffic V) (r : Rehearsal V) : Rehearsal V :=
  let made := (r.traffic.asked t).flatMap fun (id, n) => List.replicate n (r.script id).1
  let requests := t.requests.filter fun (id, q) => isOpen t id q
  { r with
    traffic := { t with requests }
    scripts := r.scripts.filter fun (id, _) => (requests.lookup id).isSome
    calls := r.calls ++ made }

/-- What is left of a script after `n` answers; the last one stays. -/
def remaining (n : Nat) (lines : List (Line V)) : List (Line V) :=
  match lines.drop n with
  | [] => lines.getLast?.toList
  | rest => rest

def nextAnswers (name : String) (lines : List (Line V)) (r : Rehearsal V) : Rehearsal V :=
  { r with scripts := (r.traffic.cache.nextRequest, name, lines) :: r.scripts }

/-- The poller's next request goes on where its last one stopped in the script. -/
def pollerAnswers (r : Rehearsal V) : Rehearsal V :=
  r.nextAnswers Poller.callerName (remaining (r.calls.count Poller.callerName) r.pollerScript)

def runPoller : Nat → Rehearsal V → Rehearsal V
  | 0, r => r
  | fuel + 1, r =>
    match r.poller with
    | none => r
    | some p =>
      let ready := r.pollerAnswers
      match p.advance ready.world ready.now ready.traffic with
      | none => r
      | some (p', t, _) =>
        let r' := { (ready.moved t) with poller := some p' }
        if p'.waiting then r' else runPoller fuel r'

/-- A late tick is followed by at most six at the same moment. -/
def settlePoller (r : Rehearsal V) : Rehearsal V :=
  runPoller 16 r

def moments (r : Rehearsal V) : List Nat :=
  let answers := r.traffic.requests.filterMap fun (id, q) => do
    let since ← q.asked
    let line ← r.line? id (q.calls - 1)
    return since + line.delay
  let tick := match r.poller with
    | some p => if p.waiting then [] else p.deadline.toList
    | none => []
  answers ++ tick

def next? (r : Rehearsal V) : Option Nat :=
  (r.moments.filter (r.now < ·)).min?

/-- Lets time pass until `done`, looked at before the poller runs at each moment, gives a result. -/
def await (done : Rehearsal V → Rehearsal V × Option α) : Nat → Rehearsal V → Rehearsal V × Option α
  | 0, r => (r, none)
  | fuel + 1, r =>
    match done r with
    | (r, some a) => (r, some a)
    | (r, none) =>
      match done (settlePoller r) with
      | (r, some a) => (r, some a)
      | (r, none) =>
        match r.next? with
        | some time => await done fuel { r with now := time }
        | none => (r, none)

def takeUnseen (r : Rehearsal V) : Rehearsal V × Option Unit :=
  match r.poller with
  | some p => if p.unseen then ({ r with poller := some { p with unseen := false } }, some ()) else (r, none)
  | none => (r, some ())

def changed (r : Rehearsal V) : Rehearsal V :=
  (r.await takeUnseen r.horizon).1

/-- Lets time pass up to a moment. What is due at that very moment is left for later. -/
def passTo (target : Nat) : Nat → Rehearsal V → Rehearsal V
  | 0, r => { r with now := target }
  | fuel + 1, r =>
    let r := settlePoller r
    match r.next? with
    | some time => if time < target then passTo target fuel { r with now := time } else { r with now := target }
    | none => { r with now := target }

def pass (time : Nat) (r : Rehearsal V) : Rehearsal V :=
  r.passTo (r.now + time) (time + 1)

def look (name : String) (r : Rehearsal V) : Rehearsal V × Option (QueryState V) :=
  match r.traffic.poll r.world r.now name with
  | some (t, polled) => (r.moved t, polled.state)
  | none => (r, none)

def call (name : String) (mode : FetchMode) (accepts : V → Bool) (key : Key) (lines : List (Line V))
    (r : Rehearsal V) : Rehearsal V × Option (QueryState V) :=
  let r := r.nextAnswers name lines
  let (t, polled) := r.traffic.start r.world r.now name mode accepts key
  let r := r.moved t
  match polled.state with
  | some state => (r, some state)
  | none => (settlePoller r).await (look name) r.horizon

def startPoller (accepts : V → Bool) (key : Key) (period : Nat) (lines : List (Line V)) (r : Rehearsal V) :
    Rehearsal V :=
  { r with poller := some (Poller.new accepts key period r.traffic.cache), pollerScript := lines }

def stopPoller (r : Rehearsal V) : Rehearsal V :=
  { r with poller := none, traffic := r.traffic.drop Poller.callerName }

end Rehearsal
end TradingDesk
