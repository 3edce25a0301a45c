import TradingDesk.Desk.Basic
import TradingDesk.Proofs.Http.Exchange

/-! What actions leave of the desk. Those that only read, write lines or log leave the wire alone; only a call sends. -/

namespace TradingDesk
namespace Desk

variable {α β : Type}

theorem run_throw (e : CommandError) (d : Desk) : run (throw e : Action α) d = (.error e, d) :=
  rfl

theorem run_bind_ok {a : Action α} {d after : Desk} {x : α} (ran : run a d = (.ok x, after)) (f : α → Action β) :
    run (a >>= f) d = run (f x) after := by
  unfold run at ran ⊢
  rw [ExceptT.run_bind, StateT.run_bind, ran]
  rfl

theorem run_bind_error {a : Action α} {d after : Desk} {e : CommandError} (ran : run a d = (.error e, after))
    (f : α → Action β) : run (a >>= f) d = (.error e, after) := by
  unfold run at ran ⊢
  rw [ExceptT.run_bind, StateT.run_bind, ran]
  rfl

/-- The backend, the client and what was sent are as they were. -/
structure Aside (before after : Desk) : Prop where
  backend : after.backend = before.backend
  client : after.client = before.client
  sent : after.sent = before.sent

theorem Aside.refl (d : Desk) : Aside d d :=
  ⟨rfl, rfl, rfl⟩

theorem Aside.trans {d e f : Desk} (first : Aside d e) (second : Aside e f) : Aside d f :=
  ⟨second.backend.trans first.backend, second.client.trans first.client, second.sent.trans first.sent⟩

/-- The action comes to an end, and sends nothing. -/
def Silent (a : Action α) : Prop :=
  ∀ d, ∃ x after, run a d = (.ok x, after) ∧ Aside d after

theorem silent_modify {f : Desk → Desk} (aside : ∀ d, Aside d (f d)) : Silent (modify f : Action Unit) :=
  fun d => ⟨(), f d, rfl, aside d⟩

theorem silent_write (text : String) : Silent (write text) :=
  silent_modify fun _ => ⟨rfl, rfl, rfl⟩

theorem silent_note (l : LogLine) : Silent (note l) :=
  silent_modify fun _ => ⟨rfl, rfl, rfl⟩

theorem silent_runOut : Silent runOut :=
  silent_modify fun _ => ⟨rfl, rfl, rfl⟩

/-- Whatever comes of the action, it sends nothing. -/
def Offline (a : Action α) : Prop :=
  ∀ d, Aside d (run a d).2

theorem Silent.offline {a : Action α} (silent : Silent a) : Offline a := by
  intro d
  obtain ⟨x, after, ran, aside⟩ := silent d
  rw [ran]
  exact aside

theorem offline_pure (a : α) : Offline (pure a : Action α) :=
  Aside.refl

theorem offline_bind {a : Action α} {f : α → Action β} (first : Offline a) (second : ∀ x, Offline (f x)) :
    Offline (a >>= f) := by
  intro d
  have aside := first d
  rcases ran : run a d with ⟨result, after⟩
  rw [ran] at aside
  cases result with
  | error e =>
    rw [run_bind_error ran]
    exact aside
  | ok x =>
    rw [run_bind_ok ran]
    exact aside.trans (second x after)

theorem offline_forIn {γ : Type} (items : List γ) {body : γ → β → Action (ForInStep β)}
    (each : ∀ x b, Offline (body x b)) (start : β) : Offline (forIn items start body) := by
  induction items generalizing start with
  | nil => exact offline_pure start
  | cons x rest ih =>
    rw [List.forIn_cons]
    refine offline_bind (each x start) fun next => ?_
    cases next with
    | done b => exact offline_pure b
    | yield b => exact ih b

theorem offline_line (text : String) : Offline (line text) :=
  (silent_write _).offline

theorem offline_note (l : LogLine) : Offline (note l) :=
  (silent_note l).offline

theorem run_noteAll (ls : List LogLine) (d : Desk) :
    run (forIn ls PUnit.unit fun l _ => do note l; pure (ForInStep.yield PUnit.unit)) d =
      (.ok PUnit.unit, { d with log := d.log ++ ls }) := by
  induction ls generalizing d with
  | nil => rw [List.append_nil]; rfl
  | cons l rest ih =>
    have noted : run (do note l; pure (ForInStep.yield PUnit.unit)) d =
        (.ok (ForInStep.yield PUnit.unit), { d with log := d.log ++ [l] }) := rfl
    rw [List.forIn_cons, run_bind_ok noted]
    refine (ih { d with log := d.log ++ [l] }).trans ?_
    rw [List.append_assoc]
    rfl

/-- The asset class is always told, and no line is read for it. -/
theorem assetClass_ok (d : Desk) :
    ∃ c after, run assetClass d = (.ok c, after) ∧ Aside d after ∧ after.input = d.input := by
  have noted := run_noteAll (d.preferences.complaints AssetClass.decoder Selections.assetClassKey) d
  exact ⟨_, _, run_bind_ok noted _, ⟨rfl, rfl, rfl⟩, rfl⟩

/-- From this desk on, whatever is only written, logged or read before it, the action has these requests sent. -/
def Sends (a : Action α) (d : Desk) (sent : List Request) : Prop :=
  ∀ told, Aside d told → (run a told).2.sent = sent

theorem sends_after {a : Action β} (silent : Silent a) {f : β → Action α} {d : Desk} {sent : List Request}
    (later : ∀ x, Sends (f x) d sent) : Sends (a >>= f) d sent := by
  intro told before
  obtain ⟨x, after, ran, aside⟩ := silent told
  rw [run_bind_ok ran]
  exact later x after (before.trans aside)

theorem Offline.sends {a : Action α} (offline : Offline a) (d : Desk) : Sends a d d.sent :=
  fun told before => (before.trans (offline told)).sent

theorem run_attempt (call : Backend → List Request → Client → List Request × Except Failure α) (d : Desk) :
    run (attempt call) d =
      (.ok (call d.backend d.sent d.client).2, { d with sent := (call d.backend d.sent d.client).1 }) :=
  rfl

/-- The desk that a call leaves behind. To compare two of them must not evaluate the call. -/
@[irreducible]
def afterCall (e : Endpoint α) (d : Desk) : Desk :=
  { d with sent := (d.client.call d.backend d.sent e).1 }

section AfterCall

variable (e : Endpoint α) (d : Desk)

theorem afterCall_sent : (d.afterCall e).sent = (d.client.call d.backend d.sent e).1 := by
  unfold afterCall
  dsimp only

theorem afterCall_backend : (d.afterCall e).backend = d.backend := by
  unfold afterCall
  rfl

theorem afterCall_client : (d.afterCall e).client = d.client := by
  unfold afterCall
  rfl

theorem afterCall_input : (d.afterCall e).input = d.input := by
  unfold afterCall
  rfl

end AfterCall

theorem run_ask (e : Endpoint α) (d : Desk) :
    run (ask e) d = ((d.client.call d.backend d.sent e).2.mapError .failure, d.afterCall e) := by
  unfold ask afterCall
  rw [run_bind_ok (run_attempt _ d)]
  cases (d.client.call d.backend d.sent e).2 with
  | ok a => rfl
  | error f => rfl

theorem run_ask_ok {e : Endpoint α} {d : Desk} {a : α} (called : (d.client.call d.backend d.sent e).2 = .ok a) :
    run (ask e) d = (.ok a, d.afterCall e) := by
  rw [run_ask, called]
  rfl

theorem run_ask_error {e : Endpoint α} {d : Desk} {f : Failure}
    (called : (d.client.call d.backend d.sent e).2 = .error f) :
    run (ask e) d = (.error (.failure f), d.afterCall e) := by
  rw [run_ask, called]
  rfl

/-- A call whose answer is only shown: it alone sends. -/
theorem ask_then (e : Endpoint α) {f : α → Action β} (shown : ∀ a, Offline (f a)) (d : Desk) :
    ∃ outcome after, run (ask e >>= f) d = (outcome, after) ∧
      after.sent = (d.client.call d.backend d.sent e).1 ∧
      ∀ failure, (d.client.call d.backend d.sent e).2 = .error failure → outcome = .error (.failure failure) := by
  rw [← afterCall_sent e d]
  cases called : (d.client.call d.backend d.sent e).2 with
  | error failure =>
    refine ⟨_, _, run_bind_error (run_ask_error called) f, rfl, fun other same => ?_⟩
    rw [Except.error.inj same]
  | ok a => exact ⟨_, _, run_bind_ok (run_ask_ok called) f, (shown a _).sent, nofun⟩

end Desk
end TradingDesk
