import TradingDesk.Desk.Run
import TradingDesk.Proofs.Desk.Actions
import TradingDesk.Proofs.Form.Answers
import TradingDesk.Proofs.Json.Doubles

/-! What setting the limits of a portfolio puts on the wire, with a list of assignments or in a dialogue. -/

namespace TradingDesk

/-- Limits are read without a number that differs from itself. -/
theorem RiskLimits.yields_same :
    RiskLimits.decoder.Yields fun l => ∀ f ≠ .maxOpenPositions, (LimitField.get f l == f.get l) = true := by
  open Json Json.Record in
  refine yields_decoder _ ?_
  refine yields_seq ?_ (yields_required yields_double)
  refine yields_seq ?_ (yields_required yields_double)
  refine yields_seq ?_ (yields_required yields_double)
  refine yields_seq ?_ (yields_required yields_double)
  refine yields_seq ?_ (yields_required (P := fun _ => True) fun _ _ _ _ _ => trivial)
  refine yields_seq ?_ (yields_required yields_double)
  refine yields_seq ?_ (yields_required yields_double)
  refine yields_seq ?_ (yields_required yields_double)
  refine yields_pure ?_
  intro drawdown one risk two loss three positions _ size four correlation five reward six leverage seven f other
  cases f with
  | maxPortfolioDrawdown => exact one
  | maxSingleTradeRisk => exact two
  | maxDailyLoss => exact three
  | maxOpenPositions => exact absurd rfl other
  | maxPositionSizePct => exact four
  | maxCorrelation => exact five
  | minRiskReward => exact six
  | maxLeverage => exact seven

namespace Desk

/-- What was sent when an edit was saved: nothing more without changes, and otherwise one update with them, which is
sent again only where a redirection asks for it. -/
inductive Saved (b : Backend) (c : Client) (id : Int64) (changes : List (String × Json)) (before : List Request) :
    List Request → Prop
  | same (equal : changes = []) : Saved b c id changes before before
  | update {put : Request} {rest : List Request} (differ : changes ≠ []) (verb : put.verb = .put)
    (address : Url.ofText (c.baseUrl ++ Endpoint.riskPath id "limits") = some put.url)
    (body : put.body = some (Json.object changes).write) (redirected : Redirected b before put rest)
    (repeats : ∀ q ∈ rest, put.Repeats q) : Saved b c id changes before (before ++ put :: rest)

/-- What comes of assignments, when fetching the limits had the given result: its failure, the rejection of a text that
fits no number, or a saved edit. -/
inductive Assigned (b : Backend) (c : Client) (id : Int64) (assignments : List (LimitField × String))
    (before : List Request) : Except Failure RiskLimits → Except CommandError Unit × Desk → Prop
  | unfetched {f : Failure} {after : Desk} (sent : after.sent = before) :
    Assigned b c id assignments before (.error f) (.error (.failure f), after)
  | rejected {current : RiskLimits} {r : Rejection} {after : Desk} {a : LimitField × String} (member : a ∈ assignments)
    (unfit : ∀ x, ¬a.1.Fits a.2 x) (sent : after.sent = before) :
    Assigned b c id assignments before (.ok current) (.error (.rejection r), after)
  | saved {current : RiskLimits} {given : List (LimitField × Float)} {outcome : Except CommandError Unit} {after : Desk}
    (fit : Given assignments given) (sent : Saved b c id (LimitField.changes current given) before after.sent) :
    Assigned b c id assignments before (.ok current) (outcome, after)

theorem fetched_same {id : Int64} {d : Desk} {current : RiskLimits}
    (fetched : (d.client.call d.backend d.sent (.riskLimits id)).2 = .ok current) :
    ∀ f ≠ .maxOpenPositions, (LimitField.get f current == f.get current) = true := by
  obtain ⟨_, reply, -, read⟩ := Client.call_ok d.backend d.sent _ d.client fetched
  exact Json.ofText_yields RiskLimits.yields_same (Reply.decode_ok read)

/-- Fetching the limits only reads. -/
theorem fetched_sent (id : Int64) (d : Desk) : ∃ reads,
    (d.client.call d.backend d.sent (.riskLimits id)).1 = d.sent ++ reads ∧ ∀ r ∈ reads, r.verb = .get := by
  rcases d.client.call_sent d.backend d.sent (.riskLimits id) with ⟨f, -, called⟩ | ⟨r, rest, built, called, redirected⟩
  · rw [called]
    exact ⟨[], (List.append_nil _).symm, nofun⟩
  · obtain ⟨verb, body, -⟩ := d.client.request_ok _ built
    refine ⟨r :: rest, called, List.forall_mem_cons.mpr ⟨verb, fun q member => ?_⟩⟩
    rcases redirected.repeats (.inl ⟨verb, body⟩) q member with ⟨read, -⟩ | ⟨again, -⟩
    · exact read
    · exact again.trans verb

/-- An update can be built where the limits could be fetched, and goes to the same address. -/
theorem update_sent {id : Int64} {d : Desk} {current : RiskLimits}
    (fetched : (d.client.call d.backend d.sent (.riskLimits id)).2 = .ok current) (u : LimitsUpdate)
    (before : List Request) : ∃ put rest,
    (d.client.call d.backend before (.updateLimits id u)).1 = before ++ put :: rest ∧ put.verb = .put ∧
      Url.ofText (d.client.baseUrl ++ Endpoint.riskPath id "limits") = some put.url ∧
      put.body = some u.toJson.write ∧ Redirected d.backend before put rest ∧ ∀ q ∈ rest, put.Repeats q := by
  obtain ⟨_, _, built, -⟩ := Client.call_ok d.backend d.sent _ d.client fetched
  obtain ⟨put, made⟩ := d.client.request_again built (f := .updateLimits id u) rfl
  obtain ⟨verb, body, -, url, address, same⟩ := d.client.request_ok _ made
  rcases d.client.call_sent d.backend before (.updateLimits id u) with ⟨f, failed, -⟩ | ⟨q, rest, again, called, redirected⟩
  · rw [made] at failed
    exact absurd failed nofun
  · obtain rfl := Except.ok.inj (made.symm.trans again)
    refine ⟨put, rest, called, verb, ?_, body, redirected, redirected.repeats (.inr ⟨rfl, rfl⟩)⟩
    rw [same]
    exact address

theorem offline_printLimits (l : RiskLimits) : Offline (printLimits l) := by
  unfold printLimits
  refine offline_bind (offline_forIn _ (fun f _ => ?_) _) fun _ => offline_pure _
  exact offline_bind (offline_line _) fun _ => offline_pure _

theorem saveLimits_unsaved {current : RiskLimits} {e : LimitsEditor} (unsaved : e.save current = none) (id : Int64)
    (d : Desk) : Sends (saveLimits id current e) d d.sent := by
  unfold saveLimits
  rw [unsaved]
  exact (offline_line _).sends d

theorem saveLimits_saved {current : RiskLimits} {e : LimitsEditor} {u : LimitsUpdate} (saved : e.save current = some u)
    (id : Int64) (d : Desk) :
    Sends (saveLimits id current e) d (d.client.call d.backend d.sent (.updateLimits id u)).1 := by
  have shown (l : RiskLimits) : Offline (do line "Risk limits updated"; printLimits l) :=
    offline_bind (offline_line _) fun _ => offline_printLimits l
  intro told aside
  obtain ⟨outcome, after, ran, sent, -⟩ := ask_then (.updateLimits id u) shown told
  rw [aside.backend, aside.client, aside.sent] at sent
  unfold saveLimits
  simp only [saved]
  rw [ran]
  exact sent

/-- The edit that was made of the limits is saved with its changes. -/
theorem saved_drafted {id : Int64} {d : Desk} {current : RiskLimits}
    (fetched : (d.client.call d.backend d.sent (.riskLimits id)).2 = .ok current)
    {given : List (LimitField × Float)} (fit : ∀ g ∈ given, ∃ text, g.1.Fits text g.2) : ∃ sent,
      Sends (saveLimits id current (.editing (LimitField.drafted given current))) (d.afterCall (.riskLimits id)) sent ∧
        Saved d.backend d.client id (LimitField.changes current given) (d.afterCall (.riskLimits id)).sent sent := by
  rcases LimitField.save_drafted (fetched_same fetched) fit with ⟨equal, unsaved⟩ | ⟨differ, u, saved, members⟩
  · exact ⟨_, saveLimits_unsaved unsaved id _, .same equal⟩
  · refine ⟨_, saveLimits_saved saved id _, ?_⟩
    obtain ⟨put, rest, called, verb, address, body, redirected, repeats⟩ :=
      update_sent fetched u (d.afterCall (.riskLimits id)).sent
    rw [members] at body
    rw [afterCall_client, afterCall_backend, called]
    exact .update differ verb address body redirected repeats

theorem setLimits_assigned {id : Int64} {d fetched : Desk} {current : RiskLimits}
    (asked : run (ask (.riskLimits id)) d = (.ok current, fetched)) {assignments : List (LimitField × String)}
    {e : LimitsEditor} (put : assignAll assignments (.editing current) = .ok e) :
    run (setLimits id assignments) d = run (saveLimits id current e) fetched := by
  unfold setLimits LimitsEditor.start
  rw [run_bind_ok asked, put]

theorem setLimits_rejected {id : Int64} {d fetched : Desk} {current : RiskLimits}
    (asked : run (ask (.riskLimits id)) d = (.ok current, fetched)) {assignments : List (LimitField × String)}
    {r : Rejection} (refused : assignAll assignments (.editing current) = .error r) :
    run (setLimits id assignments) d = (.error (.rejection r), fetched) := by
  unfold setLimits LimitsEditor.start
  rw [run_bind_ok asked, refused]
  exact run_throw _ _

theorem editLimits_sent {id : Int64} {d fetched : Desk} {current : RiskLimits}
    (asked : run (ask (.riskLimits id)) d = (.ok current, fetched)) {e : LimitsEditor}
    (edited : (LimitsDialogue.run current (LimitsEditor.start current) fetched.input).editor = e)
    {sent : List Request}
    (later : Sends (if e.isEditing then saveLimits id current e else line "Cancelled") fetched sent) :
    (run (editLimits id) d).2.sent = sent := by
  subst edited
  have greeted (text : String) : run (line text) fetched =
      (.ok (), { fetched with output := fetched.output ++ (text ++ "\n") }) := rfl
  have got (told : Desk) : run (get : Action Desk) told = (.ok told, told) := rfl
  unfold editLimits
  rw [run_bind_ok asked, run_bind_ok (greeted _), run_bind_ok (got _)]
  dsimp only
  generalize LimitsDialogue.run current (LimitsEditor.start current) fetched.input = dialogue at later ⊢
  suffices sends : Sends _ fetched sent from sends _ ⟨rfl, rfl, rfl⟩
  apply sends_after (silent_modify ?_) fun _ => ?_
  · exact fun _ => ⟨rfl, rfl, rfl⟩
  · refine sends_after (silent_write _) fun _ => ?_
    split
    · exact sends_after silent_runOut fun _ => later
    · exact later

theorem setLimits_sent (id : Int64) (assignments : List (LimitField × String)) (d : Desk) :
    Assigned d.backend d.client id assignments (d.client.call d.backend d.sent (.riskLimits id)).1
      (d.client.call d.backend d.sent (.riskLimits id)).2 (run (setLimits id assignments) d) := by
  rw [← afterCall_sent]
  cases fetched : (d.client.call d.backend d.sent (.riskLimits id)).2 with
  | error f =>
    unfold setLimits
    rw [run_bind_error (run_ask_error fetched)]
    exact .unfetched rfl
  | ok current =>
    have asked := run_ask_ok fetched
    rcases assignAll_cases assignments current with ⟨given, fit, put⟩ | ⟨r, refused, a, member, unfit⟩
    · obtain ⟨sent, sends, saved⟩ := saved_drafted fetched fit.fits
      rw [setLimits_assigned asked put]
      exact .saved fit ((sends _ (.refl _)).symm ▸ saved)
    · rw [setLimits_rejected asked refused]
      exact .rejected member unfit rfl

/-- The dialogue sends what its assignments would send, and only reads when the edit is given up. -/
theorem editLimits_answers (id : Int64) (d : Desk) :
    (Answers LimitField.all d.input none ∧
        (run (editLimits id) d).2.sent = (d.client.call d.backend d.sent (.riskLimits id)).1) ∨
      ∃ accepted, Answers LimitField.all d.input (some accepted) ∧
        (run (editLimits id) d).2.sent = (run (setLimits id accepted) d).2.sent := by
  rw [← afterCall_sent]
  cases fetched : (d.client.call d.backend d.sent (.riskLimits id)).2 with
  | error f =>
    have asked := run_ask_error fetched
    have edited : run (editLimits id) d = _ := run_bind_error asked _
    rw [edited]
    -- The dialogue was not held, but how the lines answer does not depend on the limits.
    rcases LimitsDialogue.ask_answers ⟨0, 0, 0, 0, 0, 0, 0, 0⟩ LimitField.all ⟨0, 0, 0, 0, 0, 0, 0, 0⟩ d.input with
      ⟨answers, -⟩ | ⟨accepted, -, answers, -⟩
    · exact .inl ⟨answers, rfl⟩
    · have set : run (setLimits id accepted) d = _ := run_bind_error asked _
      exact .inr ⟨accepted, answers, set ▸ rfl⟩
  | ok current =>
    have asked := run_ask_ok fetched
    rw [← afterCall_input (.riskLimits id) d]
    rcases LimitsDialogue.ask_answers current LimitField.all current (d.afterCall (.riskLimits id)).input with
      ⟨answers, ended⟩ | ⟨accepted, draft, answers, edited, put⟩
    · exact .inl ⟨answers, editLimits_sent asked ended ((offline_line _).sends _)⟩
    · refine .inr ⟨accepted, answers, ?_⟩
      rw [setLimits_assigned asked put]
      have saves : ∃ sent, Sends (saveLimits id current (.editing draft)) (d.afterCall (.riskLimits id)) sent := by
        cases saved : (LimitsEditor.editing draft).save current with
        | none => exact ⟨_, saveLimits_unsaved saved id _⟩
        | some u => exact ⟨_, saveLimits_saved saved id _⟩
      obtain ⟨sent, sends⟩ := saves
      exact (editLimits_sent asked edited sends).trans (sends _ (.refl _)).symm

/-- Setting limits fetches them, and then sends one update with what differs, or nothing when nothing differs or a text
is rejected. A dialogue sends what setting the limits that it accepted would send, and no update when it was given up. -/
theorem limits_sent (id : Int64) (d : Desk) : ∃ reads fetched,
    (∀ r ∈ reads, r.verb = .get) ∧ d.client.call d.backend d.sent (.riskLimits id) = (d.sent ++ reads, fetched) ∧
      (∀ assignments, Assigned d.backend d.client id assignments (d.sent ++ reads) fetched
        (run (carryOut (.setLimits id assignments)) d)) ∧
      ∃ answers, (∀ other, Answers LimitField.all d.input other ↔ other = answers) ∧
        (answers = none → (run (carryOut (.editLimits id)) d).2.sent = d.sent ++ reads) ∧
        ∀ accepted, answers = some accepted →
          (run (carryOut (.editLimits id)) d).2.sent = (run (carryOut (.setLimits id accepted)) d).2.sent := by
  obtain ⟨reads, sent, read⟩ := fetched_sent id d
  obtain ⟨c, told, ran, aside, input⟩ := assetClass_ok d
  have set (assignments : List (LimitField × String)) :
      run (carryOut (.setLimits id assignments)) d = run (setLimits id assignments) told := run_bind_ok ran _
  have edit : run (carryOut (.editLimits id)) d = run (editLimits id) told := run_bind_ok ran _
  have fetched : d.client.call d.backend d.sent (.riskLimits id) =
      (d.sent ++ reads, (d.client.call d.backend d.sent (.riskLimits id)).2) := by rw [← sent]
  refine ⟨reads, _, read, fetched, fun assignments => ?_, ?_⟩
  · have assigned := setLimits_sent id assignments told
    rw [aside.client, aside.backend, aside.sent, sent] at assigned
    rw [set]
    exact assigned
  · have only {answers : Option (List (LimitField × String))} (some : Answers LimitField.all d.input answers)
        (other : Option (List (LimitField × String))) : Answers LimitField.all d.input other ↔ other = answers :=
      ⟨fun given => given.unique some, fun same => same ▸ some⟩
    have edited := editLimits_answers id told
    rw [aside.client, aside.backend, aside.sent, sent, input] at edited
    simp only [set, edit]
    rcases edited with ⟨answers, unsent⟩ | ⟨accepted, answers, same⟩
    · exact ⟨none, only answers, fun _ => unsent, nofun⟩
    · refine ⟨some accepted, only answers, nofun, fun other given => ?_⟩
      obtain rfl := Option.some.inj given
      exact same

/-- A count that 32 bits do not hold is accepted, and the update has the largest one in its place. -/
theorem many_positions_sent :
    (run (carryOut (.setLimits 7 [(.maxOpenPositions, "5000000000")]))
      { backend := fun _ _ => some { body :=
          "\x7b\"max_portfolio_drawdown\":1,\"max_single_trade_risk\":1,\"max_daily_loss\":1,\"max_open_positions\":10,"
            ++ "\"max_position_size_pct\":1,\"max_correlation\":1,\"min_risk_reward\":2,\"max_leverage\":1\x7d" },
        client := ⟨"http://desk/api", none⟩ }).2.sent.map (fun r => (r.verb, r.url.text, r.body)) =
      [(.get, "http://desk/api/risk/7/limits/", none),
        (.put, "http://desk/api/risk/7/limits/", some "\x7b\"max_open_positions\":4294967295\x7d")] := by
  decide +kernel

end Desk
end TradingDesk
