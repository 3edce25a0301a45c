import TradingDesk.Api.Client

/-! What goes over the wire for one call: its request, and after it only what redirections ask for. -/

namespace TradingDesk

/-- Each further request is what the reply to the one before it asks for. -/
inductive Redirected (b : Backend) : (past : List Request) → Request → List Request → Prop
  | nil (past : List Request) (r : Request) : Redirected b past r []
  | cons {past : List Request} {r next : Request} {reply : Reply} {rest : List Request}
    (answered : b past r = some reply) (asks : reply.redirected? r = some next)
    (later : Redirected b (past ++ [r]) next rest) : Redirected b past r (next :: rest)

/-- The same request at another address, or one that only reads. -/
def Request.Repeats (first r : Request) : Prop :=
  r.verb = .get ∧ r.body = none ∨ r.verb = first.verb ∧ r.body = first.body

theorem redirected_repeats {first r next : Request} {reply : Reply} (repeats : first.Repeats r)
    (asks : reply.redirected? r = some next) : first.Repeats next := by
  have followed (reads : Bool) (url : Url) (token : Option String)
      (made : (if reads then some { verb := .get, url, token } else some { r with url, token }) = some next) :
      first.Repeats next := by
    cases reads with
    | true =>
      obtain rfl := Option.some.inj made
      exact .inl ⟨rfl, rfl⟩
    | false =>
      obtain rfl := Option.some.inj made
      exact repeats
  unfold Reply.redirected? at asks
  cases place : reply.location with
  | none =>
    simp only [place] at asks
    split at asks <;> exact absurd asks nofun
  | some location =>
    cases resolved : r.url.resolve? location with
    | none =>
      simp only [place, resolved, Option.bind_eq_bind, Option.bind_some, Option.bind_none] at asks
      split at asks <;> exact absurd asks nofun
    | some url =>
      simp only [place, resolved, Option.bind_eq_bind, Option.bind_some] at asks
      split at asks
      · exact followed _ _ _ asks
      · exact followed _ _ _ asks
      · exact followed true _ _ asks
      · exact followed false _ _ asks
      · exact followed false _ _ asks
      · exact absurd asks nofun

theorem Redirected.repeats {b : Backend} {past rest : List Request} {first r : Request}
    (redirected : Redirected b past r rest) (repeats : first.Repeats r) : ∀ q ∈ rest, first.Repeats q := by
  induction redirected with
  | nil => exact fun _ member => absurd member List.not_mem_nil
  | cons answered asks later ih =>
    have next := redirected_repeats repeats asks
    exact List.forall_mem_cons.mpr ⟨next, ih next⟩

theorem follow_sent (b : Backend) (first : Url) (redirects : Nat) (past : List Request) (r : Request) :
    ∃ rest, (b.follow first redirects past r).1 = past ++ r :: rest ∧ Redirected b past r rest := by
  induction redirects generalizing past r with
  | zero =>
    refine ⟨[], ?_, .nil past r⟩
    unfold Backend.follow
    cases answered : b past r with
    | none => rfl
    | some reply =>
      cases asks : reply.redirected? r with
      | none => simp only [asks]
      | some next => simp only [asks]
  | succ left ih =>
    unfold Backend.follow
    cases answered : b past r with
    | none => exact ⟨[], rfl, .nil past r⟩
    | some reply =>
      cases asks : reply.redirected? r with
      | none => exact ⟨[], by simp only [asks], .nil past r⟩
      | some next =>
        obtain ⟨rest, sent, later⟩ := ih (past ++ [r]) next
        refine ⟨next :: rest, ?_, .cons answered asks later⟩
        simp only [asks, sent, List.append_assoc, List.singleton_append]

namespace Client

variable {α : Type} (b : Backend) (past : List Request) (e : Endpoint α) (c : Client)

/-- A call sends nothing, or its request and what redirections ask for. -/
theorem call_sent : (∃ f, c.request e = .error f ∧ c.call b past e = (past, .error f)) ∨
    ∃ r rest, c.request e = .ok r ∧ (c.call b past e).1 = past ++ r :: rest ∧ Redirected b past r rest := by
  unfold call
  cases built : c.request e with
  | error f => exact .inl ⟨f, rfl, rfl⟩
  | ok r =>
    obtain ⟨rest, sent, redirected⟩ := follow_sent b r.url Backend.maxRedirects past r
    exact .inr ⟨r, rest, rfl, sent, redirected⟩

theorem request_ok {r : Request} (built : c.request e = .ok r) :
    r.verb = e.verb ∧ r.body = e.body.map Json.write ∧ r.token = c.token ∧
      ∃ url, Url.ofText (c.baseUrl ++ e.path) = some url ∧ r.url = if e.verb = .get then url.withPairs e.query else url := by
  unfold request at built
  cases address : Url.ofText (c.baseUrl ++ e.path) with
  | none => simp [address] at built
  | some url =>
    simp only [address] at built
    split at built
    · obtain rfl := Except.ok.inj built
      exact ⟨rfl, rfl, rfl, url, rfl, rfl⟩
    · exact absurd built nofun

/-- What a call gives was read from a reply to its request. -/
theorem call_ok {a : α} (given : (c.call b past e).2 = .ok a) :
    ∃ r reply, c.request e = .ok r ∧ e.read reply = .ok a := by
  unfold call at given
  cases built : c.request e with
  | error f =>
    rw [built] at given
    exact absurd given nofun
  | ok r =>
    simp only [built] at given
    cases came : (b.exchange past r).2 with
    | error f =>
      rw [came] at given
      exact absurd given nofun
    | ok reply =>
      rw [came] at given
      exact ⟨r, reply, rfl, given⟩

/-- Whether a request can be built depends on its address alone. -/
theorem request_again {β : Type} {e : Endpoint α} {f : Endpoint β} {r : Request} (built : c.request e = .ok r)
    (same : f.path = e.path) : ∃ q, c.request f = .ok q := by
  unfold request at built ⊢
  rw [same]
  cases address : Url.ofText (c.baseUrl ++ e.path) with
  | none => simp [address] at built
  | some url =>
    simp only [address] at built ⊢
    split at built
    · rename_i header
      exact ⟨_, if_pos header⟩
    · exact absurd built nofun

end Client

theorem Reply.decode_ok {α : Type} {d : Json.Decoder α} {r : Reply} {a : α} (read : r.decode d = .ok a) :
    d.ofText r.body = .ok a := by
  unfold Reply.decode at read
  split at read
  · exact absurd read nofun
  · split at read
    · exact absurd read nofun
    · cases found : d.ofText r.body with
      | error e =>
        rw [found] at read
        exact absurd read nofun
      | ok b =>
        rw [found] at read
        exact congrArg Except.ok (Except.ok.inj read)

end TradingDesk
