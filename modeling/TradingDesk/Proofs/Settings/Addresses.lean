import Mathlib.Data.List.DropRight
import TradingDesk.Proofs.Http.Exchange
import TradingDesk.Proofs.Settings.Intervals
import TradingDesk.Proofs.Watch.Front
import TradingDesk.Api.Endpoints

/-! The addresses of accepted settings. They are judged without the blanks around them, and used with those blanks: of
the base address only the slashes at its end go, and the feed connects to its address as it stands. -/

namespace TradingDesk

theorem rdropWhile_append_cons {α : Type} {p : α → Bool} {x : α} (stays : p x = false) (l m : List α) :
    (l ++ x :: m).rdropWhile p = l ++ x :: m.rdropWhile p := by
  induction m using List.reverseRecOn with
  | nil => exact List.rdropWhile_concat_neg p l x (by simp [stays])
  | append_singleton m y ih =>
    rw [← List.cons_append, ← List.append_assoc]
    by_cases goes : p y = true
    · rw [List.rdropWhile_concat_pos p _ y goes, List.rdropWhile_concat_pos p _ y goes, ih]
    · rw [List.rdropWhile_concat_neg p _ y goes, List.rdropWhile_concat_neg p _ y goes, List.append_assoc]
      rfl

namespace Text

theorem trim_chars (text : String) : (trim text).toList = (text.toList.dropWhile isBlank).rdropWhile isBlank :=
  String.toList_ofList

theorem trim_begins (text : String) : (trim text).toList <+: text.toList.dropWhile isBlank := by
  rw [trim_chars]
  exact List.rdropWhile_prefix isBlank _

end Text

/-! The scheme of an address. -/

namespace Url
open Text

def isLow (c : Char) : Bool := c.toNat ≤ 0x20

def inLine (c : Char) : Bool := c != '\t' && c != '\n' && c != '\r'

theorem trimInput_eq (cs : List Char) : trimInput cs = ((cs.dropWhile isLow).rdropWhile isLow).filter inLine :=
  rfl

theorem low_dropped {lead rest : List Char} {c : Char} (blank : ∀ c ∈ lead, isBlank c = true) (high : isLow c = false) :
    ∃ kept, (lead ++ c :: rest).dropWhile isLow = kept ++ c :: rest ∧
      (kept = [] ∨ ∃ b more, kept = b :: more ∧ isBlank b = true ∧ isLow b = false) := by
  induction lead with
  | nil =>
    refine ⟨[], ?_, .inl rfl⟩
    rw [List.nil_append, List.dropWhile_cons_of_neg (by simp [high])]
  | cons b more ih =>
    obtain ⟨own, others⟩ := List.forall_mem_cons.mp blank
    cases low : isLow b with
    | true =>
      rw [List.cons_append, List.dropWhile_cons_of_pos low]
      exact ih others
    | false =>
      refine ⟨b :: more, ?_, .inr ⟨b, more, rfl, own, low⟩⟩
      rw [List.cons_append, List.dropWhile_cons_of_neg (by simp [low])]

/-- No blank is a letter. -/
theorem blank_lower {c : Char} (blank : isBlank c = true) : c.toLower = c ∧ c ≠ 'h' ∧ c ≠ ':' := by
  refine ⟨?_, ?_, ?_⟩
  · unfold Char.toLower
    refine dif_neg fun letter => ?_
    obtain ⟨low, high⟩ := letter
    have from65 : 65 ≤ c.toNat := low
    have until90 : c.toNat ≤ 90 := high
    unfold isBlank at blank
    simp at blank
    omega
  · rintro rfl
    exact absurd blank (by decide)
  · rintro rfl
    exact absurd blank (by decide)

/-- What is left of a text of blanks, a scheme and more: only blanks beyond the low characters stay before the
scheme. -/
theorem trimInput_scheme (tail : List Char) {lead : List Char} {scheme : String}
    (known : scheme = "http" ∨ scheme = "https") (blank : ∀ c ∈ lead, isBlank c = true) : ∃ kept later,
      trimInput (lead ++ scheme.toList ++ ':' :: tail) = kept ++ scheme.toList ++ ':' :: later ∧
      (kept = [] ∨ ∃ b more, kept = b :: more ∧ isBlank b = true) := by
  obtain ⟨name, own, stays⟩ : ∃ name, scheme.toList = 'h' :: name ∧ scheme.toList.filter inLine = scheme.toList := by
    rcases known with rfl | rfl
    · exact ⟨['t', 't', 'p'], by decide⟩
    · exact ⟨['t', 't', 'p', 's'], by decide⟩
  obtain ⟨kept, dropped, begins⟩ := @low_dropped lead (name ++ ':' :: tail) 'h' blank (by decide)
  have front : (lead ++ scheme.toList ++ ':' :: tail).dropWhile isLow = kept ++ scheme.toList ++ ':' :: tail := by
    rw [own, List.append_assoc, List.cons_append, dropped, List.append_assoc, List.cons_append]
  refine ⟨kept.filter inLine, (tail.rdropWhile isLow).filter inLine, ?_, ?_⟩
  · rw [trimInput_eq, front, rdropWhile_append_cons (by decide), List.filter_append, List.filter_append, stays,
      List.filter_cons_of_pos (by decide)]
  · rcases begins with rfl | ⟨b, more, rfl, blank, high⟩
    · exact .inl rfl
    · have visible : inLine b = true := by
        unfold inLine
        rw [Bool.and_eq_true, Bool.and_eq_true, bne_iff_ne, bne_iff_ne, bne_iff_ne]
        refine ⟨⟨?_, ?_⟩, ?_⟩ <;> rintro rfl <;> exact absurd high (by decide)
      exact .inr ⟨b, _, List.filter_cons_of_pos visible, blank⟩

theorem ofRest_scheme {scheme : String} {cs : List Char} {url : Url} (read : ofRest scheme cs = some url) :
    url.scheme = scheme := by
  unfold ofRest at read
  simp only at read
  split at read
  · obtain rfl := Option.some.inj read
    rfl
  · exact nomatch read

theorem scheme_of_text {text : String} {url : Url} {lead tail : List Char} {scheme : String}
    (known : scheme = "http" ∨ scheme = "https") (blank : ∀ c ∈ lead, isBlank c = true)
    (spelled : text.toList = lead ++ scheme.toList ++ ':' :: tail) (read : ofText text = some url) :
    url.scheme = scheme := by
  obtain ⟨kept, later, trimmed, begins⟩ := trimInput_scheme tail known blank
  unfold ofText at read
  rw [spelled, trimmed] at read
  simp only at read
  split at read
  · rename_i accepted
    rcases begins with rfl | ⟨b, more, rfl, blank⟩
    · have found : String.ofList (((([] : List Char) ++ scheme.toList ++ ':' :: later).takeWhile (· != ':')).map
          Char.toLower) = scheme := by
        rcases known with rfl | rfl
        · rfl
        · rfl
      rw [found] at read
      exact ofRest_scheme read
    · -- A blank that stays is taken for a part of the scheme.
      obtain ⟨lower, other, apart⟩ := blank_lower blank
      exfalso
      rw [List.cons_append, List.cons_append, List.takeWhile_cons_of_pos (by simpa using apart), List.map_cons,
        lower] at accepted
      have first (name : String) (rest : List Char) (spells : name.toList = 'h' :: rest) (more : List Char)
          (same : String.ofList (b :: more) = name) : False := by
        rw [← same, String.toList_ofList] at spells
        exact other (List.cons.inj spells).1
      rw [Bool.or_eq_true, beq_iff_eq, beq_iff_eq] at accepted
      rcases accepted with same | same
      · exact first "http" ['t', 't', 'p'] (by decide) _ same
      · exact first "https" ['t', 't', 'p', 's'] (by decide) _ same
  · exact nomatch read

end Url

/-! The base address. -/

namespace Client
open Text

theorem new_chars (base : String) (token : Option String) :
    (Client.new base token).baseUrl.toList = base.toList.rdropWhile (· == '/') :=
  String.toList_ofList

theorem new_slashes (base : String) (token : Option String) :
    (∃ n, base.toList = (Client.new base token).baseUrl.toList ++ List.replicate n '/') ∧
      (Client.new base token).baseUrl.toList.getLast? ≠ some '/' := by
  rw [new_chars]
  constructor
  · have slashes (c : Char) (member : c ∈ base.toList.rtakeWhile (· == '/')) : c = '/' := by
      have own := List.mem_rtakeWhile_imp member
      exact eq_of_beq own
    refine ⟨(base.toList.rtakeWhile (· == '/')).length, ?_⟩
    rw [← List.eq_replicate_of_mem slashes]
    exact List.rdropWhile_append_rtakeWhile.symm
  · intro last
    have some : base.toList.rdropWhile (· == '/') ≠ [] := by
      intro none
      rw [none] at last
      exact nomatch last
    have slash := List.rdropWhile_last_not (· == '/') base.toList some
    rw [List.getLast?_eq_some_getLast some] at last
    exact slash (beq_iff_eq.mpr (Option.some.inj last))

/-- A text and its scheme, the colon apart. -/
theorem scheme_stays {cs : List Char} {scheme : List Char} (begins : scheme ++ [':'] <+: cs) :
    scheme ++ [':'] <+: cs.rdropWhile (· == '/') := by
  obtain ⟨rest, rfl⟩ := begins
  rw [List.append_assoc, List.singleton_append, rdropWhile_append_cons (by decide)]
  exact ⟨_, List.append_assoc ..⟩

/-- Blanks around the base address make it another one. -/
theorem judged_iff {base : String} (token : Option String) {scheme : List Char}
    (judged : 'h' :: scheme ++ [':'] <+: (trim base).toList) :
    (Client.new base token).baseUrl = (Client.new (trim base) token).baseUrl ↔ trim base = base := by
  constructor
  · intro same
    have chars := congrArg String.toList same
    rw [new_chars, new_chars] at chars
    have unindented : base.toList.dropWhile isBlank = base.toList := by
      cases cs : base.toList with
      | nil => rfl
      | cons b rest =>
        refine List.dropWhile_cons_of_neg fun blank => ?_
        have slash : (b == '/') = false := by
          refine beq_eq_false_iff_ne.mpr ?_
          rintro rfl
          exact absurd blank (by decide)
        obtain ⟨more, begins⟩ := scheme_stays judged
        have stays := rdropWhile_append_cons (p := (· == '/')) slash [] rest
        rw [← begins, cs, show b :: rest = [] ++ b :: rest from rfl, stays] at chars
        exact (Url.blank_lower blank).2.1 (List.cons.inj chars).1
    have trimmed : (trim base).toList = base.toList.rdropWhile isBlank := by
      rw [trim_chars, unindented]
    rw [trimmed] at chars
    refine String.toList_inj.mp (trimmed.trans ?_)
    rcases List.eq_nil_or_concat' base.toList with none | ⟨front, b, split⟩
    · rw [none]
      rfl
    · rw [split] at chars ⊢
      refine List.rdropWhile_concat_neg isBlank front b fun blank => ?_
      have slash : ¬(b == '/') = true := by
        intro own
        obtain rfl := eq_of_beq own
        exact absurd blank (by decide)
      rw [List.rdropWhile_concat_pos isBlank front b blank, List.rdropWhile_concat_neg _ front b slash] at chars
      have inner := List.rdropWhile_prefix (· == '/') (front.rdropWhile isBlank)
      have outer := List.rdropWhile_prefix isBlank front
      have shorter := inner.length_le.trans outer.length_le
      have long := congrArg List.length chars
      rw [List.length_append, List.length_singleton] at long
      omega
  · intro clean
    rw [clean]

end Client

namespace Settings
open Text

theorem hasScheme_iff (schemes : List String) (address : String) :
    hasScheme schemes address = true ↔ ∃ scheme ∈ schemes, scheme.toList <+: (trim address).toList := by
  unfold hasScheme
  simp only [List.any_eq_true, List.isPrefixOf_iff_prefix]

/-- The two schemes are looked for behind the blanks. -/
theorem schemes_of_validate {s : Settings} (accepted : s.validate = .ok ()) :
    (∃ scheme ∈ ["http://", "https://"], scheme.toList <+: (trim s.api.baseUrl).toList) ∧
      ∃ scheme ∈ ["ws://", "wss://"], scheme.toList <+: (trim s.api.wsUrl).toList := by
  obtain ⟨-, accepted⟩ := passed accepted
  obtain ⟨-, accepted⟩ := passed accepted
  obtain ⟨-, accepted⟩ := passed accepted
  obtain ⟨-, accepted⟩ := passed accepted
  obtain ⟨base, accepted⟩ := passed accepted
  obtain ⟨feed, -⟩ := passed accepted
  exact ⟨(hasScheme_iff _ _).mp (check_ok base), (hasScheme_iff _ _).mp (check_ok feed)⟩

/-- The scheme that was looked for, without what is behind its colon. -/
theorem base_scheme {s : Settings} (accepted : s.validate = .ok ()) :
    ∃ scheme, (scheme = "http" ∨ scheme = "https") ∧ scheme.toList ++ "://".toList <+: (trim s.api.baseUrl).toList := by
  obtain ⟨⟨scheme, known, begins⟩, -⟩ := schemes_of_validate accepted
  rcases List.mem_cons.mp known with rfl | known
  · exact ⟨"http", .inl rfl, begins⟩
  · obtain rfl := List.mem_singleton.mp known
    exact ⟨"https", .inr rfl, begins⟩

/-- Every address that the client makes has the scheme that was looked for. -/
theorem scheme_used {s : Settings} {scheme path : String} {url : Url} {token : Option String}
    (known : scheme = "http" ∨ scheme = "https")
    (begins : scheme.toList ++ "://".toList <+: (trim s.api.baseUrl).toList)
    (read : Url.ofText ((Client.new s.api.baseUrl token).baseUrl ++ path) = some url) : url.scheme = scheme := by
  obtain ⟨rest, behind⟩ := begins.trans (trim_begins s.api.baseUrl)
  let blanks := s.api.baseUrl.toList.takeWhile isBlank
  have blank (c : Char) (member : c ∈ blanks) : isBlank c = true := List.mem_takeWhile_imp member
  have whole : s.api.baseUrl.toList = blanks ++ scheme.toList ++ ':' :: ('/' :: '/' :: rest) := by
    rw [← List.takeWhile_append_dropWhile (p := isBlank) (l := s.api.baseUrl.toList), ← behind, List.append_assoc,
      List.append_assoc]
    rfl
  have used : (Client.new s.api.baseUrl token).baseUrl.toList =
      blanks ++ scheme.toList ++ ':' :: ('/' :: '/' :: rest).rdropWhile (· == '/') := by
    rw [Client.new_chars, whole, rdropWhile_append_cons (by decide)]
  have spelled : ((Client.new s.api.baseUrl token).baseUrl ++ path).toList =
      blanks ++ scheme.toList ++ ':' :: (('/' :: '/' :: rest).rdropWhile (· == '/') ++ path.toList) := by
    rw [String.toList_append, used, List.append_assoc, List.cons_append]
  exact Url.scheme_of_text known blank spelled read

/-- What is made of the two addresses in settings. -/
structure Addressed (s : Settings) (c : Client) : Prop where
  /-- Of the base address only slashes go, and all of those at its end. -/
  slashes : ∃ n, s.api.baseUrl.toList = c.baseUrl.toList ++ List.replicate n '/'
  noSlash : c.baseUrl.toList.getLast? ≠ some '/'
  /-- The address that was judged is used exactly when there are no blanks around it. -/
  judged : c.baseUrl = (Client.new (trim s.api.baseUrl) c.token).baseUrl ↔ trim s.api.baseUrl = s.api.baseUrl
  /-- A call sends nothing, or a request to what the base address and the path of the endpoint say, with the scheme
  that was looked for, and after it what redirections ask for. -/
  calls : ∀ {α : Type} (b : Backend) (past : List Request) (e : Endpoint α), (c.call b past e).1 = past ∨
    ∃ r rest url, (c.call b past e).1 = past ++ r :: rest ∧ Redirected b past r rest ∧
      Url.ofText (c.baseUrl ++ e.path) = some url ∧ r.url = (if e.verb = .get then url.withPairs e.query else url) ∧
      (url.scheme = "http" ∨ url.scheme = "https") ∧
      url.scheme.toList ++ "://".toList <+: (trim s.api.baseUrl).toList
  feed : ∀ baseUrl p headless events,
    (Feed.dial (Watch.run (Watch.start s baseUrl p headless) events).feedOptions).1 = s.api.wsUrl
  /-- The address of the feed begins with a scheme that was looked for exactly when there is no blank before it. -/
  feedScheme : (∃ scheme ∈ ["ws://", "wss://"], scheme.toList <+: s.api.wsUrl.toList) ↔
    trimLeftChars s.api.wsUrl.toList = s.api.wsUrl.toList

theorem feed_scheme {s : Settings} (accepted : s.validate = .ok ()) :
    (∃ scheme ∈ ["ws://", "wss://"], scheme.toList <+: s.api.wsUrl.toList) ↔
      trimLeftChars s.api.wsUrl.toList = s.api.wsUrl.toList := by
  constructor
  · rintro ⟨scheme, known, rest, spelled⟩
    obtain ⟨more, own⟩ : ∃ more, scheme.toList = 'w' :: more := by
      rcases List.mem_cons.mp known with rfl | known
      · exact ⟨_, rfl⟩
      · obtain rfl := List.mem_singleton.mp known
        exact ⟨_, rfl⟩
    unfold trimLeftChars
    rw [← spelled, own, List.cons_append]
    exact List.dropWhile_cons_of_neg (by decide)
  · intro unindented
    obtain ⟨-, scheme, known, begins⟩ := schemes_of_validate accepted
    have front := begins.trans (trim_begins s.api.wsUrl)
    rw [show s.api.wsUrl.toList.dropWhile isBlank = s.api.wsUrl.toList from unindented] at front
    exact ⟨scheme, known, front⟩

/-- Accepted settings need not be used as they were judged: blanks around an address stay, those behind the base
address in the middle of every address that is called. -/
theorem accepted_addresses (s : Settings) (accepted : s.validate = .ok ()) (token : Option String) :
    Addressed s (Client.new s.api.baseUrl token) := by
  obtain ⟨slashes, noSlash⟩ := Client.new_slashes s.api.baseUrl token
  obtain ⟨scheme, known, begins⟩ := base_scheme accepted
  have colon : scheme.toList ++ [':'] <+: (trim s.api.baseUrl).toList := by
    refine List.IsPrefix.trans ?_ begins
    exact (List.prefix_append_right_inj scheme.toList).mpr ⟨['/', '/'], by decide⟩
  obtain ⟨name, own⟩ : ∃ name, scheme.toList = 'h' :: name := by
    rcases known with rfl | rfl <;> exact ⟨_, rfl⟩
  rw [own] at colon
  refine ⟨slashes, noSlash, Client.judged_iff token colon, ?_, ?_, feed_scheme accepted⟩
  · intro α b past e
    rcases Client.call_sent b past e (Client.new s.api.baseUrl token) with
      ⟨f, -, silent⟩ | ⟨r, rest, built, sent, later⟩
    · exact .inl (congrArg Prod.fst silent)
    · obtain ⟨-, -, -, url, read, made⟩ := Client.request_ok e _ built
      have same := scheme_used known begins read
      exact .inr ⟨r, rest, url, sent, later, read, made, same ▸ known, same ▸ begins⟩
  · intro baseUrl p headless events
    have kept := (Watch.mirrors_run s baseUrl p headless events).1.options
    exact congrArg FeedOptions.address kept

/-- Both addresses have a blank behind them. -/
def blankBehind : Settings :=
  { api := { baseUrl := "http://localhost:8000/api/ ", wsUrl := "ws://localhost:8000/ws/market/ " } }

theorem blank_behind_called : blankBehind.validate = .ok () ∧
    ((Client.new blankBehind.api.baseUrl none).request Endpoint.exchanges).toOption.map (·.url.text) =
      some "http://localhost:8000/api/%20/exchanges/" ∧
    ((Client.new (trim blankBehind.api.baseUrl) none).request Endpoint.exchanges).toOption.map (·.url.text) =
      some "http://localhost:8000/api/exchanges/" ∧
    (Feed.dial (Watch.start blankBehind "" {} true).feedOptions).1 ≠ trim blankBehind.api.wsUrl := by
  decide +kernel

theorem blank_behind_addresses : blankBehind.validate = .ok () ∧
    (Client.new blankBehind.api.baseUrl none).baseUrl ≠ (Client.new (trim blankBehind.api.baseUrl) none).baseUrl ∧
    ∀ events, (Feed.dial (Watch.run (Watch.start blankBehind "" {} true) events).feedOptions).1 =
      "ws://localhost:8000/ws/market/ " := by
  have accepted : blankBehind.validate = .ok () := by decide +kernel
  have addressed := accepted_addresses blankBehind accepted none
  refine ⟨accepted, fun same => ?_, addressed.feed "" {} true⟩
  exact absurd (addressed.judged.mp same) (by decide +kernel)

end Settings
end TradingDesk
