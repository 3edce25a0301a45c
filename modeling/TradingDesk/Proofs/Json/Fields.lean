import TradingDesk.Proofs.Json.Spelling
import TradingDesk.Proofs.Json.Taken

/-! What a record reads from an object that gives the members of a value, however they are spelled. -/

namespace TradingDesk
namespace Json

variable {α β : Type}

theorem ofMembers_map (ms : List (String × Json)) :
    ofMembers ms = ms.map fun m => (.ok m.1, Node.ofJson m.2) := by
  induction ms with
  | nil => rfl
  | cons m rest ih => rw [ofMembers, ih, List.map_cons]

mutual

theorem skipped?_ofJson (v : Json) : (Node.ofJson v).skipped? = none :=
  match v with
  | .null | .bool _ | .integer _ | .double _ | .text _ => rfl
  | .list items => by simp [Node.ofJson, Node.skipped?, skippedItems_ofItems items, Ending.skipped?]
  | .object members => by simp [Node.ofJson, Node.skipped?, skippedMembers_ofMembers members, Ending.skipped?]

theorem skippedItems_ofItems (items : List Json) : skippedItems (ofItems items) = none :=
  match items with
  | [] => rfl
  | v :: rest => by simp [ofItems, skippedItems, skipped?_ofJson v, skippedItems_ofItems rest]

theorem skippedMembers_ofMembers (members : List (String × Json)) : skippedMembers (ofMembers members) = none :=
  match members with
  | [] => rfl
  | (key, v) :: rest => by simp [ofMembers, skippedMembers, skipped?_ofJson v, skippedMembers_ofMembers rest]

end

theorem find?_ofMembers (key : String) (ms : List (String × Json)) :
    (ofMembers ms).find? (isKey key) = (ms.lookup key).map fun v => (.ok key, Node.ofJson v) := by
  induction ms with
  | nil => rfl
  | cons m rest ih =>
    obtain ⟨k, v⟩ := m
    rw [ofMembers, List.find?_cons, List.lookup_cons]
    by_cases same : key = k
    · subst same
      simp [isKey]
    · have other : isKey key (.ok k, Node.ofJson v) = false := beq_eq_false_iff_ne.mpr (Ne.symm same)
      rw [other, beq_eq_false_iff_ne.mpr same, ih]

/-- The place of a key among the members, or behind them. -/
def placeOf (key : String) (members : List (String × Json)) : Nat :=
  members.findIdx fun m => m.1 == key

theorem findIdx?_members {key : String} {members : List (String × Json)} {v : Json}
    (there : members.lookup key = some v) :
    (ofMembers members).findIdx? (isKey key) = some (placeOf key members) := by
  have same : (isKey key ∘ fun m : String × Json => (.ok m.1, Node.ofJson m.2)) = fun m => m.1 == key := rfl
  have present : ∃ m ∈ members, (m.1 == key) = true := by
    obtain ⟨before, after, rfl, -⟩ := List.lookup_eq_some_iff.mp there
    exact ⟨(key, v), List.mem_append_right _ List.mem_cons_self, beq_self_eq_true key⟩
  rw [ofMembers_map, List.findIdx?_map, same, List.findIdx?_eq_some_iff_findIdx_eq]
  exact ⟨List.findIdx_lt_length.mpr present, rfl⟩

namespace Record

/-- What is read of a field that is missing in an object of so many members. -/
def lackingMember (key : String) (count : Nat) : Absent α → Placed α
  | .refused => .error (count + 1, .missing key)
  | .inObjects a | .allowed a => .ok a

theorem read_member (key : String) (d : Decoder α) (absent : Absent α) (p : Place) (members : List (String × Json))
    (i : Nat) : (field key d absent).read p (.members (Json.ofMembers members)) i =
      (members.lookup key).elim (lackingMember key members.length absent) fun v =>
        .put (placeOf key members) (d p (Node.ofJson v)) := by
  have seen := find?_ofMembers key members
  have long : (Json.ofMembers members).length = members.length := by rw [ofMembers_map, List.length_map]
  unfold field
  cases there : members.lookup key with
  | some v =>
    rw [there] at seen
    simp only [findIdx?_members there, seen, Option.map_some]
    rfl
  | none =>
    rw [there] at seen
    simp only [seen, Option.map_none, long]
    cases (Json.ofMembers members).findIdx? (isKey key) <;> cases absent <;> rfl

theorem read_present {key : String} {d : Decoder α} (absent : Absent α) {p : Place} {found : List (String × Json)}
    {v : Json} {a : α} (there : found.lookup key = some v) (read : d p (Node.ofJson v) = .ok a) (i : Nat) :
    (field key d absent).read p (.members (Json.ofMembers found)) i = .ok a := by
  rw [read_member, there, Option.elim_some, read]
  rfl

theorem read_default {key : String} (d : Decoder α) {p : Place} {found : List (String × Json)} (a : α)
    (missing : found.lookup key = none) (i : Nat) :
    (default key d a).read p (.members (Json.ofMembers found)) i = .ok a := by
  unfold default
  rw [read_member, missing]
  rfl

theorem read_mayBe {key : String} (d : Decoder α) {p : Place} {found : List (String × Json)}
    (missing : found.lookup key = none) (i : Nat) :
    (mayBe key d).read p (.members (Json.ofMembers found)) i = .ok none := by
  unfold mayBe
  rw [read_member, missing]
  rfl

theorem read_seq {r : Record (α → β)} {s : Record α} {p : Place} {fields : Fields} {f : α → β} {a : α}
    (first : ∀ i, r.read p fields i = .ok f) (second : ∀ i, s.read p fields i = .ok a) (i : Nat) :
    (r <*> s).read p fields i = .ok (f a) := by
  change (r.read p fields i).both (s.read p fields (i + r.keys.length)) = _
  rw [first, second]
  rfl

theorem keys_seq (r : Record (α → β)) (s : Record α) : (r <*> s).keys = r.keys ++ s.keys :=
  rfl

/-- The members of which a record makes a value, and which of them it does without: those that hold their default. -/
inductive Spells : {α : Type} → Record α → α → (members defaults : List (String × Json)) → Prop
  | pure {α : Type} (a : α) : Spells (.pure a) a [] []
  | required {α : Type} {key : String} {d : Decoder α} {v : Json} {a : α} (takes : d.Takes v a) :
    Spells (.required key d) a [(key, v)] []
  | default {α : Type} {key : String} {d : Decoder α} {v w : Json} {a b : α} (takes : d.Takes v a)
    (usual : d.Takes w b) : Spells (.default key d b) a [(key, v)] [(key, w)]
  | mayBe {α : Type} {key : String} {d : Decoder α} {encode : α → Json} {o : Option α}
    (takes : ∀ a, (Decoder.optional d).Takes (encode a) (some a)) :
    Spells (.mayBe key d) o (some? key (o.map encode)) []
  | seq {α β : Type} {r : Record (α → β)} {s : Record α} {f : α → β} {a : α}
    {members defaults more usual : List (String × Json)} (first : Spells r f members defaults)
    (second : Spells s a more usual) : Spells (r <*> s) (f a) (members ++ more) (defaults ++ usual)

namespace Spells

variable {r : Record α} {a : α} {members defaults found : List (String × Json)}

theorem named (spells : Spells r a members defaults) : (members.map Prod.fst).Sublist r.keys := by
  induction spells with
  | pure => exact List.Sublist.refl _
  | required => exact List.Sublist.refl _
  | default => exact List.Sublist.refl _
  | @mayBe _ _ _ _ o =>
    cases o with
    | none => exact List.nil_sublist _
    | some a => exact List.Sublist.refl _
  | seq first second ih also =>
    rw [List.map_append, keys_seq]
    exact ih.append also

theorem known (spells : Spells r a members defaults) : ∀ m ∈ members, m.1 ∈ r.keys :=
  fun _ member => spells.named.subset (List.mem_map_of_mem member)

theorem usual_known (spells : Spells r a members defaults) : ∀ m ∈ defaults, m.1 ∈ r.keys := by
  induction spells with
  | pure => exact fun _ member => absurd member List.not_mem_nil
  | required => exact fun _ member => absurd member List.not_mem_nil
  | default => exact List.forall_mem_singleton.mpr List.mem_cons_self
  | mayBe => exact fun _ member => absurd member List.not_mem_nil
  | seq first second ih also =>
    intro m member
    rw [keys_seq]
    exact List.mem_append.mpr ((List.mem_append.mp member).imp (ih m) (also m))

theorem read (spells : Spells r a members defaults) (distinct : r.keys.Nodup)
    (gives : Gives r.keys defaults members found) {p : Place} (away : p.source ≠ .text) (i : Nat) :
    r.read p (.members (Json.ofMembers found)) i = .ok a := by
  induction spells generalizing i with
  | pure => rfl
  | required takes =>
    rcases gives.member _ List.mem_cons_self with there | ⟨-, usual⟩
    · exact read_present .refused there (takes p away) i
    · exact absurd usual List.not_mem_nil
  | @default _ key d v w a b takes usual =>
    rcases gives.member _ List.mem_cons_self with there | ⟨missing, same⟩
    · exact read_present (.allowed b) there (takes p away) i
    · obtain ⟨-, rfl⟩ := Prod.mk.inj (List.mem_singleton.mp same)
      obtain rfl := takes.unique usual
      exact read_default d a missing i
  | @mayBe _ key d encode o takes =>
    cases o with
    | none => exact read_mayBe d (gives.other key List.mem_cons_self List.not_mem_nil) i
    | some a =>
      rcases gives.member (key, encode a) List.mem_cons_self with there | ⟨-, usual⟩
      · exact read_present (.inObjects none) there (takes a p away) i
      · exact absurd usual List.not_mem_nil
  | seq first second ih also =>
    obtain ⟨front, back, -⟩ := List.nodup_append'.mp distinct
    exact read_seq (ih front (gives.left distinct first.known second.known second.usual_known))
      (also back (gives.right distinct first.known second.known first.usual_known)) i

end Spells

theorem strayProblem_none {keys : List String} {found : List (String × Json)} {seen : List String}
    (once : ((found.map Prod.fst).filter fun key => key ∈ keys).Nodup)
    (fresh : ∀ m ∈ found, m.1 ∈ keys → m.1 ∉ seen) (i : Nat) :
    strayProblem keys i seen (Json.ofMembers found) = none := by
  induction found generalizing seen i with
  | nil => rfl
  | cons m rest ih =>
    obtain ⟨key, v⟩ := m
    rw [List.map_cons, List.filter_cons] at once
    have later : ∀ m ∈ rest, m.1 ∈ keys → m.1 ∉ seen := fun m member => fresh m (List.mem_cons_of_mem _ member)
    rw [Json.ofMembers, strayProblem]
    by_cases known : key ∈ keys
    · rw [if_pos (decide_eq_true known), List.nodup_cons] at once
      rw [if_pos known, if_neg (fresh _ List.mem_cons_self known)]
      refine ih once.2 (fun m member looked => ?_) (i + 1)
      rw [List.mem_cons, not_or]
      refine ⟨?_, later m member looked⟩
      rintro rfl
      exact once.1 (List.mem_filter.mpr ⟨List.mem_map.mpr ⟨m, member, rfl⟩, decide_eq_true looked⟩)
    · rw [if_neg (by simpa using known)] at once
      rw [if_neg known, skipped?_ofJson]
      exact ih once later (i + 1)

theorem objectProblem_none {keys : List String} {found : List (String × Json)}
    (once : ((found.map Prod.fst).filter fun key => key ∈ keys).Nodup) :
    objectProblem keys (Json.ofMembers found) .closed = none := by
  unfold objectProblem
  rw [strayProblem_none once fun _ _ _ => List.not_mem_nil]
  rfl

theorem ofMembers_ok {r : Record α} {a : α} {members defaults found : List (String × Json)}
    (spells : Spells r a members defaults) (distinct : r.keys.Nodup) (gives : Gives r.keys defaults members found)
    {p : Place} (away : p.source ≠ .text) : r.ofMembers p (Json.ofMembers found) .closed = .ok a := by
  unfold Record.ofMembers
  rw [objectProblem_none gives.once, spells.read distinct gives away]
  rfl

theorem takes_decoder (name : String) {r : Record α} {a : α} {members defaults others : List (String × Json)}
    (spells : Spells r a members defaults) (distinct : r.keys.Nodup)
    (respelled : Respelled r.keys defaults members others) : (r.decoder name).Takes (.object others) a := by
  intro p away
  change (p.enter >>= fun inside => r.ofMembers inside (Json.ofMembers others) .closed) = _
  rw [Decoder.enter_away away]
  exact ofMembers_ok spells distinct (respelled.gives (spells.named.nodup distinct) spells.known) away

end Record
end Json
end TradingDesk
