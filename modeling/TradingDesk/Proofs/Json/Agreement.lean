import TradingDesk.Proofs.Json.Aside
import TradingDesk.Proofs.Json.Joined
import TradingDesk.Proofs.Json.Ordered

/-! Objects that agree on the keys of a record are read alike, with the same value or the same error. Of several faults
the first in the object is reported; the members of a value that was read stand in ascending order, so the same one is
first in both. -/

namespace TradingDesk
namespace Json

/-- Two objects with the same members under these keys. No key comes twice in one of them; the order of the members and
those under other keys are left open. -/
def Agree (keys : List String) (v w : Json) : Prop :=
  ∃ members others, v = .object members ∧ w = .object others ∧ (members.map Prod.fst).Nodup ∧
    (others.map Prod.fst).Nodup ∧ ∀ key ∈ keys, members.lookup key = others.lookup key

theorem ordered_inOrder (v : Json) : v.inOrder.Ordered :=
  value_ordered (Node.ofJson v) (value_ofJson v (Nat.le_refl _))

theorem Ordered.inOrder_same {v : Json} (ordered : v.Ordered) : v.inOrder = v := by
  induction ordered with
  | list _ ih => rw [inOrder, itemsInOrder_same ih]
  | object ascending _ ih => rw [inOrder, membersInOrder_same ih, Table.ofList_ascending ascending]
  | _ => rfl

theorem lookup_inOrder (key : String) {members : List (String × Json)} (distinct : (members.map Prod.fst).Nodup) :
    (Table.ofList (membersInOrder members)).lookup key = (members.lookup key).map inOrder := by
  rw [membersInOrder_map]
  have keys : (members.map fun m => (m.1, m.2.inOrder)).map Prod.fst = members.map Prod.fst := by
    rw [List.map_map]
    rfl
  exact (Table.get?_ofList_distinct key (keys.symm ▸ distinct)).trans (@lookup_map (fun _ => inOrder) key members)

theorem Agree.inOrder {keys : List String} {v w : Json} (agree : v.Agree keys w) : v.inOrder.Agree keys w.inOrder := by
  obtain ⟨members, others, rfl, rfl, distinct, apart, same⟩ := agree
  refine ⟨_, _, rfl, rfl, (Table.ascending_ofList _).keys_nodup, (Table.ascending_ofList _).keys_nodup, ?_⟩
  intro key named
  rw [lookup_inOrder key distinct, lookup_inOrder key apart, same key named]

theorem placeOf_there {key : String} {members : List (String × Json)} {v : Json} (there : members.lookup key = some v) :
    ∃ m, members[placeOf key members]? = some m ∧ m.1 = key := by
  obtain ⟨before, after, rfl, -⟩ := List.lookup_eq_some_iff.mp there
  have inside : placeOf key (before ++ (key, v) :: after) < (before ++ (key, v) :: after).length :=
    List.findIdx_lt_length.mpr ⟨(key, v), List.mem_append_right _ List.mem_cons_self, beq_self_eq_true key⟩
  exact ⟨_, List.getElem?_eq_getElem inside, eq_of_beq (List.findIdx_getElem (w := inside))⟩

/-- The order of places is the order of keys. -/
theorem placeOf_lt_iff {members : List (String × Json)} (ascending : Table.Ascending members) {key other : String}
    {v w : Json} (there : members.lookup key = some v) (also : members.lookup other = some w) :
    placeOf key members < placeOf other members ↔ key < other := by
  have ordered {i j : Nat} {m n : String × Json} (first : members[i]? = some m) (second : members[j]? = some n)
      (before : i < j) : m.1 < n.1 := by
    obtain ⟨inside, rfl⟩ := List.getElem?_eq_some_iff.mp first
    obtain ⟨within, rfl⟩ := List.getElem?_eq_some_iff.mp second
    exact List.pairwise_iff_getElem.mp ascending i j inside within before
  obtain ⟨m, first, rfl⟩ := placeOf_there there
  obtain ⟨n, second, rfl⟩ := placeOf_there also
  constructor
  · exact ordered first second
  · intro less
    rcases Nat.lt_trichotomy (placeOf m.1 members) (placeOf n.1 members) with before | same | after
    · exact before
    · rw [same] at first
      obtain rfl := Option.some.inj (first.symm.trans second)
      exact absurd less (String.lt_irrefl _)
    · exact absurd (ordered second first after) (String.lt_asymm less)

/-- Places of the same member, or behind all members. -/
inductive SamePlace (members others : List (String × Json)) : Nat → Nat → Prop where
  | member {key : String} {v w : Json} (there : members.lookup key = some v) (also : others.lookup key = some w) :
    SamePlace members others (placeOf key members) (placeOf key others)
  | behind : SamePlace members others (members.length + 1) (others.length + 1)

theorem SamePlace.lt_iff {members others : List (String × Json)} (first : Table.Ascending members)
    (second : Table.Ascending others) {i j i' j' : Nat} (place : SamePlace members others i i')
    (other : SamePlace members others j j') : i < j ↔ i' < j' := by
  have within {ms : List (String × Json)} {key : String} {v : Json} (there : ms.lookup key = some v) :
      placeOf key ms < ms.length + 1 := by
    obtain ⟨m, inside, _⟩ := placeOf_there there
    exact Nat.lt_succ_of_lt (List.getElem?_eq_some_iff.mp inside).1
  cases place with
  | member there also =>
    cases other with
    | member here same => rw [placeOf_lt_iff first there here, placeOf_lt_iff second also same]
    | behind => exact iff_of_true (within there) (within also)
  | behind =>
    cases other with
    | member here same => exact iff_of_false (Nat.lt_asymm (within here)) (Nat.lt_asymm (within same))
    | behind => exact iff_of_false (Nat.lt_irrefl _) (Nat.lt_irrefl _)

/-- The same result, or the same error at the same place. -/
inductive Placed.Alike {α : Type} (same : Nat → Nat → Prop) : Placed α → Placed α → Prop where
  | ok (a : α) : Alike same (.ok a) (.ok a)
  | error {i j : Nat} (e : Error) (place : same i j) : Alike same (.error (i, e)) (.error (j, e))

namespace Placed

variable {α β : Type} {same : Nat → Nat → Prop}

theorem Alike.both (ordered : ∀ {i i' j j'}, same i i' → same j j' → (i < j ↔ i' < j')) {f g : Placed (α → β)}
    {a b : Placed α} (first : Alike same f g) (second : Alike same a b) : Alike same (f.both a) (g.both b) := by
  cases first with
  | ok f =>
    cases second with
    | ok a => exact .ok (f a)
    | error e place => exact .error e place
  | @error i i' e place =>
    cases second with
    | ok a => exact .error e place
    | @error j j' e' other =>
      -- the same one of the two comes first on both sides
      change Alike same (.error (if j < i then _ else _)) (.error (if j' < i' then _ else _))
      by_cases earlier : j < i
      · rw [if_pos earlier, if_pos ((ordered other place).mp earlier)]
        exact .error e' other
      · rw [if_neg earlier, if_neg fun later => earlier ((ordered other place).mpr later)]
        exact .error e place

theorem put_alike {i j : Nat} (place : same i j) (a : Except Error α) : Alike same (put i a) (put j a) := by
  cases a with
  | ok a => exact .ok a
  | error e => exact .error e place

theorem Alike.result {a b : Placed α} (alike : Alike same a b) : a.result = b.result := by
  cases alike <;> rfl

end Placed

namespace Record

variable {α : Type} {members others : List (String × Json)}

theorem read_agreeing (first : Table.Ascending members) (second : Table.Ascending others) {r : Record α}
    {P : (β : Type) → String → Decoder β → Prop} (each : r.Each P)
    (agree : ∀ key ∈ r.keys, members.lookup key = others.lookup key) (p : Place) (i : Nat) :
    Placed.Alike (SamePlace members others) (r.read p (.members (Json.ofMembers members)) i)
      (r.read p (.members (Json.ofMembers others)) i) := by
  induction each generalizing i with
  | pure a => exact .ok a
  | @field _ key d absent _ =>
    have same := agree key List.mem_cons_self
    rw [read_member, read_member, ← same]
    cases there : members.lookup key with
    | some v => exact Placed.put_alike (.member there (same ▸ there)) (d p (Node.ofJson v))
    | none =>
      cases absent with
      | refused => exact .error _ .behind
      | inObjects a => exact .ok a
      | allowed a => exact .ok a
  | seq _ _ ih also =>
    rw [keys_seq] at agree
    exact .both (SamePlace.lt_iff first second) (ih (fun key named => agree key (List.mem_append_left _ named)) i)
      (also (fun key named => agree key (List.mem_append_right _ named)) _)

theorem objectProblem_ascending {members : List (String × Json)} (ascending : Table.Ascending members)
    (keys : List String) : objectProblem keys (Json.ofMembers members) .closed = none :=
  objectProblem_none (ascending.keys_nodup.filter _)

/-- Of two values that were read, and that agree on its keys, a record makes the same. -/
theorem decoder_agreeing (name : String) {r : Record α} {P : (β : Type) → String → Decoder β → Prop} (each : r.Each P)
    {v w : Json} (first : v.Ordered) (second : w.Ordered) (agree : v.Agree r.keys w) {p : Place}
    (away : p.source ≠ .text) : r.decoder name p (Node.ofJson v) = r.decoder name p (Node.ofJson w) := by
  obtain ⟨members, others, rfl, rfl, -, -, agree⟩ := agree
  change (p.enter >>= fun inside => r.ofMembers inside (Json.ofMembers members) .closed) =
    p.enter >>= fun inside => r.ofMembers inside (Json.ofMembers others) .closed
  rw [Decoder.enter_away away]
  change (Placed.beside _ _).result = (Placed.beside _ _).result
  rw [objectProblem_ascending first.ascending, objectProblem_ascending second.ascending]
  exact (read_agreeing first.ascending second.ascending each agree _ 0).result

end Record
end Json
end TradingDesk
