import TradingDesk.Proofs.Json.Fields

/-! Two records in one object: the members that are set aside for the second are what they were, with the members of
the objects in them sorted by key. -/

namespace TradingDesk
namespace Json

mutual

/-- The value with the members of all its objects sorted by key, as a value has them that was read. -/
def inOrder : Json → Json
  | .null => .null
  | .bool b => .bool b
  | .integer n => .integer n
  | .double x => .double x
  | .text s => .text s
  | .list items => .list (itemsInOrder items)
  | .object members => .object (Table.ofList (membersInOrder members))

def itemsInOrder : List Json → List Json
  | [] => []
  | v :: rest => v.inOrder :: itemsInOrder rest

def membersInOrder : List (String × Json) → List (String × Json)
  | [] => []
  | (key, v) :: rest => (key, v.inOrder) :: membersInOrder rest

end

mutual

theorem value_ofJson (v : Json) {room : Nat} (enough : (Node.ofJson v).levels ≤ room) :
    (Node.ofJson v).value room = .ok v.inOrder :=
  match v with
  | .null | .bool _ | .integer _ | .double _ | .text _ => rfl
  | .list items => by
    rw [Node.ofJson, Node.levels] at enough
    obtain ⟨room, rfl⟩ := Nat.exists_eq_add_of_le' (Nat.le_of_add_left_le enough)
    rw [Node.ofJson, Node.value, valueItems_ofItems items (Nat.le_of_add_le_add_right enough)]
    rfl
  | .object members => by
    rw [Node.ofJson, Node.levels] at enough
    obtain ⟨room, rfl⟩ := Nat.exists_eq_add_of_le' (Nat.le_of_add_left_le enough)
    rw [Node.ofJson, Node.value, valueMembers_ofMembers members (Nat.le_of_add_le_add_right enough)]
    rfl

theorem valueItems_ofItems (items : List Json) {room : Nat} (enough : levelsItems (ofItems items) ≤ room) :
    valueItems room (ofItems items) = .ok (itemsInOrder items) :=
  match items with
  | [] => rfl
  | v :: rest => by
    obtain ⟨first, later⟩ := Nat.max_le.mp enough
    rw [ofItems, valueItems, value_ofJson v first, valueItems_ofItems rest later]
    rfl

theorem valueMembers_ofMembers (members : List (String × Json)) {room : Nat}
    (enough : levelsMembers (ofMembers members) ≤ room) :
    valueMembers room (ofMembers members) = .ok (membersInOrder members) :=
  match members with
  | [] => rfl
  | (key, v) :: rest => by
    obtain ⟨first, later⟩ := Nat.max_le.mp enough
    rw [ofMembers, valueMembers, value_ofJson v first, valueMembers_ofMembers rest later]
    rfl

end

theorem membersInOrder_map (members : List (String × Json)) :
    membersInOrder members = members.map fun m => (m.1, m.2.inOrder) := by
  induction members with
  | nil => rfl
  | cons m rest ih => rw [membersInOrder, ih, List.map_cons]

theorem membersInOrder_same {members : List (String × Json)} (settled : ∀ m ∈ members, m.2.inOrder = m.2) :
    membersInOrder members = members := by
  rw [membersInOrder_map]
  conv_rhs => rw [← List.map_id members]
  exact List.map_congr_left fun m member => congrArg (Prod.mk m.1) (settled m member)

theorem itemsInOrder_same {items : List Json} (settled : ∀ v ∈ items, v.inOrder = v) : itemsInOrder items = items := by
  induction items with
  | nil => rfl
  | cons v rest ih =>
    obtain ⟨first, later⟩ := List.forall_mem_cons.mp settled
    rw [itemsInOrder, first, ih later]

theorem takes_value (v : Json) : Decoder.value.Takes v v.inOrder := by
  intro p away
  obtain ⟨source, room⟩ := p
  cases source with
  | text => exact absurd rfl away
  | value => exact value_ofJson v (Nat.le_refl _)
  | setAside => exact value_ofJson v (Nat.le_refl _)

/-- The members with keys that pass, each with its value in order. -/
def membersFor (passes : String → Bool) (found : List (String × Json)) : List (String × Json) :=
  (found.filter fun m => passes m.1).map fun m => (m.1, m.2.inOrder)

theorem membersFor_cons (passes : String → Bool) (key : String) (v : Json) (rest : List (String × Json)) :
    membersFor passes ((key, v) :: rest) =
      if passes key then (key, v.inOrder) :: membersFor passes rest else membersFor passes rest := by
  unfold membersFor
  rw [List.filter_cons]
  split <;> rfl

theorem lookup_membersFor {passes : String → Bool} {key : String} (passed : passes key = true)
    (found : List (String × Json)) : (membersFor passes found).lookup key = (found.lookup key).map inOrder := by
  induction found with
  | nil => rfl
  | cons m rest ih =>
    obtain ⟨k, v⟩ := m
    rw [membersFor_cons, List.lookup_cons]
    by_cases same : key = k
    · subst same
      rw [if_pos passed, List.lookup_cons, beq_self_eq_true]
      rfl
    · have other := beq_eq_false_iff_ne.mpr same
      rw [other, apply_ite (List.lookup key), List.lookup_cons, other]
      simp only [ih, ite_self]

theorem Gives.membersFor {named : List String} {defaults members found : List (String × Json)}
    (gives : Gives named defaults members found) {passes : String → Bool} (passed : ∀ key ∈ named, passes key = true)
    (known : ∀ m ∈ members, m.1 ∈ named) (settled : ∀ m ∈ members, m.2.inOrder = m.2) :
    Gives named defaults members (membersFor passes found) := by
  refine ⟨fun m member => ?_, fun key looked absent => ?_, ?_⟩
  · rw [lookup_membersFor (passed _ (known m member))]
    rcases gives.member m member with there | ⟨none, usual⟩
    · refine .inl ?_
      rw [there, Option.map_some, settled m member]
    · exact .inr ⟨by rw [none, Option.map_none], usual⟩
  · rw [lookup_membersFor (passed key looked), gives.other key looked absent, Option.map_none]
  · have keys : (Json.membersFor passes found).map Prod.fst = (found.filter fun m => passes m.1).map Prod.fst := by
      unfold Json.membersFor
      rw [List.map_map]
      rfl
    rw [keys]
    exact gives.once.sublist ((List.filter_sublist.map Prod.fst).filter _)

namespace Record

variable {α β : Type}

theorem setAside_ofMembers (keys : List String) {p : Place} (away : p.source ≠ .text) (found : List (String × Json))
    (i : Nat) :
    setAside keys p i (Json.ofMembers found) = .ok (Json.ofMembers (membersFor (fun key => key ∉ keys) found)) := by
  induction found generalizing i with
  | nil => rfl
  | cons m rest ih =>
    obtain ⟨key, v⟩ := m
    rw [Json.ofMembers, setAside, membersFor_cons]
    by_cases own : key ∈ keys
    · rw [if_pos own, if_neg (by simpa using own), ih]
    · rw [if_neg own, if_pos (decide_eq_true own), takes_value v p away, ih]
      rfl

theorem filter_ofMembers {passes : Except Error String × Node → Bool} (named : String → Bool)
    (same : ∀ key n, passes (.ok key, n) = named key) (found : List (String × Json)) :
    (Json.ofMembers found).filter passes = Json.ofMembers (found.filter fun m => named m.1) := by
  induction found with
  | nil => rfl
  | cons m rest ih =>
    obtain ⟨key, v⟩ := m
    rw [Json.ofMembers, List.filter_cons, List.filter_cons, same, ih]
    split <;> rfl

theorem map_ofMembers {change : Except Error String × Node → Except Error String × Node}
    (changed : String × Json → String × Json)
    (same : ∀ m, change (.ok m.1, Node.ofJson m.2) = (.ok (changed m).1, Node.ofJson (changed m).2))
    (found : List (String × Json)) :
    (Json.ofMembers found).map change = Json.ofMembers (found.map changed) := by
  rw [Json.ofMembers_map, Json.ofMembers_map, List.map_map, List.map_map]
  exact List.map_congr_left fun m _ => same m

theorem membersFor_filter (passes named : String → Bool) (found : List (String × Json)) :
    (membersFor passes found).filter (fun m => named m.1) = membersFor (fun key => named key && passes key) found := by
  unfold membersFor
  rw [List.filter_map, List.filter_filter]
  rfl

/-- The members that are not a record's own, emptied. -/
def ownOnly (keys : List String) (m : String × Json) : String × Json :=
  if m.1 ∈ keys then m else (m.1, .null)

theorem ownOnly_key (keys : List String) (m : String × Json) : (ownOnly keys m).1 = m.1 := by
  unfold ownOnly
  split <;> rfl

theorem takes_joined (name : String) {base : Record α} {own : Record β} {a : α} {b : β}
    {members defaults more usual found : List (String × Json)} (spells : Spells base a members defaults)
    (also : Spells own b more usual) (distinct : (base.keys ++ own.keys).Nodup)
    (settled : ∀ m ∈ members, m.2.inOrder = m.2)
    (respelled : Respelled (base.keys ++ own.keys) (defaults ++ usual) (members ++ more) found) :
    (joined name base own).Takes (.object found) (a, b) := by
  intro p away
  obtain ⟨once, ownOnce, apart⟩ := List.nodup_append'.mp distinct
  have named : ((members ++ more).map Prod.fst).Sublist (base.keys ++ own.keys) := by
    rw [List.map_append]
    exact spells.named.append also.named
  have gives := respelled.gives (named.nodup distinct) fun m member => named.subset (List.mem_map_of_mem member)
  have first := gives.left distinct spells.known also.known also.usual_known
  have second := gives.right distinct spells.known also.known spells.usual_known
  have passed : ∀ key ∈ base.keys, (decide (key ∈ base.keys) && decide (key ∉ own.keys)) = true := by
    intro key looked
    rw [decide_eq_true looked, decide_eq_true (p := key ∉ own.keys) (apart looked)]
    rfl
  have set := first.membersFor passed spells.known settled
  have keys : (found.map (ownOnly own.keys)).map Prod.fst = found.map Prod.fst := by
    rw [List.map_map]
    exact List.map_congr_left fun m _ => ownOnly_key own.keys m
  have clear : objectProblem own.keys (Json.ofMembers (found.map (ownOnly own.keys))) .closed = none :=
    objectProblem_none (keys.symm ▸ second.once)
  unfold joined
  simp only [Node.ofJson, Decoder.enter_away away]
  have away' : (Place.mk p.source (p.room - 1)).source ≠ .text := away
  change (Placed.beside _ (Placed.both _ _)).result >>= _ = _
  rw [map_ofMembers (ownOnly own.keys), clear, setAside_ofMembers own.keys away',
    also.read ownOnce second away']
  · change base.ofMembers _ (List.filter _ (Json.ofMembers _)) _ >>= _ = _
    rw [filter_ofMembers fun key => key ∈ base.keys,
      membersFor_filter (fun key => key ∉ own.keys) (fun key => key ∈ base.keys),
      ofMembers_ok spells once set (by decide)]
    · rfl
    · exact fun _ _ => rfl
  · intro m
    simp only [ownOnly]
    split <;> rfl

end Record
end Json
end TradingDesk
