import TradingDesk.Proofs.Json.Fields

/-! Data that were set aside are read almost as they are read by themselves. The readers of a record's fields tell where
the two differ: what a reader makes of a value that was set aside, it makes of another value that stands by itself. -/

namespace TradingDesk
namespace Json

/-- The value with the value of each field changed, in an object by its key and in a list by its place. -/
def changed (keys : List String) (change : String → Json → Json) : Json → Json
  | .object members => .object (members.map fun m => (m.1, change m.1 m.2))
  | .list items => .list (items.mapIdx fun i v => (keys[i]?).elim v fun key => change key v)
  | v => v

theorem ofItems_map (items : List Json) : ofItems items = items.map Node.ofJson := by
  induction items with
  | nil => rfl
  | cons v rest ih => rw [ofItems, ih, List.map_cons]

theorem placeOf_map {change : String → Json → Json} (key : String) (members : List (String × Json)) :
    placeOf key (members.map fun m => (m.1, change m.1 m.2)) = placeOf key members :=
  List.findIdx_map _ _ _

theorem lookup_map {change : String → Json → Json} (key : String) (members : List (String × Json)) :
    (members.map fun m => (m.1, change m.1 m.2)).lookup key = (members.lookup key).map (change key) := by
  induction members with
  | nil => rfl
  | cons m rest ih =>
    obtain ⟨k, v⟩ := m
    rw [List.map_cons, List.lookup_cons, List.lookup_cons, ih]
    by_cases same : key = k
    · subst same
      simp
    · simp [beq_eq_false_iff_ne.mpr same]

namespace Record

/-- This holds of every field of a record, by its key and its reader. -/
inductive Each (P : (β : Type) → String → Decoder β → Prop) : {α : Type} → Record α → Prop
  | pure {α : Type} (a : α) : Each P (.pure a)
  | field {α : Type} {key : String} {d : Decoder α} {absent : Absent α} (holds : P α key d) :
    Each P (.field key d absent)
  | seq {α β : Type} {r : Record (α → β)} {s : Record α} (first : Each P r) (second : Each P s) : Each P (r <*> s)

theorem Each.imp {α : Type} {P Q : (β : Type) → String → Decoder β → Prop} {r : Record α} (each : r.Each P)
    (weaker : ∀ {β : Type} (key : String) (d : Decoder β), P β key d → Q β key d) : r.Each Q := by
  induction each with
  | pure a => exact .pure a
  | field holds => exact .field (weaker _ _ holds)
  | seq _ _ ih also => exact .seq ih also

variable {α : Type}

/-- What is read of a field that is missing in a list. -/
def lackingItem (ending : Ending) (whole : String) (i : Nat) (absent : Absent α) : Placed α :=
  match ending.used?, absent with
  | some e, _ => .error (i, e)
  | none, .allowed a => .ok a
  | none, _ => .error (i, .wrongLength i whole)

theorem read_item (key : String) (d : Decoder α) (absent : Absent α) (p : Place) (items : List Json) (ending : Ending)
    (whole : String) (i : Nat) : (field key d absent).read p (.items (Json.ofItems items) ending whole) i =
      (items[i]?).elim (lackingItem ending whole i absent) fun v => .put i (d p (Node.ofJson v)) := by
  unfold field lackingItem
  simp only [ofItems_map, List.getElem?_map]
  cases items[i]? with
  | some v => rfl
  | none => cases ending.used? <;> cases absent <;> rfl

section

variable {change : String → Json → Json} {p q : Place} {r : Record α}

theorem read_changed_members (each : r.Each fun _ key d => ∀ v, d p (Node.ofJson v) = d q (Node.ofJson (change key v)))
    (members : List (String × Json)) (i : Nat) :
    r.read p (.members (Json.ofMembers members)) i =
      r.read q (.members (Json.ofMembers (members.map fun m => (m.1, change m.1 m.2)))) i := by
  induction each generalizing i with
  | pure => rfl
  | field same =>
    rw [read_member, read_member, lookup_map, placeOf_map, List.length_map]
    cases members.lookup _ with
    | none => rfl
    | some v => exact congrArg (Placed.put _) (same v)
  | seq first second ih also => exact congrArg₂ Placed.both (ih i) (also _)

theorem read_changed_items (each : r.Each fun _ key d => ∀ v, d p (Node.ofJson v) = d q (Node.ofJson (change key v)))
    (items others : List Json) (ending : Ending) (whole : String) (i : Nat)
    (there : ∀ j key, r.keys[j]? = some key → others[i + j]? = (items[i + j]?).map (change key)) :
    r.read p (.items (Json.ofItems items) ending whole) i = r.read q (.items (Json.ofItems others) ending whole) i := by
  induction each generalizing i with
  | pure => rfl
  | @field _ key d absent same =>
    rw [read_item, read_item, show others[i]? = _ from there 0 key rfl]
    cases items[i]? with
    | none => rfl
    | some v => exact congrArg (Placed.put i) (same v)
  | @seq _ _ r s first second ih also =>
    refine congrArg₂ Placed.both (ih i fun j key found => there j key ?_) (also _ fun j key found => ?_)
    · rw [keys_seq, List.getElem?_append_left (List.getElem?_eq_some_iff.mp found).1]
      exact found
    · have behind := there (r.keys.length + j) key
      rw [keys_seq, List.getElem?_append_right (Nat.le_add_right _ j), Nat.add_sub_cancel_left,
        ← Nat.add_assoc] at behind
      exact behind found

theorem strayProblem_changed (keys : List String) (members : List (String × Json)) (i : Nat) (seen : List String) :
    strayProblem keys i seen (Json.ofMembers (members.map fun m => (m.1, change m.1 m.2))) =
      strayProblem keys i seen (Json.ofMembers members) := by
  induction members generalizing i seen with
  | nil => rfl
  | cons m rest ih =>
    obtain ⟨key, v⟩ := m
    rw [List.map_cons, Json.ofMembers, Json.ofMembers, strayProblem, strayProblem, skipped?_ofJson, skipped?_ofJson,
      ih, ih]

end

/-- What a list had to be that is too short. -/
def wholeList (name : String) (r : Record α) : String :=
  "struct " ++ name ++ " with " ++ toString r.keys.length ++
    if r.keys.length == 1 then " element" else " elements"

theorem ofItems_eq (name : String) (r : Record α) (p : Place) (items : List Json) :
    r.ofItems name p (Json.ofItems items) .closed =
      (r.read p (.items (Json.ofItems items) .closed (wholeList name r)) 0).result >>= fun a =>
        (leftover p.source r.keys.length (Json.ofItems items) .closed).elim (.ok a) .error := by
  refine congrArg (Bind.bind (r.read p (.items (Json.ofItems items) .closed (wholeList name r)) 0).result) ?_
  funext a
  cases leftover p.source r.keys.length (Json.ofItems items) .closed <;> rfl

theorem leftover_none_iff (source : Source) (width : Nat) (items : List Json) :
    leftover source width (Json.ofItems items) .closed = none ↔ items.length ≤ width := by
  unfold leftover
  rw [ofItems_map, List.length_map]
  split
  · rename_i fits
    exact ⟨fun _ => fits, fun _ => rfl⟩
  · rename_i beyond
    cases source <;> simp [beyond]

theorem ofItems_iff (name : String) (r : Record α) (p : Place) (items : List Json) (a : α) :
    r.ofItems name p (Json.ofItems items) .closed = .ok a ↔ items.length ≤ r.keys.length ∧
      r.read p (.items (Json.ofItems items) .closed (wholeList name r)) 0 = .ok a := by
  rw [ofItems_eq, ← leftover_none_iff p.source]
  cases r.read p (.items (Json.ofItems items) .closed (wholeList name r)) 0 with
  | error e => simp [Placed.result, bind, Except.bind]
  | ok b =>
    cases leftover p.source r.keys.length (Json.ofItems items) .closed with
    | some e => simp [Placed.result, bind, Except.bind]
    | none => simp [Placed.result, bind, Except.bind]

/-- A value that was set aside is read as the changed value by itself is. -/
def Aside (change : String → Json → Json) (β : Type) (key : String) (d : Decoder β) : Prop :=
  ∀ room other v, d ⟨.setAside, room⟩ (Node.ofJson v) = d ⟨.value, other⟩ (Node.ofJson (change key v))

/-- Where each field is read from a value that was set aside as it is from another value by itself, so is the record. -/
theorem ofAside_iff (name : String) {r : Record α} {change : String → Json → Json} (each : r.Each (Aside change))
    (v : Json) (a : α) :
    (r.decoder name).ofAside v = .ok a ↔ (r.decoder name).ofValue (changed r.keys change v) = .ok a := by
  cases v with
  | object members =>
    change r.ofMembers ⟨.setAside, maxDepth - 1⟩ (Json.ofMembers members) .closed = _ ↔
      r.ofMembers ⟨.value, maxDepth - 1⟩ (Json.ofMembers (members.map fun m => (m.1, change m.1 m.2))) .closed = _
    have read := read_changed_members (each.imp fun key d same v => same (maxDepth - 1) (maxDepth - 1) v) members 0
    have long (members : List (String × Json)) : (Json.ofMembers members).length = members.length := by
      rw [ofMembers_map, List.length_map]
    unfold Record.ofMembers objectProblem
    rw [read, strayProblem_changed, long, long, List.length_map]
  | list items =>
    let others := items.mapIdx fun i v => (r.keys[i]?).elim v fun key => change key v
    change r.ofItems name ⟨.setAside, maxDepth - 1⟩ (Json.ofItems items) .closed = _ ↔
      r.ofItems name ⟨.value, maxDepth - 1⟩ (Json.ofItems others) .closed = _
    have read := read_changed_items (each.imp fun key d same v => same (maxDepth - 1) (maxDepth - 1) v) items others
      .closed (wholeList name r) 0 fun j key found => by
        simp [others, List.getElem?_mapIdx, found]
    rw [ofItems_iff, ofItems_iff, read, List.length_mapIdx]
  | _ => exact ⟨nofun, nofun⟩

theorem changed_same (keys : List String) (v : Json) : changed keys (fun _ w => w) v = v := by
  cases v with
  | object members => simp [changed]
  | list items =>
    have same (i : Nat) (w : Json) : (keys[i]?).elim w (fun _ => w) = w := by cases keys[i]? <;> rfl
    simp only [changed, same]
    exact congrArg Json.list (List.ext_getElem? fun i => by simp)
  | _ => rfl

/-- Where each field is read alike, so is the record. -/
theorem ofAside_same (name : String) {r : Record α} (each : r.Each (Aside fun _ v => v)) (v : Json) (a : α) :
    (r.decoder name).ofAside v = .ok a ↔ (r.decoder name).ofValue v = .ok a := by
  have same := ofAside_iff name each v a
  rwa [changed_same] at same

end Record

/-- A name that is the only key of an object, with an empty object behind it, by itself. -/
def bareName : Json → Json
  | .object [(name, v)] =>
    match v with
    | .object [] => .text name
    | v => .object [(name, v)]
  | v => v

/-- A choice that was set aside is read as its bare name is. -/
theorem Decoder.choice_aside {α : Type} (choices : List (String × α)) (room other : Nat) (v : Json) :
    Decoder.choice choices ⟨.setAside, room⟩ (Node.ofJson v) =
      Decoder.choice choices ⟨.value, other⟩ (Node.ofJson v.bareName) := by
  cases v with
  | object members =>
    match members with
    | [] | _ :: _ :: _ => rfl
    | [(name, w)] =>
      cases w with
      | object inner =>
        cases inner with
        | nil =>
          change (Decoder.choose choices name >>= Except.ok) = Decoder.choose choices name
          cases Decoder.choose choices name <;> rfl
        | cons => rfl
      | _ => rfl
  | _ => rfl

end Json
end TradingDesk
