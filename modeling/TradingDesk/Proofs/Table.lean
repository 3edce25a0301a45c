import Mathlib.Data.List.Induction
import Mathlib.Data.List.Nodup
import Mathlib.Order.Basic
import TradingDesk.Table

/-! Tables in ascending order. Such a table has one entry for a key, and is known from what it holds under each. -/

namespace TradingDesk
namespace Table

variable {α : Type}

def Ascending (t : Table α) : Prop :=
  t.Pairwise fun a b => a.1 < b.1

theorem ascending_empty : Ascending ([] : Table α) :=
  List.Pairwise.nil

theorem Ascending.keys_nodup {t : Table α} (ascending : Ascending t) : (t.map Prod.fst).Nodup :=
  List.pairwise_map.mpr (ascending.imp fun before => String.ne_of_lt before)

theorem mem_put {key : String} {value : α} {t : Table α} {entry : String × α}
    (member : entry ∈ t.put key value) : entry = (key, value) ∨ entry ∈ t := by
  induction t with
  | nil => exact .inl (List.mem_singleton.mp member)
  | cons head rest ih =>
    obtain ⟨k, v⟩ := head
    unfold put at member
    split at member
    · exact List.mem_cons.mp member
    · split at member
      · exact (List.mem_cons.mp member).imp_right (List.mem_cons_of_mem _)
      · rcases List.mem_cons.mp member with rfl | inside
        · exact .inr List.mem_cons_self
        · exact (ih inside).imp_right (List.mem_cons_of_mem _)

theorem ascending_put (key : String) (value : α) {t : Table α} (ascending : Ascending t) :
    Ascending (t.put key value) := by
  induction t with
  | nil => exact List.pairwise_singleton _ _
  | cons head rest ih =>
    obtain ⟨k, v⟩ := head
    obtain ⟨above, later⟩ := List.pairwise_cons.mp ascending
    unfold put
    split
    · rename_i before
      refine List.pairwise_cons.mpr ⟨fun entry member => ?_, ascending⟩
      rcases List.mem_cons.mp member with rfl | inside
      · exact before
      · exact String.lt_trans before (above entry inside)
    · rename_i notBefore
      split
      · rename_i same
        subst same
        exact List.pairwise_cons.mpr ⟨above, later⟩
      · rename_i differs
        refine List.pairwise_cons.mpr ⟨fun entry member => ?_, ih later⟩
        rcases mem_put member with rfl | inside
        · exact Std.lt_of_le_of_ne (String.not_lt.mp notBefore) differs
        · exact above entry inside

theorem mem_iff_held {t : Table α} (distinct : (t.map Prod.fst).Nodup) (key : String) (value : α) :
    (key, value) ∈ t ↔ t.get? key = some value := by
  induction t with
  | nil => simp [get?]
  | cons head rest ih =>
    obtain ⟨k, v⟩ := head
    obtain ⟨once, later⟩ := List.nodup_cons.mp distinct
    rw [List.mem_cons, get?_cons, ih later]
    by_cases same : key = k
    · subst same
      have absent : get? key rest ≠ some value := fun held =>
        once (List.mem_map.mpr ⟨(key, value), (ih later).mpr held, rfl⟩)
      simp [absent, @eq_comm _ value]
    · simp [same]

theorem mem_iff_get? {t : Table α} (ascending : Ascending t) (key : String) (value : α) :
    (key, value) ∈ t ↔ t.get? key = some value :=
  mem_iff_held ascending.keys_nodup key value

theorem ascending_ext {s t : Table α} (first : Ascending s) (second : Ascending t)
    (same : ∀ key, s.get? key = t.get? key) : s = t := by
  have shuffled : s.Perm t := by
    refine (List.perm_ext_iff_of_nodup first.keys_nodup.of_map second.keys_nodup.of_map).mpr fun entry => ?_
    rw [mem_iff_get? first entry.1 entry.2, mem_iff_get? second entry.1 entry.2, same]
  refine shuffled.eq_of_pairwise (fun a b _ _ before after => ?_) first second
  exact absurd after (String.lt_asymm before)

/-! Many entries, put one after the other. -/

/-- Of the entries of a key the last one counts. -/
def last? (key : String) (entries : List (String × α)) : Option α :=
  ((entries.filter fun entry => entry.1 = key).getLast?).map Prod.snd

theorem get?_puts (key : String) (entries : List (String × α)) (t : Table α) :
    (entries.foldl (fun t entry => put entry.1 entry.2 t) t).get? key = (last? key entries).or (t.get? key) := by
  induction entries using List.reverseRecOn with
  | nil => rfl
  | append_singleton entries entry ih =>
    rw [List.foldl_append, List.foldl_cons, List.foldl_nil, get?_put, ih]
    unfold last?
    rw [List.filter_append]
    by_cases same : key = entry.1
    · simp [same]
    · simp [same, Ne.symm same]

theorem get?_ofList (key : String) (entries : List (String × α)) : (ofList entries).get? key = last? key entries := by
  have puts := get?_puts key entries []
  rw [show get? key ([] : Table α) = none from rfl, Option.or_none] at puts
  exact puts

theorem ascending_puts (entries : List (String × α)) {t : Table α} (ascending : Ascending t) :
    Ascending (entries.foldl (fun t entry => put entry.1 entry.2 t) t) := by
  induction entries generalizing t with
  | nil => exact ascending
  | cons entry rest ih => exact ih (ascending_put entry.1 entry.2 ascending)

theorem ascending_ofList (entries : List (String × α)) : Ascending (ofList entries) :=
  ascending_puts entries ascending_empty

theorem mem_of_last? {key : String} {entries : List (String × α)} {value : α} (last : last? key entries = some value) :
    (key, value) ∈ entries := by
  obtain ⟨⟨own, _⟩, found, rfl⟩ := Option.map_eq_some_iff.mp last
  obtain ⟨member, same⟩ := List.mem_filter.mp (List.mem_of_getLast? found)
  obtain rfl := of_decide_eq_true same
  exact member

theorem last?_none_iff (key : String) (entries : List (String × α)) :
    last? key entries = none ↔ ∀ entry ∈ entries, entry.1 ≠ key := by
  unfold last?
  rw [Option.map_eq_none_iff, List.getLast?_eq_none_iff, List.filter_eq_nil_iff]
  simp

theorem mem_keys_ofList (key : String) (entries : List (String × α)) :
    key ∈ (ofList entries).map Prod.fst ↔ key ∈ entries.map Prod.fst := by
  have held : (∃ value, (key, value) ∈ ofList entries) ↔ ∃ value, (key, value) ∈ entries := by
    simp only [mem_iff_get? (ascending_ofList entries), get?_ofList]
    constructor
    · rintro ⟨value, last⟩
      exact ⟨value, mem_of_last? last⟩
    · rintro ⟨value, member⟩
      refine Option.ne_none_iff_exists'.mp fun none => ?_
      exact (last?_none_iff key entries).mp none (key, value) member rfl
  simpa using held

theorem mem_of_mem_ofList {entries : List (String × α)} {entry : String × α} (member : entry ∈ ofList entries) :
    entry ∈ entries := by
  have held := (mem_iff_get? (ascending_ofList entries) entry.1 entry.2).mp member
  rw [get?_ofList] at held
  exact mem_of_last? held

theorem last?_perm (key : String) {t : Table α} (distinct : (t.map Prod.fst).Nodup) {entries : List (String × α)}
    (shuffled : entries.Perm t) : last? key entries = t.get? key := by
  cases last : last? key entries with
  | some value => exact ((mem_iff_held distinct key value).mp (shuffled.mem_iff.mp (mem_of_last? last))).symm
  | none =>
    refine (Option.eq_none_iff_forall_ne_some.mpr fun value held => ?_).symm
    have member := shuffled.mem_iff.mpr ((mem_iff_held distinct key value).mpr held)
    exact (last?_none_iff key entries).mp last _ member rfl

theorem last?_ascending (key : String) {t : Table α} (ascending : Ascending t) : last? key t = t.get? key :=
  last?_perm key ascending.keys_nodup (.refl t)

theorem get?_ofList_distinct (key : String) {entries : List (String × α)} (distinct : (entries.map Prod.fst).Nodup) :
    (ofList entries).get? key = get? key entries := by
  rw [get?_ofList, last?_perm key distinct (.refl entries)]

/-- A table has the entries that it is made of, if each key came once. -/
theorem perm_ofList {entries : List (String × α)} (distinct : (entries.map Prod.fst).Nodup) :
    (ofList entries).Perm entries := by
  have once := (ascending_ofList entries).keys_nodup
  refine (List.perm_ext_iff_of_nodup once.of_map distinct.of_map).mpr fun entry => ?_
  rw [mem_iff_held once entry.1 entry.2, mem_iff_held distinct entry.1 entry.2, get?_ofList_distinct entry.1 distinct]

/-- The entries of a table make that table in any order. -/
theorem ofList_perm {t : Table α} (ascending : Ascending t) {entries : List (String × α)} (shuffled : entries.Perm t) :
    ofList entries = t := by
  refine ascending_ext (ascending_ofList entries) ascending fun key => ?_
  rw [get?_ofList, last?_perm key ascending.keys_nodup shuffled]

theorem ofList_ascending {t : Table α} (ascending : Ascending t) : ofList t = t :=
  ofList_perm ascending (.refl t)

/-! A table without one of its keys. -/

theorem ascending_erase (key : String) {t : Table α} (ascending : Ascending t) : Ascending (t.erase key) :=
  ascending.filter _

theorem get?_erase (key other : String) (t : Table α) :
    (t.erase key).get? other = if other = key then none else t.get? other := by
  induction t with
  | nil => exact (ite_self none).symm
  | cons head rest ih =>
    obtain ⟨k, v⟩ := head
    unfold erase at ih ⊢
    rw [List.filter_cons]
    by_cases erased : k = key
    · subst erased
      rw [if_neg (by simp), ih, get?_cons]
      split <;> rfl
    · rw [if_pos (by simpa using erased), get?_cons, get?_cons, ih]
      by_cases same : other = k
      · subst same
        rw [if_pos rfl, if_neg erased, if_pos rfl]
      · rw [if_neg same, if_neg same]

end Table
end TradingDesk
