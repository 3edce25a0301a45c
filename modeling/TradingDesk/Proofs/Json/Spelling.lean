import Mathlib.Data.List.Forall2
import Mathlib.Data.List.Nodup
import TradingDesk.Json.Record

/-! Objects that are put down in more than one way. The members may come in any order, others may stand among them,
and those that hold their default may be left out; a record reads the same value from each. -/

namespace TradingDesk
namespace Json

/-- Another way to put down an object with these members, of which `named` are the keys that are looked for. -/
def Respelled (named : List String) (defaults members others : List (String × Json)) : Prop :=
  ∃ kept dropped added, members.Perm (kept ++ dropped) ∧ others.Perm (kept ++ added) ∧
    (∀ m ∈ dropped, m ∈ defaults) ∧ ∀ m ∈ added, m.1 ∉ named

/-- Each member is found as it is, or left out for its default, and nothing else is found that is looked for. -/
structure Gives (named : List String) (defaults members found : List (String × Json)) : Prop where
  member : ∀ m ∈ members, found.lookup m.1 = some m.2 ∨ found.lookup m.1 = none ∧ m ∈ defaults
  other : ∀ key ∈ named, key ∉ members.map Prod.fst → found.lookup key = none
  once : ((found.map Prod.fst).filter fun key => key ∈ named).Nodup

theorem lookup_none_iff (key : String) (ms : List (String × Json)) :
    ms.lookup key = none ↔ key ∉ ms.map Prod.fst := by
  rw [List.lookup_eq_none_iff, List.mem_map]
  constructor
  · rintro absent ⟨m, member, rfl⟩
    simpa using absent m member
  · intro absent m member
    exact bne_iff_ne.mpr fun same => absent ⟨m, member, same.symm⟩

theorem lookup_of_unique {key : String} {v : Json} {ms : List (String × Json)} (member : (key, v) ∈ ms)
    (unique : ∀ m ∈ ms, m.1 = key → m.2 = v) : ms.lookup key = some v := by
  cases found : ms.lookup key with
  | none => exact absurd (List.mem_map_of_mem member) ((lookup_none_iff key ms).mp found)
  | some w =>
    obtain ⟨before, after, rfl, -⟩ := List.lookup_eq_some_iff.mp found
    exact congrArg some (unique (key, w) (List.mem_append_right _ List.mem_cons_self) rfl)

theorem Respelled.refl (named : List String) (defaults members : List (String × Json)) :
    Respelled named defaults members members :=
  ⟨members, [], [], by simp, by simp, by simp, by simp⟩

theorem Respelled.gives {named : List String} {defaults members others : List (String × Json)}
    (respelled : Respelled named defaults members others) (distinct : (members.map Prod.fst).Nodup)
    (known : ∀ m ∈ members, m.1 ∈ named) : Gives named defaults members others := by
  obtain ⟨kept, dropped, added, parts, spelled, optional, strange⟩ := respelled
  have split : ((kept ++ dropped).map Prod.fst).Nodup := (parts.map Prod.fst).nodup_iff.mp distinct
  rw [List.map_append, List.nodup_append'] at split
  obtain ⟨once, -, apart⟩ := split
  have mem_others (m : String × Json) : m ∈ others ↔ m ∈ kept ∨ m ∈ added := by
    rw [spelled.mem_iff, List.mem_append]
  have own {m : String × Json} (member : m ∈ others) (named : m.1 ∈ named) : m ∈ kept :=
    ((mem_others m).mp member).resolve_right fun more => strange m more named
  refine ⟨fun m member => ?_, fun key looked absent => ?_, ?_⟩
  · rcases List.mem_append.mp (parts.mem_iff.mp member) with stays | goes
    · refine .inl (lookup_of_unique ((mem_others m).mpr (.inl stays)) fun n inside same => ?_)
      have also := own inside (same ▸ known m member)
      exact congrArg Prod.snd (List.inj_on_of_nodup_map once also stays same)
    · refine .inr ⟨(lookup_none_iff _ _).mpr fun inside => ?_, optional m goes⟩
      obtain ⟨n, present, same⟩ := List.mem_map.mp inside
      have also := own present (same ▸ known m member)
      exact apart (List.mem_map_of_mem also) (same ▸ List.mem_map_of_mem goes)
  · refine (lookup_none_iff _ _).mpr fun inside => ?_
    obtain ⟨n, present, rfl⟩ := List.mem_map.mp inside
    exact absent (List.mem_map_of_mem (parts.mem_iff.mpr (List.mem_append_left _ (own present looked))))
  · have shuffled := (spelled.map Prod.fst).filter fun key => key ∈ named
    rw [List.map_append, List.filter_append] at shuffled
    have none : (added.map Prod.fst).filter (fun key => key ∈ named) = [] := by
      refine List.filter_eq_nil_iff.mpr fun key inside => ?_
      obtain ⟨m, more, rfl⟩ := List.mem_map.mp inside
      simpa using strange m more
    rw [none, List.append_nil] at shuffled
    exact shuffled.nodup_iff.mpr (once.filter _)

section

variable {named more : List String} {defaults usual members others found : List (String × Json)}
  (distinct : (named ++ more).Nodup) (gives : Gives (named ++ more) (defaults ++ usual) (members ++ others) found)
  (own : ∀ m ∈ members, m.1 ∈ named) (strange : ∀ m ∈ others, m.1 ∈ more)

include distinct gives own strange

/-- An object that gives two lots of members gives each lot. -/
theorem Gives.left (apart : ∀ m ∈ usual, m.1 ∈ more) : Gives named defaults members found := by
  have disjoint := (List.nodup_append'.mp distinct).2.2
  refine ⟨fun m member => ?_, fun key looked absent => ?_, ?_⟩
  · refine (gives.member m (List.mem_append_left _ member)).imp_right fun left => ⟨left.1, ?_⟩
    exact (List.mem_append.mp left.2).resolve_right fun late => disjoint (own m member) (apart m late)
  · refine gives.other key (List.mem_append_left _ looked) ?_
    rw [List.map_append, List.mem_append, not_or]
    refine ⟨absent, fun inside => ?_⟩
    obtain ⟨m, member, rfl⟩ := List.mem_map.mp inside
    exact disjoint looked (strange m member)
  · refine gives.once.sublist (List.monotone_filter_right _ fun key looked => ?_)
    exact decide_eq_true (List.mem_append_left more (of_decide_eq_true looked))

theorem Gives.right (apart : ∀ m ∈ defaults, m.1 ∈ named) : Gives more usual others found := by
  have disjoint := (List.nodup_append'.mp distinct).2.2
  refine ⟨fun m member => ?_, fun key looked absent => ?_, ?_⟩
  · refine (gives.member m (List.mem_append_right _ member)).imp_right fun left => ⟨left.1, ?_⟩
    exact (List.mem_append.mp left.2).resolve_left fun early => disjoint (apart m early) (strange m member)
  · refine gives.other key (List.mem_append_right _ looked) ?_
    rw [List.map_append, List.mem_append, not_or]
    refine ⟨fun inside => ?_, absent⟩
    obtain ⟨m, member, rfl⟩ := List.mem_map.mp inside
    exact disjoint (own m member) looked
  · refine gives.once.sublist (List.monotone_filter_right _ fun key looked => ?_)
    exact decide_eq_true (List.mem_append_right named (of_decide_eq_true looked))

end

end Json
end TradingDesk
