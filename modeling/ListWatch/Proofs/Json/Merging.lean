import Mathlib.Data.List.Nodup
import ListWatch.Proofs.Json.Records

/-!
# Members in order

The members of a value that was read stand in the order of their names, each name once, and such
members are told apart by what is found at each name. What is left of members as they stand is, at
each name, the last of them.
-/
namespace ListWatch.Json

variable {name key : String} {value : Value} {members held : Members}

/-- The members stand in the order of their names, and no name stands twice. -/
def Ordered (members : Members) : Prop :=
  members.Pairwise fun first second => first.1 < second.1

/-! ## What is found at a name -/

theorem member?_cons (name : String) (entry : String × Value) (members : Members) :
    member? name (entry :: members) =
      if entry.1 = name then some entry.2 else member? name members := by
  rw [member?, List.find?_cons]
  by_cases same : entry.1 = name
  · simp [same]
  · simp [same, member?]

theorem member?_append (name : String) (first second : Members) :
    member? name (first ++ second) = (member? name first).or (member? name second) := by
  rw [member?, List.find?_append, Option.map_or]
  rfl

theorem mem_of_member? (found : member? name members = some value) : (name, value) ∈ members := by
  obtain ⟨entry, here, rfl⟩ := Option.map_eq_some_iff.mp found
  obtain rfl : entry.1 = name := by simpa using List.find?_some here
  exact List.mem_of_find?_eq_some here

/-- Where no name stands twice, each member is the one that is found at its name. -/
theorem member?_eq_some_iff (once : (members.map Prod.fst).Nodup) :
    member? name members = some value ↔ (name, value) ∈ members := by
  refine ⟨mem_of_member?, fun member => ?_⟩
  induction members with
  | nil => cases member
  | cons entry members ih =>
    obtain ⟨fresh, once⟩ := List.nodup_cons.mp once
    rw [member?_cons]
    rcases List.mem_cons.mp member with rfl | member
    · simp
    · have other : entry.1 ≠ name := by
        intro same
        exact fresh (List.mem_map.mpr ⟨_, member, same.symm⟩)
      rw [if_neg other, ih once member]

theorem length_valuesOf_le_one (once : (members.map Prod.fst).Nodup) (name : String) :
    (valuesOf name members).length ≤ 1 := by
  rw [← count_names]
  exact List.nodup_iff_count_le_one.mp once name

/-- What is found among the members whose names are kept. -/
theorem member?_filter (keep : String → Bool) (name : String) (members : Members) :
    member? name (members.filter fun entry => keep entry.1) =
      if keep name then member? name members else none := by
  induction members with
  | nil => simp [member?]
  | cons entry members ih =>
    rw [List.filter_cons, member?_cons]
    by_cases same : entry.1 = name
    · subst same
      by_cases kept : keep entry.1 = true <;> simp [kept, member?_cons, ih]
    · by_cases kept : keep entry.1 = true <;> simp [kept, same, member?_cons, ih]

/-- Where no name stands twice, a member is kept or dropped for its value as well. -/
theorem member?_filter_of_nodup (once : (members.map Prod.fst).Nodup)
    (keep : String × Value → Bool) (name : String) :
    member? name (members.filter keep) =
      (member? name members).filter fun value => keep (name, value) := by
  have once' : ((members.filter keep).map Prod.fst).Nodup :=
    once.sublist (List.filter_sublist.map _)
  ext value
  rw [member?_eq_some_iff once', List.mem_filter, Option.filter_eq_some_iff,
    member?_eq_some_iff once]

theorem valuesOf_filter (keep : String → Bool) (name : String) (members : Members) :
    valuesOf name (members.filter fun entry => keep entry.1) =
      if keep name then valuesOf name members else [] := by
  simp only [valuesOf, List.filter_filter]
  split
  next kept =>
    congr 1
    refine List.filter_congr fun entry _ => ?_
    by_cases same : entry.1 = name <;> simp [same, kept]
  next dropped =>
    rw [List.map_eq_nil_iff, List.filter_eq_nil_iff]
    intro entry _
    by_cases same : entry.1 = name <;> simp [same, dropped]

/-! ## Members set one by one -/

theorem member?_setMember (name key : String) (value : Value) (members : Members) :
    member? name (setMember key value members) =
      if key = name then some value else member? name members := by
  induction members with
  | nil => simp [setMember, member?_cons]
  | cons entry members ih =>
    rw [setMember]
    split
    next same =>
      subst same
      simp only [member?_cons]
      split <;> rfl
    next =>
      split
      next => rw [member?_cons]
      next =>
        rw [member?_cons, ih, member?_cons]
        by_cases found : entry.1 = name
        · have missed : key ≠ name := fun same => ‹¬ key = entry.1› (same.trans found.symm)
          simp [found, missed]
        · simp [found]

theorem mem_setMember {entry : String × Value} (member : entry ∈ setMember key value members) :
    entry = (key, value) ∨ entry ∈ members := by
  induction members with
  | nil => exact Or.inl (List.mem_singleton.mp member)
  | cons other members ih =>
    rw [setMember] at member
    split at member
    · exact (List.mem_cons.mp member).imp_right (List.mem_cons_of_mem _)
    · split at member
      · exact List.mem_cons.mp member
      · rcases List.mem_cons.mp member with rfl | member
        · exact Or.inr List.mem_cons_self
        · exact (ih member).imp_right (List.mem_cons_of_mem _)

theorem Ordered.setMember (ordered : Ordered members) : Ordered (setMember key value members) := by
  induction members with
  | nil => exact List.pairwise_singleton _ _
  | cons other members ih =>
    obtain ⟨before, ordered⟩ := List.pairwise_cons.mp ordered
    rw [Json.setMember]
    split
    next same =>
      exact List.pairwise_cons.mpr ⟨fun entry member => same ▸ before entry member, ordered⟩
    next different =>
      split
      next less =>
        refine List.pairwise_cons.mpr
          ⟨fun entry member => ?_, List.pairwise_cons.mpr ⟨before, ordered⟩⟩
        rcases List.mem_cons.mp member with rfl | member
        · exact less
        · exact String.lt_trans less (before entry member)
      next notLess =>
        -- The new name is neither the first one nor before it.
        have greater : other.1 < key :=
          Std.lt_of_le_of_ne (String.not_lt.mp notLess) (Ne.symm different)
        refine List.pairwise_cons.mpr ⟨fun entry member => ?_, ih ordered⟩
        rcases mem_setMember member with rfl | member
        · exact greater
        · exact before entry member

/-! ## What is left of members -/

theorem Ordered.mergeMembers (ordered : Ordered held) : Ordered (mergeMembers held members) := by
  induction members generalizing held with
  | nil => exact ordered
  | cons entry members ih => exact ih ordered.setMember

theorem ordered_mergeMembers (members : Members) : Ordered (mergeMembers [] members) :=
  Ordered.mergeMembers List.Pairwise.nil

/-- At each name the last of the members is left. -/
theorem member?_mergeMembers (name : String) (held members : Members) :
    member? name (mergeMembers held members) =
      (valuesOf name members).getLast?.or (member? name held) := by
  induction members generalizing held with
  | nil => rfl
  | cons entry members ih =>
    change member? name (mergeMembers (setMember entry.1 entry.2 held) members) = _
    rw [ih, member?_setMember]
    by_cases same : entry.1 = name
    · have first : valuesOf name (entry :: members) = entry.2 :: valuesOf name members := by
        simp [valuesOf, same]
      rw [if_pos same, first, List.getLast?_cons]
      cases (valuesOf name members).getLast? <;> rfl
    · have passed : valuesOf name (entry :: members) = valuesOf name members := by
        simp [valuesOf, same]
      rw [if_neg same, passed]

/-- A name that no two members have is found as it stands. -/
theorem member?_mergeMembers_nil (single : (valuesOf name members).length ≤ 1) :
    member? name (mergeMembers [] members) = member? name members := by
  rw [member?_mergeMembers, member?_eq_head? name members]
  match found : valuesOf name members with
  | [] | [_] => simp [member?]
  | _ :: _ :: _ => simp [found] at single

theorem Ordered.nodup (ordered : Ordered members) : (members.map Prod.fst).Nodup := by
  refine List.pairwise_map.mpr (ordered.imp fun {first second} less same => ?_)
  rw [same] at less
  exact String.lt_irrefl _ less

/-- Members in order are told apart by what is found at each name. -/
theorem Ordered.ext {first second : Members} (ordered : Ordered first) (ordered' : Ordered second)
    (same : ∀ name, member? name first = member? name second) : first = second := by
  have mem (entry : String × Value) : entry ∈ first ↔ entry ∈ second := by
    rw [← member?_eq_some_iff ordered.nodup, same, member?_eq_some_iff ordered'.nodup]
  have perm : first.Perm second :=
    (List.perm_ext_iff_of_nodup ordered.nodup.of_map ordered'.nodup.of_map).mpr mem
  refine perm.eq_of_pairwise (fun a b _ _ less greater => ?_) ordered ordered'
  exact absurd (String.lt_trans less greater) (String.lt_irrefl _)

theorem Ordered.filter (ordered : Ordered members) (keep : String × Value → Bool) :
    Ordered (members.filter keep) :=
  List.Pairwise.filter keep ordered

/-- Nothing is lost of members in order. -/
theorem Ordered.mergeMembers_nil (ordered : Ordered members) :
    Json.mergeMembers [] members = members :=
  (ordered_mergeMembers members).ext ordered fun name =>
    member?_mergeMembers_nil (length_valuesOf_le_one ordered.nodup name)

/-- The members whose names are kept may be picked before or after. -/
theorem mergeMembers_filter (keep : String → Bool) (members : Members) :
    mergeMembers [] (members.filter fun entry => keep entry.1) =
      (mergeMembers [] members).filter fun entry => keep entry.1 := by
  refine (ordered_mergeMembers _).ext ((ordered_mergeMembers _).filter _) fun name => ?_
  rw [member?_filter, member?_mergeMembers, member?_mergeMembers, valuesOf_filter]
  split <;> rfl

theorem mem_of_mem_mergeMembers {entry : String × Value}
    (member : entry ∈ mergeMembers held members) :
    entry ∈ members ∨ entry ∈ held := by
  induction members generalizing held with
  | nil => exact Or.inr member
  | cons first members ih =>
    rcases ih member with here | there
    · exact Or.inl (List.mem_cons_of_mem _ here)
    · rcases mem_setMember there with rfl | there
      · exact Or.inl List.mem_cons_self
      · exact Or.inr there

end ListWatch.Json
