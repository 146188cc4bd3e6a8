import ListWatch.Proofs.Replica.Keys
import ListWatch.Resource.Untyped

/-!
# Changes of different keys

A change of an object either adds it at the end or edits the list at the first object of its key. An
edit passes over all objects of other keys, whatever they are and however often a key is held. So
changes of different keys can be made in either order: each has the same outcome, and what is held
afterwards is the same, but for the order of two objects that were both added.
-/
namespace ListWatch

variable {α : Type} [Resource α]

/-! ## Edits -/

/-- The objects once the first of a key is replaced, or removed. -/
def editFirst (key : Key) (replacement : Option α) : List α → List α
  | [] => []
  | object :: items =>
    if Resource.key object = key then replacement.toList ++ items
    else object :: editFirst key replacement items

/-- What is put in place of an object has its key. -/
def Keeps (key : Key) (replacement : Option α) : Prop :=
  ∀ object ∈ replacement, Resource.key object = key

section Edits

variable {key other : Key} {replacement : Option α} {object : α} {items : List α}

theorem editFirst_cons_of_eq (here : Resource.key object = key) :
    editFirst key replacement (object :: items) = replacement.toList ++ items := if_pos here

theorem editFirst_cons_of_ne (elsewhere : Resource.key object ≠ key) :
    editFirst key replacement (object :: items) =
      object :: editFirst key replacement items := if_neg elsewhere

theorem editFirst_of_not_mem (absent : key ∉ items.map Resource.key) :
    editFirst key replacement items = items := by
  induction items with
  | nil => rfl
  | cons object items ih =>
    obtain ⟨elsewhere, absent⟩ := not_or.mp (mt List.mem_cons.mpr absent)
    rw [editFirst_cons_of_ne (Ne.symm elsewhere), ih absent]

/-- A replacement is set where the key is found first. -/
theorem editFirst_some {index : Nat} (found : items.findIdx? (Replica.hasKey key) = some index)
    (object : α) : editFirst key (some object) items = items.set index object := by
  induction items generalizing index with
  | nil => simp at found
  | cons first items ih =>
    rw [List.findIdx?_cons] at found
    split at found
    next here =>
      cases found
      exact editFirst_cons_of_eq ((Replica.hasKey_iff _ _).mp here)
    next elsewhere =>
      obtain ⟨later, foundLater, rfl⟩ := Option.map_eq_some_iff.mp found
      rw [editFirst_cons_of_ne (mt (Replica.hasKey_iff _ _).mpr elsewhere), ih foundLater]
      rfl

theorem editFirst_none (key : Key) (items : List α) :
    editFirst key none items = items.eraseP (Replica.hasKey key) := by
  induction items with
  | nil => rfl
  | cons object items ih =>
    by_cases here : Resource.key object = key
    · rw [editFirst_cons_of_eq here, List.eraseP_cons_of_pos ((Replica.hasKey_iff _ _).mpr here)]
      rfl
    · rw [editFirst_cons_of_ne here, ih,
        List.eraseP_cons_of_neg (mt (Replica.hasKey_iff _ _).mp here)]

/-- An edit does not reach an object at the end that has another key. -/
theorem editFirst_concat_of_ne (differ : Resource.key object ≠ key) (items : List α) :
    editFirst key replacement (items ++ [object]) =
      editFirst key replacement items ++ [object] := by
  induction items with
  | nil => exact editFirst_cons_of_ne differ
  | cons first items ih =>
    rw [List.cons_append]
    by_cases here : Resource.key first = key
    · rw [editFirst_cons_of_eq here, editFirst_cons_of_eq here, List.append_assoc]
    · rw [editFirst_cons_of_ne here, editFirst_cons_of_ne here, ih, List.cons_append]

/-- An edit passes over whatever was put in place of an object of another key. -/
theorem editFirst_toList_append {edit : Option α} (keeps : Keeps other replacement)
    (differ : key ≠ other) (items : List α) :
    editFirst key edit (replacement.toList ++ items) =
      replacement.toList ++ editFirst key edit items := by
  cases replacement with
  | none => rfl
  | some object => exact editFirst_cons_of_ne ((keeps object rfl).trans_ne differ.symm)

/-- Edits at different keys commute. -/
theorem editFirst_comm {first second : Option α} (keepsFirst : Keeps key first)
    (keepsSecond : Keeps other second) (differ : key ≠ other) (items : List α) :
    editFirst other second (editFirst key first items) =
      editFirst key first (editFirst other second items) := by
  -- The edit that stops at an object first leaves there what the other one passes over.
  induction items with
  | nil => rfl
  | cons object items ih =>
    by_cases here : Resource.key object = key
    · rw [editFirst_cons_of_eq here, editFirst_toList_append keepsFirst differ.symm,
        editFirst_cons_of_ne (here.trans_ne differ), editFirst_cons_of_eq here]
    · rw [editFirst_cons_of_ne here]
      by_cases there : Resource.key object = other
      · rw [editFirst_cons_of_eq there, editFirst_cons_of_eq there,
          editFirst_toList_append keepsSecond differ]
      · rw [editFirst_cons_of_ne there, editFirst_cons_of_ne there, editFirst_cons_of_ne here, ih]

/-- An edit leaves the objects of other keys as they are, in their order. -/
theorem filter_editFirst (keeps : Keeps key replacement) (items : List α) :
    (editFirst key replacement items).filter (fun object => Resource.key object ≠ key) =
      items.filter (fun object => Resource.key object ≠ key) := by
  induction items with
  | nil => rfl
  | cons object items ih =>
    by_cases here : Resource.key object = key
    · have gone : replacement.toList.filter (fun object => Resource.key object ≠ key) = [] := by
        simpa [Keeps] using keeps
      rw [editFirst_cons_of_eq here, List.filter_append, gone, List.filter_cons_of_neg (by simpa)]
      rfl
    · rw [editFirst_cons_of_ne here, List.filter_cons_of_pos (by simpa),
        List.filter_cons_of_pos (by simpa), ih]

end Edits

/-! ## Changes as edits -/

namespace Replica

variable (replica : Replica α)

omit [Resource α] in
theorem eq_of_items {first second : Replica α} (items : first.items = second.items)
    (freshness : first.freshness = second.freshness)
    (version : first.resourceVersion = second.resourceVersion) : first = second := by
  cases first
  cases second
  cases items
  cases freshness
  cases version
  rfl

theorem items_apply_added (object : α) :
    (replica.apply (.added object)).1.items = replica.items ++ [object] := rfl

theorem items_apply_modified (object : α) :
    (replica.apply (.modified object)).1.items =
      editFirst (Resource.key object) (some object) replica.items := by
  by_cases held : Resource.key object ∈ replica.keys
  · obtain ⟨index, found, applied⟩ := replica.apply_modified_of_mem held
    rw [applied, editFirst_some found]
  · rw [replica.apply_modified_of_not_mem held, editFirst_of_not_mem held]

theorem items_apply_deleted (object : α) :
    (replica.apply (.deleted object)).1.items =
      editFirst (Resource.key object) none replica.items := by
  by_cases held : Resource.key object ∈ replica.keys
  · rw [replica.apply_deleted_of_mem held, editFirst_none]
  · rw [replica.apply_deleted_of_not_mem held, editFirst_of_not_mem held]

/-- A change of an object adds it at the end, or edits every replica at its key in one way. -/
theorem added_or_edits {change : Change α} {object : α} (carries : change.object? = some object) :
    change = .added object ∨
      ∃ replacement, Keeps (Resource.key object) replacement ∧
        ∀ replica : Replica α, (replica.apply change).1.items =
          editFirst (Resource.key object) replacement replica.items := by
  cases change with
  | added _ => cases carries; exact Or.inl rfl
  | modified _ =>
    cases carries
    exact Or.inr ⟨some object, by simp [Keeps], fun replica => replica.items_apply_modified object⟩
  | deleted _ =>
    cases carries
    exact Or.inr ⟨none, by simp [Keeps], fun replica => replica.items_apply_deleted object⟩
  | bookmark _ | error _ | unknown _ => cases carries

/-- What a change comes to depends on whether its key is held. -/
theorem outcome_apply (change : Change α) :
    (replica.apply change).2 =
      match change with
      | .added _ => .appended
      | .modified object =>
        if Resource.key object ∈ replica.keys then .replaced else .missingKey
      | .deleted object => if Resource.key object ∈ replica.keys then .removed else .unchanged
      | .bookmark _ | .error _ | .unknown _ => .unchanged := by
  cases change with
  | added _ | bookmark _ | error _ | unknown _ => rfl
  | modified object =>
    by_cases held : Resource.key object ∈ replica.keys
    · obtain ⟨index, -, applied⟩ := replica.apply_modified_of_mem held
      rw [applied]
      simp [held]
    · rw [replica.apply_modified_of_not_mem held]
      simp [held]
  | deleted object =>
    by_cases held : Resource.key object ∈ replica.keys
    · rw [replica.apply_deleted_of_mem held]
      simp [held]
    · rw [replica.apply_deleted_of_not_mem held]
      simp [held]

/-- Whether a key is held is not changed by a change of another key. -/
theorem mem_keys_apply_of_ne {change : Change α} {object : α}
    (carries : change.object? = some object) {key : Key} (differ : key ≠ Resource.key object) :
    key ∈ (replica.apply change).1.keys ↔ key ∈ replica.keys := by
  cases change with
  | added _ => cases carries; simp [keys_apply_added, differ]
  | modified _ => rw [keys_apply_modified]
  | deleted _ => cases carries; rw [keys_apply_deleted, List.mem_erase_of_ne differ]
  | bookmark _ | error _ | unknown _ => cases carries

/-- A change has the outcome that it would have had before a change of another key. -/
theorem outcome_apply_of_ne {change earlier : Change α} {object other : α}
    (carries : change.object? = some object) (earlierCarries : earlier.object? = some other)
    (differ : Resource.key object ≠ Resource.key other) :
    ((replica.apply earlier).1.apply change).2 = (replica.apply change).2 := by
  have held := replica.mem_keys_apply_of_ne earlierCarries differ
  -- All that an outcome depends on is whether the key is held.
  rw [outcome_apply, outcome_apply]
  cases change <;> cases carries <;> simp only [held]

/-- A change of an object leaves the objects of other keys as they are, in their order. -/
theorem filter_items_apply {change : Change α} {object : α}
    (carries : change.object? = some object) :
    (replica.apply change).1.items.filter (fun item => Resource.key item ≠ Resource.key object) =
      replica.items.filter (fun item => Resource.key item ≠ Resource.key object) := by
  rcases added_or_edits carries with rfl | ⟨replacement, keeps, edits⟩
  · simp [items_apply_added]
  · rw [edits, filter_editFirst keeps]

/-- Changes of different keys that do not both add come to the same in either order. -/
theorem items_apply_comm {first second : Change α} {object other : α}
    (carries : first.object? = some object) (carriesOther : second.object? = some other)
    (differ : Resource.key object ≠ Resource.key other)
    (edited : first.kind ≠ .added ∨ second.kind ≠ .added) :
    ((replica.apply first).1.apply second).1.items =
      ((replica.apply second).1.apply first).1.items := by
  -- An edit does not reach what is added at the end, and edits at different keys do not meet.
  rcases added_or_edits carries with rfl | ⟨replacement, keeps, edits⟩ <;>
    rcases added_or_edits carriesOther with rfl | ⟨replacement', keeps', edits'⟩
  · simp [Change.kind] at edited
  · rw [edits', items_apply_added, items_apply_added, edits', editFirst_concat_of_ne differ]
  · rw [edits, items_apply_added, items_apply_added, edits, editFirst_concat_of_ne differ.symm]
  · rw [edits, edits', edits, edits', editFirst_comm keeps keeps' differ]

end Replica

open Replica in
/-- Two changes of objects with different keys can be made in either order, whatever the replica
holds and however often: either change has the same outcome in both orders, and the replica is the
same afterwards, but that two objects that were both added stand in the order in which they came.
And a change of an object leaves all objects of other keys as they are, in their order. -/
theorem changes_of_different_keys_commute (replica : Replica α) :
    (∀ (first second : Change α) (object other : α), first.object? = some object →
      second.object? = some other → Resource.key object ≠ Resource.key other →
      let forth := (replica.apply first).1.apply second
      let back := (replica.apply second).1.apply first
      back.2 = (replica.apply first).2 ∧ forth.2 = (replica.apply second).2 ∧
      if first.kind = .added ∧ second.kind = .added then
        forth.1 = { replica with items := replica.items ++ [object, other] } ∧
          back.1 = { replica with items := replica.items ++ [other, object] }
      else forth.1 = back.1) ∧
    ∀ (change : Change α) (object : α), change.object? = some object →
      (replica.apply change).1.items.filter
          (fun item => Resource.key item ≠ Resource.key object) =
        replica.items.filter fun item => Resource.key item ≠ Resource.key object := by
  refine ⟨?_, fun change object carries => replica.filter_items_apply carries⟩
  intro first second object other carries carriesOther differ forth back
  refine ⟨replica.outcome_apply_of_ne carries carriesOther differ,
    replica.outcome_apply_of_ne carriesOther carries differ.symm, ?_⟩
  split
  next both =>
    -- Both objects are put at the end, in the order of the changes.
    cases first <;> cases both.1
    cases second <;> cases both.2
    cases carries
    cases carriesOther
    simp [forth, back, apply]
  next either =>
    refine eq_of_items ?_ (by simp [forth, back]) (by simp [forth, back])
    exact replica.items_apply_comm carries carriesOther differ (not_and_or.mp either)

namespace Sample

def valve : UntypedObject := .named none "valve"

/-- An object of the same name in a namespace, switched on. -/
def labValve : UntypedObject :=
  (UntypedObject.named (some "lab") "valve").withField "online" (.boolean true)

/-- A replica that holds one key twice, on both sides of another. -/
def doubled : Replica UntypedObject := { items := [valve, .named (some "lab") "valve", valve] }

/-- The first of two objects of a key is deleted, before or after an object between them is
modified. -/
theorem deletion_commutes_with_modification :
    Resource.key valve ≠ Resource.key labValve ∧
      ((doubled.apply (.deleted valve)).1.apply (.modified labValve)).1 =
        ((doubled.apply (.modified labValve)).1.apply (.deleted valve)).1 ∧
      ((doubled.apply (.modified labValve)).1.apply (.deleted valve)).1.items = [labValve, valve] ∧
      (doubled.apply (.deleted valve)).1.items.filter
          (fun item => Resource.key item ≠ Resource.key valve) =
        [.named (some "lab") "valve"] := by
  have differ : Resource.key valve ≠ Resource.key labValve := by decide
  obtain ⟨commute, keep⟩ := changes_of_different_keys_commute doubled
  obtain ⟨-, -, same⟩ := commute (.deleted valve) (.modified labValve) valve labValve rfl rfl differ
  exact ⟨differ, same, by decide, (keep (.deleted valve) valve rfl).trans (by decide)⟩

end Sample

end ListWatch
