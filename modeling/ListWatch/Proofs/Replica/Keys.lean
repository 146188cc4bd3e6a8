import Mathlib.Data.List.Nodup
import Mathlib.Logic.Function.Basic
import ListWatch.Replica

/-!
# Keys of a replica

A change touches the first object of its key and no other. So it is seen in two
views of a replica: the sequence of keys held, and the object found for each key.
-/
namespace ListWatch.Replica

variable {α : Type} [Resource α] (replica : Replica α)

/-! ## What a change comes to -/

theorem hasKey_iff (key : Key) (object : α) : hasKey key object = true ↔ Resource.key object = key :=
  decide_eq_true_iff

theorem position?_eq_none_iff (key : Key) : replica.position? key = none ↔ key ∉ replica.keys := by
  simp [position?, keys, hasKey]

theorem exists_position?_iff (key : Key) :
    (∃ index, replica.position? key = some index) ↔ key ∈ replica.keys := by
  rw [← Option.isSome_iff_exists, ← not_iff_not, Option.not_isSome_iff_eq_none,
    position?_eq_none_iff]

theorem apply_modified_of_mem {object : α} (held : Resource.key object ∈ replica.keys) :
    ∃ index, replica.position? (Resource.key object) = some index ∧
      replica.apply (.modified object) =
        ({ replica with items := replica.items.set index object }, .replaced) := by
  obtain ⟨index, found⟩ := (replica.exists_position?_iff _).mpr held
  exact ⟨index, found, by simp only [apply, found]⟩

theorem apply_modified_of_not_mem {object : α} (absent : Resource.key object ∉ replica.keys) :
    replica.apply (.modified object) = (replica, .missingKey) := by
  simp only [apply, (replica.position?_eq_none_iff _).mpr absent]

theorem apply_deleted_of_mem {object : α} (held : Resource.key object ∈ replica.keys) :
    replica.apply (.deleted object) =
      ({ replica with items := replica.items.eraseP (hasKey (Resource.key object)) }, .removed) := by
  obtain ⟨index, found⟩ := (replica.exists_position?_iff _).mpr held
  have erased : replica.items.eraseP (hasKey (Resource.key object)) =
      replica.items.eraseIdx index := by
    rw [List.eraseP_eq_eraseIdx]
    simp only [position?] at found
    simp only [found]
  simp only [apply, found, erased]

theorem apply_deleted_of_not_mem {object : α} (absent : Resource.key object ∉ replica.keys) :
    replica.apply (.deleted object) = (replica, .unchanged) := by
  simp only [apply, (replica.position?_eq_none_iff _).mpr absent]

@[simp] theorem apply_freshness (change : Change α) :
    (replica.apply change).1.freshness = replica.freshness := by
  cases change <;> simp only [apply] <;> split <;> rfl

@[simp] theorem apply_resourceVersion (change : Change α) :
    (replica.apply change).1.resourceVersion = replica.resourceVersion := by
  cases change <;> simp only [apply] <;> split <;> rfl

/-! ## Keys held -/

theorem keys_apply_added (object : α) :
    (replica.apply (.added object)).1.keys = replica.keys ++ [Resource.key object] := by
  simp [apply, keys]

theorem keys_apply_modified (object : α) :
    (replica.apply (.modified object)).1.keys = replica.keys := by
  by_cases held : Resource.key object ∈ replica.keys
  · obtain ⟨index, found, applied⟩ := replica.apply_modified_of_mem held
    obtain ⟨bound, same, -⟩ := List.findIdx?_eq_some_iff_getElem.mp found
    have inside : index < (replica.items.map Resource.key).length := by simpa using bound
    have there : (replica.items.map Resource.key)[index] = Resource.key object := by
      simpa [hasKey_iff] using same
    rw [applied]
    simp only [keys, List.map_set]
    rw [← there, List.set_getElem_self]
  · rw [replica.apply_modified_of_not_mem held]

theorem keys_apply_deleted (object : α) :
    (replica.apply (.deleted object)).1.keys = replica.keys.erase (Resource.key object) := by
  by_cases held : Resource.key object ∈ replica.keys
  · rw [replica.apply_deleted_of_mem held]
    simp only [keys, List.erase_eq_eraseP', List.eraseP_map]
    rfl
  · rw [replica.apply_deleted_of_not_mem held, List.erase_of_not_mem held]

/-! ## Objects found -/

/-- The object found for each key after one more was added at the end. -/
theorem get?_apply_added {object : α} (absent : Resource.key object ∉ replica.keys) :
    (replica.apply (.added object)).1.get? =
      Function.update replica.get? (Resource.key object) (some object) := by
  funext key
  simp only [apply, get?, List.find?_append]
  by_cases same : key = Resource.key object
  · have unfound : replica.items.find? (hasKey (Resource.key object)) = none := by
      simpa [hasKey, keys] using absent
    rw [same, Function.update_self, unfound]
    simp [hasKey]
  · rw [Function.update_of_ne same]
    simp [get?, hasKey, Ne.symm same]

private theorem find?_set_findIdx {items : List α} {object : α} {index : Nat}
    (found : items.findIdx? (hasKey (Resource.key object)) = some index) (key : Key) :
    (items.set index object).find? (hasKey key) =
      if key = Resource.key object then some object else items.find? (hasKey key) := by
  induction items generalizing index with
  | nil => simp at found
  | cons first items ih =>
    rw [List.findIdx?_cons] at found
    split at found
    next here =>
      -- The first object of the key is the one that is replaced.
      cases found
      rw [hasKey_iff] at here
      by_cases same : key = Resource.key object
      · simp [same, hasKey]
      · simp [same, hasKey, here, Ne.symm same]
    next elsewhere =>
      -- This object has another key, so a search for its key ends here as before.
      obtain ⟨later, foundLater, rfl⟩ := Option.map_eq_some_iff.mp found
      have other : Resource.key first ≠ Resource.key object := by
        simpa [hasKey_iff] using elsewhere
      rw [List.set_cons_succ, List.find?_cons, List.find?_cons, ih foundLater]
      by_cases same : key = Resource.key object
      · simp [same, hasKey, other]
      · simp [same]

theorem get?_apply_modified {object : α} (held : Resource.key object ∈ replica.keys) :
    (replica.apply (.modified object)).1.get? =
      Function.update replica.get? (Resource.key object) (some object) := by
  obtain ⟨index, found, applied⟩ := replica.apply_modified_of_mem held
  funext key
  rw [applied, Function.update_apply]
  exact find?_set_findIdx found key

private theorem find?_eraseP_other {items : List α} {key other : Key} (differ : key ≠ other) :
    (items.eraseP (hasKey other)).find? (hasKey key) = items.find? (hasKey key) := by
  induction items with
  | nil => rfl
  | cons first items ih =>
    by_cases here : Resource.key first = other
    · simp [hasKey, here, Ne.symm differ]
    · rw [List.eraseP_cons_of_neg (by simpa [hasKey_iff] using here), List.find?_cons,
        List.find?_cons, ih]

theorem get?_apply_deleted {object : α} (distinct : replica.keys.Nodup)
    (held : Resource.key object ∈ replica.keys) :
    (replica.apply (.deleted object)).1.get? =
      Function.update replica.get? (Resource.key object) none := by
  funext key
  rw [replica.apply_deleted_of_mem held]
  by_cases same : key = Resource.key object
  -- The first object of the key was the only one.
  · have keys := replica.keys_apply_deleted object
    rw [replica.apply_deleted_of_mem held] at keys
    have gone : Resource.key object ∉ replica.keys.erase (Resource.key object) :=
      distinct.not_mem_erase
    rw [← keys] at gone
    rw [same, Function.update_self]
    simpa [get?, hasKey, Replica.keys] using gone
  · rw [Function.update_of_ne same]
    exact find?_eraseP_other same

end ListWatch.Replica
