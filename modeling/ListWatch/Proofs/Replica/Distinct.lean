import Mathlib.Data.List.Induction
import ListWatch.Proofs.Replica.Keys
import ListWatch.Resource.Untyped

/-!
# Distinct keys

An added object is appended without a look at the keys held. So a replica that was listed with
distinct keys keeps them distinct as long as every object added is one it does not hold, and no
longer. One key doubled leaves every other key as it is.
-/
namespace ListWatch.Replica

variable {α : Type} [Resource α] {replica : Replica α}

/-- The replica after several changes. -/
def applyAll (replica : Replica α) (changes : List (Change α)) : Replica α :=
  changes.foldl (fun replica change => (replica.apply change).1) replica

@[simp] theorem applyAll_nil : replica.applyAll [] = replica := rfl

@[simp] theorem applyAll_concat (changes : List (Change α)) (change : Change α) :
    replica.applyAll (changes ++ [change]) = ((replica.applyAll changes).apply change).1 := by
  simp [applyAll]

/-! ## Entries of one key -/

/-- How many entries are held for a key. -/
def entries (replica : Replica α) (key : Key) : Nat := replica.keys.count key

theorem entries_eq_zero_iff {key : Key} : replica.entries key = 0 ↔ key ∉ replica.keys :=
  List.count_eq_zero

theorem nodup_keys_iff : replica.keys.Nodup ↔ ∀ key, replica.entries key ≤ 1 :=
  List.nodup_iff_count_le_one

theorem entries_apply_added (object : α) :
    (replica.apply (.added object)).1.entries (Resource.key object) =
      replica.entries (Resource.key object) + 1 := by
  rw [entries, keys_apply_added, List.count_append, List.count_singleton_self]
  rfl

/-- Only an addition of its own key brings one more entry. -/
theorem entries_apply_le (change : Change α) {key : Key}
    (other : ∀ object, change = .added object → Resource.key object ≠ key) :
    (replica.apply change).1.entries key ≤ replica.entries key := by
  cases change with
  | added object =>
    rw [entries, keys_apply_added, List.count_append,
      List.count_singleton, if_neg (by simpa using other object rfl)]
    exact Nat.le_refl _
  | modified object => rw [entries, keys_apply_modified]; exact Nat.le_refl _
  | deleted object =>
    rw [entries, keys_apply_deleted]
    exact List.erase_sublist.count_le key
  | bookmark _ | error _ | unknown _ => exact Nat.le_refl _

/-- A change keeps a key at one entry exactly when it does not add an object of a key held. -/
theorem entries_apply_le_one_iff (change : Change α) {key : Key}
    (single : replica.entries key ≤ 1) :
    (replica.apply change).1.entries key ≤ 1 ↔
      ∀ object, change = .added object → Resource.key object = key → key ∉ replica.keys := by
  by_cases adds : ∃ object, change = .added object ∧ Resource.key object = key
  · obtain ⟨object, rfl, rfl⟩ := adds
    rw [entries_apply_added]
    simp [← entries_eq_zero_iff]
  · have other (object : α) (same : change = .added object) : Resource.key object ≠ key :=
      fun named => adds ⟨object, same, named⟩
    refine ⟨fun _ object same named => absurd named (other object same), fun _ => ?_⟩
    exact Nat.le_trans (entries_apply_le change other) single

/-! ## Sequences of changes -/

/-- An object of the key is added, by one of the changes, while the key is held. -/
def Doubles (replica : Replica α) (changes : List (Change α)) (key : Key) : Prop :=
  ∃ earlier object, earlier ++ [.added object] <+: changes ∧ Resource.key object = key ∧
    key ∈ (replica.applyAll earlier).keys

theorem Doubles.mono {changes longer : List (Change α)} {key : Key}
    (doubles : replica.Doubles changes key) (further : changes <+: longer) :
    replica.Doubles longer key := by
  obtain ⟨earlier, object, within, named, held⟩ := doubles
  exact ⟨earlier, object, within.trans further, named, held⟩

/-- As long as no addition doubles a key it has one entry at most. -/
theorem entries_applyAll_le_one {changes : List (Change α)} {key : Key}
    (single : replica.entries key ≤ 1) (never : ¬ replica.Doubles changes key) :
    (replica.applyAll changes).entries key ≤ 1 := by
  induction changes using List.reverseRecOn with
  | nil => exact single
  | append_singleton changes change ih =>
    have before := ih fun doubles => never (doubles.mono (List.prefix_append _ _))
    rw [applyAll_concat, entries_apply_le_one_iff change before]
    rintro object rfl named held
    exact never ⟨changes, object, List.prefix_refl _, named, held⟩

/-- An addition that doubles a key leaves it with two entries at least. -/
theorem Doubles.exists_entries {changes : List (Change α)} {key : Key}
    (doubles : replica.Doubles changes key) :
    ∃ earlier, earlier <+: changes ∧ 1 < (replica.applyAll earlier).entries key := by
  obtain ⟨earlier, object, within, rfl, held⟩ := doubles
  refine ⟨_, within, ?_⟩
  rw [applyAll_concat, entries_apply_added]
  exact Nat.succ_lt_succ (Nat.pos_of_ne_zero (mt entries_eq_zero_iff.mp (not_not_intro held)))

/-- The first addition that doubles a key leaves it with two entries. -/
theorem entries_of_first_doubled {changes : List (Change α)} {object : α}
    (single : replica.entries (Resource.key object) ≤ 1)
    (never : ¬ replica.Doubles changes (Resource.key object))
    (held : Resource.key object ∈ (replica.applyAll changes).keys) :
    (replica.applyAll (changes ++ [.added object])).entries (Resource.key object) = 2 := by
  have once : (replica.applyAll changes).entries (Resource.key object) = 1 :=
    Nat.le_antisymm (entries_applyAll_le_one single never)
      (Nat.pos_of_ne_zero (mt entries_eq_zero_iff.mp (not_not_intro held)))
  rw [applyAll_concat, entries_apply_added, once]

/-- After a list with distinct keys, and after each of any changes made to it, a key has at most one
entry exactly as long as no object of that key is added while one is held. So the keys stay distinct
exactly as long as that happens to none of them. The first such addition leaves two entries, and a
change that adds no object never brings an entry. -/
theorem distinct_until_doubled (before : Replica α) (list : ObjectList α)
    (distinct : (list.items.map Resource.key).Nodup) (changes : List (Change α)) :
    (∀ key, (∀ earlier, earlier <+: changes →
        ((before.replaceAll list).applyAll earlier).entries key ≤ 1) ↔
      ¬ (before.replaceAll list).Doubles changes key) ∧
    ((∀ earlier, earlier <+: changes → ((before.replaceAll list).applyAll earlier).keys.Nodup) ↔
      ∀ key, ¬ (before.replaceAll list).Doubles changes key) ∧
    (∀ earlier object, ¬ (before.replaceAll list).Doubles earlier (Resource.key object) →
      Resource.key object ∈ ((before.replaceAll list).applyAll earlier).keys →
      ((before.replaceAll list).applyAll (earlier ++ [.added object])).entries
        (Resource.key object) = 2) ∧
    ∀ (held : Replica α) (change : Change α), (∀ object, change ≠ .added object) →
      ∀ key, (held.apply change).1.entries key ≤ held.entries key := by
  have single (key : Key) : (before.replaceAll list).entries key ≤ 1 :=
    List.nodup_iff_count_le_one.mp distinct key
  have each (key : Key) : (∀ earlier, earlier <+: changes →
        ((before.replaceAll list).applyAll earlier).entries key ≤ 1) ↔
      ¬ (before.replaceAll list).Doubles changes key := by
    constructor
    · intro kept doubles
      obtain ⟨earlier, within, many⟩ := doubles.exists_entries
      exact Nat.not_lt.mpr (kept earlier within) many
    · intro never earlier within
      exact entries_applyAll_le_one (single key) fun doubles => never (doubles.mono within)
  refine ⟨each, ?distinct, fun _ _ => entries_of_first_doubled (single _),
    fun held change other _ => entries_apply_le change fun object same => (other object same).elim⟩
  case distinct =>
    simp only [nodup_keys_iff, ← each]
    exact ⟨fun kept key earlier within => kept earlier within key,
      fun kept earlier within key => kept key earlier within⟩

namespace Sample

def first : UntypedObject := .named none "first"

def listed : Replica UntypedObject := empty.replaceAll ⟨some "7", [first]⟩

def replacement : List (Change UntypedObject) := [.deleted first, .added first]

end Sample

/-- An object deleted before it is added again is held once throughout. The next addition of it
leaves two entries, and a modification of it brings none where it is not held. -/
theorem distinct_until_doubled_of_deletion :
    ([Sample.first].map Resource.key).Nodup ∧
    (∀ earlier, earlier <+: Sample.replacement →
      (Sample.listed.applyAll earlier).entries (Resource.key Sample.first) ≤ 1) ∧
    (Sample.listed.applyAll (Sample.replacement ++ [.added Sample.first])).entries
      (Resource.key Sample.first) = 2 ∧
    (empty.apply (.modified Sample.first)).1.entries (Resource.key Sample.first) ≤ 0 := by
  obtain ⟨each, -, doubled, never⟩ :=
    distinct_until_doubled empty ⟨some "7", [Sample.first]⟩ (List.nodup_singleton _)
      Sample.replacement
  have undoubled : ¬ Sample.listed.Doubles Sample.replacement (Resource.key Sample.first) := by
    -- The only addition comes when nothing is held.
    rintro ⟨earlier, object, within, -, held⟩
    match earlier with
    | [] => simp [Sample.replacement] at within
    | [deletion] =>
      obtain ⟨rfl, -⟩ := List.cons_prefix_cons.mp within
      exact absurd held List.not_mem_nil
    | _ :: _ :: _ => simp [Sample.replacement, List.cons_prefix_cons] at within
  exact ⟨List.nodup_singleton _, (each _).mpr undoubled,
    doubled _ _ undoubled (List.mem_singleton_self _),
    never empty (.modified _) (fun _ => nofun) _⟩

/-- A key listed once has two entries after an object of it was added. -/
theorem not_nodup_keys_of_doubled :
    ¬ (Sample.listed.applyAll [.added Sample.first]).keys.Nodup := by
  decide +kernel

end ListWatch.Replica
