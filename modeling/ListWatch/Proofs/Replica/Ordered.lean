import ListWatch.Proofs.Replica.Commuting
import ListWatch.Proofs.Replica.Distinct

/-!
# Replicas as ordered maps

An ordered map has one value for each of its keys, in the order in which the keys came. A new key
comes last, another value takes the place of the one before it, and a key that goes leaves the order
of the others. A replica is a list that is searched for the first object of a key. As long as no key
is added that is held already, that is the only one, and the replica shows an ordered map through
every change.
-/
namespace ListWatch

variable {α : Type}

/-! ## Ordered maps -/

structure OrderedMap (α : Type) where
  entries : List (Key × α)
  distinct : (entries.map Prod.fst).Nodup

namespace OrderedMap

def keys (map : OrderedMap α) : List Key := map.entries.map Prod.fst

def values (map : OrderedMap α) : List α := map.entries.map Prod.snd

/-- A new key comes last. -/
def append (map : OrderedMap α) (key : Key) (value : α) (absent : key ∉ map.keys) :
    OrderedMap α where
  entries := map.entries ++ [(key, value)]
  distinct := by
    rw [List.map_append]
    exact map.distinct.append (List.nodup_singleton key) (List.disjoint_singleton.mpr absent)

/-- A key gets another value, at its place. -/
def overwrite (map : OrderedMap α) (key : Key) (value : α) : OrderedMap α where
  entries := map.entries.map fun entry => if entry.1 = key then (key, value) else entry
  distinct := by
    have same : Prod.fst ∘ (fun entry : Key × α => if entry.1 = key then (key, value) else entry) =
        Prod.fst := by
      funext entry
      by_cases here : entry.1 = key <;> simp [here]
    rw [List.map_map, same]
    exact map.distinct

def erase (map : OrderedMap α) (key : Key) : OrderedMap α where
  entries := map.entries.filter fun entry => entry.1 ≠ key
  distinct := map.distinct.sublist (List.filter_sublist.map Prod.fst)

variable (map : OrderedMap α) (key : Key) (value : α)

@[simp] theorem entries_append (absent : key ∉ map.keys) :
    (map.append key value absent).entries = map.entries ++ [(key, value)] := rfl

@[simp] theorem entries_overwrite :
    (map.overwrite key value).entries =
      map.entries.map fun entry => if entry.1 = key then (key, value) else entry := rfl

@[simp] theorem entries_erase :
    (map.erase key).entries = map.entries.filter fun entry => entry.1 ≠ key := rfl

variable [Resource α]

/-- The objects of a list by their keys. -/
def ofItems (items : List α) (distinct : (items.map Resource.key).Nodup) : OrderedMap α where
  entries := items.map fun object => (Resource.key object, object)
  distinct := by simpa [Function.comp_def] using distinct

/-- The map after a change, and what comes of it. Nothing is said of an addition of a key that is
held. -/
def take? : Change α → Option (OrderedMap α × Outcome)
  | .added object =>
    if absent : Resource.key object ∉ map.keys then
      some (map.append (Resource.key object) object absent, .appended)
    else none
  | .modified object =>
    some <| if Resource.key object ∈ map.keys then
      (map.overwrite (Resource.key object) object, .replaced)
    else (map, .missingKey)
  | .deleted object =>
    some <| if Resource.key object ∈ map.keys then (map.erase (Resource.key object), .removed)
    else (map, .unchanged)
  | .bookmark _ | .error _ | .unknown _ => some (map, .unchanged)

/-- The map after several changes, and what comes of each. -/
def takeAll? (map : OrderedMap α) : List (Change α) → Option (OrderedMap α × List Outcome)
  | [] => some (map, [])
  | change :: changes =>
    (map.take? change).bind fun (next, outcome) =>
      (next.takeAll? changes).map fun (last, outcomes) => (last, outcome :: outcomes)

theorem take?_eq_none_iff (change : Change α) :
    map.take? change = none ↔ ∃ object, change = .added object ∧ Resource.key object ∈ map.keys := by
  cases change <;> simp [take?]

end OrderedMap

/-! ## Edits where keys are distinct -/

section Edits

variable [Resource α] {key : Key} {items : List α}

/-- Where keys are distinct the first object of a key is the only one. -/
theorem editFirst_some_eq_map (object : α) (distinct : (items.map Resource.key).Nodup) :
    editFirst key (some object) items =
      items.map fun item => if Resource.key item = key then object else item := by
  induction items with
  | nil => rfl
  | cons first items ih =>
    obtain ⟨absent, distinct⟩ := List.nodup_cons.mp distinct
    by_cases here : Resource.key first = key
    · -- No object after the first has its key, so none is replaced there.
      rw [here] at absent
      rw [editFirst_cons_of_eq here, List.map_cons, if_pos here, ← ih distinct,
        editFirst_of_not_mem absent]
      rfl
    · rw [editFirst_cons_of_ne here, ih distinct]
      simp [here]

theorem editFirst_none_eq_filter (distinct : (items.map Resource.key).Nodup) :
    editFirst key none items = items.filter fun item => Resource.key item ≠ key := by
  induction items with
  | nil => rfl
  | cons first items ih =>
    obtain ⟨absent, distinct⟩ := List.nodup_cons.mp distinct
    by_cases here : Resource.key first = key
    · -- No object after the first has its key, so none is filtered out there.
      rw [here] at absent
      rw [editFirst_cons_of_eq here, List.filter_cons_of_neg (by simpa), ← ih distinct,
        editFirst_of_not_mem absent]
      rfl
    · rw [editFirst_cons_of_ne here, List.filter_cons_of_pos (by simpa), ih distinct]

end Edits

/-! ## Maps that replicas show -/

namespace OrderedMap

variable [Resource α] {map next : OrderedMap α} {replica : Replica α} {change : Change α}
  {outcome : Outcome}

/-- The replica holds the objects of the map in the same order, each under its own key. -/
def Shows (map : OrderedMap α) (replica : Replica α) : Prop :=
  map.entries = replica.items.map fun object => (Resource.key object, object)

theorem Shows.keys_eq (shows : map.Shows replica) : map.keys = replica.keys := by
  rw [keys, shows, List.map_map]
  rfl

theorem Shows.values_eq (shows : map.Shows replica) : map.values = replica.items := by
  rw [values, shows, List.map_map]
  exact List.map_id _

theorem Shows.distinct (shows : map.Shows replica) : replica.keys.Nodup := by
  rw [← shows.keys_eq]
  exact map.distinct

theorem shows_ofItems (before : Replica α) (list : ObjectList α)
    (distinct : (list.items.map Resource.key).Nodup) :
    (ofItems list.items distinct).Shows (before.replaceAll list) := rfl

/-- A change that the map takes makes of the replica what it makes of the map, and comes to the
same. -/
theorem Shows.take? (shows : map.Shows replica) (taken : map.take? change = some (next, outcome)) :
    next.Shows (replica.apply change).1 ∧ (replica.apply change).2 = outcome := by
  have distinct := shows.distinct
  cases change with
  | added object =>
    -- It comes last on both sides.
    simp only [OrderedMap.take?, Option.dite_none_right_eq_some, Option.some.injEq] at taken
    obtain ⟨absent, same⟩ := taken
    cases same
    refine ⟨?_, rfl⟩
    rw [Shows, entries_append, shows, Replica.items_apply_added, List.map_append]
    rfl
  | modified object =>
    rw [OrderedMap.take?, shows.keys_eq] at taken
    rw [Replica.outcome_apply]
    by_cases held : Resource.key object ∈ replica.keys
    · rw [if_pos held] at taken
      cases taken
      refine ⟨?_, if_pos held⟩
      rw [Shows, entries_overwrite, shows, Replica.items_apply_modified,
        editFirst_some_eq_map object distinct, List.map_map, List.map_map]
      -- The object that is put in has the key of the one it is put in for.
      refine List.map_congr_left fun item _ => ?_
      by_cases here : Resource.key item = Resource.key object <;> simp [here]
    · rw [if_neg held] at taken
      cases taken
      rw [replica.apply_modified_of_not_mem held]
      exact ⟨shows, if_neg held⟩
  | deleted object =>
    rw [OrderedMap.take?, shows.keys_eq] at taken
    rw [Replica.outcome_apply]
    by_cases held : Resource.key object ∈ replica.keys
    · rw [if_pos held] at taken
      cases taken
      refine ⟨?_, if_pos held⟩
      rw [Shows, entries_erase, shows, Replica.items_apply_deleted, editFirst_none_eq_filter distinct,
        List.filter_map]
      rfl
    · rw [if_neg held] at taken
      cases taken
      rw [replica.apply_deleted_of_not_mem held]
      exact ⟨shows, if_neg held⟩
  | bookmark _ | error _ | unknown _ =>
    cases taken
    exact ⟨shows, rfl⟩

end OrderedMap

/-! ## Sequences of changes -/

namespace Replica

variable [Resource α] {replica : Replica α} {change : Change α} {changes : List (Change α)}

/-- What comes of each of several changes. -/
def outcomes (replica : Replica α) : List (Change α) → List Outcome
  | [] => []
  | change :: changes => (replica.apply change).2 :: (replica.apply change).1.outcomes changes

theorem applyAll_cons :
    replica.applyAll (change :: changes) = (replica.apply change).1.applyAll changes := rfl

/-- A key is doubled by the first change, or by those after it. -/
theorem doubles_cons_iff {key : Key} :
    replica.Doubles (change :: changes) key ↔
      (∃ object, change = .added object ∧ Resource.key object = key ∧ key ∈ replica.keys) ∨
        (replica.apply change).1.Doubles changes key := by
  constructor
  · rintro ⟨earlier, object, within, named, held⟩
    cases earlier with
    | nil =>
      obtain ⟨same, -⟩ := List.cons_prefix_cons.mp within
      exact Or.inl ⟨object, same.symm, named, held⟩
    | cons first earlier =>
      obtain ⟨rfl, further⟩ := List.cons_prefix_cons.mp within
      exact Or.inr ⟨earlier, object, further, named, held⟩
  · rintro (⟨object, rfl, named, held⟩ | ⟨earlier, object, within, named, held⟩)
    · exact ⟨[], object, by simp, named, held⟩
    · exact ⟨change :: earlier, object, List.cons_prefix_cons.mpr ⟨rfl, within⟩, named, held⟩

/-- A change that is said to have changed nothing has changed nothing. -/
theorem apply_of_not_mutated (unchanged : (replica.apply change).2.mutated = false) :
    (replica.apply change).1 = replica := by
  cases change with
  | added _ => cases unchanged
  | modified object =>
    by_cases held : Resource.key object ∈ replica.keys
    · obtain ⟨index, -, applied⟩ := replica.apply_modified_of_mem held
      rw [applied] at unchanged
      cases unchanged
    · rw [replica.apply_modified_of_not_mem held]
  | deleted object =>
    by_cases held : Resource.key object ∈ replica.keys
    · rw [replica.apply_deleted_of_mem held] at unchanged
      cases unchanged
    · rw [replica.apply_deleted_of_not_mem held]
  | bookmark _ | error _ | unknown _ => rfl

theorem applyAll_fields (replica : Replica α) (changes : List (Change α)) :
    (replica.applyAll changes).freshness = replica.freshness ∧
      (replica.applyAll changes).resourceVersion = replica.resourceVersion := by
  induction changes generalizing replica with
  | nil => exact ⟨rfl, rfl⟩
  | cons change changes ih =>
    rw [applyAll_cons]
    simpa using ih (replica.apply change).1

end Replica

namespace OrderedMap

variable [Resource α] {map last : OrderedMap α} {replica : Replica α} {changes : List (Change α)}
  {outcomes : List Outcome}

/-- The replica goes on showing the map through all changes that the map takes. -/
theorem Shows.takeAll? (shows : map.Shows replica)
    (taken : map.takeAll? changes = some (last, outcomes)) :
    last.Shows (replica.applyAll changes) ∧ replica.outcomes changes = outcomes := by
  -- Along the changes, with the map and the replica that each of them leaves.
  induction changes generalizing map replica outcomes with
  | nil =>
    cases taken
    exact ⟨shows, rfl⟩
  | cons change changes ih =>
    obtain ⟨⟨next, outcome⟩, took, further⟩ := Option.bind_eq_some_iff.mp taken
    obtain ⟨⟨last, later⟩, took', same⟩ := Option.map_eq_some_iff.mp further
    cases same
    obtain ⟨still, first⟩ := shows.take? took
    obtain ⟨final, rest⟩ := ih still took'
    exact ⟨final, by rw [Replica.outcomes, first, rest]⟩

/-- A map takes all changes just when none of them adds a key that is held at that point. -/
theorem Shows.isSome_takeAll?_iff (shows : map.Shows replica) :
    (map.takeAll? changes).isSome = true ↔ ∀ key, ¬ replica.Doubles changes key := by
  induction changes generalizing map replica with
  | nil => simp [OrderedMap.takeAll?, Replica.Doubles]
  | cons change changes ih =>
    simp only [Replica.doubles_cons_iff, not_or, forall_and]
    cases taken : map.take? change with
    | none =>
      -- The map stops at the addition of a key that it holds, which is one that doubles it.
      obtain ⟨object, rfl, held⟩ := (map.take?_eq_none_iff change).mp taken
      rw [shows.keys_eq] at held
      have stuck : map.takeAll? (.added object :: changes) = none := by
        rw [OrderedMap.takeAll?, taken, Option.bind_none]
      rw [stuck]
      exact iff_of_false (by simp) fun fresh => fresh.1 _ ⟨object, rfl, rfl, held⟩
    | some step =>
      have fresh (key : Key) : ¬ ∃ object, change = .added object ∧ Resource.key object = key ∧
          key ∈ replica.keys := by
        rintro ⟨object, rfl, rfl, held⟩
        rw [← shows.keys_eq] at held
        have refused := (map.take?_eq_none_iff (.added object)).mpr ⟨object, rfl, held⟩
        cases refused.symm.trans taken
      have further : map.takeAll? (change :: changes) =
          (step.1.takeAll? changes).map fun (last, outcomes) => (last, step.2 :: outcomes) := by
        rw [OrderedMap.takeAll?, taken, Option.bind_some]
      rw [further, Option.isSome_map, ih (shows.take? taken).1]
      exact (and_iff_right fresh).symm

end OrderedMap

section Refinement

variable [Resource α]

theorem Resource.key_eq_iff (first second : α) :
    Resource.key first = Resource.key second ↔
      (Resource.metadata first).scope = (Resource.metadata second).scope ∧
        (Resource.metadata first).name.getD "" = (Resource.metadata second).name.getD "" := by
  simp [Resource.key, Key.ofMetadata]

open Replica in
/-- After a list with distinct keys, and changes of which none adds a key that is held at that point,
a replica holds what an ordered map holds that was made of the same list and took the same changes,
in the same order; each change came to what it came to there, and the keys are still distinct. A
change that came to nothing left what was held. The replica counts as synced at the version of the
list. Two objects have one key when their namespaces are the same, both absent or both given, and
their names are, an absent name being the empty one. -/
theorem replica_refines_ordered_map (before : Replica α) (list : ObjectList α)
    (distinct : (list.items.map Resource.key).Nodup) (changes : List (Change α))
    (fresh : ∀ key, ¬ (before.replaceAll list).Doubles changes key) :
    let listed := before.replaceAll list
    let held := listed.applyAll changes
    (∃ map, (OrderedMap.ofItems list.items distinct).takeAll? changes =
        some (map, listed.outcomes changes) ∧ held.items = map.values ∧ held.keys = map.keys) ∧
    held.keys.Nodup ∧ held.freshness = .synced ∧ held.resourceVersion = list.resourceVersion ∧
    (∀ earlier change, ((listed.applyAll earlier).apply change).2.mutated = false →
      (listed.applyAll (earlier ++ [change])).items = (listed.applyAll earlier).items) ∧
    ∀ first second : α, Resource.key first = Resource.key second ↔
      (Resource.metadata first).scope = (Resource.metadata second).scope ∧
        (Resource.metadata first).name.getD "" = (Resource.metadata second).name.getD "" := by
  intro listed held
  have shows := OrderedMap.shows_ofItems before list distinct
  obtain ⟨⟨map, outcomes⟩, taken⟩ :=
    Option.isSome_iff_exists.mp (shows.isSome_takeAll?_iff.mpr fresh)
  obtain ⟨final, same⟩ := shows.takeAll? taken
  obtain ⟨freshness, version⟩ := listed.applyAll_fields changes
  refine ⟨⟨map, same ▸ taken, final.values_eq.symm, final.keys_eq.symm⟩, final.distinct, freshness,
    version, ?_, Resource.key_eq_iff⟩
  intro earlier change unchanged
  rw [applyAll_concat, apply_of_not_mutated unchanged]

end Refinement

namespace Sample

/-- A name outside any namespace, in the empty one, and in another. -/
def tank (scope : Option String) : UntypedObject := .named scope "tank"

def tanks : ObjectList UntypedObject := ⟨some "7", [tank none, tank (some "")]⟩

/-- An object is deleted, and comes back at the end; another is looked for in vain. -/
def tankChanges : List (Change UntypedObject) :=
  [.deleted (tank none), .modified ((tank (some "")).withField "full" (.boolean true)),
    .added (tank none), .modified (tank (some "lab")), .bookmark none]

theorem distinct_tanks : (tanks.items.map Resource.key).Nodup := by decide

theorem tanks_refine_ordered_map :
    (tanks.items.map Resource.key).Nodup ∧
      (∀ key, ¬ (Replica.empty.replaceAll tanks).Doubles tankChanges key) ∧
      ((Replica.empty.replaceAll tanks).applyAll tankChanges).items =
        [(tank (some "")).withField "full" (.boolean true), tank none] ∧
      (Replica.empty.replaceAll tanks).outcomes tankChanges =
        [.removed, .replaced, .appended, .missingKey, .unchanged] := by
  have fresh : ∀ key, ¬ (Replica.empty.replaceAll tanks).Doubles tankChanges key :=
    (OrderedMap.shows_ofItems Replica.empty tanks distinct_tanks).isSome_takeAll?_iff.mp (by decide)
  obtain ⟨⟨map, taken, items, -⟩, -⟩ :=
    replica_refines_ordered_map Replica.empty tanks distinct_tanks tankChanges fresh
  -- The map and the outcomes are those that the ordered map computes.
  have computed : ((OrderedMap.ofItems tanks.items distinct_tanks).takeAll? tankChanges).map
        (fun (map, outcomes) => (map.values, outcomes)) =
      some ([(tank (some "")).withField "full" (.boolean true), tank none],
        [.removed, .replaced, .appended, .missingKey, .unchanged]) := by decide
  rw [taken, Option.map_some, Option.some.injEq, Prod.mk.injEq] at computed
  exact ⟨distinct_tanks, fresh, items.trans computed.1, computed.2⟩

end Sample

end ListWatch
