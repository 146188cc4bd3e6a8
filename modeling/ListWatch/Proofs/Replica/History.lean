import ListWatch.Proofs.Replica.Keys

/-!
# Histories of a collection

A server's collection holds at most one object for each key. Its history is what it held
at first and the changes made to it: each adds an object whose key was absent, or modifies
or deletes one whose key was present. A replica mirrors the collection when it holds the
same object for each key, and no key twice; a change of the history keeps that.
-/
namespace ListWatch

variable {α : Type} [Resource α]

/-! ## Changes of a collection -/

/-- What a change makes of the objects held for each key. -/
def Change.alter (held : Key → Option α) : Change α → Key → Option α
  | .added object | .modified object =>
    Function.update held (Resource.key object) (some object)
  | .deleted object => Function.update held (Resource.key object) none
  | .bookmark _ | .error _ | .unknown _ => held

/-- A server adds what is absent, and modifies or deletes what is present. -/
def Change.Lawful (held : Key → Option α) : Change α → Prop
  | .added object => held (Resource.key object) = none
  | .modified object | .deleted object => (held (Resource.key object)).isSome = true
  | .bookmark _ | .error _ | .unknown _ => False

/-- The objects held for each key after several changes. -/
def altered (held : Key → Option α) (changes : List (Change α)) : Key → Option α :=
  changes.foldl Change.alter held

/-- Every change is one that the server makes to what the changes before it have left. -/
def LawfulChanges (held : Key → Option α) : List (Change α) → Prop
  | [] => True
  | change :: changes => change.Lawful held ∧ LawfulChanges (change.alter held) changes

theorem LawfulChanges.getElem {held : Key → Option α} {changes : List (Change α)}
    (lawful : LawfulChanges held changes) {index : Nat} {change : Change α}
    (found : changes[index]? = some change) :
    change.Lawful (altered held (changes.take index)) := by
  induction changes generalizing held index with
  | nil => simp at found
  | cons first changes ih =>
    cases index with
    | zero =>
      cases found
      exact lawful.1
    | succ index => exact ih lawful.2 found

/-- What a server held at first, and the changes it made. -/
structure History (α : Type) [Resource α] where
  initial : List α
  changes : List (Change α)
  distinct : (initial.map Resource.key).Nodup
  lawful : LawfulChanges (Replica.get? { items := initial }) changes

namespace History

variable (history : History α)

/-- The collection after a number of steps. -/
def after (step : Nat) : Key → Option α :=
  altered (Replica.get? { items := history.initial }) (history.changes.take step)

variable {history} {step : Nat} {change : Change α}

theorem after_succ (found : history.changes[step]? = some change) :
    history.after (step + 1) = change.alter (history.after step) := by
  rw [after, List.take_add_one, found]
  simp [after, altered]

theorem lawful_of_getElem (found : history.changes[step]? = some change) :
    change.Lawful (history.after step) :=
  history.lawful.getElem found

end History

/-! ## Mirrors -/

namespace Replica

variable {replica other : Replica α} {held : Key → Option α}

/-- The replica holds no key twice, and for each key the object held elsewhere. -/
structure Mirrors (replica : Replica α) (held : Key → Option α) : Prop where
  distinct : replica.keys.Nodup
  found : replica.get? = held

theorem Mirrors.of_items (mirrors : replica.Mirrors held) (same : other.items = replica.items) :
    other.Mirrors held := by
  refine ⟨?_, ?_⟩
  · rw [keys, same]
    exact mirrors.distinct
  · rw [← mirrors.found]
    funext key
    rw [get?, get?, same]

theorem get?_eq_none_iff (key : Key) : replica.get? key = none ↔ key ∉ replica.keys := by
  simp [get?, keys, hasKey]

theorem Mirrors.mem_keys_iff (mirrors : replica.Mirrors held) (key : Key) :
    key ∈ replica.keys ↔ (held key).isSome = true := by
  rw [← mirrors.found, ← not_iff_not, ← get?_eq_none_iff, Option.not_isSome_iff_eq_none]

/-- A replica goes on mirroring a collection with every change that the server makes. -/
theorem Mirrors.apply (mirrors : replica.Mirrors held) {change : Change α}
    (lawful : change.Lawful held) : (replica.apply change).1.Mirrors (change.alter held) := by
  -- The server knows whether the key is held, and so it is in the replica.
  cases change with
  | added object =>
    have absent : Resource.key object ∉ replica.keys := by
      rw [mirrors.mem_keys_iff, lawful]
      exact Bool.false_ne_true
    refine ⟨?_, ?_⟩
    · rw [keys_apply_added]
      exact mirrors.distinct.append (List.nodup_singleton _) (by simpa using absent)
    · rw [replica.get?_apply_added absent, mirrors.found]
      rfl
  | modified object =>
    have present := (mirrors.mem_keys_iff _).mpr lawful
    refine ⟨?_, ?_⟩
    · rw [keys_apply_modified]
      exact mirrors.distinct
    · rw [replica.get?_apply_modified present, mirrors.found]
      rfl
  | deleted object =>
    have present := (mirrors.mem_keys_iff _).mpr lawful
    refine ⟨?_, ?_⟩
    · rw [keys_apply_deleted]
      exact mirrors.distinct.erase _
    · rw [replica.get?_apply_deleted mirrors.distinct present, mirrors.found]
      rfl
  | bookmark _ | error _ | unknown _ => exact lawful.elim

end Replica

/-- What a server held at first mirrors its collection before any change. -/
theorem History.mirrors_initial (history : History α) :
    ({ items := history.initial } : Replica α).Mirrors (history.after 0) :=
  ⟨history.distinct, rfl⟩

end ListWatch
