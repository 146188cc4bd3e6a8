/-!
# Chains of checks

Steps that may fail run one after the other. The chain fails as the first of them does, so its
errors are the findings of the first check that finds anything.
-/
namespace ListWatch

variable {ε ι α β : Type}

theorem bind_eq_ok {x : Except ε α} {f : α → Except ε β} {b : β} :
    x >>= f = .ok b ↔ ∃ a, x = .ok a ∧ f a = .ok b := by
  cases x with
  | error e => exact ⟨nofun, nofun⟩
  | ok a => exact ⟨fun same => ⟨a, rfl, same⟩, fun ⟨_, same, rest⟩ => Except.ok.inj same ▸ rest⟩

/-- The first of the checks that finds anything finds this. -/
inductive FirstFinds (finds : ι → ε → Prop) : List ι → ε → Prop where
  | here {check : ι} {later : List ι} {e : ε} (found : finds check e) :
      FirstFinds finds (check :: later) e
  | later {check : ι} {later : List ι} {e : ε} (clean : ∀ e, ¬ finds check e)
      (first : FirstFinds finds later e) : FirstFinds finds (check :: later) e

variable {finds : ι → ε → Prop} {check : ι} {checks later : List ι}

/-- Where any check finds something, one of them finds something first. -/
theorem exists_firstFinds {e : ε} (member : check ∈ checks) (found : finds check e) :
    ∃ e, FirstFinds finds checks e := by
  induction checks with
  | nil => cases member
  | cons first checks ih =>
    by_cases here : ∃ e, finds first e
    · obtain ⟨e, found⟩ := here
      exact ⟨e, .here found⟩
    · have clean : ∀ e, ¬ finds first e := fun e found => here ⟨e, found⟩
      rcases List.mem_cons.mp member with rfl | member
      · exact absurd found (clean e)
      · obtain ⟨e, later⟩ := ih member
        exact ⟨e, .later clean later⟩

theorem firstFinds_later {e : ε} (clean : ∀ e, ¬ finds check e) :
    FirstFinds finds (check :: later) e ↔ FirstFinds finds later e := by
  constructor
  · intro first
    cases first with
    | here found => exact absurd found (clean e)
    | later _ first => exact first
  · exact .later clean

/-- A step of a chain fails as its check finds, and what follows as the later ones do. -/
theorem bind_firstFinds {x : Except ε α} {f : α → Except ε β}
    (here : ∀ e, x = .error e ↔ finds check e)
    (rest : ∀ a, x = .ok a → ∀ e, f a = .error e ↔ FirstFinds finds later e) (e : ε) :
    x >>= f = .error e ↔ FirstFinds finds (check :: later) e := by
  cases x with
  | error first =>
    have found := (here first).mp rfl
    constructor
    · intro same
      cases same
      exact .here found
    · intro finds
      cases finds with
      | here found => exact congrArg Except.error (Except.error.inj ((here e).mpr found))
      | later clean _ => exact absurd found (clean first)
  | ok a =>
    have clean : ∀ e, ¬ finds check e := fun e found => by cases (here e).mpr found
    exact (rest a rfl e).trans (firstFinds_later clean).symm

end ListWatch
