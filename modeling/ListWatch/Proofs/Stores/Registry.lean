import ListWatch.Proofs.Synchronizer.Calls
import ListWatch.Stores

/-!
# Synchronizers of a registry

A registry is seen through what is found at a path. Whatever is done with the registry,
the synchronizer found at a path takes part in the acts that concern its path and in no
others, and registering a path again leaves it as it is. What is found where nothing was
before was just created.
-/
namespace ListWatch

open ResourceFamily (Carrier)

variable {κ : Type} [ResourceFamily κ]

/-- What may happen to a registry. Whoever got a synchronizer from it starts and stops the one that
is found at the path. -/
inductive RegistryAct (κ : Type) where
  | register (collection : Collection) (scope : Option String) (kind : κ)
  | start (path : String)
  | stop (path : String)
  | startAll
  | stopAll
  | step (path : String) (credential : Credential) (signal : Signal)

/-- The part that the synchronizer at a path has in an act. -/
def RegistryAct.part? (path : String) : RegistryAct κ → Option Act
  | .register _ _ _ => none
  | .start other => if other = path then some .start else none
  | .stop other => if other = path then some .stop else none
  | .startAll => some .start
  | .stopAll => some .stop
  | .step other credential signal =>
    if other = path then some (.step credential signal) else none

namespace Store

/-- The store once its synchronizer has heeded an act. -/
def heed (store : Store κ) (act : Act) : Store κ :=
  { store with synchronizer := store.synchronizer.heed act }

def heedAll (store : Store κ) (acts : List Act) : Store κ :=
  { store with synchronizer := store.synchronizer.heedAll acts }

variable (store : Store κ)

@[simp] theorem path_heed (act : Act) : (store.heed act).path = store.path := rfl

theorem heedAll_cons (act : Act) (acts : List Act) :
    store.heedAll (act :: acts) = (store.heed act).heedAll acts := rfl

/-- What is done to a store is what its synchronizer does with an act. -/
def Heeds (action : Store κ → Option (Store κ × List (StoreEffect κ))) (act : Act) : Prop :=
  ∀ store, ((action store).map Prod.fst).getD store = store.heed act

theorem heeds_start : Heeds (some ∘ start : Store κ → _) .start := fun _ => rfl

theorem heeds_stop : Heeds (some ∘ stop : Store κ → _) .stop := fun _ => rfl

theorem heeds_step (credential : Credential) (signal : Signal) :
    Heeds (step credential signal : Store κ → _) (.step credential signal) := by
  intro store
  rw [step, heed, Synchronizer.heed, Turn.heed, Turn.follow, Synchronizer.act]
  cases store.synchronizer.step credential signal <;> rfl

end Store

namespace Stores

/-- The registry once the store at a path has acted, if there is one and it takes part. -/
def heedAt (stores : Stores κ) (path : String)
    (action : Store κ → Option (Store κ × List (StoreEffect κ))) : Stores κ :=
  ((stores.act path action).map Prod.fst).getD stores

/-- The registry after an act. -/
def heed [DecidableEq κ] (stores : Stores κ) : RegistryAct κ → Stores κ
  | .register collection scope kind =>
    match stores.register collection scope kind with
    | .ok (registered, _) => registered
    | .error _ => stores
  | .start path => stores.heedAt path (some ∘ Store.start)
  | .stop path => stores.heedAt path (some ∘ Store.stop)
  | .startAll => stores.startAll.1
  | .stopAll => stores.stopAll.1
  | .step path credential signal => stores.heedAt path (Store.step credential signal)

/-- What an act makes at a path, should nothing be there. -/
def made? (stores : Stores κ) (path : String) : RegistryAct κ → Option (Store κ)
  | .register collection scope kind =>
    if collection.path scope = path then
      some
        { path, kind
          synchronizer := .create { server := stores.server, collection, scope } stores.options }
    else none
  | .start _ | .stop _ | .startAll | .stopAll | .step _ _ _ => none

/-! ## What is found at a path -/

variable {stores : Stores κ} {path : String}

theorem path_of_find? {store : Store κ} (found : stores.find? path = some store) :
    store.path = path :=
  of_decide_eq_true (List.find?_some (p := fun store : Store κ => decide (store.path = path)) found)

/-- Stores that are changed where they stand are found where they were. -/
theorem find?_map {change : Store κ → Store κ} (keeps : ∀ store, (change store).path = store.path) :
    ({ stores with entries := stores.entries.map change } : Stores κ).find? path =
      (stores.find? path).map change := by
  simp only [find?, List.find?_map, Function.comp_def, keeps]

/-- A store that is put in the place of another is found there, and nothing else is touched. -/
theorem find?_replace (changed : Store κ) :
    (stores.replace changed).find? path =
      (stores.find? path).map fun store => if changed.path = path then changed else store := by
  have keeps : ∀ store : Store κ,
      (if store.path = changed.path then changed else store).path = store.path := by
    intro store
    split
    next same => exact same.symm
    next => rfl
  rw [replace, find?_map keeps]
  cases found : stores.find? path with
  | none => rfl
  | some store => simp only [Option.map_some, path_of_find? found, eq_comm]

/-- A store that is put where its path belongs is found there, if nothing was before. -/
theorem find?_insert {added : Store κ} (absent : stores.find? added.path = none) :
    ({ stores with entries := insert added stores.entries } : Stores κ).find? path =
      if added.path = path then some added else stores.find? path := by
  obtain ⟨server, options, entries⟩ := stores
  simp only [find?, List.find?_eq_none, decide_eq_true_eq] at absent ⊢
  induction entries with
  | nil => by_cases same : added.path = path <;> simp [insert, same]
  | cons other rest ih =>
    have differs : other.path ≠ added.path := absent other List.mem_cons_self
    have found := ih fun store member => absent store (List.mem_cons_of_mem _ member)
    by_cases before : added.path < other.path
    · rw [insert, if_pos before, List.find?_cons]
      by_cases same : added.path = path <;> simp [same]
    · -- The other store stays in front, and its path is not the one added.
      rw [insert, if_neg before, List.find?_cons, List.find?_cons]
      by_cases same : other.path = path
      · have apart : added.path ≠ path := fun equal => differs (same.trans equal.symm)
        simp [same, apart]
      · simp [same, found]

/-- Where a store acts, what is found has heeded the act, and nothing else is touched. -/
theorem find?_heedAt {other : String} {action : Store κ → Option (Store κ × List (StoreEffect κ))}
    {act : Act} (heeds : Store.Heeds action act) :
    (stores.heedAt other action).find? path =
      (stores.find? path).map fun store => if other = path then store.heed act else store := by
  rw [heedAt, Stores.act]
  cases found : stores.find? other with
  | none =>
    by_cases same : other = path
    · rw [← same, found]
      exact found
    · simp [same]
  | some store =>
    have heeded := heeds store
    cases acted : action store with
    | none =>
      -- The store takes no part, so heeding the act leaves it as it is.
      rw [acted] at heeded
      have same : store.heed act = store := heeded.symm
      by_cases here : other = path
      · rw [← here, found]
        simp [acted, same, found]
      · simp [acted, here]
    | some next =>
      obtain ⟨changed, effects⟩ := next
      rw [acted] at heeded
      have heeded : changed = store.heed act := heeded
      have place : changed.path = other := by rw [heeded, Store.path_heed, path_of_find? found]
      rw [Option.bind_some, acted]
      refine (find?_replace changed).trans ?_
      rw [place, heeded]
      by_cases here : other = path
      · rw [← here, found]
        simp
      · simp [here]

theorem find?_actOnAll {action : Store κ → Store κ × List (StoreEffect κ)} {act : Act}
    (heeds : ∀ store, (action store).1 = store.heed act) :
    (stores.actOnAll action).1.find? path = (stores.find? path).map fun store => store.heed act := by
  simp only [actOnAll, List.map_map, Function.comp_def, heeds]
  exact find?_map fun store => store.path_heed act

theorem kept_heedAt {other : String}
    {action : Store κ → Option (Store κ × List (StoreEffect κ))} :
    (stores.heedAt other action).server = stores.server ∧
      (stores.heedAt other action).options = stores.options := by
  rw [heedAt, Stores.act]
  cases (stores.find? other).bind action <;> exact ⟨rfl, rfl⟩

/-- What an act makes was created with the options of the registry and has done nothing. -/
theorem created_of_made? {store : Store κ} {act : RegistryAct κ}
    (made : stores.made? path act = some store) :
    ∃ client, store.synchronizer = .create client stores.options := by
  cases act with
  | register collection scope kind =>
    obtain ⟨-, same⟩ := Option.ite_none_right_eq_some.mp made
    cases same
    exact ⟨_, rfl⟩
  | start _ | stop _ | startAll | stopAll | step _ _ _ => cases made

variable [DecidableEq κ]

/-- What is found at a path has heeded its part of the act. Only a registration makes what was not
there. -/
theorem find?_heed (stores : Stores κ) (path : String) (act : RegistryAct κ) :
    (stores.heed act).find? path =
      ((stores.find? path).map fun store => (act.part? path).elim store store.heed).or
        (stores.made? path act) := by
  cases act with
  | register collection scope kind =>
    simp only [RegistryAct.part?, Option.elim_none, Option.map_id', heed, register, made?]
    cases found : stores.find? (collection.path scope) with
    | some store =>
      -- Of the same kind or refused, the store that is there stays.
      by_cases here : collection.path scope = path
      · rw [← here]
        by_cases same : store.kind = kind <;> simp [same, found]
      · by_cases same : store.kind = kind <;> simp [same, here]
    | none =>
      refine (find?_insert found).trans ?_
      by_cases here : collection.path scope = path
      · rw [← here, found]
        simp
      · simp [here]
  | start other =>
    refine (find?_heedAt Store.heeds_start).trans ?_
    by_cases here : other = path <;> simp [RegistryAct.part?, made?, here]
  | stop other =>
    refine (find?_heedAt Store.heeds_stop).trans ?_
    by_cases here : other = path <;> simp [RegistryAct.part?, made?, here]
  | startAll =>
    rw [made?, Option.or_none]
    exact find?_actOnAll fun store => rfl
  | stopAll =>
    rw [made?, Option.or_none]
    exact find?_actOnAll fun store => rfl
  | step other credential signal =>
    refine (find?_heedAt (Store.heeds_step credential signal)).trans ?_
    by_cases here : other = path <;> simp [RegistryAct.part?, made?, here]

/-! ## Histories of a registry -/

def heedAll (stores : Stores κ) (acts : List (RegistryAct κ)) : Stores κ := acts.foldl heed stores

/-- A registry keeps its server and its options. -/
theorem kept_heed (act : RegistryAct κ) :
    (stores.heed act).server = stores.server ∧ (stores.heed act).options = stores.options := by
  cases act with
  | register collection scope kind =>
    simp only [heed, register]
    cases stores.find? (collection.path scope) with
    | none => exact ⟨rfl, rfl⟩
    | some store => by_cases same : store.kind = kind <;> simp [same]
  | start other => exact kept_heedAt
  | stop other => exact kept_heedAt
  | startAll => exact ⟨rfl, rfl⟩
  | stopAll => exact ⟨rfl, rfl⟩
  | step other credential signal => exact kept_heedAt

/-- What is found at a path stays, and takes part in what concerns the path. -/
theorem find?_heedAll {store : Store κ} (found : stores.find? path = some store)
    (acts : List (RegistryAct κ)) :
    (stores.heedAll acts).find? path =
      some (store.heedAll (acts.filterMap (RegistryAct.part? path))) := by
  induction acts generalizing stores store with
  | nil => exact found
  | cons act acts ih =>
    have next := stores.find?_heed path act
    rw [found, Option.map_some, Option.some_or] at next
    refine (ih next).trans ?_
    cases part : act.part? path with
    | none => rw [List.filterMap_cons_none part, Option.elim_none]
    | some own => rw [List.filterMap_cons_some part, Option.elim_some, Store.heedAll_cons]

end Stores

end ListWatch
