import ListWatch.Proofs.Stores.Sharing
import ListWatch.Proofs.Synchronizer.Alternation

/-!
# What a path is bound to

A registry lists its paths in order, each once, and they are those that were registered. The first
registration of a path binds it to the synchronizer that is made for it, and to the kind of that
registration; from then on nothing but the acts of that synchronizer changes what is found there.
Starting and stopping all of them counts the ones that had no run, or had one.
-/
namespace ListWatch

open ResourceFamily (Carrier)

/-! ## After starting and stopping -/

namespace Synchronizer

variable {α : Type} [Resource α] {synchronizer : Synchronizer α}

/-- Whether it had a run or not, once it is started it has one. -/
theorem run_heed_start (coherent : synchronizer.Coherent) :
    (synchronizer.heed .start).run.isSome = true := by
  rcases granted?_due coherent .start with ⟨refused, same⟩ | ⟨granted, flipped⟩
  · rw [same]
    cases active : synchronizer.run with
    | some run => rfl
    | none =>
      have granted := (start_eq_true_iff coherent).mpr active
      simp [granted?, granted] at refused
  · -- What is granted is a start, so there was no run.
    cases active : synchronizer.run with
    | none => rw [flipped, active]; rfl
    | some run =>
      rw [active] at granted
      simp [granted?, Command.due] at granted

theorem stopped_heed_stop (coherent : synchronizer.Coherent) :
    (synchronizer.heed .stop).Stopped :=
  (Turn.heed_stop (show synchronizer.unmoved.synchronizer.Coherent from coherent)).1

end Synchronizer

/-! ## The paths -/

variable {κ : Type} [ResourceFamily κ]

theorem Store.fst_start (store : Store κ) : store.start.1 = store.heed .start := rfl

theorem Store.fst_stop (store : Store κ) : store.stop.1 = store.heed .stop := rfl

namespace Stores

variable {stores : Stores κ} {path : String}

theorem mem_collections_iff :
    path ∈ stores.collections ↔ ∃ store, stores.find? path = some store := by
  constructor
  · intro member
    obtain ⟨store, held, same⟩ := List.mem_map.mp member
    rw [← Option.isSome_iff_exists, find?, List.find?_isSome]
    exact ⟨store, held, decide_eq_true same⟩
  · rintro ⟨store, found⟩
    exact List.mem_map.mpr ⟨store, List.mem_of_find?_eq_some found, path_of_find? found⟩

/-- Where the paths are in order, each entry is the one that is found at its path. -/
theorem find?_of_mem (sorted : stores.collections.Pairwise (· < ·)) {store : Store κ}
    (member : store ∈ stores.entries) : stores.find? store.path = some store := by
  obtain ⟨earlier, later, entries⟩ := List.append_of_mem member
  rw [collections, entries, List.map_append, List.pairwise_append] at sorted
  obtain ⟨-, -, before⟩ := sorted
  -- Whatever stands before the entry has a smaller path, so the search does not stop there.
  have absent : earlier.find? (fun other => decide (other.path = store.path)) = none := by
    rw [List.find?_eq_none]
    intro other held same
    have less : other.path < store.path :=
      before _ (List.mem_map_of_mem held) _ List.mem_cons_self
    exact String.lt_irrefl _ (of_decide_eq_true same ▸ less)
  rw [find?, entries, List.find?_append, absent, Option.none_or]
  exact List.find?_cons_of_pos (decide_eq_true rfl)

/-- A path that is put where it belongs leaves the paths in order. -/
theorem sorted_insert (added : Store κ) {entries : List (Store κ)}
    (sorted : (entries.map Store.path).Pairwise (· < ·))
    (absent : added.path ∉ entries.map Store.path) :
    ((insert added entries).map Store.path).Pairwise (· < ·) ∧
      ∀ path, path ∈ (insert added entries).map Store.path ↔
        path = added.path ∨ path ∈ entries.map Store.path := by
  induction entries with
  | nil => simp [insert]
  | cons other rest ih =>
    rw [List.map_cons, List.pairwise_cons] at sorted
    rw [List.map_cons, List.mem_cons, not_or] at absent
    obtain ⟨below, ordered⟩ := sorted
    obtain ⟨differs, absent⟩ := absent
    by_cases before : added.path < other.path
    · rw [insert, if_pos before]
      refine ⟨?_, fun path => by simp⟩
      simp only [List.map_cons, List.pairwise_cons, List.forall_mem_cons]
      exact ⟨⟨before, fun path held => String.lt_trans before (below path held)⟩, below, ordered⟩
    · obtain ⟨ordered', same⟩ := ih ordered absent
      -- The path goes behind the first one, as it is neither before it nor the same.
      have after : other.path < added.path := Decidable.byContradiction fun less =>
        differs (String.le_antisymm (String.not_lt.mp less) (String.not_lt.mp before))
      rw [insert, if_neg before, List.map_cons]
      refine ⟨List.pairwise_cons.mpr ⟨?_, ordered'⟩, ?_⟩
      · intro path held
        rcases (same path).mp held with rfl | held
        · exact after
        · exact below path held
      · intro path
        rw [List.mem_cons, same, List.map_cons, List.mem_cons]
        exact or_left_comm

theorem collections_replace (changed : Store κ) :
    (stores.replace changed).collections = stores.collections := by
  rw [collections, collections, replace, List.map_map]
  refine List.map_congr_left fun store _ => ?_
  simp only [Function.comp_apply]
  split
  next same => exact same.symm
  next => rfl

theorem collections_heedAt {action : Store κ → Option (Store κ × List (StoreEffect κ))} :
    (stores.heedAt path action).collections = stores.collections := by
  rw [heedAt, act]
  cases (stores.find? path).bind action with
  | none => rfl
  | some acted => exact collections_replace acted.1

theorem collections_actOnAll {action : Store κ → Store κ × List (StoreEffect κ)} {act : Act}
    (heeds : ∀ store, (action store).1 = store.heed act) :
    (stores.actOnAll action).1.collections = stores.collections := by
  simp only [actOnAll, collections, List.map_map]
  refine List.map_congr_left fun store _ => ?_
  simp only [Function.comp_apply, heeds, Store.path_heed]

theorem collections_startAll : stores.startAll.1.collections = stores.collections :=
  collections_actOnAll Store.fst_start

theorem collections_stopAll : stores.stopAll.1.collections = stores.collections :=
  collections_actOnAll Store.fst_stop

variable [DecidableEq κ]

/-- Registering what is there changes nothing, whether it is granted or refused. -/
theorem register_of_find? {collection : Collection} {scope : Option String} {kind : κ}
    {store : Store κ} (found : stores.find? (collection.path scope) = some store) :
    stores.register collection scope kind =
        (if store.kind = kind then .ok (stores, collection.path scope)
          else .error { path := collection.path scope, requested := kind }) ∧
      stores.heed (.register collection scope kind) = stores := by
  simp only [heed, register, found]
  by_cases same : store.kind = kind <;> simp [same]

theorem sorted_heed (sorted : stores.collections.Pairwise (· < ·)) (act : RegistryAct κ) :
    (stores.heed act).collections.Pairwise (· < ·) := by
  cases act with
  | register collection scope kind =>
    cases found : stores.find? (collection.path scope) with
    | some store =>
      rw [(register_of_find? found).2]
      exact sorted
    | none =>
      have absent : collection.path scope ∉ stores.collections := by
        simp [mem_collections_iff, found]
      simp only [heed, register, found]
      exact (sorted_insert _ sorted absent).1
  | start path | stop path | step path _ _ =>
    simp only [heed, collections_heedAt]
    exact sorted
  | startAll =>
    change stores.startAll.1.collections.Pairwise (· < ·)
    rwa [collections_startAll]
  | stopAll =>
    change stores.stopAll.1.collections.Pairwise (· < ·)
    rwa [collections_stopAll]

theorem sorted_heedAll (sorted : stores.collections.Pairwise (· < ·))
    (acts : List (RegistryAct κ)) : (stores.heedAll acts).collections.Pairwise (· < ·) := by
  induction acts generalizing stores with
  | nil => exact sorted
  | cons act acts ih => exact ih (sorted_heed sorted act)

theorem kept_heedAll (acts : List (RegistryAct κ)) :
    (stores.heedAll acts).server = stores.server ∧
      (stores.heedAll acts).options = stores.options := by
  induction acts generalizing stores with
  | nil => exact ⟨rfl, rfl⟩
  | cons act acts ih =>
    obtain ⟨server, options⟩ : (stores.heed act).server = stores.server ∧
        (stores.heed act).options = stores.options := kept_heed act
    exact ⟨ih.1.trans server, ih.2.trans options⟩

/-- A path is listed just when it was registered. -/
theorem mem_collections_heedAll_iff {server : Url} {options : Options}
    {acts : List (RegistryAct κ)} :
    path ∈ (({ server, options } : Stores κ).heedAll acts).collections ↔
      ∃ collection scope kind, .register collection scope kind ∈ acts ∧
        collection.path scope = path := by
  rw [mem_collections_iff]
  constructor
  · rintro ⟨store, found⟩
    obtain ⟨collection, scope, -, member, same, -⟩ := exists_registration rfl found
    exact ⟨collection, scope, store.kind, member, same⟩
  · rintro ⟨collection, scope, kind, member, rfl⟩
    exact exists_store_of_mem member

/-- What is found at a path is what its first registration made, and it took part in what concerned
the path since. -/
theorem find?_of_first {server : Url} {options : Options} {earlier later : List (RegistryAct κ)}
    {collection : Collection} {scope : Option String} {kind : κ}
    (first : ∀ collection' scope' kind', .register collection' scope' kind' ∈ earlier →
      collection'.path scope' ≠ collection.path scope) :
    (({ server, options } : Stores κ).heedAll
        (earlier ++ .register collection scope kind :: later)).find? (collection.path scope) =
      some (Store.heedAll
        { path := collection.path scope, kind
          synchronizer := .create { server, collection, scope } options }
        (later.filterMap (RegistryAct.part? (collection.path scope)))) := by
  -- What was registered before is elsewhere, so nothing is found at the path yet.
  have absent : (({ server, options } : Stores κ).heedAll earlier).find? (collection.path scope) =
      none := by
    rw [Option.eq_none_iff_forall_ne_some]
    intro store found
    obtain ⟨collection', scope', -, member, same, -⟩ := exists_registration rfl found
    exact first _ _ _ member same
  obtain ⟨servers, chosen⟩ : (({ server, options } : Stores κ).heedAll earlier).server = server ∧
      (({ server, options } : Stores κ).heedAll earlier).options = options :=
    kept_heedAll earlier
  have made := (({ server, options } : Stores κ).heedAll earlier).find?_heed
    (collection.path scope) (.register collection scope kind)
  rw [absent, Option.map_none, Option.none_or, made?, if_pos rfl, servers, chosen] at made
  rw [heedAll, List.foldl_append]
  exact find?_heedAll made later

/-! ## Every entry -/

/-- Every entry of a registry lives as a synchronizer does. -/
theorem coherent_of_mem {server : Url} {options : Options} {acts : List (RegistryAct κ)}
    {store : Store κ} (member : store ∈ (({ server, options } : Stores κ).heedAll acts).entries) :
    store.synchronizer.Coherent := by
  have sorted : (({ server, options } : Stores κ).heedAll acts).collections.Pairwise (· < ·) :=
    sorted_heedAll List.Pairwise.nil acts
  obtain ⟨client, own, lived, -⟩ := exists_own_life rfl (find?_of_mem sorted member)
  rw [lived]
  exact Synchronizer.coherent_heedAll (Synchronizer.coherent_create _ _) own

theorem register_of_absent {collection : Collection} {scope : Option String} {kind : κ}
    (absent : stores.find? (collection.path scope) = none) :
    stores.register collection scope kind =
      .ok (stores.heed (.register collection scope kind), collection.path scope) := by
  simp only [heed, register, absent]

omit [DecidableEq κ] in
/-- Of the entries those are started that had no run. -/
theorem startAll_spec (coherent : ∀ store ∈ stores.entries, store.synchronizer.Coherent) :
    stores.startAll.2.2 = stores.entries.countP (fun store => store.synchronizer.run.isNone) ∧
      ∀ store ∈ stores.startAll.1.entries, store.synchronizer.run.isSome = true := by
  constructor
  · refine List.countP_congr fun store member => ?_
    rw [Synchronizer.start_eq_true_iff (coherent store member), Option.isNone_iff_eq_none]
  · intro started member
    obtain ⟨_, acted, rfl⟩ := List.mem_map.mp member
    obtain ⟨store, held, rfl⟩ := List.mem_map.mp acted
    exact Synchronizer.run_heed_start (coherent store held)

omit [DecidableEq κ] in
/-- Of the entries those had a run that are counted, and none is left with one. -/
theorem stopAll_spec (coherent : ∀ store ∈ stores.entries, store.synchronizer.Coherent) :
    stores.stopAll.2.2 = stores.entries.countP (fun store => store.synchronizer.run.isSome) ∧
      ∀ store ∈ stores.stopAll.1.entries, store.synchronizer.Stopped := by
  refine ⟨rfl, ?_⟩
  intro stopped member
  obtain ⟨_, acted, rfl⟩ := List.mem_map.mp member
  obtain ⟨store, held, rfl⟩ := List.mem_map.mp acted
  exact Synchronizer.stopped_heed_stop (coherent store held)

end Stores

/-- Whatever is registered, started and stopped in a registry, and whatever the runs do in between:
its paths are those that were registered, each once and in order. At a path there is always the
synchronizer that was made by its first registration, with the kind of that one, after the acts that
concerned it. Another registration of the path gives that synchronizer for the same kind and is refused
for another, and changes nothing. Starting all starts just those that have no run, stopping all stops
just those that have one, each tells how many they were, and leaves all of them with a run, or stopped
with nothing held. -/
theorem paths_stay_bound {κ : Type} [ResourceFamily κ] [DecidableEq κ] (server : Url)
    (options : Options) (acts : List (RegistryAct κ)) :
    let empty : Stores κ := { server, options }
    let stores := empty.heedAll acts
    (stores.collections.Pairwise (· < ·) ∧
      ∀ path, path ∈ stores.collections ↔ ∃ collection scope kind,
        .register collection scope kind ∈ acts ∧ collection.path scope = path) ∧
    (∀ collection scope kind,
      let path := collection.path scope
      let register := RegistryAct.register collection scope kind
      (∀ earlier later, acts = earlier ++ register :: later →
        (∀ collection' scope' kind', .register collection' scope' kind' ∈ earlier →
          collection'.path scope' ≠ path) →
        stores.find? path = some (Store.heedAll
          { path, kind, synchronizer := .create { server, collection, scope } options }
          (later.filterMap (RegistryAct.part? path)))) ∧
      (stores.find? path = none →
        stores.register collection scope kind = .ok (stores.heed register, path)) ∧
      ∀ store, stores.find? path = some store →
        stores.register collection scope kind =
            (if store.kind = kind then .ok (stores, path)
              else .error { path, requested := kind }) ∧
          stores.heed register = stores) ∧
    (stores.startAll.2.2 = stores.entries.countP (fun store => store.synchronizer.run.isNone) ∧
      stores.startAll.1.collections = stores.collections ∧
      ∀ store ∈ stores.startAll.1.entries, store.synchronizer.run.isSome = true) ∧
    stores.stopAll.2.2 = stores.entries.countP (fun store => store.synchronizer.run.isSome) ∧
      stores.stopAll.1.collections = stores.collections ∧
      ∀ store ∈ stores.stopAll.1.entries, store.synchronizer.run = none ∧
        store.phase = .stopped ∧
        store.synchronizer.snapshot =
          { items := [], freshness := .idle, resourceVersion := none } := by
  intro empty stores
  have coherent : ∀ store ∈ stores.entries, store.synchronizer.Coherent := by
    intro store member
    exact Stores.coherent_of_mem member
  obtain ⟨started, running⟩ := Stores.startAll_spec coherent
  obtain ⟨stopped, ended⟩ := Stores.stopAll_spec coherent
  refine ⟨⟨?_, ?_⟩, ?_, ⟨started, Stores.collections_startAll, running⟩, stopped,
    Stores.collections_stopAll, ?_⟩
  · exact Stores.sorted_heedAll List.Pairwise.nil acts
  · intro path
    exact Stores.mem_collections_heedAll_iff
  · intro collection scope kind path register
    refine ⟨?_, Stores.register_of_absent, fun store => Stores.register_of_find?⟩
    rintro earlier later rfl first
    exact Stores.find?_of_first first
  · intro store member
    have left := ended store member
    exact ⟨left.inactive, left.phase, left.snapshot⟩

/-- The collection is registered, started, and registered again, and another one comes to it between:
all started there is one run more, and what is found at the path had both starts. -/
theorem Sample.paths_stay_bound_of_registrations :
    let earlier : List (RegistryAct Unit) := [.register client.collection (some "lab") ()]
    let later : List (RegistryAct Unit) :=
      [.start client.path, .register client.collection none (), .startAll]
    let stores := ({ server := client.server, options := {} } : Stores Unit).heedAll
      (earlier ++ .register client.collection none () :: later)
    stores.find? (client.collection.path none) = some (Store.heedAll
      { path := client.collection.path none, kind := ()
        synchronizer :=
          .create { server := client.server, collection := client.collection, scope := none } {} }
      [.start, .start]) ∧
    stores.register client.collection none () = .ok (stores, client.collection.path none) ∧
    stores.collections = ["/api/v1/namespaces/lab/pods", "/api/v1/pods"] := by
  intro earlier later stores
  obtain ⟨-, bound, -⟩ := paths_stay_bound client.server {}
    (earlier ++ .register client.collection none () :: later)
  obtain ⟨first, -, again⟩ := bound client.collection none ()
  have other : client.collection.path (some "lab") ≠ client.collection.path none := by
    decide +kernel
  have found := first earlier later rfl (by simpa [earlier] using other)
  exact ⟨found, (again _ found).1, by decide +kernel⟩

end ListWatch
