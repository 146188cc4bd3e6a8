import Mathlib.Data.List.Nodup
import ListWatch.Proofs.Json.Skimming

/-!
# Records and the members they are read from

A document that is an object is read as a record when no field stands in it twice, what stands for
a field is what the field asks for, and no field that is asked for is missing. Whatever else it
holds is passed over.
-/
namespace ListWatch.Json

/-- The values of the members of a name, in their order. -/
def valuesOf (name : String) (members : Members) : List Value :=
  (members.filter fun entry => entry.1 = name).map Prod.snd

theorem member?_eq_head? (name : String) (members : Members) :
    member? name members = (valuesOf name members).head? := by
  rw [member?, valuesOf, List.head?_map, List.head?_filter]

theorem mem_valuesOf {name : String} {value : Value} {members : Members}
    (member : (name, value) ∈ members) : value ∈ valuesOf name members :=
  List.mem_map.mpr ⟨_, List.mem_filter.mpr ⟨member, decide_eq_true rfl⟩, rfl⟩

theorem member?_eq_none_of_not_mem {name : String} {members : Members}
    (absent : name ∉ members.map Prod.fst) : member? name members = none := by
  have other : ∀ entry ∈ members, ¬ decide (entry.1 = name) = true := by
    intro entry held same
    exact absent (List.mem_map.mpr ⟨entry, held, of_decide_eq_true same⟩)
  rw [member?, List.find?_eq_none.mpr other, Option.map_none]

theorem count_names (name : String) (members : Members) :
    (members.map Prod.fst).count name = (valuesOf name members).length := by
  rw [valuesOf, List.length_map, ← List.countP_eq_length_filter, List.count, List.countP_map]
  rfl

theorem valuesOf_reverse (name : String) (members : Members) :
    valuesOf name members.reverse = (valuesOf name members).reverse := by
  rw [valuesOf, List.filter_reverse, List.map_reverse, valuesOf]

/-- A name that no two members have is found in whatever order they stand. -/
theorem member?_reverse {name : String} {members : Members}
    (single : (valuesOf name members).length ≤ 1) :
    member? name members.reverse = member? name members := by
  rw [member?_eq_head?, member?_eq_head?, valuesOf_reverse]
  match found : valuesOf name members with
  | [] | [_] => rfl
  | _ :: _ :: _ => simp [found] at single

/-! ## Fields -/

namespace Fields

variable {fields : Fields}

/-- The members that are fields. -/
def declared (fields : Fields) (members : Members) : Members :=
  members.filter fun entry => (fields.find? entry.1).isSome

theorem valuesOf_declared {name : String} (known : (fields.find? name).isSome = true)
    (members : Members) : valuesOf name (fields.declared members) = valuesOf name members := by
  rw [valuesOf, declared, List.filter_filter]
  congr 1
  refine List.filter_congr fun entry _ => ?_
  by_cases same : entry.1 = name <;> simp [same, known]

/-- Where no field stands twice, the members that are fields have names of their own. -/
theorem nodup_declared {members : Members}
    (single : ∀ name, (fields.find? name).isSome = true → (valuesOf name members).length ≤ 1) :
    ((fields.declared members).map Prod.fst).Nodup := by
  rw [List.nodup_iff_count_le_one]
  intro name
  cases known : (fields.find? name).isSome with
  | true =>
    rw [count_names, valuesOf_declared known]
    exact single name known
  | false =>
    have absent : name ∉ (fields.declared members).map Prod.fst := by
      intro held
      obtain ⟨entry, member, rfl⟩ := List.mem_map.mp held
      have field : (fields.find? entry.1).isSome = true := (List.mem_filter.mp member).2
      cases known.symm.trans field
    rw [List.count_eq_zero.mpr absent]
    exact Nat.zero_le 1

theorem isSome_find?_of_mem {field : String × Presence × Schema} (member : field ∈ fields) :
    (fields.find? field.1).isSome = true := by
  rw [Fields.find?, Option.isSome_map, List.find?_isSome]
  exact ⟨field, member, decide_eq_true rfl⟩

/-- What is written for the fields depends on what is found for them. -/
theorem complete_congr {found found' : Members}
    (same : ∀ field ∈ fields, member? field.1 found = member? field.1 found') :
    complete found fields = complete found' fields := by
  induction fields with
  | nil => rfl
  | cons field fields ih =>
    rw [complete, complete, same field List.mem_cons_self,
      ih fun other member => same other (List.mem_cons_of_mem field member)]

end Fields

/-! ## Reading records -/

namespace Reader

variable {depth : Nat} {fields : Fields} {presence : Presence} {input rest : Input}

/-- The value is what the field asks for: wherever it is read as a value, it is read for the
field. -/
def Fits (depth : Nat) (presence : Presence) (schema : Schema) (value : Value) : Prop :=
  ∀ input rest, Reads (Schema.read depth .any) input value rest →
    Reads (nullOr presence.acceptsNull (Schema.read depth schema)) input value rest

theorem fits_any {value : Value} (refuses : presence.acceptsNull = false) :
    Fits depth presence .any value := by
  intro input rest read
  cases depth with
  | zero => exact absurd read not_reads_failNext
  | succ depth =>
    rw [Schema.read, reads_peekToken_bind] at read
    rw [nullOr, reads_peekToken_bind, refuses, Bool.false_and, Schema.read]
    simpa using read

theorem fits_text {text : String} (refuses : presence.acceptsNull = false) :
    Fits depth presence .text (.string text) := by
  intro input rest read
  cases depth with
  | zero => exact absurd read not_reads_failNext
  | succ depth =>
    -- Only what begins with a quote is read as a string.
    have quoted : (skipped input).rest.head? = some 0x22 ∧
        Reads string (Input.eat (skipped input)) text rest := by
      rw [Schema.read, reads_peekToken_bind] at read
      split at read
      case h_6 token =>
        obtain ⟨found, between, string, read⟩ := reads_bind.mp (reads_eat_bind.mp read)
        obtain ⟨same, rfl⟩ := reads_pure.mp read
        cases same
        exact ⟨token, string⟩
      case h_9 => split at read <;> simp at read
      all_goals simp [reads_bind] at read
    rw [nullOr, reads_peekToken_bind, refuses, Bool.false_and]
    refine reads_bind.mpr ⟨text, rest, ?_, reads_pure.mpr ⟨rfl, rfl⟩⟩
    rw [Reader.text, reads_peekToken_bind, skipped_skipped, quoted.1]
    exact reads_eat_bind.mpr quoted.2

/-- Where the members that are fields fit, each once, they are found, and the others are passed
over. -/
theorem reads_fieldMembers {fuel : Nat} {first : Bool} {members found : Members}
    (read : Reads (listMembers (Schema.read depth .any) fuel first) input members rest)
    (fits : ∀ entry ∈ members, ∀ presence schema, fields.find? entry.1 = some (presence, schema) →
      Fits depth presence schema entry.2)
    (once : (((fields.declared members).reverse ++ found).map Prod.fst).Nodup) :
    Reads (Reader.members (fieldMember (Schema.read depth) fields false) fuel first (found, []))
      input ((fields.declared members).reverse ++ found, []) rest := by
  -- What was found so far is general: a field that is read goes in front of it.
  induction fuel generalizing first input members found with
  | zero => exact absurd read not_reads_failNext
  | succ fuel ih =>
    obtain ⟨more, next, decided, read⟩ := reads_bind.mp read
    refine reads_bind.mpr ⟨more, next, decided, ?_⟩
    cases more with
    | false =>
      obtain ⟨rfl, rfl⟩ := reads_pure.mp read
      exact reads_pure.mpr ⟨rfl, rfl⟩
    | true =>
      obtain ⟨key, named, text, read⟩ := reads_bind.mp (reads_eat_bind.mp read)
      obtain ⟨_, parted, stopped, read⟩ := reads_bind.mp read
      obtain ⟨value, after, took, read⟩ := reads_bind.mp read
      obtain ⟨members, last, remaining, returned⟩ := reads_bind.mp read
      obtain ⟨rfl, rfl⟩ := reads_pure.mp returned
      have left : ∀ entry ∈ members, ∀ presence schema,
          fields.find? entry.1 = some (presence, schema) → Fits depth presence schema entry.2 :=
        fun entry member => fits entry (List.mem_cons_of_mem _ member)
      refine reads_eat_bind.mpr (reads_bind.mpr ⟨key, named, text, ?_⟩)
      cases known : fields.find? key with
      | none =>
        have kept : fields.declared ((key, value) :: members) = fields.declared members := by
          simp [Fields.declared, known]
        rw [kept] at once ⊢
        refine reads_bind.mpr ⟨(found, []), after, ?_, ih remaining left once⟩
        -- The name is none of a field, so the value is skimmed where the other reader read it.
        have passed : Reads skim parted () after := reads_skim took
        simp only [fieldMember, known]
        exact reads_bind.mpr ⟨_, parted, stopped,
          reads_bind.mpr ⟨_, after, passed, reads_pure.mpr ⟨rfl, rfl⟩⟩⟩
      | some field =>
        obtain ⟨presence, schema⟩ := field
        have moved : (fields.declared ((key, value) :: members)).reverse ++ found =
            (fields.declared members).reverse ++ (key, value) :: found := by
          simp [Fields.declared, known]
        rw [moved] at once ⊢
        have fresh : key ∉ found.map Prod.fst := by
          rw [List.map_append, List.map_cons] at once
          exact (List.nodup_cons.mp once.of_append_right).1
        have fit := fits (key, value) List.mem_cons_self presence schema known _ _ took
        refine reads_bind.mpr ⟨((key, value) :: found, []), after, ?_, ih remaining left once⟩
        simp only [fieldMember, known, member?_eq_none_of_not_mem fresh, Option.isSome_none,
          Bool.false_eq_true, if_false]
        exact reads_bind.mpr ⟨_, parted, stopped,
          reads_bind.mpr ⟨value, after, fit, reads_pure.mpr ⟨rfl, rfl⟩⟩⟩

end Reader

/-- A document in which no field stands twice, and each stands as it fits, is read as a record. -/
theorem decode_record {label : String} {fields : Fields} {bytes : List UInt8}
    {members written : Members} (document : documentMembers bytes = .ok members)
    (fits : ∀ name presence schema, fields.find? name = some (presence, schema) →
      (valuesOf name members).length ≤ 1 ∧
        ∀ value ∈ valuesOf name members, Reader.Fits (depthLimit - 1) presence schema value)
    (complete : fields.complete members = .ok written) :
    (Schema.record label fields).decode bytes = .ok (.object written) := by
  have single (name : String) (known : (fields.find? name).isSome = true) :
      (valuesOf name members).length ≤ 1 := by
    obtain ⟨⟨presence, schema⟩, found⟩ := Option.isSome_iff_exists.mp known
    exact (fits name presence schema found).1
  have once := Fields.nodup_declared single
  have found : Fields.complete (fields.declared members).reverse fields = .ok written := by
    rw [← complete]
    refine Fields.complete_congr fun field member => ?_
    have known := Fields.isSome_find?_of_mem member
    rw [member?_reverse, member?_eq_head?, member?_eq_head?, Fields.valuesOf_declared known]
    rw [Fields.valuesOf_declared known]
    exact single _ known
  rw [Reader.decode_eq_ofDocument, Reader.ofDocument_eq_ok]
  obtain ⟨rest, read, ended⟩ := Reader.ofDocument_eq_ok.mp document
  obtain ⟨token, closing, listed, closed⟩ := Reader.reads_objectMembers.mp read
  have state := Reader.reads_fieldMembers listed
    (fun entry member presence schema known =>
      (fits entry.1 presence schema known).2 entry.2 (mem_valuesOf member))
    (by rwa [List.append_nil, List.map_reverse, List.nodup_reverse])
  refine ⟨rest, ?_, ended⟩
  rw [depthLimit, Schema.read, Reader.reads_peekToken_bind, token]
  refine Reader.reads_bind.mpr ⟨(), _, Reader.reads_eat.mpr rfl, Reader.reads_budget_bind.mpr
    (Reader.reads_bind.mpr ⟨_, closing, state, ?_⟩)⟩
  rw [List.append_nil, Reader.closeRecord, found]
  exact Reader.reads_bind.mpr ⟨(), rest, closed, by simp⟩

end ListWatch.Json
