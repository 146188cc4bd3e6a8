import ListWatch.Json.Check
import ListWatch.Proofs.Json.Verbatim

/-!
# Checking open records

An open record is checked field by field: its normal form depends on what is found at the names of
the fields, and on what is left of the other members. So what is left of an object is checked as the
object is where no field stands in it twice.
-/
namespace ListWatch.Json

/-- Schemas of texts and of open records: nothing that is read by them is passed over. -/
inductive Schema.Plain : Schema → Prop where
  | any : Schema.Plain .any
  | text : Schema.Plain .text
  | extensible {label : String} {fields : Fields} (distinct : (fields.map Prod.fst).Nodup)
      (within : ∀ field ∈ fields, Schema.Plain field.2.2) : Schema.Plain (.extensible label fields)

mutual
/-- No field of an open record stands twice in the value. -/
def Value.Once (schema : Schema) : Value → Prop
  | .object members => match schema with
    | .extensible _ fields =>
      ((Fields.declared fields members).map Prod.fst).Nodup ∧ Value.OnceInMembers fields members
    | _ => True
  | _ => True
def Value.OnceInMembers (fields : Fields) : List (String × Value) → Prop
  | [] => True
  | (key, value) :: rest =>
    (∀ presence schema, fields.find? key = some (presence, schema) → Value.Once schema value)
      ∧ Value.OnceInMembers fields rest
end

theorem Value.onceInMembers_of_forall {fields : Fields} {members : Members}
    (once : ∀ entry ∈ members, ∀ schema, entry.2.Once schema) :
    Value.OnceInMembers fields members := by
  induction members with
  | nil => trivial
  | cons entry members ih =>
    obtain ⟨first, others⟩ := List.forall_mem_cons.mp once
    exact ⟨fun _ schema _ => first schema, ih others⟩

theorem Value.NoRepeats.once {value : Value} (single : value.NoRepeats) (schema : Schema) :
    value.Once schema := by
  induction single generalizing schema with
  | null | boolean | number | string | list => trivial
  | object names _ ih =>
    cases schema with
    | extensible label fields =>
      exact ⟨names.sublist (List.filter_sublist.map _), Value.onceInMembers_of_forall ih⟩
    | _ => trivial

theorem eq_ok_of_bind {ε α β : Type} {first : Except ε α} {next : α → Except ε β} {result : β}
    (all : first >>= next = .ok result) : ∃ found, first = .ok found ∧ next found = .ok result := by
  cases first with
  | error fault => cases all
  | ok found => exact ⟨found, rfl, all⟩

theorem toOption_eq_some {ε α : Type} {result : Except ε α} {value : α} :
    result.toOption = some value ↔ result = .ok value := by
  cases result with
  | error fault => simp [Except.toOption]
  | ok found => simp [Except.toOption]

/-- What stands for a field, checked. -/
def Presence.check (presence : Presence) (schema : Schema) (value : Value) : Except Fault Value :=
  if presence.acceptsNull && value = .null then pure .null else value.check schema

theorem Presence.check_null {presence : Presence} {schema : Schema}
    (accepts : presence.acceptsNull = true) : presence.check schema .null = .ok .null := by
  simp [Presence.check, accepts]
  rfl

theorem Presence.check_of_other {presence : Presence} {schema : Schema} {value : Value}
    (other : presence.acceptsNull = true → value ≠ .null) :
    presence.check schema value = value.check schema := by
  rw [Presence.check, if_neg]
  simpa using other

namespace Fields

variable {fields : Fields} {members found held : Members} {state : Members × Members}

/-- The members that are no fields. -/
def undeclared (fields : Fields) (members : Members) : Members :=
  members.filter fun entry => (fields.find? entry.1).isNone

section Cons

variable {key : String} (value : Value) (members : Members)

theorem declared_cons_of_known (known : (fields.find? key).isSome = true) :
    fields.declared ((key, value) :: members) = (key, value) :: fields.declared members := by
  simp [declared, known]

theorem declared_cons_of_unknown (unknown : fields.find? key = none) :
    fields.declared ((key, value) :: members) = fields.declared members := by
  simp [declared, unknown]

theorem undeclared_cons_of_known (known : (fields.find? key).isSome = true) :
    fields.undeclared ((key, value) :: members) = fields.undeclared members := by
  simp [undeclared, Option.isSome_iff_ne_none.mp known]

theorem undeclared_cons_of_unknown (unknown : fields.find? key = none) :
    fields.undeclared ((key, value) :: members) = (key, value) :: fields.undeclared members := by
  simp [undeclared, unknown]

end Cons

/-- What is written for a field, from what is found at its name. -/
def valueFor (members : Members) (field : String × Presence × Schema) : Option Value :=
  match member? field.1 members with
  | some value => (field.2.1.check field.2.2 value).toOption
  | none => field.2.1.absent?

/-- The members written for the fields, from what is found at their names. -/
def fill (members : Members) : Fields → Option Members
  | [] => some []
  | field :: fields => do
    let value ← valueFor members field
    return field.2.1.member field.1 value ++ (← fill members fields)

theorem fill_cons_eq_some {field : String × Presence × Schema} {written : Members} :
    fill members (field :: fields) = some written ↔ ∃ value more,
      valueFor members field = some value ∧ fill members fields = some more ∧
        field.2.1.member field.1 value ++ more = written := by
  rw [fill]
  cases valueFor members field with
  | none => simp
  | some value => cases fill members fields <;> simp

theorem fill_congr {members' : Members}
    (same : ∀ field ∈ fields, valueFor members field = valueFor members' field) :
    fill members fields = fill members' fields := by
  induction fields with
  | nil => rfl
  | cons field fields ih =>
    rw [fill, fill, same field List.mem_cons_self,
      ih fun other member => same other (List.mem_cons_of_mem field member)]

/-! ## Checking an open record -/

theorem checkMembers_declared {key : String} {value : Value} {presence : Presence} {schema : Schema}
    (known : fields.find? key = some (presence, schema)) :
    Value.checkMembers fields true state ((key, value) :: members) =
      (presence.check schema value >>= fun value =>
        Value.checkMembers fields true ((key, value) :: state.1, state.2) members) := by
  rw [Value.checkMembers, known, Presence.check]
  simp only
  split <;> rfl

theorem checkMembers_undeclared {key : String} {value : Value} (unknown : fields.find? key = none) :
    Value.checkMembers fields true state ((key, value) :: members) =
      Value.checkMembers fields true (state.1, setMember key value state.2) members := by
  rw [Value.checkMembers, unknown]
  rfl

theorem member?_declared {name : String} (known : (fields.find? name).isSome = true)
    (members : Members) : member? name (fields.declared members) = member? name members := by
  rw [declared, member?_filter (fun name => (fields.find? name).isSome) name members, if_pos known]

/-- What checking found for the fields, and what it kept of the other members. -/
theorem of_checkMembers (checked : Value.checkMembers fields true (found, held) members = .ok state)
    (once : ((fields.declared members).map Prod.fst).Nodup) :
    state.2 = mergeMembers held (fields.undeclared members) ∧
      ∀ name presence schema, fields.find? name = some (presence, schema) →
        match member? name members with
        | some value => ∃ result, presence.check schema value = .ok result ∧
            member? name state.1 = some result
        | none => member? name state.1 = member? name found := by
  induction members generalizing found held with
  | nil =>
    cases checked
    exact ⟨rfl, fun _ _ _ _ => rfl⟩
  | cons entry members ih =>
    obtain ⟨key, value⟩ := entry
    cases known : fields.find? key with
    | none =>
      rw [checkMembers_undeclared known] at checked
      rw [declared_cons_of_unknown value members known] at once
      obtain ⟨left, at_names⟩ := ih checked once
      rw [undeclared_cons_of_unknown value members known]
      refine ⟨left, fun name presence schema declared => ?_⟩
      have other : key ≠ name := by
        rintro rfl
        cases known.symm.trans declared
      rw [member?_cons, if_neg other]
      exact at_names name presence schema declared
    | some field =>
      obtain ⟨presence, schema⟩ := field
      have known' : (fields.find? key).isSome = true := by rw [known]; rfl
      rw [declared_cons_of_known value members known', List.map_cons, List.nodup_cons] at once
      rw [checkMembers_declared known] at checked
      obtain ⟨result, fits, checked⟩ := eq_ok_of_bind checked
      obtain ⟨left, at_names⟩ := ih checked once.2
      rw [undeclared_cons_of_known value members known']
      refine ⟨left, fun name presence' schema' declared => ?_⟩
      specialize at_names name presence' schema' declared
      rw [member?_cons]
      by_cases same : key = name
      · -- The name stands here, and nowhere after.
        subst same
        cases known.symm.trans declared
        have gone : member? key members = none := by
          rw [← member?_declared known']
          exact member?_eq_none_of_not_mem once.1
        rw [gone] at at_names
        rw [if_pos rfl]
        exact ⟨result, fits, by rw [at_names, member?_cons, if_pos rfl]⟩
      · rw [if_neg same]
        rw [member?_cons, if_neg same] at at_names
        exact at_names

theorem exists_checkMembers
    (fits : ∀ entry ∈ members, ∀ presence schema, fields.find? entry.1 = some (presence, schema) →
      ∃ result, presence.check schema entry.2 = .ok result) (state : Members × Members) :
    ∃ final, Value.checkMembers fields true state members = .ok final := by
  induction members generalizing state with
  | nil => exact ⟨state, rfl⟩
  | cons entry members ih =>
    obtain ⟨first, others⟩ := List.forall_mem_cons.mp fits
    cases known : fields.find? entry.1 with
    | none =>
      rw [checkMembers_undeclared known]
      exact ih others _
    | some field =>
      obtain ⟨result, fit⟩ := first field.1 field.2 known
      rw [checkMembers_declared known, fit]
      exact ih others _

theorem find?_of_mem (distinct : (fields.map Prod.fst).Nodup) {name : String} {presence : Presence}
    {schema : Schema} (member : (name, presence, schema) ∈ fields) :
    fields.find? name = some (presence, schema) := by
  induction fields with
  | nil => cases member
  | cons field fields ih =>
    obtain ⟨fresh, distinct⟩ := List.nodup_cons.mp distinct
    rw [find?, List.find?_cons]
    rcases List.mem_cons.mp member with rfl | member
    · simp
    · have other : field.1 ≠ name := by
        rintro rfl
        exact fresh (List.mem_map.mpr ⟨_, member, rfl⟩)
      simp only [other, decide_false]
      exact ih distinct member

theorem mem_of_find? {name : String} {presence : Presence} {schema : Schema}
    (known : fields.find? name = some (presence, schema)) : (name, presence, schema) ∈ fields := by
  obtain ⟨⟨other, field⟩, found, rfl⟩ := Option.map_eq_some_iff.mp known
  obtain rfl : other = name := by simpa using List.find?_some found
  exact List.mem_of_find?_eq_some found

/-- What is found for a field is what stands for it, checked. -/
def FoundAt (members found : Members) (field : String × Presence × Schema) : Prop :=
  match member? field.1 members with
  | some value => ∃ result, field.2.1.check field.2.2 value = .ok result ∧
      member? field.1 found = some result
  | none => member? field.1 found = none

theorem toOption_complete (at_names : ∀ field ∈ fields, FoundAt members found field) :
    (complete found fields).toOption = fill members fields := by
  induction fields with
  | nil => rfl
  | cons field fields ih =>
    obtain ⟨first, others⟩ := List.forall_mem_cons.mp at_names
    rw [FoundAt] at first
    rw [complete, fill, valueFor, ← ih others]
    cases here : member? field.1 members with
    | none =>
      rw [here] at first
      rw [first]
      cases absent : field.2.1.absent? with
      | none => simp [Except.toOption]
      | some value => cases complete found fields <;> simp [Except.toOption, Except.map]
    | some value =>
      rw [here] at first
      obtain ⟨result, fits, there⟩ := first
      cases complete found fields <;> simp [fits, there, Except.toOption, Except.map]

theorem exists_check_of_fill {written : Members} (filled : fill members fields = some written)
    {field : String × Presence × Schema} (member : field ∈ fields) {value : Value}
    (found : member? field.1 members = some value) :
    ∃ result, field.2.1.check field.2.2 value = .ok result := by
  induction fields generalizing written with
  | nil => cases member
  | cons first fields ih =>
    obtain ⟨result, more, here, filled, -⟩ := fill_cons_eq_some.mp filled
    rcases List.mem_cons.mp member with rfl | member
    · rw [valueFor, found] at here
      exact ⟨result, toOption_eq_some.mp here⟩
    · exact ih filled member

/-- An open record is checked field by field: what else stands between the fields makes no
difference. -/
theorem check_extensible {label : String} {result : Value} (distinct : (fields.map Prod.fst).Nodup)
    (once : ((fields.declared members).map Prod.fst).Nodup) :
    (Value.object members).check (.extensible label fields) = .ok result ↔
      ∃ written, fill members fields = some written ∧
        result = .object (written ++ mergeMembers [] (fields.undeclared members)) := by
  -- Whatever a run of the check ends with holds what stands for each field.
  have found_at {state : Members × Members}
      (checked : Value.checkMembers fields true ([], []) members = .ok state) :
      ∀ field ∈ fields, FoundAt members state.1 field := by
    intro field member
    have at_name := (of_checkMembers checked once).2 _ _ _ (find?_of_mem distinct member)
    exact at_name
  rw [Value.check]
  constructor
  · intro all
    obtain ⟨state, checked, completed⟩ := eq_ok_of_bind all
    rw [Json.completed] at completed
    split at completed
    next written complete =>
      cases completed
      rw [(of_checkMembers checked once).1]
      exact ⟨written, by rw [← toOption_complete (found_at checked), complete]; rfl, rfl⟩
    next => cases completed
  · rintro ⟨written, filled, rfl⟩
    have fits : ∀ entry ∈ members, ∀ presence schema,
        fields.find? entry.1 = some (presence, schema) →
          ∃ result, presence.check schema entry.2 = .ok result := by
      intro entry member presence schema known
      have known' : (fields.find? entry.1).isSome = true := by rw [known]; rfl
      have found : member? entry.1 members = some entry.2 := by
        rw [← member?_declared known', member?_eq_some_iff once]
        exact List.mem_filter.mpr ⟨member, known'⟩
      exact exists_check_of_fill filled (mem_of_find? known) found
    obtain ⟨state, checked⟩ := exists_checkMembers fits ([], [])
    have complete : complete state.1 fields = .ok written := by
      rw [← toOption_eq_some, toOption_complete (found_at checked), filled]
    rw [checked]
    change completed fields state = _
    rw [completed, complete, (of_checkMembers checked once).1]

theorem names_declared_merged (fields : Fields) (members : Members) :
    (fields.declared (Value.mergedMembers members)).map Prod.fst =
      (fields.declared members).map Prod.fst := by
  rw [declared, Value.mergedMembers_eq_map, List.filter_map, List.map_map]
  rfl

/-- What is left of the members is checked as the members are, where no field stands twice. -/
theorem check_mergeMembers {label : String} {result : Value}
    (distinct : (fields.map Prod.fst).Nodup)
    (once : ((fields.declared members).map Prod.fst).Nodup) :
    (Value.object (mergeMembers [] members)).check (.extensible label fields) = .ok result ↔
      (Value.object members).check (.extensible label fields) = .ok result := by
  -- What is left is in order, so no name stands in it twice, whatever stood in the members.
  have once' : ((fields.declared (mergeMembers [] members)).map Prod.fst).Nodup :=
    ((ordered_mergeMembers members).filter _).nodup
  have same : fill (mergeMembers [] members) fields = fill members fields := by
    refine fill_congr fun field member => ?_
    rw [valueFor, valueFor, member?_mergeMembers_nil]
    rw [← valuesOf_declared (isSome_find?_of_mem member)]
    exact length_valuesOf_le_one once _
  have left : fields.undeclared (mergeMembers [] members) =
      mergeMembers [] (fields.undeclared members) :=
    (mergeMembers_filter (fun name => (fields.find? name).isNone) members).symm
  rw [check_extensible distinct once, check_extensible distinct once', same, left,
    (ordered_mergeMembers _).mergeMembers_nil]

/-- No field that was found stands among the members, and none stands among them twice. -/
def Fresh (fields : Fields) (found members : Members) : Prop :=
  ((fields.declared members).map Prod.fst).Nodup ∧
    ∀ name ∈ (fields.declared members).map Prod.fst, member? name found = none

theorem fresh_undeclared {key : String} {value : Value} (unknown : fields.find? key = none) :
    fields.Fresh found ((key, value) :: members) ↔ fields.Fresh found members := by
  rw [Fresh, Fresh, declared_cons_of_unknown value members unknown]

theorem fresh_declared {key : String} {value result : Value}
    (known : (fields.find? key).isSome = true) :
    fields.Fresh found ((key, value) :: members) ↔
      member? key found = none ∧ fields.Fresh ((key, result) :: found) members := by
  rw [Fresh, Fresh, declared_cons_of_known value members known, List.map_cons, List.nodup_cons,
    List.forall_mem_cons]
  constructor
  · rintro ⟨⟨fresh, once⟩, gone, others⟩
    refine ⟨gone, once, fun name member => ?_⟩
    have other : key ≠ name := fun same => fresh (same ▸ member)
    rw [member?_cons, if_neg other]
    exact others name member
  · rintro ⟨gone, once, others⟩
    have fresh : key ∉ (fields.declared members).map Prod.fst := by
      intro member
      simpa [member?_cons] using others key member
    refine ⟨⟨fresh, once⟩, gone, fun name member => ?_⟩
    have other : key ≠ name := fun same => fresh (same ▸ member)
    simpa [member?_cons, other] using others name member

/-- From a state the members as they stand are checked to another, and no field stands twice. -/
def Accepts (fields : Fields) (state : Members × Members) (members : Members)
    (final : Members × Members) : Prop :=
  fields.Fresh state.1 members ∧ Value.OnceInMembers fields members ∧
    Value.checkMembers fields true state (Value.mergedMembers members) = .ok final

/-- What one member as it stands makes of the state. -/
def Takes (fields : Fields) (state : Members × Members) (key : String) (transcript : Value)
    (next : Members × Members) : Prop :=
  match fields.find? key with
  | none => next = (state.1, setMember key transcript.merged state.2)
  | some (presence, schema) => member? key state.1 = none ∧ transcript.Once schema ∧
      ∃ value, presence.check schema transcript.merged = .ok value ∧
        next = ((key, value) :: state.1, state.2)

theorem accepts_nil {final : Members × Members} :
    fields.Accepts state [] final ↔ state = final := by
  constructor
  · rintro ⟨-, -, checked⟩
    cases checked
    rfl
  · rintro rfl
    exact ⟨⟨List.nodup_nil, nofun⟩, trivial, rfl⟩

theorem accepts_cons {key : String} {transcript : Value} {final : Members × Members} :
    fields.Accepts state ((key, transcript) :: members) final ↔
      ∃ next, fields.Takes state key transcript next ∧ fields.Accepts next members final := by
  simp only [Accepts, Takes, Value.mergedMembers, Value.OnceInMembers]
  cases known : fields.find? key with
  | none =>
    rw [checkMembers_undeclared known, fresh_undeclared known]
    simp
  | some field =>
    rw [checkMembers_declared known]
    have declared : (fields.find? key).isSome = true := by simp [known]
    constructor
    · rintro ⟨fresh, ⟨once, others⟩, checked⟩
      obtain ⟨value, fit, checked⟩ := eq_ok_of_bind checked
      obtain ⟨gone, fresh⟩ := (fresh_declared declared).mp fresh
      exact ⟨_, ⟨gone, once _ _ rfl, value, fit, rfl⟩, fresh, others, checked⟩
    · rintro ⟨_, ⟨gone, once, value, fit, rfl⟩, fresh, others, checked⟩
      refine ⟨(fresh_declared declared).mpr ⟨gone, fresh⟩, ⟨?_, others⟩, ?_⟩
      · rintro _ _ ⟨⟩
        exact once
      · rw [fit]
        exact checked

end Fields

end ListWatch.Json
