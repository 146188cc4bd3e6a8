import ListWatch.Proofs.Json.Documents
import ListWatch.Proofs.Json.Written

/-!
# Normal forms

What a schema of open records makes of a value is the value again, but for the members that its
fields fill in and leave out. A normal form is its own: checked again it stays as it is, so it is
what is decoded of the text that is written for it.
-/
namespace ListWatch.Json

variable {schema : Schema} {height : Nat}

theorem Value.InOrder.noRepeats {value : Value} (ordered : value.InOrder) : value.NoRepeats := by
  refine ordered.mono (fun _ _ => trivial) fun names less => less.imp fun less same => ?_
  rw [same] at less
  exact String.lt_irrefl _ less

theorem member?_mergedMembers (name : String) (members : Members) :
    member? name (Value.mergedMembers members) = (member? name members).map Value.merged := by
  induction members with
  | nil => rfl
  | cons entry members ih =>
    rw [Value.mergedMembers, member?_cons, member?_cons, ih]
    split <;> rfl

/-- The normal form is one of its own, and no larger than the value it is of. -/
structure Value.Normal (height : Nat) (schema : Schema) (value normal : Value) : Prop where
  fixed : normal.merged.check schema = .ok normal
  single : normal.NoRepeats
  whole : value.Whole → normal.Whole
  shallow : normal.depth ≤ max value.depth height

/-- A plain schema whose defaults are normal forms, nested less deep than the schema is high. -/
inductive Schema.Settled : Nat → Schema → Prop where
  | any {height : Nat} : Schema.Settled height .any
  | text {height : Nat} : Schema.Settled height .text
  | extensible {height : Nat} {label : String} {fields : Fields}
      (distinct : (fields.map Prod.fst).Nodup)
      (within : ∀ field ∈ fields, Schema.Settled height field.2.2)
      (defaults : ∀ field ∈ fields, ∀ value, field.2.1 = .default value →
        Value.Normal height field.2.2 .null value) :
      Schema.Settled (height + 1) (.extensible label fields)

theorem Schema.Settled.plain (settled : schema.Settled height) : schema.Plain := by
  induction settled with
  | any => exact .any
  | text => exact .text
  | extensible distinct _ _ ih => exact .extensible distinct ih

namespace Fields

variable {fields : Fields} {members written : Members} {field : String × Presence × Schema}
  {value : Value}

theorem contains_names (fields : Fields) (name : String) :
    (fields.map Prod.fst).contains name = (fields.find? name).isSome := by
  rw [Bool.eq_iff_iff, find?, Option.isSome_map, List.find?_isSome]
  simp

theorem not_mem_names_of_undeclared {entry : String × Value}
    (member : entry ∈ fields.undeclared members) : entry.1 ∉ fields.map Prod.fst := by
  intro named
  obtain ⟨field, known, same⟩ := List.mem_map.mp named
  have declared := isSome_find?_of_mem known
  rw [same, ← Option.not_isNone, (List.mem_filter.mp member).2] at declared
  cases declared

theorem mergeMembers_undeclared (ordered : Ordered members) :
    mergeMembers [] (fields.undeclared members) = fields.undeclared members :=
  Ordered.mergeMembers_nil (ordered.filter _)

/-! ## What is filled in -/

/-- A field is null, or checked from what is found at its name, or its default. -/
theorem valueFor_cases (found : valueFor members field = some value) :
    (value = .null ∧ field.2.1.acceptsNull = true) ∨
      (∃ original, (field.1, original) ∈ members ∧ original.check field.2.2 = .ok value) ∨
      field.2.1 = .default value := by
  rw [valueFor] at found
  cases here : member? field.1 members with
  | some original =>
    rw [here] at found
    have checked := toOption_eq_some.mp found
    rw [Presence.check] at checked
    split at checked
    next null =>
      cases checked
      simp only [Bool.and_eq_true] at null
      exact Or.inl ⟨rfl, null.1⟩
    next => exact Or.inr (Or.inl ⟨original, mem_of_member? here, checked⟩)
  | none =>
    rw [here] at found
    cases presence : field.2.1 with
    | required => simp [presence, Presence.absent?] at found
    | nullable | optional | omissible =>
      simp only [presence, Presence.absent?, Option.some.injEq] at found
      exact Or.inl ⟨found.symm, rfl⟩
    | default other =>
      simp only [presence, Presence.absent?, Option.some.injEq] at found
      exact Or.inr (Or.inr (congrArg _ found))

/-- Only null is ever left out, and only where null is not written. -/
theorem member_cases (presence : Presence) (name : String) (value : Value) :
    presence.member name value = [] ∧ presence = .omissible ∧ value = .null ∨
      presence.member name value = [(name, value)] := by
  unfold Presence.member
  split
  · exact Or.inl ⟨rfl, rfl, rfl⟩
  · exact Or.inr rfl

theorem mem_member {presence : Presence} {name : String} {entry : String × Value}
    (member : entry ∈ presence.member name value) : entry = (name, value) := by
  rcases member_cases presence name value with ⟨empty, -⟩ | whole
  · rw [empty] at member
    cases member
  · rw [whole] at member
    exact List.mem_singleton.mp member

theorem names_member (presence : Presence) (name : String) (value : Value) :
    ((presence.member name value).map Prod.fst).Sublist [name] := by
  rcases member_cases presence name value with ⟨empty, -⟩ | whole
  · rw [empty]
    exact List.nil_sublist _
  · rw [whole]
    exact List.Sublist.refl _

theorem names_fill (filled : fill members fields = some written) :
    (written.map Prod.fst).Sublist (fields.map Prod.fst) := by
  induction fields generalizing written with
  | nil =>
    cases filled
    exact List.nil_sublist _
  | cons field fields ih =>
    obtain ⟨value, more, -, others, rfl⟩ := fill_cons_eq_some.mp filled
    rw [List.map_append, List.map_cons]
    exact (names_member _ _ _).append (ih others)

theorem valueFor_of_mem_fill (filled : fill members fields = some written)
    {entry : String × Value} (member : entry ∈ written) :
    ∃ field ∈ fields, field.1 = entry.1 ∧ valueFor members field = some entry.2 := by
  induction fields generalizing written with
  | nil =>
    cases filled
    cases member
  | cons field fields ih =>
    obtain ⟨value, more, here, others, rfl⟩ := fill_cons_eq_some.mp filled
    rcases List.mem_append.mp member with first | member
    · cases mem_member first
      exact ⟨field, List.mem_cons_self, rfl, here⟩
    · obtain ⟨field, member, found⟩ := ih others member
      exact ⟨field, List.mem_cons_of_mem _ member, found⟩

/-- At the name of a field is found what is written for it. -/
theorem member?_fill (distinct : (fields.map Prod.fst).Nodup)
    (filled : fill members fields = some written) (member : field ∈ fields) :
    ∃ value, valueFor members field = some value ∧
      member? field.1 written = member? field.1 (field.2.1.member field.1 value) := by
  induction fields generalizing written with
  | nil => cases member
  | cons first fields ih =>
    obtain ⟨value, more, here, others, rfl⟩ := fill_cons_eq_some.mp filled
    obtain ⟨fresh, distinct⟩ := List.nodup_cons.mp distinct
    -- The other fields go by other names, so nothing else is found at the name.
    rcases List.mem_cons.mp member with rfl | member
    · have gone : member? field.1 more = none :=
        member?_eq_none_of_not_mem fun member => fresh ((names_fill others).subset member)
      exact ⟨value, here, by rw [member?_append, gone, Option.or_none]⟩
    · obtain ⟨found, there, same⟩ := ih distinct others member
      have other : member? field.1 (first.2.1.member first.1 value) = none := by
        refine member?_eq_none_of_not_mem fun named => ?_
        have same := List.mem_singleton.mp ((names_member _ _ _).subset named)
        exact fresh (same ▸ List.mem_map_of_mem member)
      exact ⟨found, there, by rw [member?_append, other, Option.none_or, same]⟩

/-! ## What is left of a normal form -/

/-- A value that stands for a field as it would be written does so again. -/
theorem check_merged {presence : Presence} {schema : Schema}
    (fixed : value.merged.check schema = .ok value ∨
      value = .null ∧ presence.acceptsNull = true) :
    presence.check schema value.merged = .ok value := by
  -- A null is accepted before the schema is asked, so what the schema makes of it says nothing.
  by_cases null : value = .null ∧ presence.acceptsNull = true
  · obtain ⟨rfl, accepts⟩ := null
    exact Presence.check_null accepts
  · have fixed := fixed.resolve_right null
    rwa [Presence.check_of_other]
    intro accepts left
    exact null ⟨Reader.merged_eq_null.mp left, accepts⟩

/-- What is written for a field is null, or a normal form. -/
def Fits (height : Nat) (members : Members) (field : String × Presence × Schema) (value : Value) :
    Prop :=
  value = .null ∧ field.2.1.acceptsNull = true ∨
    ∃ original, Value.Normal height field.2.2 original value ∧
      (original = .null ∨ (field.1, original) ∈ members)

/-- From what is left of the normal form the same is filled in. -/
theorem valueFor_merged (distinct : (fields.map Prod.fst).Nodup)
    (filled : fill members fields = some written)
    (fits : ∀ value, valueFor members field = some value → Fits height members field value)
    (member : field ∈ fields) :
    valueFor (Value.mergedMembers (written ++ fields.undeclared members)) field =
      valueFor members field := by
  obtain ⟨value, found, at_name⟩ := member?_fill distinct filled member
  have known : (fields.find? field.1).isNone = false := by
    simpa using isSome_find?_of_mem member
  have gone : member? field.1 (fields.undeclared members) = none := by
    rw [undeclared, member?_filter (fun name => (fields.find? name).isNone), known]
    rfl
  rw [found, valueFor, member?_mergedMembers, member?_append, gone, Option.or_none, at_name]
  rcases member_cases field.2.1 field.1 value with ⟨empty, omissible, rfl⟩ | whole
  · -- The null was left out: the field is absent now, which is null again.
    rw [empty, omissible]
    rfl
  · rw [whole, member?_cons, if_pos rfl, Option.map_some, toOption_eq_some]
    refine check_merged ?_
    rcases fits value found with null | ⟨_, normal, -⟩
    · exact Or.inr null
    · exact Or.inl normal.fixed

theorem isNone_find?_of_mem_fill (filled : fill members fields = some written)
    {entry : String × Value} (member : entry ∈ written) :
    (fields.find? entry.1).isNone = false := by
  obtain ⟨field, known, named, -⟩ := valueFor_of_mem_fill filled member
  simpa [← named] using isSome_find?_of_mem known

/-- What is left of the members that are no fields is what they are. -/
theorem undeclared_merged (filled : fill members fields = some written)
    (inside : ∀ entry ∈ members, entry.2.InOrder) :
    fields.undeclared (Value.mergedMembers (written ++ fields.undeclared members)) =
      fields.undeclared members := by
  -- Only the second part is left, and picking from it what is undeclared changes nothing.
  have none : fields.undeclared written = [] := by
    refine List.filter_eq_nil_iff.mpr fun entry member => ?_
    rw [isNone_find?_of_mem_fill filled member]
    exact Bool.false_ne_true
  have all : fields.undeclared (fields.undeclared members) = fields.undeclared members := by
    simp [undeclared]
  have moved : fields.undeclared (Value.mergedMembers (written ++ fields.undeclared members)) =
      Value.mergedMembers (fields.undeclared (written ++ fields.undeclared members)) := by
    rw [Value.mergedMembers_eq_map, Value.mergedMembers_eq_map, undeclared, undeclared,
      List.filter_map]
    rfl
  rw [moved, undeclared, List.filter_append]
  change Value.mergedMembers (fields.undeclared written ++
    fields.undeclared (fields.undeclared members)) = _
  rw [none, all, List.nil_append, Value.mergedMembers_eq_map]
  refine (List.map_congr_left fun entry member => ?_).trans (List.map_id' _)
  rw [(inside entry (List.mem_of_mem_filter member)).merged_eq]

/-- The fields are written once each, and beside them members of other names. -/
theorem nodup_normal (distinct : (fields.map Prod.fst).Nodup)
    (filled : fill members fields = some written) (once : (members.map Prod.fst).Nodup) :
    ((written ++ fields.undeclared members).map Prod.fst).Nodup := by
  rw [List.map_append, List.nodup_append]
  refine ⟨distinct.sublist (names_fill filled), once.sublist (List.filter_sublist.map _), ?_⟩
  rintro _ named _ other rfl
  obtain ⟨entry, member, same⟩ := List.mem_map.mp other
  exact not_mem_names_of_undeclared member (same ▸ (names_fill filled).subset named)

/-- What is found in what is left of the normal form. -/
theorem member?_normal (distinct : (fields.map Prod.fst).Nodup)
    (filled : fill members fields = some written) (ordered : Ordered members)
    (inside : ∀ entry ∈ members, entry.2.InOrder) (name : String) :
    member? name (mergeMembers [] (Value.mergedMembers (written ++ fields.undeclared members))) =
      if (fields.find? name).isSome then (member? name written).map Value.merged
      else member? name members := by
  have names := nodup_normal distinct filled ordered.nodup
  rw [← names_mergedMembers] at names
  rw [member?_mergeMembers_nil (length_valuesOf_le_one names name), member?_mergedMembers,
    member?_append, undeclared, member?_filter (fun name => (fields.find? name).isNone)]
  cases known : fields.find? name with
  | some field => simp
  | none =>
    have gone : member? name written = none := by
      refine member?_eq_none_of_not_mem fun named => ?_
      obtain ⟨entry, member, rfl⟩ := List.mem_map.mp named
      have declared := isNone_find?_of_mem_fill filled member
      rw [known] at declared
      cases declared
    have left : (member? name members).map Value.merged = member? name members := by
      cases held : member? name members with
      | none => rfl
      | some value =>
        have ordered := inside _ (mem_of_member? held)
        rw [Option.map_some, Value.InOrder.merged_eq ordered]
    simp [gone, left]

theorem each_normal (filled : fill members fields = some written)
    (fits : ∀ field ∈ fields, ∀ value, valueFor members field = some value →
      Fits height members field value)
    (inside : ∀ entry ∈ members, entry.2.InOrder) {entry : String × Value}
    (member : entry ∈ written ++ fields.undeclared members) :
    entry.2.NoRepeats ∧ ((Value.object members).Whole → entry.2.Whole) ∧
      entry.2.depth ≤ max (Value.membersDepth members) height := by
  have deepest {name : String} {original : Value} (held : (name, original) ∈ members) :
      original.depth ≤ Value.membersDepth members :=
    Value.membersDepth_le.mp (Nat.le_refl _) _ held
  rcases List.mem_append.mp member with member | member
  · -- Written for a field: null, a default, or the normal form of what stood there.
    obtain ⟨field, known, -, found⟩ := valueFor_of_mem_fill filled member
    rcases fits field known entry.2 found with ⟨null, -⟩ | ⟨original, normal, rfl | held⟩
    · rw [null]
      exact ⟨.null, fun _ => .null, Nat.zero_le _⟩
    · exact ⟨normal.single, fun _ => normal.whole .null,
        Nat.le_trans normal.shallow (Nat.max_le.mpr ⟨Nat.zero_le _, Nat.le_max_right _ _⟩)⟩
    · refine ⟨normal.single, fun whole => ?_, ?_⟩
      · cases whole with | object _ all => exact normal.whole (all _ held)
      · have inner := deepest held
        have shallow := normal.shallow
        omega
  · -- Kept as it was.
    have held := List.mem_of_mem_filter member
    refine ⟨Value.InOrder.noRepeats (inside entry held), fun whole => ?_, ?_⟩
    · cases whole with | object _ all => exact all entry held
    · exact Nat.le_trans (deepest held) (Nat.le_max_left _ _)

theorem normal_object {label : String} (distinct : (fields.map Prod.fst).Nodup)
    (ordered : Ordered members) (inside : ∀ entry ∈ members, entry.2.InOrder)
    (filled : fill members fields = some written)
    (fits : ∀ field ∈ fields, ∀ value, valueFor members field = some value →
      Fits height members field value) :
    Value.Normal (height + 1) (.extensible label fields) (.object members)
      (.object (written ++ fields.undeclared members)) := by
  have names := nodup_normal distinct filled ordered.nodup
  have once : ((fields.declared (Value.mergedMembers
      (written ++ fields.undeclared members))).map Prod.fst).Nodup := by
    rw [names_declared_merged]
    exact names.sublist (List.filter_sublist.map _)
  have filled' := (fill_congr fun field member =>
    valueFor_merged distinct filled (fits field member) member).trans filled
  constructor
  · rw [Value.merged, check_mergeMembers distinct once, check_extensible distinct once]
    exact ⟨written, filled', by rw [undeclared_merged filled inside,
      mergeMembers_undeclared ordered]⟩
  · exact .object names fun entry member => (each_normal filled fits inside member).1
  · exact fun whole => .object trivial fun entry member =>
      (each_normal filled fits inside member).2.1 whole
  · rw [Value.depth, Value.depth, Nat.add_max_add_right, Nat.add_le_add_iff_right,
      Value.membersDepth_le]
    exact fun entry member => (each_normal filled fits inside member).2.2

end Fields

/-- What a value in order is checked as is a normal form of it. -/
theorem Schema.Settled.normal (settled : schema.Settled height) {value normal : Value}
    (ordered : value.InOrder) (checked : value.check schema = .ok normal) :
    Value.Normal height schema value normal := by
  -- On the schema: the induction hypothesis is about the values of the fields.
  induction settled generalizing value normal with
  | any =>
    rw [Reader.check_any] at checked
    cases checked
    exact ⟨by rw [ordered.merged_eq, Reader.check_any], ordered.noRepeats, id,
      Nat.le_max_left _ _⟩
  | text =>
    obtain ⟨text, rfl, rfl⟩ := Reader.check_text.mp checked
    exact ⟨rfl, .string text, id, Nat.zero_le _⟩
  | @extensible height label fields distinct _ defaults ih =>
    rw [← ordered.merged_eq] at checked
    obtain ⟨members, rfl⟩ := Reader.merged_eq_object checked
    rw [ordered.merged_eq] at checked
    cases ordered with | object names inside =>
    have ordered := ordered_iff_names.mpr names
    have once := (ordered.filter fun entry => (fields.find? entry.1).isSome).nodup
    obtain ⟨written, filled, rfl⟩ := (Fields.check_extensible distinct once).mp checked
    rw [Fields.mergeMembers_undeclared ordered]
    refine Fields.normal_object distinct ordered inside filled fun field member value found => ?_
    rcases Fields.valueFor_cases found with null | ⟨original, held, checked⟩ | default
    · exact Or.inl null
    · exact Or.inr ⟨original, ih field member (inside _ held) checked, Or.inr held⟩
    · exact Or.inr ⟨.null, defaults field member value default, Or.inl rfl⟩

/-! ## Written and read back -/

theorem decode_eq_ok_iff (plain : schema.Plain) {bytes : List UInt8} {normal : Value} :
    schema.decode bytes = .ok normal ↔ ∃ transcript, transcribe bytes = .ok transcript ∧
      transcript.Once schema ∧ transcript.merged.check schema = .ok normal := by
  rw [Reader.decode_eq_ofDocument, Reader.ofDocument_eq_ok]
  simp only [transcribe, Reader.ofDocument_eq_ok]
  constructor
  · rintro ⟨rest, read, ended⟩
    obtain ⟨transcript, read, once, checked⟩ := (Reader.readsAs_plain plain _ _ _ _).mp read
    exact ⟨transcript, ⟨rest, read, ended⟩, once, checked⟩
  · rintro ⟨transcript, ⟨rest, read, ended⟩, once, checked⟩
    exact ⟨rest, (Reader.readsAs_plain plain _ _ _ _).mpr ⟨transcript, read, once, checked⟩, ended⟩

theorem depth_lt_of_transcribe {bytes : List UInt8} {value : Value}
    (transcribed : transcribe bytes = .ok value) : value.depth < depthLimit := by
  obtain ⟨rest, read, -⟩ := Reader.ofDocument_eq_ok.mp transcribed
  exact Reader.depth_lt_of_reads_verbatim read

/-- What is written for a value is read as it was. -/
theorem transcribe_bytes {value : Value} (whole : value.Whole)
    (shallow : value.depth < depthLimit) :
    transcribe value.bytes = .ok value := by
  obtain ⟨spelling, bytes, stands, depth⟩ := exists_spelling whole
  rw [← toOption_eq_some, ← bytes, ← stands, transcribe]
  exact Reader.toOption_ofDocument (Reader.givesFor_verbatim spelling (depth ▸ shallow))

/-- What was decoded from a text is decoded from what is written for it. -/
theorem Schema.Settled.survives (settled : schema.Settled height) (low : height < depthLimit)
    {bytes : List UInt8} {normal : Value} (decoded : schema.decode bytes = .ok normal) :
    ∃ value, parse bytes = .ok value ∧ value.InOrder ∧ value.check schema = .ok normal ∧
      (value.Whole → transcribe normal.bytes = .ok normal ∧ normal.NoRepeats ∧
        schema.decode normal.bytes = .ok normal) := by
  obtain ⟨transcript, transcribed, once, checked⟩ := (decode_eq_ok_iff settled.plain).mp decoded
  have ordered := transcript.merged_inOrder
  have settles := settled.normal ordered checked
  -- The normal form is no deeper than the text was, or as the schema is high.
  have shallow : normal.depth < depthLimit := by
    have bound := Nat.lt_of_le_of_lt transcript.depth_merged_le (depth_lt_of_transcribe transcribed)
    have within := settles.shallow
    omega
  refine ⟨transcript.merged, parse_eq_ok_iff.mpr ⟨transcript, transcribed, rfl⟩, ordered, checked,
    fun whole => ?_⟩
  have again := transcribe_bytes (settles.whole whole) shallow
  exact ⟨again, settles.single, (decode_eq_ok_iff settled.plain).mpr
    ⟨_, again, settles.single.once schema, settles.fixed⟩⟩

end ListWatch.Json
