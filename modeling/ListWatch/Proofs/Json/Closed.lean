import ListWatch.Json.Form
import ListWatch.Proofs.Json.Normal

/-!
# Closed documents

A document of texts, flags, words, choices and closed records is read back as it was written. In the
text of a record each field stands once, at its own name, or was left out for the null that is
filled in for it; and a choice is told by its name, with or without a payload. This is said of every
spelling of the document, so it holds of the one that is written.
-/
namespace ListWatch.Json

/-! ## What a schema writes -/

/-- The members written for the fields of a record, from the values that stand for them. -/
def Fields.written (fields : Fields) (values : List Value) : Members :=
  (fields.zip values).flatMap fun entry => entry.1.2.1.member entry.1.1 entry.2

/-- The variant of a name. -/
def variant? (variants : List (String × Option Schema)) (name : String) :
    Option (String × Option Schema) :=
  variants.find? fun variant => decide (variant.1 = name)

/-- The value is a document that is written by the schema, with brackets nested no deeper than the
height. -/
inductive Schema.Holds : Nat → Schema → Value → Prop where
  | text {height : Nat} (text : String) : Schema.Holds height .text (.string text)
  | flag {height : Nat} (b : Bool) : Schema.Holds height .flag (.boolean b)
  | word {height greatest n : Nat} {label : String} (fits : n ≤ greatest)
      (small : n < UInt64.size) : Schema.Holds height (.word label greatest) (.natural n)
  | name {height : Nat} {variants : List (String × Option Schema)} {name : String}
      (known : variant? variants name = some (name, none)) :
      Schema.Holds height (.choice variants) (.string name)
  | payload {height : Nat} {variants : List (String × Option Schema)} {name : String}
      {schema : Schema} {inner : Value} (known : variant? variants name = some (name, some schema))
      (within : Schema.Holds height schema inner) :
      Schema.Holds (height + 1) (.choice variants) (.object [(name, inner)])
  | record {height : Nat} {label : String} {fields : Fields} (values : List Value)
      (whole : fields.length = values.length) (distinct : (fields.map Prod.fst).Nodup)
      (nulls : ∀ entry ∈ fields.zip values, entry.2 = .null → entry.1.2.1.acceptsNull = true)
      (within : ∀ entry ∈ fields.zip values, entry.2 ≠ .null →
        Schema.Holds height entry.1.2.2 entry.2) :
      Schema.Holds (height + 1) (.record label fields) (.object (fields.written values))

namespace Fields

variable {fields : Fields} {values : List Value} {found : Members}

theorem mem_written {entry : String × Value} (member : entry ∈ fields.written values) :
    ∃ pair ∈ fields.zip values, pair.1.1 = entry.1 ∧ pair.2 = entry.2 := by
  obtain ⟨pair, zipped, here⟩ := List.mem_flatMap.mp member
  obtain rfl := mem_member here
  exact ⟨pair, zipped, rfl, rfl⟩

theorem names_written (fields : Fields) (values : List Value) :
    ((fields.written values).map Prod.fst).Sublist (fields.map Prod.fst) := by
  induction fields generalizing values with
  | nil => exact List.nil_sublist _
  | cons field fields ih =>
    cases values with
    | nil => exact List.nil_sublist _
    | cons value values =>
      rw [written, List.zip_cons_cons, List.flatMap_cons, List.map_append, List.map_cons]
      exact (names_member _ _ _).append (ih values)

/-- At the name of a field is found what is written for it. -/
theorem member?_written (distinct : (fields.map Prod.fst).Nodup)
    {pair : (String × Presence × Schema) × Value} (member : pair ∈ fields.zip values) :
    member? pair.1.1 (fields.written values) =
      member? pair.1.1 (pair.1.2.1.member pair.1.1 pair.2) := by
  induction fields generalizing values with
  | nil => cases member
  | cons field fields ih =>
    cases values with
    | nil => cases member
    | cons value values =>
      obtain ⟨fresh, distinct⟩ := List.nodup_cons.mp distinct
      rw [written, List.zip_cons_cons, List.flatMap_cons, member?_append]
      -- Each name is the field's own, so only one of the two parts has a member of it.
      rcases List.mem_cons.mp member with rfl | member
      · have gone : member? field.1 (written fields values) = none :=
          member?_eq_none_of_not_mem fun named => fresh ((names_written _ _).subset named)
        rw [written] at gone
        rw [gone, Option.or_none]
      · have other : member? pair.1.1 (field.2.1.member field.1 value) = none := by
          refine member?_eq_none_of_not_mem fun named => fresh ?_
          have same := List.mem_singleton.mp ((names_member _ _ _).subset named)
          exact same ▸ List.mem_map_of_mem (List.of_mem_zip member).1
        rw [other, Option.none_or]
        exact ih distinct member

/-- A field is written, or it was left out and null is filled in for it. -/
theorem at_name (distinct : (fields.map Prod.fst).Nodup)
    {pair : (String × Presence × Schema) × Value} (member : pair ∈ fields.zip values) :
    (member? pair.1.1 (fields.written values)).orElse (fun _ => pair.1.2.1.absent?) =
      some pair.2 := by
  rw [member?_written distinct member]
  rcases member_cases pair.1.2.1 pair.1.1 pair.2 with ⟨empty, omissible, null⟩ | whole
  · rw [empty, omissible, null]
    rfl
  · rw [whole, member?_cons, if_pos rfl]
    rfl

/-- Where each field is found or filled in, the record is complete. -/
theorem complete_written (whole : fields.length = values.length)
    (at_names : ∀ pair ∈ fields.zip values,
      (member? pair.1.1 found).orElse (fun _ => pair.1.2.1.absent?) = some pair.2) :
    Fields.complete found fields = .ok (fields.written values) := by
  induction fields generalizing values with
  | nil => rfl
  | cons field fields ih =>
    cases values with
    | nil => cases whole
    | cons value values =>
      obtain ⟨here, others⟩ := List.forall_mem_cons.mp at_names
      rw [complete, here, ih (Nat.succ.inj whole) others]
      rfl

end Fields

/-! ## Reading it back -/

namespace Reader

variable {depth : Nat} {fields : Fields} {written found : Members} {members : List (Named Spelling)}

/-- A spelling is of the sort of the value it stands for. -/
theorem of_value? {spelling : Spelling} {value : Value} (stands : spelling.value? = some value) :
    match value with
    | .null => spelling = .null
    | .boolean b => spelling = .boolean b
    | .number n => ∃ numeral, spelling = .number numeral ∧ numeral.number? = some n
    | .string text => ∃ pieces, spelling = .string pieces ∧ text? pieces = some text
    | .list values => ∃ inner elements, spelling = .list inner elements ∧
        Spelling.elementValues? elements = some values
    | .object members => ∃ inner named, spelling = .object inner named ∧
        Spelling.memberValues? named = some members := by
  cases spelling with
  | null | boolean _ =>
    cases stands
    rfl
  | number _ | string _ | list _ _ | object _ _ =>
    obtain ⟨_, stood, rfl⟩ := Option.map_eq_some_iff.mp stands
    simp [stood]

theorem memberValues?_cons_eq_some {named : Named Spelling} :
    Spelling.memberValues? (named :: members) = some written ↔ ∃ key value more,
      text? named.name = some key ∧ named.value.it.value? = some value ∧
        Spelling.memberValues? members = some more ∧ (key, value) :: more = written := by
  simp [Spelling.memberValues?, Option.bind_eq_some_iff]

/-- Every member that is spelled stands for one of the members. -/
theorem exists_of_memberValues? (stands : Spelling.memberValues? members = some written)
    {named : Named Spelling} (member : named ∈ members) :
    ∃ entry ∈ written, text? named.name = some entry.1 ∧
      named.value.it.value? = some entry.2 := by
  induction members generalizing written with
  | nil => cases member
  | cons first members ih =>
    obtain ⟨key, value, more, called, stood, others, rfl⟩ := memberValues?_cons_eq_some.mp stands
    rcases List.mem_cons.mp member with rfl | member
    · exact ⟨(key, value), List.mem_cons_self, called, stood⟩
    · obtain ⟨entry, member, facts⟩ := ih others member
      exact ⟨entry, List.mem_cons_of_mem _ member, facts⟩

/-- Members of different names that are all fields are found one after the other. -/
theorem foldlM_memberOutcome (stands : Spelling.memberValues? members = some written)
    (known : ∀ entry ∈ written, (fields.find? entry.1).isSome = true)
    (once : (written.map Prod.fst).Nodup)
    (fresh : ∀ entry ∈ written, member? entry.1 found = none) :
    members.foldlM (memberOutcome fields fun _ => Spelling.value?) (found, []) =
      some (written.reverse ++ found, []) := by
  induction members generalizing written found with
  | nil =>
    cases stands
    rfl
  | cons first members ih =>
    obtain ⟨key, value, more, called, stood, others, rfl⟩ := memberValues?_cons_eq_some.mp stands
    obtain ⟨declared, known⟩ := List.forall_mem_cons.mp known
    obtain ⟨missing, fresh⟩ := List.forall_mem_cons.mp fresh
    obtain ⟨new, once⟩ := List.nodup_cons.mp once
    obtain ⟨⟨presence, schema⟩, field⟩ := Option.isSome_iff_exists.mp declared
    -- What was found before and what comes later are of other names than this member.
    have later : ∀ entry ∈ more, member? entry.1 ((key, value) :: found) = none := by
      intro entry member
      have other : key ≠ entry.1 := fun same => new (List.mem_map.mpr ⟨entry, member, same.symm⟩)
      rw [member?_cons, if_neg other]
      exact fresh entry member
    rw [List.foldlM_cons, memberOutcome_of_fresh called field missing, stood]
    simp only [Option.map_some, Option.bind_eq_bind, Option.bind_some]
    rw [ih others known once later, List.reverse_cons, List.append_assoc]
    rfl

/-- A record whose members are what is written for its fields is read as that. -/
theorem recordOutcome_written {values : List Value} (whole : fields.length = values.length)
    (distinct : (fields.map Prod.fst).Nodup)
    (stands : Spelling.memberValues? members = some (fields.written values)) :
    recordOutcome fields (fun _ => Spelling.value?) members =
      some (.object (fields.written values)) := by
  have once := distinct.sublist (Fields.names_written fields values)
  have known : ∀ entry ∈ fields.written values, (fields.find? entry.1).isSome = true := by
    intro entry member
    obtain ⟨pair, zipped, named, -⟩ := Fields.mem_written member
    exact named ▸ Fields.isSome_find?_of_mem (List.of_mem_zip zipped).1
  have complete : Fields.complete (fields.written values).reverse fields =
      .ok (fields.written values) := by
    refine Fields.complete_written whole fun pair member => ?_
    -- The members were found in reverse, which changes nothing where each name stands once.
    have same := member?_reverse (length_valuesOf_le_one once pair.1.1)
    rw [same]
    exact Fields.at_name distinct member
  rw [recordOutcome, foldlM_memberOutcome stands known once fun _ _ => rfl]
  simp only [Option.bind_eq_bind, Option.bind_some, List.append_nil, completed, complete]
  rfl

/-! ## The documents of a schema -/

theorem GivesFor.congr {α : Type} {reader : Reader α} {outcome outcome' : Spelling → Option α}
    {spelling : Spelling} (given : GivesFor reader outcome spelling)
    (same : outcome spelling = outcome' spelling) : GivesFor reader outcome' spelling :=
  fun blanks tail ended => same ▸ given blanks tail ended

theorem gives_variantName {variants : List (String × Option Schema)} {pieces : List Piece}
    {name : String} (called : text? pieces = some name) {variant : String × Option Schema}
    (known : variant? variants name = some variant) {tail : List UInt8} :
    Gives (variantName variants) (quotedBytes pieces) tail (some variant) := by
  have quoted : Gives string (quotedBytes pieces) tail (text? pieces) := gives_string pieces
  rw [variant?] at known
  rw [called] at quoted
  rw [variantName]
  refine (Gives.bind quoted ?_).congr rfl (List.append_nil _)
  rw [known]
  exact .pure variant

theorem givesFor_word {label : String} {greatest n : Nat} (fits : n ≤ greatest) {numeral : Numeral}
    (stands : numeral.number? = some (.integer n)) :
    GivesFor (wordIn label greatest) Spelling.value? (.number numeral) := by
  intro blanks tail ended
  have number := gives_number numeral ended
  have word : wordOf label greatest (.integer n) = .ok (.natural n) := by
    rw [wordOf, if_pos ⟨Int.natCast_nonneg n, Int.ofNat_le.mpr fits⟩]
    rfl
  rw [stands] at number
  rw [wordIn, Spelling.value?, stands]
  refine .peekToken_bind blanks (begins_bytes (.number numeral) tail).solid ?_
  have read {rest : Number → Reader Value} (fitting : rest (.integer n) = pure (.natural n)) :
      Gives (Reader.number numeral.negative >>= rest) numeral.magnitude tail
        (some (.natural n)) := by
    refine (Gives.bind number ?_).congr rfl (List.append_nil _)
    rw [fitting]
    exact .pure _
  rw [Spelling.bytes, Numeral.bytes]
  cases negative : numeral.negative with
  | true =>
    rw [negative] at read
    refine .eat_bind _ (read ?_)
    simp only [word]
  | false =>
    rw [negative] at read
    obtain ⟨digit, _, -, next⟩ := head_bytes numeral.whole
    have here : (numeral.magnitude ++ tail).head? = some (digitByte digit) := by
      rw [Numeral.magnitude, List.append_assoc]
      exact next _
    -- The first digit tells that no sign stands in front.
    have unsigned : digitByte digit ≠ 0x2D := (by decide : ∀ d, digitByte d ≠ 0x2D) digit
    simp only [Bool.false_eq_true, if_false, List.nil_append, here, Option.some.injEq, unsigned,
      Option.any_some, isDigit_digitByte, if_true]
    refine read ?_
    simp only [word]

theorem givesFor_flag (b : Bool) : GivesFor flag Spelling.value? (.boolean b) := by
  intro blanks tail ended
  rw [flag]
  refine .peekToken_bind blanks (begins_bytes (.boolean b) tail).solid ?_
  cases b with
  | true => exact .eat_bind _ ((Gives.word _).bind (.pure _))
  | false => exact .eat_bind _ ((Gives.word _).bind (.pure _))

theorem givesFor_text (pieces : List Piece) :
    GivesFor (do return .string (← Reader.text)) Spelling.value? (.string pieces) := by
  intro blanks tail ended
  refine Gives.returned Value.string ?_
  rw [Reader.text]
  refine .peekToken_bind blanks (begins_bytes (.string pieces) tail).solid ?_
  exact .eat_bind _ (gives_string pieces)

/-- A choice without a payload is read from its name. -/
theorem givesFor_name {variants : List (String × Option Schema)} {pieces : List Piece}
    {name : String} (called : text? pieces = some name)
    (known : variant? variants name = some (name, none)) :
    GivesFor (Schema.read (depth + 1) (.choice variants)) Spelling.value? (.string pieces) := by
  intro blanks tail ended
  rw [Schema.read, Spelling.value?, called]
  refine .peekToken_bind blanks (begins_bytes (.string pieces) tail).solid ?_
  have named : Gives (variantName variants) (quotedBytes pieces) ([] ++ tail)
      (some (name, none)) := gives_variantName called known
  refine .eat_bind _ ((Gives.bind named ?_).congr rfl (List.append_nil _))
  exact .pure (Value.string name)

theorem gives_variantKey {variants : List (String × Option Schema)} {pieces : List Piece}
    {name : String} (called : text? pieces = some name) {variant : String × Option Schema}
    (known : variant? variants name = some variant) (blanks : Blanks) {tail : List UInt8} :
    Gives (variantKey variants) (blanks.bytes ++ 0x22 :: quotedBytes pieces) tail
      (some variant) := by
  rw [variantKey]
  refine .peekToken_bind blanks (solid_cons (by decide)) ?_
  exact .eat_bind _ (gives_variantName called known)

/-- A choice with a payload is read from the one member of an object. -/
theorem givesFor_payload {variants : List (String × Option Schema)} {named : Named Spelling}
    {name : String} {schema : Schema} (called : text? named.name = some name)
    (known : variant? variants name = some (name, some schema))
    (given : GivesFor (Schema.read (depth + 1) schema) Spelling.value? named.value.it)
    {value : Value} (stands : named.value.it.value? = some value) (inner : Blanks) :
    GivesFor (Schema.read (depth + 2) (.choice variants))
      (fun _ => some (.object [(name, value)])) (.object inner [named]) := by
  intro blanks tail ended
  obtain ⟨before, pieces, after, ⟨lead, it, trail⟩⟩ := named
  rw [Schema.read]
  refine .peekToken_bind blanks (begins_bytes (.object inner _) tail).solid ?_
  simp only [Spelling.bytes, List.cons_append, List.head?_cons, enter_succ]
  refine .eat_bind _ ?_
  have read := given lead (trail.bytes ++ [0x7D] ++ tail) (by
    rw [List.append_assoc]
    exact (ended_cons (by decide)).after_blanks trail)
  rw [stands] at read
  refine ((gives_variantKey called known (inner.append before)).bind ((gives_colon after).bind
    (?payload : Gives _ (lead.bytes ++ it.bytes ++ (trail.bytes ++ [0x7D])) tail _))).congr rfl ?_
  case payload =>
    -- The object ends right behind the payload.
    refine Gives.bind read ?_
    rw [pure_bind]
    exact .peekToken_bind trail (solid_cons (by decide)) (.eat_bind _ (.pure _))
  simp [Spelling.memberBytes, Blanks.append]

/-- Wherever a document of the schema stands, and however it is spelled, it is what is read. -/
theorem givesFor_holds {height : Nat} {schema : Schema} {value : Value}
    (holds : schema.Holds height value) (low : height < depth) {spelling : Spelling}
    (stands : spelling.value? = some value) :
    GivesFor (Schema.read depth schema) Spelling.value? spelling := by
  -- On the document: what is said of a record or a payload is said of what stands in it.
  induction holds generalizing depth spelling with
  | text text =>
    obtain ⟨depth, rfl⟩ : ∃ less, depth = less + 1 := ⟨depth - 1, by omega⟩
    obtain ⟨pieces, rfl, -⟩ := of_value? stands
    rw [Schema.read]
    exact givesFor_text pieces
  | flag b =>
    obtain ⟨depth, rfl⟩ : ∃ less, depth = less + 1 := ⟨depth - 1, by omega⟩
    have same : spelling = .boolean b := of_value? stands
    rw [Schema.read, same]
    exact givesFor_flag b
  | word fits small =>
    obtain ⟨depth, rfl⟩ : ∃ less, depth = less + 1 := ⟨depth - 1, by omega⟩
    obtain ⟨numeral, rfl, stood⟩ := of_value? stands
    rw [Schema.read]
    exact givesFor_word fits stood
  | name known =>
    obtain ⟨depth, rfl⟩ : ∃ less, depth = less + 1 := ⟨depth - 1, by omega⟩
    obtain ⟨pieces, rfl, called⟩ := of_value? stands
    exact givesFor_name called known
  | @payload height variants name schema value known _ ih =>
    obtain ⟨depth, rfl⟩ : ∃ less, depth = less + 2 := ⟨depth - 2, by omega⟩
    obtain ⟨inner, members, rfl, listed⟩ := of_value? stands
    -- The one member that is written was spelled as one member.
    obtain ⟨named, rfl, called, stood⟩ : ∃ named, members = [named] ∧
        text? named.name = some name ∧ named.value.it.value? = some value := by
      cases members with
      | nil => cases listed
      | cons named more =>
        obtain ⟨_, _, _, called, stood, others, same⟩ := memberValues?_cons_eq_some.mp listed
        cases same
        cases more with
        | nil => exact ⟨named, rfl, called, stood⟩
        | cons _ _ =>
          obtain ⟨_, _, _, -, -, -, same⟩ := memberValues?_cons_eq_some.mp others
          cases same
    have given : GivesFor (Schema.read (depth + 1) schema) Spelling.value? named.value.it :=
      ih (by omega) stood
    refine (givesFor_payload called known given stood inner).congr ?_
    rw [stands]
  | @record height label fields values whole distinct nulls _ ih =>
    obtain ⟨depth, rfl⟩ : ∃ less, depth = less + 2 := ⟨depth - 2, by omega⟩
    obtain ⟨inner, members, rfl, listed⟩ := of_value? stands
    have each : ∀ named ∈ members,
        IsField (depth + 1) fields (fun _ => Spelling.value?) named := by
      intro named member key called
      obtain ⟨entry, written, called', stood⟩ := exists_of_memberValues? listed member
      cases called.symm.trans called'
      obtain ⟨pair, zipped, own, same⟩ := Fields.mem_written written
      have known := Fields.find?_of_mem distinct (List.of_mem_zip zipped).1
      refine ⟨pair.1.2.1, pair.1.2.2, own ▸ known, ?_⟩
      rw [← same] at stood
      by_cases null : pair.2 = .null
      · -- A null that is written stands for the field itself.
        rw [null] at stood
        rw [of_value? stood, nulls pair zipped null]
        exact givesFor_nullOr_null rfl
      · refine givesFor_nullOr (ih pair zipped null (by omega) stood) fun _ nothing => null ?_
        rw [nothing, Spelling.value?] at stood
        exact (Option.some.inj stood).symm
    refine (givesFor_record each inner).congr ?_
    rw [recordOutcome_written whole distinct listed, stands]

end Reader

/-! ## Written and read back -/

variable {height : Nat}

/-- The numbers of a document are all words. -/
theorem Schema.Holds.whole {schema : Schema} {value : Value} (holds : schema.Holds height value) :
    value.Whole := by
  induction holds with
  | text text => exact .string text
  | flag b => exact .boolean b
  | word _ small => exact .number ⟨by omega, by omega⟩
  | name _ => exact .string _
  | payload _ _ ih => exact .object trivial (by simpa using ih)
  | record values _ _ _ _ ih =>
    refine .object trivial fun entry member => ?_
    obtain ⟨pair, zipped, -, same⟩ := Fields.mem_written member
    rw [← same]
    by_cases null : pair.2 = .null
    · rw [null]
      exact .null
    · exact ih pair zipped null

/-- What is written for a document of the schema is decoded as that document. -/
theorem Schema.Holds.decode {schema : Schema} {value : Value} (holds : schema.Holds height value)
    (low : height < depthLimit) : schema.decode value.bytes = .ok value := by
  obtain ⟨spelling, bytes, stands, -⟩ := exists_spelling holds.whole
  rw [← toOption_eq_some, Reader.decode_eq_ofDocument, ← bytes,
    Reader.toOption_ofDocument (Reader.givesFor_holds holds low stands), stands]

/-- The value may stand for a field: it is of the field's schema, or a null that the field allows. -/
def Schema.Admits (height : Nat) (presence : Presence) (schema : Schema) (value : Value) : Prop :=
  (value = .null → presence.acceptsNull = true) ∧ (value ≠ .null → schema.Holds height value)

theorem Schema.Holds.ne_null {schema : Schema} {value : Value} (holds : schema.Holds height value) :
    value ≠ .null := by
  cases holds <;> exact Value.noConfusion

theorem Schema.Holds.admits {presence : Presence} {schema : Schema} {value : Value}
    (holds : schema.Holds height value) : schema.Admits height presence value :=
  ⟨fun null => absurd null holds.ne_null, fun _ => holds⟩

theorem Schema.Admits.ofOption {α : Type} {presence : Presence} {schema : Schema}
    {write : α → Value} {held : Option α} (optional : presence.acceptsNull = true)
    (holds : ∀ a ∈ held, schema.Holds height (write a)) :
    schema.Admits height presence (.ofOption write held) := by
  cases held with
  | none => exact ⟨fun _ => optional, fun other => absurd rfl other⟩
  | some a => exact (holds a rfl).admits

/-- A record is written field by field. -/
theorem Schema.Holds.of_fields {label : String} {fields : Fields} (values : List Value)
    (distinct : (fields.map Prod.fst).Nodup)
    (each : List.Forall₂ (fun field value => field.2.2.Admits height field.2.1 value)
      fields values) :
    Schema.Holds (height + 1) (.record label fields) (.object (fields.written values)) :=
  .record values each.length_eq distinct (fun _ member => (List.forall₂_zip each member).1)
    fun _ member => (List.forall₂_zip each member).2

/-- What may be missing is told from null. -/
theorem toOption_ofOption {α : Type} {write : α → Value} {read : Value → α} {held : Option α}
    (some_written : ∀ a ∈ held, write a ≠ .null) (back : ∀ a ∈ held, read (write a) = a) :
    (Value.ofOption write held).toOption read = held := by
  cases held with
  | none => rfl
  | some a =>
    have written : (write a).toOption read = some (read (write a)) := by
      have other := some_written a rfl
      cases h : write a with
      | null => exact absurd h other
      | _ => rfl
    rw [Value.ofOption, written, back a rfl]

/-- What is written for a value is a document of its type, and means the value. -/
structure Faithful {α : Type} [Form α] (height : Nat) (value : α) : Prop where
  holds : (Form.schema α).Holds height (Form.toValue value)
  means : Form.ofNormal (Form.toValue value) = value

theorem Faithful.decode {α : Type} [Form α] {value : α} (faithful : Faithful height value)
    (low : height < depthLimit) :
    Json.decode α (Utf8.ofString (Form.toValue value).render) = .ok value := by
  have bytes : Utf8.ofString (Form.toValue value).render = (Form.toValue value).bytes := by
    simp [Utf8.ofString, Value.render, Value.bytes]
  rw [Json.decode, bytes, faithful.holds.decode low]
  exact congrArg Except.ok faithful.means

/-- The values of an enumeration are told by their names. -/
theorem faithful_ofNames {α : Type} {all : List α} {name : α → String} {fallback value : α}
    (distinct : (all.map name).Nodup) (member : value ∈ all) :
    @Faithful α (Form.ofNames all name fallback) height value := by
  -- The first value of the name is the value itself, since no other one has its name.
  have found : all.find? (fun candidate => decide (name candidate = name value)) = some value := by
    have some : (all.find? fun candidate => decide (name candidate = name value)).isSome = true :=
      List.find?_isSome.mpr ⟨value, member, decide_eq_true rfl⟩
    obtain ⟨other, found⟩ := Option.isSome_iff_exists.mp some
    have same : name other = name value := by simpa using List.find?_some found
    rw [found, List.inj_on_of_nodup_map distinct (List.mem_of_find?_eq_some found) member same]
  let _ : Form α := Form.ofNames all name fallback
  constructor
  · refine .name ?_
    rw [variant?, List.find?_map]
    exact congrArg (Option.map fun value => (name value, none)) found
  · exact congrArg (Option.getD · fallback) found

end ListWatch.Json
