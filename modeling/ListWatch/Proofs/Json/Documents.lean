import ListWatch.Proofs.Json.Agreement
import ListWatch.Proofs.Json.Spelled

/-!
# Spelled documents

What a schema makes of a spelled text: open records are checked as what is left of the transcript,
lists element by element, and closed records field by field.
-/
namespace ListWatch.Json.Reader

variable {α : Type} {depth : Nat} {tail : List UInt8}

/-- A text that is spelled and nothing else gives what its spelling gives. -/
theorem toOption_ofDocument {reader : Reader α} {outcome : Spelling → Option α}
    {spelling : Spelling} (given : GivesFor reader outcome spelling) :
    (ofDocument reader spelling.bytes).toOption = outcome spelling := by
  have nothing : Solid [] := by rintro _ ⟨⟩
  have ended : Ended [] := by rintro _ ⟨⟩
  have yields := given.bare ended { rest := spelling.bytes } (List.append_nil _).symm
  cases found : outcome spelling with
  | some result =>
    rw [found] at yields
    obtain ⟨rest, there, read⟩ := yields
    have blank := rest_skipped .empty nothing there
    rw [toOption_eq_some, ofDocument_eq_ok]
    exact ⟨rest, read, by rw [blank]; rfl⟩
  | none =>
    rw [found] at yields
    cases whole : ofDocument reader spelling.bytes with
    | error fault => rfl
    | ok result =>
      obtain ⟨rest, read, -⟩ := ofDocument_eq_ok.mp whole
      exact absurd read (yields result rest)

/-! ## Open records -/

/-- What is left of the value, checked. -/
def plainOutcome (schema : Schema) (spelling : Spelling) : Option Value := do
  let value ← spelling.value?
  (value.merged.check schema).toOption

theorem plainOutcome_any (spelling : Spelling) :
    plainOutcome .any spelling = spelling.value?.map Value.merged := by
  rw [plainOutcome]
  cases spelling.value? with
  | none => rfl
  | some value => simp [check_any, Except.toOption]

theorem plainOutcome_text (pieces : List Piece) :
    plainOutcome .text (.string pieces) = (text? pieces).map Value.string := by
  simp only [plainOutcome, Spelling.value?]
  cases text? pieces with
  | none => rfl
  | some text => rfl

theorem givesFor_plain {schema : Schema} (plain : schema.Plain) {spelling : Spelling}
    (single : ∀ value, spelling.value? = some value → value.NoRepeats)
    (shallow : spelling.depth < depth) :
    GivesFor (Schema.read depth schema) (plainOutcome schema) spelling := by
  -- The transcript of the spelling is what it stands for; the schema reads what is left of that.
  intro blanks tail ended input stands
  have yields := givesFor_verbatim spelling shallow blanks tail ended input stands
  have agree := readsAs_plain plain depth input
  rw [plainOutcome]
  cases stood : spelling.value? with
  | none =>
    rw [stood] at yields
    intro result rest read
    obtain ⟨transcript, transcribed, -⟩ := (agree result rest).mp read
    exact yields transcript rest transcribed
  | some value =>
    rw [stood] at yields
    obtain ⟨rest, there, transcribed⟩ := yields
    simp only [Option.bind_eq_bind, Option.bind_some]
    cases checked : value.merged.check schema with
    | ok result =>
      have once := (single value stood).once schema
      exact ⟨rest, there, (agree result rest).mpr ⟨value, transcribed, once, checked⟩⟩
    | error fault =>
      intro result rest' read
      obtain ⟨transcript, transcribed', -, checked'⟩ := (agree result rest').mp read
      cases transcribed.symm.trans transcribed'
      cases checked.symm.trans checked'

/-! ## Lists and closed records -/

theorem givesFor_list {element : Schema} {outcome : Spelling → Option Value}
    {elements : List (Spaced Spelling)}
    (each : ∀ spaced ∈ elements, GivesFor (Schema.read (depth + 1) element) outcome spaced.it)
    (inner : Blanks) :
    GivesFor (Schema.read (depth + 2) (.list element))
      (fun _ => (elements.mapM fun spaced => outcome spaced.it).map Value.list)
      (.list inner elements) := by
  intro blanks tail ended
  rw [Schema.read, Spelling.bytes]
  refine .peekToken_bind blanks (solid_cons (by decide)) ?_
  simp only [List.cons_append, List.head?_cons, enter_succ]
  exact .eat_bind _ (gives_listBody each inner)

/-- What the value of a field adds to what was found, unless the field was found before. -/
def fieldOutcome (fields : Fields) (outcome : Schema → Spelling → Option Value) (key : String)
    (value : Spelling) (state : Members × Members) : Option (Members × Members) :=
  match fields.find? key with
  | some (_, schema) =>
    if (member? key state.1).isSome then none
    else (outcome schema value).map fun result => ((key, result) :: state.1, state.2)
  | none => none

/-- Only null begins as null does. -/
theorem eq_null_of_head {spelling : Spelling}
    (begun : (spelling.bytes ++ tail).head? = some 0x6E) : spelling = .null := by
  cases spelling with
  | null => rfl
  | boolean b => cases b <;> simp [Spelling.bytes] at begun
  | number numeral =>
    exfalso
    rw [Spelling.bytes, Numeral.bytes, Numeral.magnitude] at begun
    by_cases negative : numeral.negative = true
    · simp [negative] at begun
    · obtain ⟨digit, _, -, next⟩ := head_bytes numeral.whole
      simp only [negative, Bool.false_eq_true, if_false, List.nil_append, List.append_assoc,
        next, Option.some.injEq] at begun
      exact absurd begun ((by decide : ∀ d : Fin 10, digitByte d ≠ 0x6E) digit)
  | string pieces | list inner elements | object inner members => simp [Spelling.bytes] at begun

/-- Where null is not accepted, or does not stand, a field is read as its schema says. -/
theorem givesFor_nullOr {acceptsNull : Bool} {reader : Reader Value}
    {outcome : Spelling → Option Value} {value : Spelling} (given : GivesFor reader outcome value)
    (other : acceptsNull = true → value ≠ .null) :
    GivesFor (nullOr acceptsNull reader) outcome value := by
  intro blanks tail ended
  rw [nullOr]
  refine .peekToken_bind blanks (begins_bytes value tail).solid ?_
  have read := given.bare ended
  split
  next null =>
    simp only [Bool.and_eq_true, decide_eq_true_eq] at null
    exact absurd (eq_null_of_head null.2) (other null.1)
  next => exact read

theorem givesFor_nullOr_null {reader : Reader Value} {outcome : Spelling → Option Value}
    (known : outcome .null = some .null) :
    GivesFor (nullOr true reader) outcome .null := by
  intro blanks tail ended
  rw [nullOr, known]
  refine .peekToken_bind blanks (begins_bytes .null tail).solid ?_
  exact .eat_bind _ ((Gives.word _).bind (.pure Value.null))

theorem gives_closeRecord {fields : Fields} {state : Members × Members} :
    Gives (closeRecord fields state) [0x7D] tail (completed fields state).toOption := by
  rw [closeRecord, completed]
  cases Fields.complete state.1 fields with
  | ok written => exact gives_closeObject.bind (.pure (Value.object (written ++ state.2)))
  | error cause => exact .never fun _ _ _ => not_reads_failClosing

/-- The member is a field, and its value, or the null that stands for it, gives the outcome. -/
def IsField (depth : Nat) (fields : Fields) (outcome : Schema → Spelling → Option Value)
    (named : Named Spelling) : Prop :=
  ∀ key, text? named.name = some key → ∃ presence schema,
    fields.find? key = some (presence, schema) ∧
      GivesFor (nullOr presence.acceptsNull (Schema.read depth schema)) (outcome schema)
        named.value.it

/-- The value of a field is taken unless the field was found before. -/
theorem gives_fieldMember {fields : Fields} {outcome : Schema → Spelling → Option Value}
    {named : Named Spelling} (field : IsField (depth + 1) fields outcome named) {key : String}
    (called : text? named.name = some key) {state : Members × Members} (lead : Blanks)
    (ended : Ended tail) :
    Gives (fieldMember (Schema.read (depth + 1)) fields false key state)
      (named.after.bytes ++ [0x3A] ++ (lead.bytes ++ named.value.it.bytes)) tail
      (fieldOutcome fields outcome key named.value.it state) := by
  obtain ⟨presence, schema, known, given⟩ := field key called
  rw [fieldMember, fieldOutcome, known]
  cases held : member? key state.1 with
  | some value =>
    -- A field that was found before is refused before its value is looked at.
    simp only [Option.isSome_some, if_true]
    exact .never fun _ _ _ => by simp [reads_bind, not_reads_failClosing]
  | none =>
    simp only [Option.isSome_none, Bool.false_eq_true, if_false, Option.map_eq_bind]
    refine (gives_colon named.after).bind (((given lead tail ended).bind? fun value _ =>
      .pure ((key, value) :: state.1, state.2)).congr rfl (List.append_nil _))

/-- What a member of a closed record adds to what was found. -/
def memberOutcome (fields : Fields) (outcome : Schema → Spelling → Option Value)
    (state : Members × Members) (named : Named Spelling) : Option (Members × Members) := do
  let key ← text? named.name
  fieldOutcome fields outcome key named.value.it state

theorem memberOutcome_of_fresh {fields : Fields} {outcome : Schema → Spelling → Option Value}
    {state : Members × Members} {named : Named Spelling} {key : String} {presence : Presence}
    {schema : Schema} (called : text? named.name = some key)
    (known : fields.find? key = some (presence, schema)) (fresh : member? key state.1 = none) :
    memberOutcome fields outcome state named =
      (outcome schema named.value.it).map fun result => ((key, result) :: state.1, state.2) := by
  simp [memberOutcome, called, fieldOutcome, known, fresh]

/-- What a closed record is read as: its fields, with what is missing filled in. -/
def recordOutcome (fields : Fields) (outcome : Schema → Spelling → Option Value)
    (members : List (Named Spelling)) : Option Value := do
  let state ← members.foldlM (memberOutcome fields outcome) ([], [])
  (completed fields state).toOption

theorem givesFor_record {label : String} {fields : Fields}
    {outcome : Schema → Spelling → Option Value} {members : List (Named Spelling)}
    (each : ∀ named ∈ members, IsField (depth + 1) fields outcome named) (inner : Blanks) :
    GivesFor (Schema.read (depth + 2) (.record label fields))
      (fun _ => recordOutcome fields outcome members) (.object inner members) := by
  intro blanks tail ended
  rw [Schema.read, Spelling.bytes]
  refine .peekToken_bind blanks (solid_cons (by decide)) ?_
  simp only [List.cons_append, List.head?_cons, enter_succ]
  refine .eat_bind _ (.budget_bind fun fuel enough => ?_)
  have counted := length_members_le true members
  simp only [List.length_append] at enough
  have read : Gives _ _ (0x7D :: tail) _ := gives_members
    (fun named member key state lead _ ended called =>
      gives_fieldMember (each named member) called lead ended)
    (by omega : members.length < fuel) true inner ([], [])
  exact (read.bind? fun state _ => gives_closeRecord).congr rfl (List.append_assoc _ _ _)

end ListWatch.Json.Reader
