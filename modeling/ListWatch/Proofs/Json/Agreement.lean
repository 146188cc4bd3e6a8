import ListWatch.Proofs.Json.Checking

/-!
# Reading and checking agree

A value can be read from its text by a schema, or read as any value and checked against the schema.
For schemas of open records the two agree, except that only the text shows that a field stands in
it twice.
-/
namespace ListWatch.Json

/-! ## Reading an open record -/

namespace Reader

variable {depth : Nat} {fields : Fields} {input rest : Input}

theorem reads_verbatim_null :
    Reads (verbatim (depth + 1)) input .null rest ↔
      (skipped input).rest.head? = some 0x6E ∧
        Reads nullTail (Input.eat (skipped input)) () rest := by
  rw [verbatim, reads_peekToken_bind]
  split
  case h_2 token =>
    simp only [token, true_and, reads_bind, reads_eat, reads_pure]
    constructor
    · rintro ⟨_, _, rfl, _, _, read, rfl⟩
      exact read
    · intro read
      exact ⟨(), _, rfl, (), _, read, rfl⟩
  case h_9 null _ _ _ _ _ _ token =>
    have other : (skipped input).rest.head? ≠ some 0x6E := by
      simpa [token] using fun same => null same
    split <;> simp [other]
  all_goals simp [*, reads_bind]

theorem reads_verbatim_string {text : String} :
    Reads (verbatim (depth + 1)) input (.string text) rest ↔
      (skipped input).rest.head? = some 0x22 ∧
        Reads string (Input.eat (skipped input)) text rest := by
  rw [verbatim, reads_peekToken_bind]
  split
  case h_9 _ _ _ _ quote _ _ token =>
    have other : (skipped input).rest.head? ≠ some 0x22 := by
      simpa [token] using fun same => quote same
    split <;> simp [other]
  all_goals simp [*, reads_bind]

theorem reads_verbatim_object {members : Members} :
    Reads (verbatim (depth + 1)) input (.object members) rest ↔
      (skipped input).rest.head? = some 0x7B ∧ 0 < depth ∧
        ∃ closing,
          Reads (listMembers (verbatim depth) ((Input.eat (skipped input)).rest.length + 1) true)
            (Input.eat (skipped input)) members closing ∧
          Reads (close tryCloseObject) closing () rest := by
  rw [verbatim, reads_peekToken_bind]
  split
  case h_8 token =>
    cases depth with
    | zero => simp [enter]
    | succ depth =>
      rw [enter, if_neg (Nat.succ_ne_zero depth), reads_eat_bind, reads_budget_bind]
      simp only [reads_bind, reads_pure, token, true_and, Value.object.injEq, Nat.succ_pos]
      constructor
      · rintro ⟨_, closing, listed, _, _, closed, rfl, rfl⟩
        exact ⟨closing, listed, closed⟩
      · rintro ⟨closing, listed, closed⟩
        exact ⟨_, closing, listed, _, _, closed, rfl, rfl⟩
  case h_9 _ _ _ _ _ _ object token =>
    have other : (skipped input).rest.head? ≠ some 0x7B := by
      simpa [token] using fun same => object same
    split <;> simp [other]
  all_goals simp [*, reads_bind]

theorem reads_verbatim_skipped {value : Value} :
    Reads (verbatim (depth + 1)) (skipped input) value rest ↔
      Reads (verbatim (depth + 1)) input value rest := by
  rw [verbatim, reads_peekToken_bind, reads_peekToken_bind, skipped_skipped]

theorem not_reads_wrongType {α : Type} {expected : String} {result : α} :
    ¬ Reads (wrongType expected) input result rest := by
  rw [wrongType, reads_peekToken_bind]
  split
  case h_9 => split <;> simp [reads_bind]
  all_goals simp [reads_bind]

theorem not_reads_failClosing {α : Type} {attempt : Reader (Except Fault Unit)} {cause : Cause}
    {result : α} : ¬ Reads (failClosing attempt cause) input result rest := by
  simp [failClosing, reads_bind]

/-- By the schema is read what the transcript is left with and checked as. -/
def ReadsAs (depth : Nat) (reader : Reader Value) (schema : Schema)
    (check : Value → Except Fault Value) : Prop :=
  ∀ input result rest, Reads reader input result rest ↔
    ∃ transcript, Reads (verbatim depth) input transcript rest ∧ transcript.Once schema ∧
      check transcript.merged = .ok result

theorem merged_eq_null {value : Value} : value.merged = .null ↔ value = .null := by
  cases value <;> simp [Value.merged]

theorem eq_null_of_token {value : Value} (token : (skipped input).rest.head? = some 0x6E)
    (read : Reads (verbatim (depth + 1)) input value rest) : value = .null := by
  rw [verbatim, reads_peekToken_bind, token] at read
  obtain ⟨_, _, -, read⟩ := reads_bind.mp (reads_eat_bind.mp read)
  exact (reads_pure.mp read).1.symm

theorem readsAs_nullOr {presence : Presence} {schema : Schema}
    (agree : ReadsAs (depth + 1) (Schema.read (depth + 1) schema) schema (Value.check schema)) :
    ReadsAs (depth + 1) (nullOr presence.acceptsNull (Schema.read (depth + 1) schema)) schema
      (presence.check schema) := by
  intro input result rest
  rw [nullOr, reads_peekToken_bind]
  split
  next null =>
    -- A null stands here and is accepted.
    obtain ⟨accepts, token⟩ : presence.acceptsNull = true ∧
        (skipped input).rest.head? = some 0x6E := by simpa using null
    constructor
    · intro read
      obtain ⟨_, _, tail, read⟩ := reads_bind.mp (reads_eat_bind.mp read)
      obtain ⟨rfl, rfl⟩ := reads_pure.mp read
      exact ⟨.null, reads_verbatim_null.mpr ⟨token, tail⟩, trivial, Presence.check_null accepts⟩
    · rintro ⟨transcript, read, -, checked⟩
      obtain rfl := eq_null_of_token token read
      rw [Value.merged, Presence.check_null accepts] at checked
      cases checked
      exact reads_eat_bind.mpr (reads_bind.mpr
        ⟨(), rest, (reads_verbatim_null.mp read).2, reads_pure.mpr ⟨rfl, rfl⟩⟩)
  next other =>
    -- No null is accepted here: none stands here, or the field refuses it.
    have passed (transcript : Value) (read : Reads (verbatim (depth + 1)) input transcript rest) :
        presence.check schema transcript.merged = transcript.merged.check schema := by
      refine Presence.check_of_other fun accepts null => other ?_
      rw [merged_eq_null.mp null, reads_verbatim_null] at read
      simp [accepts, read.1]
    rw [agree]
    constructor
    · rintro ⟨transcript, read, once, checked⟩
      have read := reads_verbatim_skipped.mp read
      exact ⟨transcript, read, once, (passed transcript read).trans checked⟩
    · rintro ⟨transcript, read, once, checked⟩
      rw [passed transcript read] at checked
      exact ⟨transcript, reads_verbatim_skipped.mpr read, once, checked⟩

/-- What is read by the schema of each field is what the transcript is checked as. -/
def Agree (depth : Nat) (fields : Fields) : Prop :=
  ∀ field ∈ fields, ReadsAs depth (Schema.read depth field.2.2) field.2.2 (Value.check field.2.2)

theorem reads_fieldMember (agree : Agree (depth + 1) fields) {key : String}
    {state next : Members × Members} :
    Reads (fieldMember (Schema.read (depth + 1)) fields true key state) input next rest ↔
      ∃ parted transcript, Reads colon input () parted ∧
        Reads (verbatim (depth + 1)) parted transcript rest ∧
        fields.Takes state key transcript next := by
  rw [fieldMember]
  simp only [Fields.Takes]
  cases known : fields.find? key with
  | none =>
    -- What is no field is read as any value and set among the others.
    simp only [if_true, reads_bind, reads_pure, read_any, reads_map]
    constructor
    · rintro ⟨_, parted, stopped, _, _, ⟨transcript, taken, rfl⟩, rfl, rfl⟩
      exact ⟨parted, transcript, stopped, taken, rfl⟩
    · rintro ⟨parted, transcript, stopped, taken, rfl⟩
      exact ⟨(), parted, stopped, _, rest, ⟨transcript, taken, rfl⟩, rfl, rfl⟩
  | some field =>
    obtain ⟨presence, schema⟩ := field
    have fits : ReadsAs (depth + 1) (nullOr presence.acceptsNull (Schema.read (depth + 1) schema))
        schema (presence.check schema) := readsAs_nullOr (agree _ (Fields.mem_of_find? known))
    cases held : member? key state.1 with
    | some value => simp [not_reads_failClosing, reads_bind]
    | none =>
      simp only [Option.isSome_none, Bool.false_eq_true, if_false, reads_bind, reads_pure, true_and]
      constructor
      · rintro ⟨_, parted, stopped, value, _, taken, rfl, rfl⟩
        obtain ⟨transcript, taken, once, fit⟩ := (fits _ _ _).mp taken
        exact ⟨parted, transcript, stopped, taken, once, value, fit, rfl⟩
      · rintro ⟨parted, transcript, stopped, taken, once, value, fit, rfl⟩
        have taken := (fits _ _ _).mpr ⟨transcript, taken, once, fit⟩
        exact ⟨(), parted, stopped, value, rest, taken, rfl, rfl⟩

section
variable {fuel : Nat} {first : Bool}

theorem reads_members_succ {σ : Type} {member : String → σ → Reader σ} {state final : σ} :
    Reads (members member (fuel + 1) first state) input final rest ↔
      (Reads (nextMember first) input false rest ∧ state = final) ∨
        ∃ next key named between after, Reads (nextMember first) input true next ∧
          Reads string (Input.eat next) key named ∧ Reads (member key state) named between after ∧
          Reads (members member fuel false between) after final rest := by
  rw [members, reads_bind]
  constructor
  · rintro ⟨_ | _, next, decided, read⟩
    · obtain ⟨rfl, rfl⟩ := reads_pure.mp read
      exact Or.inl ⟨decided, rfl⟩
    · obtain ⟨key, named, text, read⟩ := reads_bind.mp (reads_eat_bind.mp read)
      obtain ⟨between, after, member, read⟩ := reads_bind.mp read
      exact Or.inr ⟨next, key, named, between, after, decided, text, member, read⟩
  · rintro (⟨decided, rfl⟩ | ⟨next, key, named, between, after, decided, text, member, read⟩)
    · exact ⟨false, rest, decided, reads_pure.mpr ⟨rfl, rfl⟩⟩
    · exact ⟨true, next, decided, reads_eat_bind.mpr (reads_bind.mpr
        ⟨key, named, text, reads_bind.mpr ⟨between, after, member, read⟩⟩)⟩

theorem reads_listMembers_nil {read : Reader Value} :
    Reads (listMembers read (fuel + 1) first) input [] rest ↔
      Reads (nextMember first) input false rest := by
  rw [listMembers, reads_bind]
  constructor
  · rintro ⟨_ | _, next, decided, read⟩
    · obtain ⟨-, rfl⟩ := reads_pure.mp read
      exact decided
    · simp [reads_bind] at read
  · intro decided
    exact ⟨false, rest, decided, reads_pure.mpr ⟨rfl, rfl⟩⟩

theorem reads_listMembers_cons {read : Reader Value} {key : String} {value : Value}
    {members : Members} :
    Reads (listMembers read (fuel + 1) first) input ((key, value) :: members) rest ↔
      ∃ next named parted after, Reads (nextMember first) input true next ∧
        Reads string (Input.eat next) key named ∧ Reads colon named () parted ∧
        Reads read parted value after ∧ Reads (listMembers read fuel false) after members rest := by
  rw [listMembers, reads_bind]
  constructor
  · rintro ⟨_ | _, next, decided, read⟩
    · cases (reads_pure.mp read).1
    · obtain ⟨_, named, text, read⟩ := reads_bind.mp (reads_eat_bind.mp read)
      obtain ⟨_, parted, stopped, read⟩ := reads_bind.mp read
      obtain ⟨_, after, taken, read⟩ := reads_bind.mp read
      obtain ⟨_, last, remaining, read⟩ := reads_bind.mp read
      obtain ⟨same, rfl⟩ := reads_pure.mp read
      cases same
      exact ⟨next, named, parted, after, decided, text, stopped, taken, remaining⟩
  · rintro ⟨next, named, parted, after, decided, text, stopped, taken, remaining⟩
    refine ⟨true, next, decided, reads_eat_bind.mpr (reads_bind.mpr ⟨key, named, text, ?_⟩)⟩
    exact reads_bind.mpr ⟨(), parted, stopped, reads_bind.mpr ⟨value, after, taken,
      reads_bind.mpr ⟨members, rest, remaining, reads_pure.mpr ⟨rfl, rfl⟩⟩⟩⟩

/-- The members of an open record are read as the transcript of them is checked. -/
theorem reads_openMembers (agree : Agree (depth + 1) fields) {state final : Members × Members} :
    Reads (members (fieldMember (Schema.read (depth + 1)) fields true) fuel first state)
        input final rest ↔
      ∃ members, Reads (listMembers (verbatim (depth + 1)) fuel first) input members rest ∧
        fields.Accepts state members final := by
  -- Both readers spend one of the fuel on each member, so it runs out for both at once.
  induction fuel generalizing first input state with
  | zero => simp [members, listMembers]
  | succ fuel ih =>
    rw [reads_members_succ]
    constructor
    · rintro (⟨decided, rfl⟩ | ⟨next, key, named, between, after, decided, text, member, read⟩)
      · exact ⟨[], reads_listMembers_nil.mpr decided, Fields.accepts_nil.mpr rfl⟩
      · obtain ⟨parted, transcript, stopped, taken, takes⟩ := (reads_fieldMember agree).mp member
        obtain ⟨members, listed, accepts⟩ := ih.mp read
        exact ⟨(key, transcript) :: members, reads_listMembers_cons.mpr
          ⟨next, named, parted, after, decided, text, stopped, taken, listed⟩,
          Fields.accepts_cons.mpr ⟨between, takes, accepts⟩⟩
    · rintro ⟨_ | ⟨⟨key, transcript⟩, members⟩, listed, accepts⟩
      · exact Or.inl ⟨reads_listMembers_nil.mp listed, Fields.accepts_nil.mp accepts⟩
      · obtain ⟨next, named, parted, after, decided, text, stopped, taken, listed⟩ :=
          reads_listMembers_cons.mp listed
        obtain ⟨between, takes, accepts⟩ := Fields.accepts_cons.mp accepts
        have member := (reads_fieldMember agree).mpr ⟨parted, transcript, stopped, taken, takes⟩
        exact Or.inr ⟨next, key, named, between, after, decided, text, member,
          ih.mpr ⟨members, listed, accepts⟩⟩

end

theorem reads_closeRecord {state : Members × Members} {result : Value} :
    Reads (closeRecord fields state) input result rest ↔
      completed fields state = .ok result ∧ Reads (close tryCloseObject) input () rest := by
  rw [closeRecord, completed]
  cases Fields.complete state.1 fields with
  | error cause => simp [not_reads_failClosing, refuse]
  | ok written =>
    simp only [reads_bind, reads_pure]
    constructor
    · rintro ⟨_, _, closed, rfl, rfl⟩
      exact ⟨rfl, closed⟩
    · rintro ⟨⟨⟩, closed⟩
      exact ⟨(), rest, closed, rfl, rfl⟩

theorem check_any (value : Value) : value.check .any = .ok value := by
  cases value <;> simp [Value.check]

theorem check_text {value result : Value} :
    value.check .text = .ok result ↔ ∃ text, value = .string text ∧ result = .string text := by
  cases value <;> simp [Value.check, refuse, eq_comm]

/-- An object as it stands is accepted just when what is left of it is checked, and no field stands
twice. -/
theorem accepts_iff {label : String} (distinct : (fields.map Prod.fst).Nodup) {members : Members}
    {result : Value} :
    (∃ state, fields.Accepts ([], []) members state ∧ completed fields state = .ok result) ↔
      (Value.object members).Once (.extensible label fields) ∧
        (Value.object members).merged.check (.extensible label fields) = .ok result := by
  have fresh : fields.Fresh [] members ↔ ((fields.declared members).map Prod.fst).Nodup :=
    ⟨And.left, fun once => ⟨once, fun _ _ => rfl⟩⟩
  simp only [Fields.Accepts, fresh, Value.Once, Value.merged]
  constructor
  · rintro ⟨state, ⟨once, others, checked⟩, completed⟩
    refine ⟨⟨once, others⟩, ?_⟩
    rw [Fields.check_mergeMembers distinct (by rwa [Fields.names_declared_merged]), Value.check,
      checked]
    exact completed
  · rintro ⟨⟨once, others⟩, checked⟩
    rw [Fields.check_mergeMembers distinct (by rwa [Fields.names_declared_merged]),
      Value.check] at checked
    obtain ⟨state, checked, completed⟩ := eq_ok_of_bind checked
    exact ⟨state, ⟨once, others, checked⟩, completed⟩

theorem merged_eq_object {transcript : Value} {label : String} {result : Value}
    (checked : transcript.merged.check (.extensible label fields) = .ok result) :
    ∃ members, transcript = .object members := by
  cases transcript <;> simp [Value.merged, Value.check, refuse] at checked ⊢

/-- Reading by a schema of open records is transcribing and then checking, except that the text
may not hold a field twice. -/
theorem readsAs_plain {schema : Schema} (plain : schema.Plain) (depth : Nat) :
    ReadsAs depth (Schema.read depth schema) schema (Value.check schema) := by
  -- The schema of a field may be as large as its record's, but it is read one level deeper.
  induction depth generalizing schema with
  | zero =>
    intro input result rest
    simp [Schema.read, verbatim]
  | succ depth ih =>
    intro input result rest
    cases plain with
    | any =>
      rw [read_any, reads_map]
      constructor
      · rintro ⟨transcript, read, rfl⟩
        exact ⟨transcript, read, by cases transcript <;> trivial, check_any _⟩
      · rintro ⟨transcript, read, -, checked⟩
        rw [check_any] at checked
        cases checked
        exact ⟨transcript, read, rfl⟩
    | text =>
      rw [Schema.read, Reader.text]
      constructor
      · intro read
        obtain ⟨text, between, quoted, returned⟩ := reads_bind.mp read
        obtain ⟨rfl, rfl⟩ := reads_pure.mp returned
        rw [reads_peekToken_bind] at quoted
        split at quoted
        next token => exact ⟨.string text, reads_verbatim_string.mpr ⟨token, quoted⟩, trivial, rfl⟩
        next => exact absurd quoted not_reads_wrongType
      · rintro ⟨transcript, read, -, checked⟩
        obtain ⟨text, merged, rfl⟩ := check_text.mp checked
        obtain rfl : transcript = .string text := by
          cases transcript <;> simp_all [Value.merged]
        obtain ⟨token, read⟩ := reads_verbatim_string.mp read
        refine reads_bind.mpr ⟨text, rest, ?_, reads_pure.mpr ⟨rfl, rfl⟩⟩
        rw [reads_peekToken_bind, token]
        exact read
    | @extensible label fields distinct within =>
      have agree : Agree depth fields := fun field member => ih (within field member)
      rw [Schema.read, reads_peekToken_bind]
      constructor
      · intro read
        split at read
        next token =>
          obtain ⟨_, _, entered, read⟩ := reads_bind.mp read
          have positive := pos_of_reads_enter entered
          obtain rfl := of_reads_enter entered
          obtain ⟨depth, rfl⟩ : ∃ inner, depth = inner + 1 := ⟨depth - 1, by omega⟩
          obtain ⟨state, closing, members, read⟩ := reads_bind.mp (reads_budget_bind.mp read)
          obtain ⟨completed, closed⟩ := reads_closeRecord.mp read
          obtain ⟨members, listed, accepts⟩ := (reads_openMembers agree).mp members
          exact ⟨.object members,
            reads_verbatim_object.mpr ⟨token, positive, closing, listed, closed⟩,
            (accepts_iff distinct).mp ⟨state, accepts, completed⟩⟩
        next => exact absurd read not_reads_wrongType
      · rintro ⟨transcript, read, accepted⟩
        obtain ⟨members, rfl⟩ := merged_eq_object accepted.2
        obtain ⟨token, positive, closing, listed, closed⟩ := reads_verbatim_object.mp read
        obtain ⟨state, accepts, completed⟩ := (accepts_iff distinct).mpr accepted
        obtain ⟨depth, rfl⟩ : ∃ inner, depth = inner + 1 := ⟨depth - 1, by omega⟩
        rw [token]
        refine reads_bind.mpr ⟨(), _, reads_eat.mpr rfl, reads_budget_bind.mpr (reads_bind.mpr
          ⟨state, closing, ?_, reads_closeRecord.mpr ⟨completed, closed⟩⟩)⟩
        exact (reads_openMembers agree).mpr ⟨members, listed, accepts⟩

end Reader

end ListWatch.Json
