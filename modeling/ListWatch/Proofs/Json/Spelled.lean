import ListWatch.Proofs.Json.Giving

/-!
# Reading spelled values

Every spelling is read as the value it stands for, wherever it stands and however its brackets are
nested, as long as they are not nested too deep; and where it stands for none, nothing is read.
-/
namespace ListWatch.Json.Reader

variable {bytes tail : List UInt8}

/-! ## Between values -/

theorem continues_of_isBlank {byte : UInt8} (blank : isBlank byte = true) :
    continues byte = false := by
  simp only [isBlank, Bool.or_eq_true, decide_eq_true_eq] at blank
  rcases blank with ((rfl | rfl) | rfl) | rfl
  all_goals decide

theorem Ended.after_blanks (blanks : Blanks) (ended : Ended tail) :
    Ended (blanks.bytes ++ tail) := by
  obtain ⟨_ | ⟨byte, bytes⟩, blank⟩ := blanks
  · exact ended
  · rintro _ ⟨⟩
    exact continues_of_isBlank (blank byte List.mem_cons_self)

theorem ended_cons {byte : UInt8} (stops : continues byte = false) : Ended (byte :: tail) := by
  rintro _ ⟨⟩
  exact stops

theorem solid_cons {byte : UInt8} (solid : isBlank byte = false) : Solid (byte :: tail) := by
  rintro _ ⟨⟩
  exact solid

/-- The byte begins a value. -/
def Begins (bytes : List UInt8) : Prop :=
  ∃ byte, bytes.head? = some byte ∧ isBlank byte = false ∧ byte ≠ 0x5D

theorem Begins.solid (begins : Begins bytes) : Solid bytes := by
  obtain ⟨byte, next, solid, -⟩ := begins
  intro other next'
  cases next.symm.trans next'
  exact solid

theorem begins_of_digit (digits : Digits) (tail : List UInt8) : Begins (digits.bytes ++ tail) := by
  obtain ⟨digit, _, -, next⟩ := head_bytes digits
  have facts : ∀ d : Fin 10, isBlank (digitByte d) = false ∧ digitByte d ≠ 0x5D := by decide
  exact ⟨digitByte digit, next tail, facts digit⟩

theorem begins_bytes (spelling : Spelling) (tail : List UInt8) :
    Begins (spelling.bytes ++ tail) := by
  cases spelling with
  | null => exact ⟨_, rfl, by decide⟩
  | boolean b => cases b <;> exact ⟨_, rfl, by decide⟩
  | number numeral =>
    rw [Spelling.bytes, Numeral.bytes, Numeral.magnitude]
    by_cases negative : numeral.negative = true
    · exact ⟨0x2D, by simp [negative], by decide⟩
    · simpa [negative] using begins_of_digit numeral.whole _
  | string pieces => exact ⟨_, rfl, by decide⟩
  | list inner elements => exact ⟨_, rfl, by decide⟩
  | object inner members => exact ⟨_, rfl, by decide⟩

theorem gives_nextElement_end (blanks : Blanks) (first : Bool) :
    Gives (nextElement first) blanks.bytes (0x5D :: tail) (some false) := by
  rw [nextElement]
  exact .peekToken_bind_nil blanks (solid_cons (by decide)) (.pure false)

theorem gives_nextElement (first : Bool) (blanks lead : Blanks) (begins : Begins tail) :
    Gives (nextElement first) (blanks.bytes ++ ((if first then [] else [0x2C]) ++ lead.bytes)) tail
      (some true) := by
  have solid := begins.solid
  obtain ⟨byte, next, -, other⟩ := begins
  rw [nextElement]
  cases first with
  | true =>
    -- Nothing parts the blanks that stand before the first element.
    refine .peekToken_bind_nil (blanks.append lead) solid ?_
    rw [next]
    split
    next none => cases none
    next same => exact absurd (Option.some.inj same) other
    next => exact .pure true
  | false =>
    refine .peekToken_bind blanks (solid_cons (by decide)) (.eat_bind _ ?_)
    refine .peekToken_bind_nil lead solid ?_
    rw [next]
    split
    next same => exact absurd (Option.some.inj same) other
    next => exact .pure true
    next none => cases none

theorem gives_nextMember_end (blanks : Blanks) (first : Bool) :
    Gives (nextMember first) blanks.bytes (0x7D :: tail) (some false) := by
  rw [nextMember]
  exact .peekToken_bind_nil blanks (solid_cons (by decide)) (.pure false)

theorem solid_of_quote (quote : tail.head? = some 0x22) : Solid tail := by
  intro byte next
  cases quote.symm.trans next
  rfl

theorem gives_nextMember (first : Bool) (blanks lead : Blanks) (quote : tail.head? = some 0x22) :
    Gives (nextMember first) (blanks.bytes ++ ((if first then [] else [0x2C]) ++ lead.bytes)) tail
      (some true) := by
  rw [nextMember]
  cases first with
  | true =>
    refine .peekToken_bind_nil (blanks.append lead) (solid_of_quote quote) ?_
    rw [quote]
    exact .pure true
  | false =>
    refine .peekToken_bind blanks (solid_cons (by decide)) (.eat_bind _ ?_)
    refine .peekToken_bind_nil lead (solid_of_quote quote) ?_
    rw [quote]
    exact .pure true

theorem gives_colon (blanks : Blanks) : Gives colon (blanks.bytes ++ [0x3A]) tail (some ()) := by
  rw [colon]
  exact .peekToken_bind blanks (solid_cons (by decide)) .eat

theorem Gives.close {attempt : Reader (Except Fault Unit)}
    (given : Gives attempt bytes tail (some (.ok ()))) :
    Gives (close attempt) bytes tail (some ()) := by
  intro input stands
  obtain ⟨rest, there, read⟩ := given input stands
  exact ⟨rest, there, reads_close.mpr read⟩

theorem gives_closeList : Gives (close tryCloseList) [0x5D] tail (some ()) :=
  .close (.peekToken_bind .empty (solid_cons (by decide)) (.eat_bind _ (.pure _)))

theorem gives_closeObject : Gives (close tryCloseObject) [0x7D] tail (some ()) :=
  .close (.peekToken_bind .empty (solid_cons (by decide)) (.eat_bind _ (.pure _)))

/-! ## Lists and objects -/

/-- The reader gives the outcome of the spelling, whatever blanks stand before it. -/
def GivesFor {α : Type} (reader : Reader α) (outcome : Spelling → Option α) (spelling : Spelling) :
    Prop :=
  ∀ (blanks : Blanks) (tail : List UInt8), Ended tail →
    Gives reader (blanks.bytes ++ spelling.bytes) tail (outcome spelling)

theorem GivesFor.bare {α : Type} {reader : Reader α} {outcome : Spelling → Option α}
    {spelling : Spelling} (given : GivesFor reader outcome spelling) (ended : Ended tail) :
    Gives reader spelling.bytes tail (outcome spelling) := given .empty tail ended

theorem ended_elementBytes (elements : List (Spaced Spelling)) (tail : List UInt8) :
    Ended (Spelling.elementBytes false elements ++ (0x5D :: tail)) := by
  cases elements with
  | nil => exact ended_cons (by decide)
  | cons element elements => exact ended_cons (by decide)

theorem ended_memberBytes (members : List (Named Spelling)) (tail : List UInt8) :
    Ended (Spelling.memberBytes false members ++ (0x7D :: tail)) := by
  cases members with
  | nil => exact ended_cons (by decide)
  | cons member members => exact ended_cons (by decide)

/-- The elements of a list are read one by one. -/
theorem gives_elements {element : Reader Value} {outcome : Spelling → Option Value}
    {elements : List (Spaced Spelling)}
    (each : ∀ spaced ∈ elements, GivesFor element outcome spaced.it) {fuel : Nat}
    (enough : elements.length < fuel) (first : Bool) (blanks : Blanks) :
    Gives (Reader.elements element fuel first)
      (blanks.bytes ++ Spelling.elementBytes first elements) (0x5D :: tail)
      (elements.mapM fun spaced => outcome spaced.it) := by
  obtain ⟨fuel, rfl⟩ : ∃ less, fuel = less + 1 := ⟨fuel - 1, by omega⟩
  induction elements generalizing fuel first blanks with
  | nil =>
    refine (gives_nextElement_end blanks first).bind ?_
    exact .pure []
  | cons spaced elements ih =>
    obtain ⟨fuel, rfl⟩ : ∃ less, fuel = less + 1 := ⟨fuel - 1, by simp at enough; omega⟩
    obtain ⟨before, value, after⟩ := spaced
    obtain ⟨here, others⟩ := List.forall_mem_cons.mp each
    -- What follows a value belongs to the other elements: the blanks before their comma or bracket.
    have rest := ih others false after fuel (Nat.lt_of_succ_lt_succ enough)
    have ended := (ended_elementBytes elements tail).after_blanks after
    have begins : Begins (value.bytes ++ (after.bytes ++ Spelling.elementBytes false elements) ++
        0x5D :: tail) := by
      simpa using begins_bytes value _
    have read : Gives (do
          let value ← element
          let values ← Reader.elements element (fuel + 1) false
          pure (value :: values))
        (value.bytes ++ (after.bytes ++ Spelling.elementBytes false elements)) (0x5D :: tail)
        (do
          let value ← outcome value
          let values ← elements.mapM fun spaced => outcome spaced.it
          return value :: values) := by
      refine (here.bare (by simpa using ended)).bind? fun value _ => ?_
      exact (rest.bind? fun values _ => .pure (value :: values)).congr rfl (List.append_nil _)
    rw [Reader.elements, List.mapM_cons]
    refine ((gives_nextElement first blanks before begins).bind read).congr rfl ?_
    simp [Spelling.elementBytes]

/-- The bytes of a member from the quote of its name to the end of its value. -/
def memberBody (name : List Piece) (after lead : Blanks) (value : Spelling) : List UInt8 :=
  0x22 :: (quotedBytes name ++ (after.bytes ++ [0x3A] ++ (lead.bytes ++ value.bytes)))

/-- The name of a member with the outcome of its value. -/
def namedOutcome (outcome : Spelling → Option Value) (named : Named Spelling) :
    Option (String × Value) := do
  let key ← text? named.name
  let value ← outcome named.value.it
  return (key, value)

/-- The members of an object are read one by one. -/
theorem gives_listMembers {read : Reader Value} {outcome : Spelling → Option Value}
    {members : List (Named Spelling)}
    (each : ∀ named ∈ members, GivesFor read outcome named.value.it) {fuel : Nat}
    (enough : members.length < fuel) (first : Bool) (blanks : Blanks) :
    Gives (listMembers read fuel first) (blanks.bytes ++ Spelling.memberBytes first members)
      (0x7D :: tail) (members.mapM (namedOutcome outcome)) := by
  obtain ⟨fuel, rfl⟩ : ∃ less, fuel = less + 1 := ⟨fuel - 1, by omega⟩
  induction members generalizing fuel first blanks with
  | nil =>
    refine (gives_nextMember_end blanks first).bind ?_
    exact .pure []
  | cons named members ih =>
    obtain ⟨fuel, rfl⟩ : ∃ less, fuel = less + 1 := ⟨fuel - 1, by simp at enough; omega⟩
    obtain ⟨before, name, behind, ⟨lead, value, after⟩⟩ := named
    obtain ⟨here, others⟩ := List.forall_mem_cons.mp each
    have rest := ih others false after fuel (Nat.lt_of_succ_lt_succ enough)
    have ended := (ended_memberBytes members tail).after_blanks after
    have quote : (memberBody name behind lead value ++ (after.bytes ++
        Spelling.memberBytes false members) ++ 0x7D :: tail).head? = some 0x22 := rfl
    have taken : Gives (do
          eat
          let key ← string
          colon
          let value ← read
          let more ← listMembers read (fuel + 1) false
          pure ((key, value) :: more))
        (memberBody name behind lead value ++ (after.bytes ++ Spelling.memberBytes false members))
        (0x7D :: tail)
        (do
          let key ← text? name
          let value ← outcome value
          let more ← members.mapM (namedOutcome outcome)
          return (key, value) :: more) := by
      refine Gives.congr (.eat_bind 0x22 ((gives_string name).bind? fun key _ =>
        (gives_colon behind).bind ((here lead _ ?_).bind? fun value _ =>
          rest.bind? fun more _ => .pure ((key, value) :: more)))) rfl ?_
      · simpa using ended
      · simp [memberBody]
    rw [listMembers, List.mapM_cons, namedOutcome]
    simp only [bind_assoc, pure_bind]
    refine ((gives_nextMember first blanks before quote).bind taken).congr rfl ?_
    simp [Spelling.memberBytes, memberBody]

/-- The members of an object are taken one after the other. -/
theorem gives_members {σ : Type} {member : String → σ → Reader σ}
    {next? : String → Spelling → σ → Option σ} {members : List (Named Spelling)}
    (each : ∀ named ∈ members, ∀ key state (lead : Blanks) (tail : List UInt8), Ended tail →
      text? named.name = some key →
      Gives (member key state) (named.after.bytes ++ [0x3A] ++ (lead.bytes ++ named.value.it.bytes))
        tail (next? key named.value.it state))
    {fuel : Nat} (enough : members.length < fuel) (first : Bool) (blanks : Blanks) (state : σ) :
    Gives (Reader.members member fuel first state)
      (blanks.bytes ++ Spelling.memberBytes first members) (0x7D :: tail)
      (members.foldlM (fun state named => do
        let key ← text? named.name
        next? key named.value.it state) state) := by
  obtain ⟨fuel, rfl⟩ : ∃ less, fuel = less + 1 := ⟨fuel - 1, by omega⟩
  induction members generalizing fuel first blanks state with
  | nil =>
    refine (gives_nextMember_end blanks first).bind ?_
    exact .pure state
  | cons named members ih =>
    obtain ⟨fuel, rfl⟩ : ∃ less, fuel = less + 1 := ⟨fuel - 1, by simp at enough; omega⟩
    obtain ⟨before, name, behind, ⟨lead, value, after⟩⟩ := named
    obtain ⟨here, others⟩ := List.forall_mem_cons.mp each
    have ended := (ended_memberBytes members tail).after_blanks after
    have quote : (memberBody name behind lead value ++ (after.bytes ++
        Spelling.memberBytes false members) ++ 0x7D :: tail).head? = some 0x22 := rfl
    have taken : Gives (do
          eat
          let key ← string
          let state ← member key state
          Reader.members member (fuel + 1) false state)
        (memberBody name behind lead value ++ (after.bytes ++ Spelling.memberBytes false members))
        (0x7D :: tail)
        (do
          let key ← text? name
          let state ← next? key value state
          members.foldlM (fun state named => do
            let key ← text? named.name
            next? key named.value.it state) state) := by
      have rest (state : σ) := ih others false after state fuel (Nat.lt_of_succ_lt_succ enough)
      refine Gives.congr (.eat_bind 0x22 ((gives_string name).bind? fun key named =>
        (here key state lead _ ?_ named).bind? fun state _ => rest state)) rfl ?_
      · simpa using ended
      · simp [memberBody]
    rw [Reader.members, List.foldlM_cons]
    simp only [bind_assoc]
    refine ((gives_nextMember first blanks before quote).bind taken).congr rfl ?_
    simp [Spelling.memberBytes, memberBody]

/-! ## Values -/

theorem elementValues?_eq_mapM (elements : List (Spaced Spelling)) :
    Spelling.elementValues? elements = elements.mapM fun spaced => spaced.it.value? := by
  induction elements with
  | nil => rfl
  | cons spaced elements ih =>
    rw [Spelling.elementValues?, List.mapM_cons, ih]
    simp only [Option.map_eq_bind]
    rfl

theorem memberValues?_eq_mapM (members : List (Named Spelling)) :
    Spelling.memberValues? members = members.mapM (namedOutcome Spelling.value?) := by
  induction members with
  | nil => rfl
  | cons named members ih =>
    rw [Spelling.memberValues?, List.mapM_cons, namedOutcome, ih]
    simp only [bind_assoc, pure_bind]
    simp only [Option.map_eq_bind]
    rfl

theorem length_bytes_pos (spelling : Spelling) : 0 < spelling.bytes.length := by
  obtain ⟨byte, next, -⟩ := begins_bytes spelling []
  rw [List.append_nil] at next
  exact List.length_pos_of_mem (List.mem_of_mem_head? next)

theorem length_elements_le (first : Bool) (elements : List (Spaced Spelling)) :
    elements.length ≤ (Spelling.elementBytes first elements).length := by
  induction elements generalizing first with
  | nil => exact Nat.zero_le _
  | cons spaced elements ih =>
    have some := length_bytes_pos spaced.it
    have others := ih false
    simp only [Spelling.elementBytes, List.length_append, List.length_cons]
    omega

theorem length_members_le (first : Bool) (members : List (Named Spelling)) :
    members.length ≤ (Spelling.memberBytes first members).length := by
  induction members generalizing first with
  | nil => exact Nat.zero_le _
  | cons named members ih =>
    have others := ih false
    simp only [Spelling.memberBytes, List.length_append, List.length_cons]
    omega

/-- What stands between the brackets of a list, and the bracket that closes it. -/
theorem gives_listBody {element : Reader Value} {outcome : Spelling → Option Value}
    {elements : List (Spaced Spelling)}
    (each : ∀ spaced ∈ elements, GivesFor element outcome spaced.it) (inner : Blanks) :
    Gives (do
        let values ← Reader.elements element (← budget) true
        close tryCloseList
        pure (Value.list values))
      (inner.bytes ++ (Spelling.elementBytes true elements ++ [0x5D])) tail
      ((elements.mapM fun spaced => outcome spaced.it).map Value.list) := by
  -- The fuel is what is left of the input, in which each element takes a byte at least.
  refine .budget_bind fun fuel enough => ?_
  have counted := length_elements_le true elements
  simp only [List.length_append] at enough
  have read : Gives _ _ (0x5D :: tail) _ :=
    gives_elements each (by omega : elements.length < fuel) true inner
  rw [Option.map_eq_bind]
  refine (read.bind? fun values _ => gives_closeList.bind (.pure (Value.list values))).congr rfl ?_
  simp

/-- What stands between the brackets of an object, and the bracket that closes it. -/
theorem gives_objectBody {read : Reader Value} {outcome : Spelling → Option Value}
    {members : List (Named Spelling)}
    (each : ∀ named ∈ members, GivesFor read outcome named.value.it) (inner : Blanks) :
    Gives (do
        let found ← listMembers read (← budget) true
        close tryCloseObject
        pure (Value.object found))
      (inner.bytes ++ (Spelling.memberBytes true members ++ [0x7D])) tail
      ((members.mapM (namedOutcome outcome)).map Value.object) := by
  refine .budget_bind fun fuel enough => ?_
  have counted := length_members_le true members
  simp only [List.length_append] at enough
  have listed : Gives _ _ (0x7D :: tail) _ :=
    gives_listMembers each (by omega : members.length < fuel) true inner
  rw [Option.map_eq_bind]
  refine (listed.bind? fun found _ =>
    gives_closeObject.bind (.pure (Value.object found))).congr rfl ?_
  simp

theorem enter_succ (depth : Nat) : enter (depth + 1) = eat := if_neg (Nat.succ_ne_zero depth)

/-- Every spelling is read as the value, as it stands, that it stands for. -/
theorem givesFor_verbatim (spelling : Spelling) {depth : Nat} (shallow : spelling.depth < depth) :
    GivesFor (verbatim depth) Spelling.value? spelling := by
  induction spelling using Spelling.parts generalizing depth
  -- Each is begun the same: the blanks are passed over and the byte behind them decides.
  all_goals
    intro blanks tail ended
    obtain ⟨depth, rfl⟩ : ∃ less, depth = less + 1 := ⟨depth - 1, by omega⟩
    rw [verbatim]
    refine .peekToken_bind blanks (begins_bytes _ tail).solid ?_
  case null => exact .eat_bind _ ((Gives.word _).bind (.pure _))
  case boolean b =>
    cases b with
    | true => exact .eat_bind _ ((Gives.word _).bind (.pure _))
    | false => exact .eat_bind _ ((Gives.word _).bind (.pure _))
  case number numeral =>
    have given := (gives_number numeral ended).returned Value.number
    rw [Spelling.bytes, Numeral.bytes]
    cases negative : numeral.negative with
    | true =>
      rw [negative] at given
      exact .eat_bind _ given
    | false =>
      rw [negative] at given
      obtain ⟨digit, _, -, next⟩ := head_bytes numeral.whole
      have here : (numeral.magnitude ++ tail).head? = some (digitByte digit) := by
        rw [Numeral.magnitude, List.append_assoc]
        exact next _
      -- A numeral without a sign is told by its first digit, which begins nothing else.
      have other : digitByte digit ∉ [0x6E, 0x74, 0x66, 0x2D, 0x22, 0x5B, 0x7B] :=
        (by decide : ∀ d, digitByte d ∉ [0x6E, 0x74, 0x66, 0x2D, 0x22, 0x5B, 0x7B]) digit
      simp only [Bool.false_eq_true, if_false, List.nil_append, here]
      split
      case h_1 none => cases none
      case h_9 same =>
        cases same
        rw [if_pos (isDigit_digitByte digit)]
        exact given
      all_goals
        rename_i same
        rw [Option.some.inj same] at other
        simp at other
  case string pieces => exact .eat_bind _ ((gives_string pieces).returned Value.string)
  case list inner elements ih =>
    -- The brackets take one of the depth, so it is enough for what stands between them.
    simp only [Spelling.depth, Nat.add_lt_add_iff_right] at shallow
    obtain ⟨depth, rfl⟩ : ∃ less, depth = less + 1 := ⟨depth - 1, by omega⟩
    have each : ∀ spaced ∈ elements, GivesFor (verbatim (depth + 1)) Spelling.value? spaced.it :=
      fun spaced member => ih spaced member
        (Nat.lt_succ_of_le (Spelling.elementsDepth_le.mp (Nat.le_of_lt_succ shallow) spaced member))
    rw [Spelling.value?, elementValues?_eq_mapM]
    simp only [Spelling.bytes, List.cons_append, List.head?_cons, enter_succ]
    exact .eat_bind _ (gives_listBody each inner)
  case object inner members ih =>
    simp only [Spelling.depth, Nat.add_lt_add_iff_right] at shallow
    obtain ⟨depth, rfl⟩ : ∃ less, depth = less + 1 := ⟨depth - 1, by omega⟩
    have each : ∀ named ∈ members,
        GivesFor (verbatim (depth + 1)) Spelling.value? named.value.it :=
      fun named member => ih named member
        (Nat.lt_succ_of_le (Spelling.membersDepth_le.mp (Nat.le_of_lt_succ shallow) named member))
    rw [Spelling.value?, memberValues?_eq_mapM]
    simp only [Spelling.bytes, List.cons_append, List.head?_cons, enter_succ]
    exact .eat_bind _ (gives_objectBody each inner)

end ListWatch.Json.Reader
