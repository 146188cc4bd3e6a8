import ListWatch.Proofs.Json.Merging

/-!
# Values as they stand

A text is transcribed when its objects keep all their members, in their order and with those that
are repeated. The value that is read is what is left of the transcript, and whatever is said of the
texts of names and numbers is said of the transcript.
-/
namespace ListWatch.Json

/-! ## What holds throughout a value -/

/-- A property of all values, from what a list and an object pass on from their parts. -/
theorem Value.parts {motive : Value → Prop} (null : motive .null)
    (boolean : ∀ b, motive (.boolean b)) (number : ∀ n, motive (.number n))
    (string : ∀ text, motive (.string text))
    (list : ∀ values, (∀ value ∈ values, motive value) → motive (.list values))
    (object : ∀ members : Members, (∀ entry ∈ members, motive entry.2) → motive (.object members))
    (value : Value) : motive value := by
  refine @Value.rec motive (fun values => ∀ value ∈ values, motive value)
    (fun members => ∀ entry ∈ members, motive entry.2) (fun entry => motive entry.2)
    null boolean number string list object ?_ ?_ ?_ ?_ ?_ value
  all_goals simp_all

/-- All numbers in a value satisfy the one property, and the names of each object the other. -/
inductive Value.All (P : Number → Prop) (Q : List String → Prop) : Value → Prop where
  | null : All P Q .null
  | boolean (b : Bool) : All P Q (.boolean b)
  | number {n : Number} (satisfies : P n) : All P Q (.number n)
  | string (text : String) : All P Q (.string text)
  | list {values : List Value} (inside : ∀ value ∈ values, All P Q value) : All P Q (.list values)
  | object {members : Members} (names : Q (members.map Prod.fst))
      (inside : ∀ entry ∈ members, All P Q entry.2) : All P Q (.object members)

/-- No object in the value has two members of one name. -/
abbrev Value.NoRepeats : Value → Prop := Value.All (fun _ => True) List.Nodup

/-- Every object in the value holds its members in the order of their names, each name once. -/
abbrev Value.InOrder : Value → Prop := Value.All (fun _ => True) (List.Pairwise (· < ·))

/-- The number is an integer of 64 bits, with a sign or without. -/
def Number.Whole : Number → Prop
  | .integer n => -(UInt64.size / 2 : Int) ≤ n ∧ n < UInt64.size
  | .float _ => False

/-- Every number in the value is an integer of 64 bits. -/
abbrev Value.Whole : Value → Prop := Value.All Number.Whole (fun _ => True)

theorem ordered_iff_names {members : Members} :
    Ordered members ↔ (members.map Prod.fst).Pairwise (· < ·) := List.pairwise_map.symm

theorem Value.All.mono {P P' : Number → Prop} {Q Q' : List String → Prop}
    (numbers : ∀ n, P n → P' n) (names : ∀ list, Q list → Q' list) {value : Value}
    (all : value.All P Q) : value.All P' Q' := by
  induction all with
  | null => exact .null
  | boolean b => exact .boolean b
  | number satisfies => exact .number (numbers _ satisfies)
  | string text => exact .string text
  | list _ ih => exact .list ih
  | object named _ ih => exact .object (names _ named) ih

/-! ## What is left of a value -/

mutual
/-- What is left of a value: of each of its objects, the last member of each name. -/
def Value.merged : Value → Value
  | .list values => .list (Value.mergedElements values)
  | .object members => .object (mergeMembers [] (Value.mergedMembers members))
  | .null => .null
  | .boolean b => .boolean b
  | .number n => .number n
  | .string text => .string text
def Value.mergedElements : List Value → List Value
  | [] => []
  | value :: rest => value.merged :: Value.mergedElements rest
def Value.mergedMembers : List (String × Value) → Members
  | [] => []
  | (key, value) :: rest => (key, value.merged) :: Value.mergedMembers rest
end

theorem Value.mergedElements_eq_map (values : List Value) :
    Value.mergedElements values = values.map Value.merged := by
  induction values with
  | nil => rfl
  | cons value values ih => rw [Value.mergedElements, ih, List.map_cons]

theorem Value.mergedMembers_eq_map (members : Members) :
    Value.mergedMembers members = members.map fun entry => (entry.1, entry.2.merged) := by
  induction members with
  | nil => rfl
  | cons entry members ih => rw [Value.mergedMembers, ih, List.map_cons]

theorem names_mergedMembers (members : Members) :
    (Value.mergedMembers members).map Prod.fst = members.map Prod.fst := by
  rw [Value.mergedMembers_eq_map, List.map_map]
  rfl

theorem exists_of_mem_merged {members : Members} {entry : String × Value}
    (member : entry ∈ mergeMembers [] (Value.mergedMembers members)) :
    ∃ original ∈ members, entry = (original.1, original.2.merged) := by
  rcases mem_of_mem_mergeMembers member with member | member
  · rw [Value.mergedMembers_eq_map] at member
    obtain ⟨original, held, rfl⟩ := List.mem_map.mp member
    exact ⟨original, held, rfl⟩
  · cases member

theorem Value.merged_inOrder (value : Value) : value.merged.InOrder := by
  induction value using Value.parts with
  | null => exact .null
  | boolean b => exact .boolean b
  | number n => exact .number trivial
  | string text => exact .string text
  | list values ih =>
    rw [Value.merged, Value.mergedElements_eq_map]
    refine .list fun value member => ?_
    obtain ⟨original, held, rfl⟩ := List.mem_map.mp member
    exact ih original held
  | object members ih =>
    refine .object (ordered_iff_names.mp (ordered_mergeMembers _)) fun entry member => ?_
    obtain ⟨original, held, rfl⟩ := exists_of_mem_merged member
    exact ih original held

/-- Of a value in order everything is left. -/
theorem Value.InOrder.merged_eq {value : Value} (ordered : value.InOrder) :
    value.merged = value := by
  induction ordered with
  | null | boolean | number | string => simp only [Value.merged]
  | list _ ih =>
    rw [Value.merged, Value.mergedElements_eq_map, List.map_congr_left ih, List.map_id']
  | @object members named _ ih =>
    have same : Value.mergedMembers members = members := by
      rw [Value.mergedMembers_eq_map]
      refine (List.map_congr_left fun entry member => ?_).trans (List.map_id' members)
      rw [ih entry member]
    rw [Value.merged, same, (ordered_iff_names.mpr named).mergeMembers_nil]

/-! ## Depth -/

mutual
/-- How deep brackets are nested in a value. -/
def Value.depth : Value → Nat
  | .list values => Value.elementsDepth values + 1
  | .object members => Value.membersDepth members + 1
  | .null | .boolean _ | .number _ | .string _ => 0
def Value.elementsDepth : List Value → Nat
  | [] => 0
  | value :: rest => max value.depth (Value.elementsDepth rest)
def Value.membersDepth : List (String × Value) → Nat
  | [] => 0
  | (_, value) :: rest => max value.depth (Value.membersDepth rest)
end

theorem Value.elementsDepth_le {values : List Value} {bound : Nat} :
    Value.elementsDepth values ≤ bound ↔ ∀ value ∈ values, value.depth ≤ bound := by
  induction values with
  | nil => simp [Value.elementsDepth]
  | cons value values ih => rw [Value.elementsDepth, Nat.max_le, ih, List.forall_mem_cons]

theorem Value.membersDepth_le {members : Members} {bound : Nat} :
    Value.membersDepth members ≤ bound ↔ ∀ entry ∈ members, entry.2.depth ≤ bound := by
  induction members with
  | nil => simp [Value.membersDepth]
  | cons entry members ih => rw [Value.membersDepth, Nat.max_le, ih, List.forall_mem_cons]

theorem Value.depth_merged_le (value : Value) : value.merged.depth ≤ value.depth := by
  induction value using Value.parts with
  | null | boolean | number | string => simp [Value.merged]
  | list values ih =>
    simp only [Value.merged, Value.depth, Value.mergedElements_eq_map, Nat.add_le_add_iff_right,
      Value.elementsDepth_le, List.forall_mem_map]
    intro value member
    exact Nat.le_trans (ih value member) (Value.elementsDepth_le.mp (Nat.le_refl _) value member)
  | object members ih =>
    simp only [Value.merged, Value.depth, Nat.add_le_add_iff_right, Value.membersDepth_le]
    intro entry member
    obtain ⟨original, held, rfl⟩ := exists_of_mem_merged member
    exact Nat.le_trans (ih original held) (Value.membersDepth_le.mp (Nat.le_refl _) original held)

/-! ## Transcribing -/

namespace Reader

/-- Reads a value as it stands. -/
def verbatim : (depth : Nat) → Reader Value
  | 0 => failNext .tooDeep
  | depth + 1 => do
    match ← peekToken with
    | none => failNext .endInValue
    | some 0x6E => eat; nullTail; pure .null
    | some 0x74 => eat; trueTail; pure (.boolean true)
    | some 0x66 => eat; falseTail; pure (.boolean false)
    | some 0x2D => eat; return .number (← number true)
    | some 0x22 => eat; return .string (← string)
    | some 0x5B =>
      enter depth
      let values ← elements (verbatim depth) (← budget) true
      close tryCloseList
      pure (.list values)
    | some 0x7B =>
      enter depth
      let found ← listMembers (verbatim depth) (← budget) true
      close tryCloseObject
      pure (.object found)
    | some byte =>
      if isDigit byte then return .number (← number false)
      else failNext .expectedValue

theorem elements_map (change : Value → Value) (element : Reader Value) (fuel : Nat) (first : Bool) :
    elements (change <$> element) fuel first = List.map change <$> elements element fuel first := by
  induction fuel generalizing first with
  | zero => rfl
  | succ fuel ih =>
    rw [elements, elements, map_bind]
    congr 1
    funext found
    cases found with
    | false => simp
    | true => simp [ih]

theorem listMembers_map (change : Value → Value) (read : Reader Value) (fuel : Nat) (first : Bool) :
    listMembers (change <$> read) fuel first =
      List.map (fun entry => (entry.1, change entry.2)) <$> listMembers read fuel first := by
  induction fuel generalizing first with
  | zero => rfl
  | succ fuel ih =>
    rw [listMembers, listMembers, map_bind]
    congr 1
    funext found
    cases found with
    | false => simp
    | true => simp [ih]

theorem map_failNext {α β : Type} (change : α → β) (cause : Cause) :
    change <$> failNext cause = failNext cause := rfl

/-- What is read is what is left of the transcript. -/
theorem read_any (depth : Nat) : Schema.read depth .any = Value.merged <$> verbatim depth := by
  induction depth with
  | zero => rfl
  | succ depth ih =>
    rw [Schema.read, verbatim, map_bind]
    congr 1
    funext token
    -- The two readers part at lists and objects alone, where what is inside is merged in turn.
    split
    case h_7 =>
      simp [ih, elements_map, Value.merged, Value.mergedElements_eq_map]
    case h_8 =>
      simp [ih, members_anyMember, listMembers_map, Value.merged, Value.mergedMembers_eq_map]
    case h_9 byte _ _ _ _ _ _ _ =>
      cases digit : isDigit byte <;> simp [*, Value.merged, map_failNext]
    all_goals simp [Value.merged, map_failNext]

variable {input rest : Input}

/-- Each element of a list was read. -/
theorem exists_read_of_mem_elements {element : Reader Value} {fuel : Nat} {first : Bool}
    {values : List Value} (read : Reads (elements element fuel first) input values rest)
    {value : Value} (member : value ∈ values) :
    ∃ before after, Reads element before value after := by
  induction fuel generalizing first input values rest with
  | zero => exact absurd read not_reads_failNext
  | succ fuel ih =>
    obtain ⟨more, next, -, read⟩ := reads_bind.mp read
    cases more with
    | false =>
      obtain ⟨rfl, -⟩ := reads_pure.mp read
      cases member
    | true =>
      obtain ⟨found, after, taken, read⟩ := reads_bind.mp read
      obtain ⟨values, last, remaining, read⟩ := reads_bind.mp read
      obtain ⟨rfl, -⟩ := reads_pure.mp read
      rcases List.mem_cons.mp member with rfl | member
      · exact ⟨next, after, taken⟩
      · exact ih remaining member

/-- The value of each member of an object was read. -/
theorem exists_read_of_mem_listMembers {value : Reader Value} {fuel : Nat} {first : Bool}
    {members : Members} (read : Reads (listMembers value fuel first) input members rest)
    {entry : String × Value} (member : entry ∈ members) :
    ∃ before after, Reads value before entry.2 after := by
  induction fuel generalizing first input members rest with
  | zero => exact absurd read not_reads_failNext
  | succ fuel ih =>
    obtain ⟨more, next, -, read⟩ := reads_bind.mp read
    cases more with
    | false =>
      obtain ⟨rfl, -⟩ := reads_pure.mp read
      cases member
    | true =>
      obtain ⟨key, named, -, read⟩ := reads_bind.mp (reads_eat_bind.mp read)
      obtain ⟨_, parted, -, read⟩ := reads_bind.mp read
      obtain ⟨found, after, taken, read⟩ := reads_bind.mp read
      obtain ⟨members, last, remaining, read⟩ := reads_bind.mp read
      obtain ⟨rfl, -⟩ := reads_pure.mp read
      rcases List.mem_cons.mp member with rfl | member
      · exact ⟨parted, after, taken⟩
      · exact ih remaining member

theorem pos_of_reads_enter {depth : Nat} {result : PUnit}
    (read : Reads (enter depth) input result rest) : 0 < depth := by
  rw [enter] at read
  split at read
  · exact absurd read not_reads_failNext
  · omega

/-- Nothing is read that is deeper than allowed. -/
theorem depth_lt_of_reads_verbatim {depth : Nat} {value : Value}
    (read : Reads (verbatim depth) input value rest) : value.depth < depth := by
  induction depth generalizing input value rest with
  | zero => exact absurd read not_reads_failNext
  | succ depth ih =>
    rw [verbatim, reads_peekToken_bind] at read
    split at read
    case h_1 => exact absurd read not_reads_failNext
    case h_7 =>
      obtain ⟨_, _, entered, read⟩ := reads_bind.mp read
      obtain ⟨values, _, elements, read⟩ := reads_bind.mp (reads_budget_bind.mp read)
      obtain ⟨_, _, -, read⟩ := reads_bind.mp read
      obtain ⟨rfl, -⟩ := reads_pure.mp read
      have bounded : Value.elementsDepth values ≤ depth - 1 := by
        refine Value.elementsDepth_le.mpr fun value member => ?_
        obtain ⟨_, _, taken⟩ := exists_read_of_mem_elements elements member
        exact Nat.le_pred_of_lt (ih taken)
      -- The brackets take one of the depth the list was read at.
      have positive := pos_of_reads_enter entered
      rw [Value.depth]
      omega
    case h_8 =>
      obtain ⟨_, _, entered, read⟩ := reads_bind.mp read
      obtain ⟨members, _, listed, read⟩ := reads_bind.mp (reads_budget_bind.mp read)
      obtain ⟨_, _, -, read⟩ := reads_bind.mp read
      obtain ⟨rfl, -⟩ := reads_pure.mp read
      have bounded : Value.membersDepth members ≤ depth - 1 := by
        refine Value.membersDepth_le.mpr fun entry member => ?_
        obtain ⟨_, _, taken⟩ := exists_read_of_mem_listMembers listed member
        exact Nat.le_pred_of_lt (ih taken)
      have positive := pos_of_reads_enter entered
      rw [Value.depth]
      omega
    case h_9 =>
      split at read
      · obtain ⟨_, _, -, read⟩ := reads_bind.mp read
        obtain ⟨rfl, -⟩ := reads_pure.mp read
        exact Nat.succ_pos depth
      · exact absurd read not_reads_failNext
    all_goals
      -- Whatever else is read has no brackets.
      obtain ⟨_, _, -, read⟩ := reads_bind.mp (reads_eat_bind.mp read)
      obtain ⟨rfl, -⟩ := reads_pure.mp read
      exact Nat.succ_pos depth

end Reader

/-- The transcript of a text that holds one document and nothing else. -/
def transcribe (bytes : List UInt8) : Except Fault Value :=
  Reader.ofDocument (Reader.verbatim depthLimit) bytes

theorem parse_eq_ok_iff {bytes : List UInt8} {value : Value} :
    parse bytes = .ok value ↔ ∃ transcript, transcribe bytes = .ok transcript ∧
      transcript.merged = value := by
  rw [parse, Reader.decode_eq_ofDocument, Reader.ofDocument_eq_ok, Reader.read_any]
  simp only [transcribe, Reader.ofDocument_eq_ok, Reader.reads_map]
  constructor
  · rintro ⟨rest, ⟨transcript, read, left⟩, ended⟩
    exact ⟨transcript, ⟨rest, read, ended⟩, left⟩
  · rintro ⟨transcript, ⟨rest, read, ended⟩, left⟩
    exact ⟨rest, ⟨transcript, read, left⟩, ended⟩

end ListWatch.Json
