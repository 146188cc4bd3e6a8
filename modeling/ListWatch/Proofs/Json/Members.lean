import ListWatch.Proofs.Json.Reading

/-!
# The members of an object as they stand

An object that is read keeps one member of each name, the last. Its members as they stand in the
text, in their order and with the repeated ones, are read in the same way: an object is what is left
of them.
-/
namespace ListWatch.Json

/-- The members over those that are held. -/
def mergeMembers (held members : Members) : Members :=
  members.foldl (fun merged entry => setMember entry.1 entry.2 merged) held

namespace Reader

/-- The members to come, in their order. -/
def listMembers (read : Reader Value) : (fuel : Nat) → (first : Bool) → Reader Members
  | 0, _ => failNext .endInObject
  | fuel + 1, first => do
    if ← nextMember first then
      eat
      let key ← string
      colon
      let value ← read
      let more ← listMembers read fuel false
      pure ((key, value) :: more)
    else pure []

theorem members_anyMember (read : Reader Value) (fuel : Nat) (first : Bool) (held : Members) :
    members (anyMember read) fuel first held =
      mergeMembers held <$> listMembers read fuel first := by
  induction fuel generalizing first held with
  | zero => rfl
  | succ fuel ih =>
    rw [members, listMembers, map_bind]
    congr 1
    funext found
    cases found with
    | false => simp [mergeMembers]
    | true =>
      simp only [if_true, anyMember, ih, map_bind, bind_assoc, bind_pure_comp, bind_map_left,
        Functor.map_map]
      rfl

/-- The members of the object to come, bracket included. -/
def objectMembers (read : Reader Value) : Reader Members := do
  match ← peekToken with
  | some 0x7B =>
    eat
    let found ← listMembers read (← budget) true
    close tryCloseObject
    pure found
  | _ => failNext .expectedValue

variable {input rest : Input}

theorem reads_objectMembers {read : Reader Value} {members : Members} :
    Reads (objectMembers read) input members rest ↔
      (skipped input).rest.head? = some 0x7B ∧
        ∃ closing,
          Reads (listMembers read ((Input.eat (skipped input)).rest.length + 1) true)
            (Input.eat (skipped input)) members closing ∧
          Reads (close tryCloseObject) closing () rest := by
  rw [objectMembers, reads_peekToken_bind]
  split
  next token =>
    rw [reads_eat_bind, reads_budget_bind]
    simp only [reads_bind, reads_pure, token, true_and]
    constructor
    · rintro ⟨_, closing, listed, _, _, closed, rfl, rfl⟩
      exact ⟨closing, listed, closed⟩
    · rintro ⟨closing, listed, closed⟩
      exact ⟨_, closing, listed, _, _, closed, rfl, rfl⟩
  next other => simpa using fun same => absurd same other

/-- A value that is read is an object just when its members are read, and what is left of them. -/
theorem reads_any_object {depth : Nat} {found : Members} :
    Reads (Schema.read (depth + 2) .any) input (.object found) rest ↔
      ∃ members, Reads (objectMembers (Schema.read (depth + 1) .any)) input members rest ∧
        found = mergeMembers [] members := by
  rw [Schema.read, reads_peekToken_bind]
  simp only [reads_objectMembers]
  split
  case h_1 | h_2 | h_3 | h_4 | h_5 | h_6 | h_7 => simp [*, reads_bind]
  case h_8 token =>
    rw [enter, if_neg (Nat.succ_ne_zero depth), reads_eat_bind, reads_budget_bind,
      members_anyMember]
    simp only [reads_bind, reads_map, reads_pure, token, true_and, Value.object.injEq]
    constructor
    · rintro ⟨_, closing, ⟨members, listed, rfl⟩, _, _, closed, rfl, rfl⟩
      exact ⟨members, ⟨closing, listed, closed⟩, rfl⟩
    · rintro ⟨members, ⟨closing, listed, closed⟩, rfl⟩
      exact ⟨_, closing, ⟨members, listed, rfl⟩, _, _, closed, rfl, rfl⟩
  case h_9 object token =>
    have other : (skipped input).rest.head? ≠ some 0x7B := by
      simpa [token] using fun same => object same
    split <;> simp [other]

/-! ## Documents -/

/-- A reader for a text that holds one document and nothing else. -/
def ofDocument {α : Type} (reader : Reader α) (bytes : List UInt8) : Except Fault α :=
  let whole : Reader α := do
    let value ← reader
    match ← peekToken with
    | some _ => failNext .trailingCharacters
    | none => pure value
  (whole.run { rest := bytes }).map Prod.fst

theorem ofDocument_eq_ok {α : Type} {reader : Reader α} {bytes : List UInt8} {result : α} :
    ofDocument reader bytes = .ok result ↔
      ∃ rest, Reads reader { rest := bytes } result rest ∧ (skipped rest).rest.head? = none := by
  have ran (whole : Reader α) : (whole.run { rest := bytes }).map Prod.fst = .ok result ↔
      ∃ final, Reads whole { rest := bytes } result final := by
    change (whole { rest := bytes }).map Prod.fst = _ ↔ _
    simp only [Reads]
    cases whole { rest := bytes } with
    | error fault => simp [Except.map]
    | ok read => simp [Except.map, Prod.ext_iff]
  rw [ofDocument, ran]
  constructor
  · rintro ⟨final, all⟩
    obtain ⟨value, rest, read, ended⟩ := reads_bind.mp all
    rw [reads_peekToken_bind] at ended
    split at ended
    · exact absurd ended not_reads_failNext
    next blank =>
      obtain ⟨rfl, -⟩ := reads_pure.mp ended
      exact ⟨rest, read, blank⟩
  · rintro ⟨rest, read, blank⟩
    refine ⟨skipped rest, reads_bind.mpr ⟨result, rest, read, ?_⟩⟩
    rw [reads_peekToken_bind, blank]
    exact reads_pure.mpr ⟨rfl, rfl⟩

theorem decode_eq_ofDocument (schema : Schema) (bytes : List UInt8) :
    schema.decode bytes = ofDocument (schema.read depthLimit) bytes := rfl

end Reader

/-- The members of a document that is an object, as they stand. -/
def documentMembers (bytes : List UInt8) : Except Fault Members :=
  Reader.ofDocument (Reader.objectMembers (Schema.read (depthLimit - 1) .any)) bytes

/-- A document is an object just when it has members, and it is what is left of them. -/
theorem parse_eq_ok_object_iff {bytes : List UInt8} {found : Members} :
    parse bytes = .ok (.object found) ↔
      ∃ members, documentMembers bytes = .ok members ∧ found = mergeMembers [] members := by
  rw [parse, Reader.decode_eq_ofDocument, Reader.ofDocument_eq_ok]
  simp only [documentMembers, Reader.ofDocument_eq_ok]
  constructor
  · rintro ⟨rest, read, ended⟩
    obtain ⟨members, listed, same⟩ := Reader.reads_any_object.mp read
    exact ⟨members, ⟨rest, listed, ended⟩, same⟩
  · rintro ⟨members, ⟨rest, listed, ended⟩, same⟩
    exact ⟨rest, Reader.reads_any_object.mpr ⟨members, listed, same⟩, ended⟩

/-- The first of two members of one name is read, and then lost. -/
example :
    let text := Utf8.ofString "\x7b\"a\": true, \"a\": null\x7d"
    (documentMembers text).toOption = some [("a", .boolean true), ("a", .null)] ∧
      (parse text).toOption = some (.object [("a", .null)]) := by
  decide +kernel

end ListWatch.Json
