import ListWatch.Json.Reader

/-!
# What readers read

A reader reads a result and stops at an input, or it faults. What a reader made of others reads is
what they read one after the other; the steps that cannot fault are taken by the simplifier.
-/
namespace ListWatch.Json.Reader

variable {α β : Type} {input rest : Input}

/-- The reader reads a result and stops at an input. -/
def Reads (reader : Reader α) (input : Input) (result : α) (rest : Input) : Prop :=
  reader input = .ok (result, rest)

/-- The input after its blanks. -/
def skipped (input : Input) : Input := skipBlanksFrom input.rest input.position

theorem reads_bind {first : Reader α} {second : α → Reader β} {result : β} :
    Reads (first >>= second) input result rest ↔
      ∃ found between, Reads first input found between ∧
        Reads (second found) between result rest := by
  change (first input >>= fun read => second read.1 read.2) = _ ↔ _
  simp only [Reads]
  cases first input with
  | error fault => simp [bind, Except.bind]
  | ok read =>
    constructor
    · intro continued
      exact ⟨read.1, read.2, rfl, continued⟩
    · rintro ⟨_, _, ⟨⟩, continued⟩
      exact continued

@[simp] theorem reads_pure {value result : α} :
    Reads (pure value) input result rest ↔ value = result ∧ input = rest := by
  change Except.ok (value, input) = Except.ok (result, rest) ↔ _
  simp

@[simp] theorem reads_map {reader : Reader α} {change : α → β} {result : β} :
    Reads (change <$> reader) input result rest ↔
      ∃ found, Reads reader input found rest ∧ change found = result := by
  rw [map_eq_pure_bind, reads_bind]
  constructor
  · rintro ⟨found, _, read, changed⟩
    obtain ⟨same, rfl⟩ := reads_pure.mp changed
    exact ⟨found, read, same⟩
  · rintro ⟨found, read, same⟩
    exact ⟨found, rest, read, reads_pure.mpr ⟨same, rfl⟩⟩

@[simp] theorem reads_discard {reader : Reader α} {result : PUnit} :
    Reads (discard reader) input result rest ↔ ∃ found, Reads reader input found rest := by
  change Reads ((fun _ => PUnit.unit) <$> reader) input result rest ↔ _
  simp

/-! ## Steps that cannot fault -/

section
variable {result : β}

@[simp] theorem reads_get_bind {next : Input → Reader β} :
    Reads (get >>= next) input result rest ↔ Reads (next input) input result rest := Iff.rfl

@[simp] theorem reads_peek_bind {next : Option UInt8 → Reader β} :
    Reads (peek >>= next) input result rest ↔ Reads (next input.rest.head?) input result rest :=
  Iff.rfl

@[simp] theorem reads_eat_bind {next : PUnit → Reader β} :
    Reads (eat >>= next) input result rest ↔ Reads (next ⟨⟩) (Input.eat input) result rest :=
  Iff.rfl

@[simp] theorem reads_peekToken_bind {next : Option UInt8 → Reader β} :
    Reads (peekToken >>= next) input result rest ↔
      Reads (next (skipped input).rest.head?) (skipped input) result rest := Iff.rfl

@[simp] theorem reads_budget_bind {next : Nat → Reader β} :
    Reads (budget >>= next) input result rest ↔
      Reads (next (input.rest.length + 1)) input result rest := Iff.rfl

@[simp] theorem reads_peekDigit_bind {next : Bool → Reader β} :
    Reads (peekDigit >>= next) input result rest ↔
      Reads (next (input.rest.head?.any isDigit)) input result rest := Iff.rfl

@[simp] theorem reads_digits_bind {next : List Nat → Reader β} :
    Reads (digits >>= next) input result rest ↔
      Reads (next (digitsFrom input.rest input.position).1)
        (digitsFrom input.rest input.position).2 result rest := Iff.rfl

end

@[simp] theorem reads_eat {result : PUnit} :
    Reads eat input result rest ↔ Input.eat input = rest := by
  change Except.ok (PUnit.unit, Input.eat input) = Except.ok (result, rest) ↔ _
  simp

@[simp] theorem reads_digits {result : List Nat} :
    Reads digits input result rest ↔ digitsFrom input.rest input.position = (result, rest) := by
  change Except.ok (digitsFrom input.rest input.position) = Except.ok (result, rest) ↔ _
  simp

/-! ## Faults -/

section
variable {fault : Fault} {cause : Cause} {result : α} {next : β → Reader α}

@[simp] theorem not_reads_throw : ¬ Reads (throw fault) input result rest := nofun

@[simp] theorem not_reads_failHere : ¬ Reads (failHere cause) input result rest := nofun

@[simp] theorem not_reads_failNext : ¬ Reads (failNext cause) input result rest := nofun

@[simp] theorem not_reads_failHere_bind : ¬ Reads (failHere cause >>= next) input result rest :=
  nofun

@[simp] theorem not_reads_failNext_bind : ¬ Reads (failNext cause >>= next) input result rest :=
  nofun

end

end ListWatch.Json.Reader
