import Mathlib.Tactic.SplitIfs
import ListWatch.Proofs.Json.Reading

/-!
# Passing over strings and numbers

What is read as a string or a number the skimming twin passes over, and it stops where the other
did: it checks the form alone, so it is the more lenient of the two. Every reader of a token eats
at least one byte, and gives none back.
-/
namespace ListWatch.Json.Reader

variable {input rest between : Input}

/-! ## Bytes eaten -/

theorem length_eat {byte : UInt8} (next : input.rest.head? = some byte) :
    (Input.eat input).rest.length < input.rest.length := by
  obtain ⟨_ | ⟨first, bytes⟩, position⟩ := input
  · cases next
  · exact Nat.lt_succ_self _

theorem length_eat_le (input : Input) : (Input.eat input).rest.length ≤ input.rest.length := by
  obtain ⟨_ | ⟨first, bytes⟩, position⟩ := input
  · exact Nat.le_refl _
  · exact Nat.le_succ _

theorem length_digitsFrom (bytes : List UInt8) (position : Position) :
    (digitsFrom bytes position).2.rest.length ≤ bytes.length := by
  induction bytes generalizing position with
  | nil => exact Nat.le_refl _
  | cons byte bytes ih =>
    rw [digitsFrom]
    split
    · exact Nat.le_succ_of_le (ih _)
    · exact Nat.le_refl _

/-- The reader gives no byte back. -/
def Shrinks {α : Type} (reader : Reader α) : Prop :=
  ∀ input result rest, Reads reader input result rest → rest.rest.length ≤ input.rest.length

namespace Shrinks

variable {α β : Type}

theorem bind {first : Reader α} {second : α → Reader β} (shrinks : Shrinks first)
    (shrink : ∀ found, Shrinks (second found)) : Shrinks (first >>= second) := by
  intro input result rest read
  obtain ⟨found, between, before, after⟩ := reads_bind.mp read
  exact Nat.le_trans (shrink found _ _ _ after) (shrinks _ _ _ before)

theorem pure (value : α) : Shrinks (pure value) := by
  intro input result rest read
  exact (reads_pure.mp read).2 ▸ Nat.le_refl _

theorem failHere (cause : Cause) : Shrinks (failHere cause : Reader α) := nofun

theorem failNext (cause : Cause) : Shrinks (failNext cause : Reader α) := nofun

theorem peek_bind {next : Option UInt8 → Reader β} (shrinks : ∀ found, Shrinks (next found)) :
    Shrinks (peek >>= next) := fun _ _ _ read => shrinks _ _ _ _ (reads_peek_bind.mp read)

theorem peekDigit : Shrinks peekDigit := .peek_bind fun _ => .pure _

theorem eat : Shrinks eat := by
  intro input result rest read
  rw [← reads_eat.mp read]
  exact length_eat_le input

theorem digits : Shrinks digits := by
  intro input result rest read
  have counted := length_digitsFrom input.rest input.position
  rwa [reads_digits.mp read] at counted

theorem discard {reader : Reader α} (shrinks : Shrinks reader) : Shrinks (discard reader) := by
  intro input result rest read
  obtain ⟨found, read⟩ := reads_discard.mp read
  exact shrinks _ _ _ read

theorem word (bytes : List UInt8) : Shrinks (word bytes) := by
  induction bytes with
  | nil => exact .pure _
  | cons byte bytes ih =>
    refine .peek_bind fun found => ?_
    split
    · exact .failHere _
    · refine .bind .eat fun _ => ?_
      split
      · exact ih
      · exact .failHere _

theorem eatAll (count : Nat) : Shrinks (eatAll count) := by
  induction count with
  | zero => exact .pure _
  | succ count ih => exact .bind .eat fun _ => ih

theorem codeUnit : Shrinks codeUnit := by
  intro input result rest read
  rw [Reader.codeUnit, reads_get_bind] at read
  split at read
  · refine ((eatAll 4).bind fun _ => ?_) _ _ _ read
    split
    · exact .pure _
    · exact .failHere _
  · exact ((eatAll _).bind fun _ => .failHere _) _ _ _ read

theorem exponentSign : Shrinks exponentSign := by
  refine .peek_bind fun found => ?_
  split
  · exact .bind .eat fun _ => .pure _
  · exact .bind .eat fun _ => .pure _
  · exact .pure _

theorem skimExponent : Shrinks skimExponent := by
  refine .bind .eat fun _ => .bind (.discard .exponentSign) fun _ => ?_
  refine .bind .peekDigit fun found => .bind .eat fun _ => ?_
  split
  · exact .discard .digits
  · exact .failHere _

theorem skimFraction : Shrinks skimFraction := by
  refine .bind .eat fun _ => .bind .digits fun run => ?_
  split
  · exact .failNext _
  · refine .peek_bind fun found => ?_
    split
    · exact .skimExponent
    · exact .pure _

end Shrinks

/-! ## Strings -/

theorem reads_pairByte {expected : UInt8} {result : PUnit} :
    Reads (pairByte expected) input result rest ↔
      input.rest.head? = some expected ∧ Input.eat input = rest := by
  rw [pairByte, reads_peek_bind]
  cases peeked : input.rest.head? with
  | none => simp
  | some byte => by_cases same : byte = expected <;> simp [same]

/-- However much fuel there is beyond the bytes, the string is passed over. -/
def SkimsString (input rest : Input) : Prop :=
  ∀ fuel, input.rest.length < fuel → Reads (skimStringLoop fuel) input () rest

namespace SkimsString

theorem quote (next : input.rest.head? = some 0x22) : SkimsString input (Input.eat input) := by
  intro fuel enough
  cases fuel with
  | zero => omega
  | succ fuel => simp [skimStringLoop, next]

theorem escape (next : input.rest.head? = some 0x5C)
    (escaped : Reads skimEscape (Input.eat input) () between)
    (shorter : between.rest.length < input.rest.length) (skims : SkimsString between rest) :
    SkimsString input rest := by
  intro fuel enough
  have after : Reads (do skimEscape; skimStringLoop (fuel - 1)) (Input.eat input) () rest :=
    reads_bind.mpr ⟨(), between, escaped, skims _ (by omega)⟩
  cases fuel with
  | zero => omega
  | succ fuel => simpa [skimStringLoop, next] using after

theorem character {byte : UInt8} (next : input.rest.head? = some byte) (noQuote : byte ≠ 0x22)
    (noEscape : byte ≠ 0x5C) (printable : ¬ byte < 0x20)
    (skims : SkimsString (Input.eat input) rest) : SkimsString input rest := by
  intro fuel enough
  have shorter := length_eat next
  cases fuel with
  | zero => omega
  | succ fuel =>
    simp only [skimStringLoop, reads_peek_bind, next, noQuote, noEscape, printable, if_false,
      reads_eat_bind]
    exact skims fuel (by omega)

end SkimsString

theorem reads_skimEscape_unicode {unit : Nat} (letter : input.rest.head? = some 0x75)
    (digits : Reads codeUnit (Input.eat input) unit rest) : Reads skimEscape input () rest := by
  have skimmed : Reads (discard codeUnit) (Input.eat input) () rest :=
    reads_discard.mpr ⟨unit, digits⟩
  simpa [skimEscape, letter] using skimmed

/-- An escape is skimmed as one escape, or as the two halves of a surrogate pair. -/
theorem skimEscape_of_escape {bytes : List UInt8} (read : Reads escape input bytes rest) :
    ∃ between, Reads skimEscape input () between ∧ between.rest.length < input.rest.length ∧
      (between = rest ∨ between.rest.head? = some 0x5C ∧
        Reads skimEscape (Input.eat between) () rest ∧ rest.rest.length < between.rest.length) := by
  rw [Reader.escape, reads_peek_bind] at read
  cases peeked : input.rest.head? with
  | none => simp [peeked] at read
  | some byte =>
    simp only [peeked, reads_eat_bind] at read
    have shorter := length_eat peeked
    by_cases unicode : byte = 0x75
    · -- One code unit, or a leading one and the escape of its trailing one.
      subst unicode
      rw [if_pos rfl, escapedCodePoint, reads_bind] at read
      obtain ⟨unit, between, first, read⟩ := read
      have counted := Shrinks.codeUnit _ _ _ first
      refine ⟨between, reads_skimEscape_unicode peeked first, by omega, ?_⟩
      split_ifs at read with trailing leading
      · exact absurd read not_reads_failHere
      · simp only [reads_bind, reads_pairByte] at read
        obtain ⟨-, _, ⟨backslash, rfl⟩, -, _, ⟨letter, rfl⟩, unit, after, second, read⟩ := read
        have stopped : after = rest := by
          split at read
          · exact (reads_pure.mp read).2
          · exact absurd read not_reads_failHere
        subst stopped
        have eaten := length_eat backslash
        have eaten' := length_eat letter
        have counted' := Shrinks.codeUnit _ _ _ second
        exact Or.inr ⟨backslash, reads_skimEscape_unicode letter second, by omega⟩
      · exact Or.inl (reads_pure.mp read).2
    · rw [if_neg unicode] at read
      cases short : shortEscape? byte with
      | none => simp [short] at read
      | some plain =>
        rw [short] at read
        refine ⟨Input.eat input, ?_, shorter, Or.inl (reads_pure.mp read).2⟩
        simp [skimEscape, peeked, unicode, short]

theorem skimsString_of_stringBytes {fuel : Nat} {gathered bytes : List UInt8}
    (read : Reads (stringBytes fuel gathered) input bytes rest) :
    rest.rest.length < input.rest.length ∧ SkimsString input rest := by
  induction fuel generalizing gathered input with
  | zero => exact absurd read not_reads_failHere
  | succ fuel ih =>
    rw [stringBytes, reads_peek_bind] at read
    cases peeked : input.rest.head? with
    | none => simp [peeked] at read
    | some byte =>
      simp only [peeked, reads_eat_bind] at read
      have shorter := length_eat peeked
      split_ifs at read with quote backslash control
      · obtain ⟨-, rfl⟩ := reads_pure.mp read
        exact ⟨shorter, .quote (quote ▸ peeked)⟩
      · obtain ⟨escaped, after, escape, read⟩ := reads_bind.mp read
        obtain ⟨less, skims⟩ := ih read
        obtain ⟨between, first, fewer, same | ⟨again, second, still⟩⟩ := skimEscape_of_escape escape
        · subst same
          exact ⟨by omega, .escape (backslash ▸ peeked) first (by omega) skims⟩
        · -- The second half of a surrogate pair is another escape to the skimming reader.
          have tail : SkimsString between rest := .escape again second still skims
          exact ⟨by omega, .escape (backslash ▸ peeked) first (by omega) tail⟩
      · exact absurd read not_reads_failHere
      · obtain ⟨less, skims⟩ := ih read
        exact ⟨by omega, .character peeked quote backslash control skims⟩

/-- A string that is read can be passed over. -/
theorem skimString_of_string {text : String} (read : Reads string input text rest) :
    rest.rest.length < input.rest.length ∧ Reads skimString input () rest := by
  rw [string, reads_budget_bind, reads_bind] at read
  obtain ⟨bytes, between, gathered, read⟩ := read
  have stopped : between = rest := by
    split at read
    · exact (reads_pure.mp read).2
    · simp at read
  subst stopped
  obtain ⟨shorter, skims⟩ := skimsString_of_stringBytes gathered
  exact ⟨shorter, skims _ (Nat.lt_succ_self _)⟩

/-! ## Numbers -/

/-- Where a digit is next, the digits end where those after it do. -/
theorem digitsFrom_eat {byte : UInt8} (next : input.rest.head? = some byte)
    (digit : isDigit byte = true) :
    (digitsFrom input.rest input.position).2 =
      (digitsFrom (Input.eat input).rest (Input.eat input).position).2 := by
  obtain ⟨_ | ⟨first, bytes⟩, position⟩ := input
  · cases next
  · cases next
    simp only [digitsFrom, digit, if_true, Input.eat]

theorem Reads.of_scaled {negative : Bool} {significand : Nat} {exponent : Int} {n : Number}
    (read : Reads (scaled negative significand exponent) input n rest) : input = rest := by
  rw [scaled] at read
  split at read
  · exact (reads_pure.mp read).2
  · exact absurd read not_reads_failHere

theorem skimExponent_of_exponent {negative : Bool} {significand : Nat} {starting : Int} {n : Number}
    (read : Reads (exponent negative significand starting) input n rest) :
    Reads skimExponent input () rest := by
  rw [exponent, reads_eat_bind, reads_bind] at read
  obtain ⟨minus, signed, sign, read⟩ := read
  rw [reads_peek_bind] at read
  cases peeked : signed.rest.head? with
  | none => simp [peeked] at read
  | some byte =>
    cases digit : isDigit byte with
    | false => simp [peeked, digit] at read
    | true =>
      simp only [peeked, digit, if_true, reads_get_bind, reads_digits_bind] at read
      have stopped : (digitsFrom signed.rest signed.position).2 = rest := by
        split at read
        · split at read
          · exact absurd read not_reads_throw
          · exact (reads_pure.mp read).2
        · exact read.of_scaled
      rw [digitsFrom_eat peeked digit] at stopped
      have skimmed : Reads (discard digits) (Input.eat signed) () rest :=
        reads_discard.mpr ⟨_, reads_digits.mpr (by rw [← stopped])⟩
      rw [skimExponent, reads_eat_bind, reads_bind]
      exact ⟨(), signed, reads_discard.mpr ⟨minus, sign⟩, by simpa [peeked, digit] using skimmed⟩

theorem skimFraction_of_fraction {negative : Bool} {significand : Nat} {starting : Int} {n : Number}
    (read : Reads (fraction negative significand starting) input n rest) :
    Reads skimFraction input () rest := by
  rw [fraction, reads_eat_bind, reads_digits_bind] at read
  rw [skimFraction, reads_eat_bind, reads_digits_bind]
  generalize digitsFrom (Input.eat input).rest (Input.eat input).position = run at read ⊢
  by_cases none : run.1.isEmpty = true
  · simp only [none, if_true, reads_peek_bind] at read
    split at read <;> exact absurd read not_reads_failNext
  · simp only [none, Bool.false_eq_true, if_false, reads_peek_bind] at read ⊢
    by_cases marked : run.2.rest.head?.any isExponentMark = true
    · simp only [marked, if_true] at read ⊢
      exact skimExponent_of_exponent read
    · simp only [marked, Bool.false_eq_true, if_false] at read ⊢
      exact reads_pure.mpr ⟨rfl, read.of_scaled⟩

/-- What may follow the whole digits of a number. -/
def numberTail (negative : Bool) (significand dropped : Nat) : Reader Number := do
  match ← peek with
  | some 0x2E => fraction negative significand dropped
  | some 0x65 | some 0x45 => exponent negative significand dropped
  | _ =>
    if dropped = 0 then pure (whole negative significand)
    else scaled negative significand dropped

/-- The form of what may follow the whole digits of a number. -/
def skimNumberTail : Reader Unit := do
  match ← peek with
  | some 0x2E => skimFraction
  | some 0x65 | some 0x45 => skimExponent
  | _ => pure ()

theorem Shrinks.skimNumberTail : Shrinks skimNumberTail := by
  refine .peek_bind fun found => ?_
  split
  · exact .skimFraction
  · exact .skimExponent
  · exact .skimExponent
  · exact .pure _

theorem skimNumberTail_of_numberTail {negative : Bool} {significand dropped : Nat} {n : Number}
    (read : Reads (numberTail negative significand dropped) input n rest) :
    Reads skimNumberTail input () rest := by
  rw [numberTail, reads_peek_bind] at read
  rw [skimNumberTail, reads_peek_bind]
  split at read
  next => exact skimFraction_of_fraction read
  next => exact skimExponent_of_exponent read
  next => exact skimExponent_of_exponent read
  next =>
    refine reads_pure.mpr ⟨rfl, ?_⟩
    split at read
    · exact (reads_pure.mp read).2
    · exact read.of_scaled

/-- A number that is read can be passed over. -/
theorem skimNumber_of_number {negative : Bool} {n : Number}
    (read : Reads (number negative) input n rest) :
    rest.rest.length < input.rest.length ∧ Reads skimNumber input () rest := by
  rw [number, reads_peek_bind] at read
  rw [skimNumber, reads_peek_bind]
  cases peeked : input.rest.head? with
  | none => simp [peeked] at read
  | some byte =>
    have shorter := length_eat peeked
    cases digit : isDigit byte with
    | false => simp [peeked, digit] at read
    | true =>
      by_cases zero : byte = 0x30
      · subst zero
        cases more : (Input.eat input).rest.head?.any isDigit with
        | true => simp [peeked, digit, more] at read
        | false =>
          simp only [peeked, digit, more, if_true, Bool.false_eq_true, if_false, pure_bind,
            reads_eat_bind, reads_peekDigit_bind] at read ⊢
          have tail : Reads skimNumberTail (Input.eat input) () rest :=
            skimNumberTail_of_numberTail read
          have left := Shrinks.skimNumberTail _ _ _ tail
          exact ⟨by omega, tail⟩
      · simp only [peeked, digit, zero, if_true, if_false, reads_digits_bind, Option.some.injEq,
          Option.any_some] at read ⊢
        have tail : Reads skimNumberTail (digitsFrom input.rest input.position).2 () rest :=
          skimNumberTail_of_numberTail read
        have left := Shrinks.skimNumberTail _ _ _ tail
        rw [digitsFrom_eat peeked digit] at left
        have counted := length_digitsFrom (Input.eat input).rest (Input.eat input).position
        exact ⟨by omega, reads_bind.mpr ⟨(), _, reads_discard.mpr ⟨_, reads_digits.mpr rfl⟩, tail⟩⟩

end ListWatch.Json.Reader
