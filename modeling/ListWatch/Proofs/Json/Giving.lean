import ListWatch.Proofs.Json.Spelling

/-!
# Reading what is spelled

Wherever the bytes of a token stand, a reader of such tokens gives what the token stands for and
stops behind it; where the token stands for nothing, it faults. This is said of one reader after the
other, and carried through the steps they are made of.
-/
namespace ListWatch.Json.Reader

variable {α β : Type} {bytes before after tail : List UInt8} {byte : UInt8}

/-- The reader reads the result and stops at the tail; where there is no result, it faults. -/
def Yields (reader : Reader α) (input : Input) (tail : List UInt8) : Option α → Prop
  | some result => ∃ rest, rest.rest = tail ∧ Reads reader input result rest
  | none => ∀ result rest, ¬ Reads reader input result rest

/-- Wherever the bytes stand with the tail behind them, the reader yields the result. -/
def Gives (reader : Reader α) (bytes tail : List UInt8) (result? : Option α) : Prop :=
  ∀ input, input.rest = bytes ++ tail → Yields reader input tail result?

theorem yields_congr {reader reader' : Reader α} {input input' : Input} {result? : Option α}
    (same : ∀ result rest, Reads reader input result rest ↔ Reads reader' input' result rest) :
    Yields reader input tail result? ↔ Yields reader' input' tail result? := by
  cases result? with
  | none => simp only [Yields, same]
  | some result => simp only [Yields, same]

/-- No blank is next. -/
def Solid (bytes : List UInt8) : Prop := ∀ byte, bytes.head? = some byte → isBlank byte = false

theorem rest_skipped (blanks : Blanks) (solid : Solid bytes) {input : Input}
    (stands : input.rest = blanks.bytes ++ bytes) : (skipped input).rest = bytes := by
  obtain ⟨blanks, blank⟩ := blanks
  obtain ⟨_, position⟩ := input
  cases stands
  induction blanks generalizing position with
  | nil =>
    cases bytes with
    | nil => rfl
    | cons byte bytes => simp [skipped, skipBlanksFrom, solid byte rfl]
  | cons byte blanks ih =>
    obtain ⟨first, others⟩ := List.forall_mem_cons.mp blank
    change (skipBlanksFrom (byte :: (blanks ++ bytes)) position).rest = bytes
    rw [skipBlanksFrom, if_pos first]
    exact ih others _

namespace Gives

variable {first : Reader α} {second : α → Reader β} {found : α} {result? : Option β}

/-! ## Steps -/

theorem pure (value : α) : Gives (pure value) [] tail (some value) :=
  fun input stands => ⟨input, stands, reads_pure.mpr ⟨rfl, rfl⟩⟩

theorem never {reader : Reader α} (faults : ∀ input result rest, ¬ Reads reader input result rest) :
    Gives reader bytes tail none := fun input _ => faults input

theorem failHere {cause : Cause} : Gives (failHere cause : Reader α) bytes tail none :=
  never fun _ _ _ => not_reads_failHere

theorem bind (start : Gives first before (after ++ tail) (some found))
    (next : Gives (second found) after tail result?) :
    Gives (first >>= second) (before ++ after) tail result? := by
  intro input stands
  obtain ⟨between, here, read⟩ := start input (by rw [stands, List.append_assoc])
  specialize next between here
  cases result? with
  | some result =>
    obtain ⟨rest, there, continued⟩ := next
    exact ⟨rest, there, reads_bind.mpr ⟨found, between, read, continued⟩⟩
  | none =>
    intro result rest all
    obtain ⟨other, between', read', continued⟩ := reads_bind.mp all
    cases read.symm.trans read'
    exact next result rest continued

theorem bind_none (start : Gives first before after none) (same : before ++ after = bytes ++ tail) :
    Gives (first >>= second) bytes tail none := by
  intro input stands result rest all
  obtain ⟨found, between, read, -⟩ := reads_bind.mp all
  exact start input (stands.trans same.symm) found between read

/-- One reader after another: nothing is given where the first gives nothing. -/
theorem bind? {found? : Option α} {result : α → Option β}
    (start : Gives first before (after ++ tail) found?)
    (next : ∀ found, found? = some found → Gives (second found) after tail (result found)) :
    Gives (first >>= second) (before ++ after) tail (found?.bind result) := by
  cases found? with
  | some found => exact start.bind (next found rfl)
  | none => exact start.bind_none (List.append_assoc _ _ _).symm

theorem returned {found? : Option α} (change : α → β) (start : Gives first bytes tail found?) :
    Gives (do return change (← first)) bytes tail (found?.map change) := by
  have given : Gives (do return change (← first)) (bytes ++ []) tail
      (found?.bind (some ∘ change)) :=
    bind? start fun found _ => .pure (change found)
  rwa [List.append_nil, ← Option.map_eq_bind] at given

theorem peek_bind {next : Option UInt8 → Reader β}
    (given : Gives (next (bytes ++ tail).head?) bytes tail result?) :
    Gives (peek >>= next) bytes tail result? := by
  intro input stands
  rw [← stands] at given
  exact (yields_congr fun _ _ => reads_peek_bind).mpr (given input stands)

theorem eat_bind (byte : UInt8) {next : PUnit → Reader β}
    (given : Gives (next ⟨⟩) bytes tail result?) :
    Gives (eat >>= next) (byte :: bytes) tail result? := by
  rintro ⟨_, position⟩ rfl
  exact (yields_congr fun _ _ => reads_eat_bind).mpr (given _ rfl)

theorem eat : Gives eat [byte] tail (some ⟨⟩) := by
  rintro ⟨_, position⟩ rfl
  exact ⟨_, rfl, reads_eat.mpr rfl⟩

theorem peekToken_bind {next : Option UInt8 → Reader β} (blanks : Blanks)
    (solid : Solid (bytes ++ tail))
    (given : Gives (next (bytes ++ tail).head?) bytes tail result?) :
    Gives (peekToken >>= next) (blanks.bytes ++ bytes) tail result? := by
  intro input stands
  have here := rest_skipped blanks solid (stands.trans (List.append_assoc _ _ _))
  rw [← here] at given
  exact (yields_congr fun _ _ => reads_peekToken_bind).mpr (given (skipped input) here)

theorem peekToken_bind_nil {next : Option UInt8 → Reader β} (blanks : Blanks) (solid : Solid tail)
    (given : Gives (next tail.head?) [] tail result?) :
    Gives (peekToken >>= next) blanks.bytes tail result? :=
  List.append_nil blanks.bytes ▸ peekToken_bind blanks (by simpa using solid) given

theorem budget_bind {next : Nat → Reader β}
    (given : ∀ fuel, (bytes ++ tail).length < fuel → Gives (next fuel) bytes tail result?) :
    Gives (budget >>= next) bytes tail result? := by
  intro input stands
  have enough : (bytes ++ tail).length < input.rest.length + 1 := by
    rw [stands]
    exact Nat.lt_succ_self _
  exact (yields_congr fun _ _ => reads_budget_bind).mpr (given _ enough input stands)

/-- What is given does not depend on how the bytes are split. -/
theorem congr {reader : Reader β} {bytes' tail' : List UInt8}
    (given : Gives reader bytes tail result?) (tails : tail = tail') (same : bytes = bytes') :
    Gives reader bytes' tail' result? :=
  same ▸ tails ▸ given

theorem word (expected : List UInt8) : Gives (word expected) expected tail (some ()) := by
  induction expected with
  | nil => exact .pure ()
  | cons byte expected ih => exact .peek_bind (.eat_bind _ (by simpa using ih))

theorem peekDigit_bind {next : Bool → Reader β}
    (given : Gives (next ((bytes ++ tail).head?.any isDigit)) bytes tail result?) :
    Gives (peekDigit >>= next) bytes tail result? := by
  intro input stands
  rw [← stands] at given
  exact (yields_congr fun _ _ => reads_peekDigit_bind).mpr (given input stands)

theorem get_bind {next : Input → Reader β}
    (given : ∀ input, Gives (next input) bytes tail result?) :
    Gives (get >>= next) bytes tail result? := by
  intro input stands
  exact (yields_congr fun _ _ => reads_get_bind).mpr (given input input stands)

end Gives

/-! ## Digits -/

theorem isDigit_digitByte : ∀ digit : Fin 10, isDigit (digitByte digit) = true := by decide

theorem toNat_digitByte : ∀ digit : Fin 10, (digitByte digit).toNat - 0x30 = digit := by decide

/-- No digit is next. -/
def NoDigit (bytes : List UInt8) : Prop := ∀ byte, bytes.head? = some byte → isDigit byte = false

theorem digitsFrom_append (run : List (Fin 10)) (ended : NoDigit bytes) (position : Position) :
    (digitsFrom (run.map digitByte ++ bytes) position).1 = run.map Fin.val ∧
      (digitsFrom (run.map digitByte ++ bytes) position).2.rest = bytes := by
  induction run generalizing position with
  | nil =>
    cases bytes with
    | nil => exact ⟨rfl, rfl⟩
    | cons byte bytes => simp [digitsFrom, ended byte rfl]
  | cons digit run ih =>
    obtain ⟨values, rest⟩ := ih (position.after (digitByte digit))
    simp only [List.map_cons, List.cons_append, digitsFrom, isDigit_digitByte, if_true, values,
      rest, toNat_digitByte, and_self]

theorem Gives.digits_bind {next : List Nat → Reader β} {result? : Option β} {digits : Digits}
    (ended : NoDigit (bytes ++ tail)) (given : Gives (next digits.values) bytes tail result?) :
    Gives (Reader.digits >>= next) (digits.bytes ++ bytes) tail result? := by
  rintro ⟨_, position⟩ rfl
  rw [List.append_assoc]
  obtain ⟨values, rest⟩ := digitsFrom_append digits.run ended position
  refine (yields_congr fun _ _ => reads_digits_bind).mpr ?_
  simp only [Digits.bytes, values]
  exact given _ rest

theorem head_bytes (digits : Digits) :
    ∃ digit : Fin 10, ∃ more, digits.run = digit :: more ∧ ∀ tail : List UInt8,
      (digits.bytes ++ tail).head? = some (digitByte digit) := by
  obtain ⟨_ | ⟨digit, more⟩, some⟩ := digits
  · exact absurd rfl some
  · exact ⟨digit, more, rfl, fun _ => rfl⟩

/-! ## Numbers -/

/-- The bytes that carry a number on. -/
def continues (byte : UInt8) : Bool := isDigit byte || byte = 0x2E || isExponentMark byte

/-- No number is carried on. -/
def Ended (bytes : List UInt8) : Prop := ∀ byte, bytes.head? = some byte → continues byte = false

theorem Ended.noDigit (ended : Ended tail) : NoDigit tail := by
  intro byte next
  have stops := ended byte next
  simp only [continues, Bool.or_eq_false_iff] at stops
  exact stops.1.1

theorem gives_exponentSign (sign : Option Bool) (digits : Digits) :
    Gives exponentSign (signBytes sign) (digits.bytes ++ tail)
      (some (decide (sign = some true))) := by
  obtain ⟨digit, _, -, next⟩ := head_bytes digits
  match sign with
  | some true => exact .peek_bind (.eat_bind _ (.pure _))
  | some false => exact .peek_bind (.eat_bind _ (.pure _))
  | none =>
    -- The sign may be left out: the digit behind it is none.
    refine .peek_bind ?_
    rw [signBytes, List.nil_append, next tail]
    split
    next same => exact absurd (Option.some.inj same) ((by decide : ∀ d, digitByte d ≠ 0x2B) digit)
    next same => exact absurd (Option.some.inj same) ((by decide : ∀ d, digitByte d ≠ 0x2D) digit)
    next => exact .pure _

theorem gives_scaled (negative : Bool) (significand : Nat) (power : Int) :
    Gives (scaled negative significand power) [] tail (scaled? negative significand power) := by
  rw [scaled, scaled?]
  cases Decimal.toFloat? significand power with
  | none => exact .failHere
  | some x => exact .pure _

theorem gives_exponent (exponent : Exponent) (ended : Ended tail) (negative : Bool)
    (significand : Nat) (power : Int) :
    Gives (Reader.exponent negative significand power) exponent.bytes tail
      (exponent.number? negative significand power) := by
  rw [Reader.exponent, Exponent.bytes]
  refine .eat_bind _ ((gives_exponentSign _ _).bind (.peek_bind ?_))
  obtain ⟨digit, _, -, next⟩ := head_bytes exponent.digits
  rw [next]
  simp only [isDigit_digitByte, if_true]
  refine .get_bind fun input => ?_
  refine (Gives.digits_bind (by simpa using ended.noDigit) ?_).congr rfl (List.append_nil _)
  rw [Exponent.number?]
  cases Decimal.exponentOverflow? 0 0 exponent.digits.values with
  | some index =>
    by_cases tooLarge : significand ≠ 0 ∧ ¬ exponent.sign = some true
    · simp only [tooLarge, ne_eq, not_false_eq_true, decide_true, decide_false, Bool.not_false,
        Bool.and_self, if_true, and_self]
      exact .never fun _ _ _ => not_reads_throw
    · have small : (decide (significand ≠ 0) && !decide (exponent.sign = some true)) = false := by
        simpa using tooLarge
      simp only [small, Bool.false_eq_true, if_false, tooLarge]
      exact .pure _
  | none =>
    simp only [decide_eq_true_eq]
    exact gives_scaled _ _ _

theorem head_exponentBytes (exponent : Exponent) (tail : List UInt8) :
    ∃ byte, (exponent.bytes ++ tail).head? = some byte ∧ (byte = 0x65 ∨ byte = 0x45) := by
  rw [Exponent.bytes]
  by_cases capital : exponent.capital = true
  · exact ⟨0x45, by simp [capital], Or.inr rfl⟩
  · exact ⟨0x65, by simp [capital], Or.inl rfl⟩

theorem not_isExponentMark (ended : Ended tail) : tail.head?.any isExponentMark = false := by
  cases next : tail.head? with
  | none => rfl
  | some byte =>
    have stops := ended byte next
    simp only [continues, Bool.or_eq_false_iff] at stops
    exact stops.2

/-- What follows the fraction of a number. -/
theorem gives_afterFraction (numeral : Numeral) (ended : Ended tail) (significand : Nat)
    (power : Int) :
    Gives (do
        if (← peek).any isExponentMark then exponent numeral.negative significand power
        else scaled numeral.negative significand power)
      numeral.exponentBytes tail (match numeral.exponent with
        | some exponent => exponent.number? numeral.negative significand power
        | none => scaled? numeral.negative significand power) := by
  rw [Numeral.exponentBytes]
  refine .peek_bind ?_
  cases numeral.exponent with
  | none =>
    simp only [List.nil_append, not_isExponentMark ended, Bool.false_eq_true, if_false]
    exact gives_scaled _ _ _
  | some exponent =>
    obtain ⟨byte, next, marks⟩ := head_exponentBytes exponent tail
    have mark : isExponentMark byte = true := by
      rcases marks with rfl | rfl
      · rfl
      · rfl
    simp only [next, Option.any_some, mark, if_true]
    exact gives_exponent exponent ended _ _ _

theorem noDigit_exponentBytes (numeral : Numeral) (ended : Ended tail) :
    NoDigit (numeral.exponentBytes ++ tail) := by
  rw [Numeral.exponentBytes]
  cases numeral.exponent with
  | none => exact ended.noDigit
  | some exponent =>
    intro byte next
    obtain ⟨mark, here, rfl | rfl⟩ := head_exponentBytes exponent tail
    all_goals
      cases here.symm.trans next
      rfl

theorem noDigit_fractionBytes (numeral : Numeral) (ended : Ended tail) :
    NoDigit (numeral.fractionBytes ++ numeral.exponentBytes ++ tail) := by
  rw [Numeral.fractionBytes]
  cases numeral.fraction with
  | none => exact noDigit_exponentBytes numeral ended
  | some digits =>
    rintro _ ⟨⟩
    rfl

/-- What follows the whole digits of a number. -/
theorem gives_numberTail (numeral : Numeral) (ended : Ended tail) :
    Gives (numberTail numeral.negative (Decimal.gather 0 numeral.whole.values).1
        (Decimal.gather 0 numeral.whole.values).2)
      (numeral.fractionBytes ++ numeral.exponentBytes) tail numeral.number? := by
  rw [numberTail]
  refine .peek_bind ?_
  rw [Numeral.number?, Numeral.gathered, Numeral.fractionBytes]
  cases fraction : numeral.fraction with
  | some digits =>
    have some : digits.values.isEmpty = false := by
      obtain ⟨digit, more, run, -⟩ := head_bytes digits
      simp [Digits.values, run]
    change Gives (Reader.fraction _ _ _) (0x2E :: (digits.bytes ++ numeral.exponentBytes)) tail _
    rw [Reader.fraction]
    refine .eat_bind _ (.digits_bind (noDigit_exponentBytes numeral ended) ?_)
    simp only [some, Bool.false_eq_true, if_false]
    exact gives_afterFraction numeral ended _ _
  | none =>
    rw [List.nil_append, Numeral.exponentBytes]
    cases numeral.exponent with
    | some exponent =>
      have given := gives_exponent exponent ended numeral.negative
        (Decimal.gather 0 numeral.whole.values).1 (Decimal.gather 0 numeral.whole.values).2
      obtain ⟨byte, next, rfl | rfl⟩ := head_exponentBytes exponent tail
      all_goals
        simp only [next]
        exact given
    | none =>
      rw [List.nil_append]
      split
      next next => exact absurd (ended _ next) (by decide)
      next next => exact absurd (ended _ next) (by decide)
      next next => exact absurd (ended _ next) (by decide)
      next =>
        -- Without either it is an integer, as long as no digit was left out for want of room.
        by_cases kept : (Decimal.gather 0 numeral.whole.values).2 = 0
        · simp only [kept, Int.natCast_zero, Option.isNone_none, and_self, if_true]
          exact .pure _
        · simp only [kept, Int.natCast_eq_zero, Option.isNone_none, true_and, if_false]
          exact gives_scaled _ _ _

theorem gives_number (numeral : Numeral) (ended : Ended tail) :
    Gives (number numeral.negative) numeral.magnitude tail numeral.number? := by
  rw [number, Numeral.magnitude]
  refine .peek_bind ?_
  obtain ⟨digit, more, run, next⟩ := head_bytes numeral.whole
  rw [List.append_assoc, next]
  simp only [isDigit_digitByte, if_true]
  have tailed := gives_numberTail numeral ended
  by_cases zero : digit = 0
  · -- A zero in front is the only digit.
    subst zero
    have alone : numeral.whole.run = [0] := numeral.leading (by rw [run]; rfl)
    have values : numeral.whole.values = [0] := by rw [Digits.values, alone]; rfl
    have bytes : numeral.whole.bytes = [0x30] := by rw [Digits.bytes, alone]; rfl
    have stops :
        (numeral.fractionBytes ++ numeral.exponentBytes ++ tail).head?.any isDigit = false := by
      have none := noDigit_fractionBytes numeral ended
      cases next : (numeral.fractionBytes ++ numeral.exponentBytes ++ tail).head? with
      | none => rfl
      | some byte => exact none byte next
    rw [values] at tailed
    rw [bytes, if_pos (by rfl : digitByte 0 = 0x30), List.singleton_append]
    refine .eat_bind _ (.peekDigit_bind ?_)
    simp only [stops, Bool.false_eq_true, if_false, pure_bind]
    exact tailed
  · have other : digitByte digit ≠ 0x30 := (by decide : ∀ d, d ≠ 0 → digitByte d ≠ 0x30) digit zero
    rw [if_neg other]
    exact .digits_bind (noDigit_fractionBytes numeral ended) tailed

/-! ## Strings -/

theorem hexValue?_byte (digit : HexDigit) : hexValue? digit.byte = some digit.value.val := by
  obtain ⟨value, capital⟩ := digit
  revert value capital
  decide

def hexBytes (a b c d : HexDigit) : List UInt8 := [a.byte, b.byte, c.byte, d.byte]

theorem gives_eatAll (bytes : List UInt8) : Gives (eatAll bytes.length) bytes tail (some ()) := by
  induction bytes with
  | nil => exact .pure ()
  | cons byte bytes ih => exact .eat_bind _ ih

theorem gives_codeUnit (a b c d : HexDigit) :
    Gives codeUnit (hexBytes a b c d) tail (some (codeUnitOf a b c d)) := by
  rintro ⟨_, position⟩ rfl
  refine (yields_congr fun _ _ => reads_get_bind).mpr ?_
  -- The four bytes are known, so it is known which of the reader's branches is taken.
  simp only [hexBytes, List.cons_append, hexValue?_byte]
  have taken : Gives (do eatAll 4; pure (codeUnitOf a b c d)) (hexBytes a b c d) tail
      (some (codeUnitOf a b c d)) :=
    (gives_eatAll (hexBytes a b c d)).bind (.pure _)
  exact taken _ rfl

theorem gives_pairByte (expected : UInt8) : Gives (pairByte expected) [expected] tail (some ()) :=
  .peek_bind (.eat_bind _ (by simpa using .pure ()))

theorem gives_pairByte_none {expected : UInt8} (other : (bytes ++ tail).head? ≠ some expected) :
    Gives (pairByte expected) bytes tail none := by
  intro input stands result rest read
  rw [reads_pairByte, stands] at read
  exact other read.1

theorem gives_escapedCodePoint_single {a b c d : HexDigit}
    (trails : isTrailing (codeUnitOf a b c d) = false)
    (leads : isLeading (codeUnitOf a b c d) = false) :
    Gives escapedCodePoint (hexBytes a b c d) tail
      (some (String.utf8EncodeChar (Char.ofNat (codeUnitOf a b c d)))) := by
  refine ((gives_codeUnit a b c d).bind ?_).congr rfl (List.append_nil _)
  simp only [trails, leads, Bool.false_eq_true, if_false]
  exact .pure _

theorem gives_escapedCodePoint_trailing {a b c d : HexDigit}
    (trails : isTrailing (codeUnitOf a b c d) = true) :
    Gives escapedCodePoint (hexBytes a b c d) tail none := by
  refine ((gives_codeUnit a b c d).bind ?_).congr rfl (List.append_nil _)
  simp only [trails, if_true]
  exact .failHere

/-- What comes after a leading code unit. -/
theorem gives_escapedCodePoint_leading {a b c d : HexDigit} {result? : Option (List UInt8)}
    (trails : isTrailing (codeUnitOf a b c d) = false)
    (leads : isLeading (codeUnitOf a b c d) = true)
    (next : Gives (do
        pairByte 0x5C
        pairByte 0x75
        let second ← codeUnit
        if isTrailing second then
          pure (String.utf8EncodeChar (pairedCharacter (codeUnitOf a b c d) second))
        else failHere .loneSurrogate) bytes tail result?) :
    Gives escapedCodePoint (hexBytes a b c d ++ bytes) tail result? := by
  refine (gives_codeUnit a b c d).bind ?_
  simp only [trails, leads, Bool.false_eq_true, if_false, if_true]
  exact next

/-- Two code units are one character when the second is a trailing one. -/
theorem gives_escapedCodePoint_pair {a b c d : HexDigit}
    (trails : isTrailing (codeUnitOf a b c d) = false)
    (leads : isLeading (codeUnitOf a b c d) = true) (a' b' c' d' : HexDigit)
    (tail : List UInt8) :
    Gives escapedCodePoint (hexBytes a b c d ++ (0x5C :: 0x75 :: hexBytes a' b' c' d')) tail
      (if isTrailing (codeUnitOf a' b' c' d') then
        some (String.utf8EncodeChar
          (pairedCharacter (codeUnitOf a b c d) (codeUnitOf a' b' c' d')))
      else none) := by
  refine gives_escapedCodePoint_leading trails leads ?_
  refine (gives_pairByte 0x5C).bind ((gives_pairByte 0x75).bind ?_)
  refine ((gives_codeUnit a' b' c' d').bind ?_).congr rfl (List.append_nil _)
  split
  next => exact .pure _
  next => exact .failHere

theorem length_lt_length_quotedBytes (pieces : List Piece) :
    pieces.length < (quotedBytes pieces).length := by
  induction pieces with
  | nil => exact Nat.zero_lt_one
  | cons piece pieces ih =>
    have some : 0 < piece.bytes.length := by cases piece <;> simp [Piece.bytes]
    rw [quotedBytes, List.length_append] at ih ⊢
    rw [List.flatMap_cons, List.length_append, List.length_cons]
    omega

theorem gives_escape_unit {result? : Option (List UInt8)}
    (given : Gives escapedCodePoint bytes tail result?) :
    Gives escape (0x75 :: bytes) tail result? :=
  .peek_bind (.eat_bind _ (by simpa using given))

theorem gives_escape_short {letter meaning : UInt8} (known : shortEscape? letter = some meaning) :
    Gives escape [letter] tail (some [meaning]) := by
  have other : letter ≠ 0x75 := by
    rintro rfl
    cases known
  exact .peek_bind (.eat_bind _ (by simpa [other, known] using .pure [meaning]))

theorem gives_stringBytes_escape {fuel : Nat} {gathered escaped : List UInt8}
    {result? : Option (List UInt8)} (start : Gives escape before (after ++ tail) (some escaped))
    (next : Gives (stringBytes fuel (escaped.reverse ++ gathered)) after tail result?) :
    Gives (stringBytes (fuel + 1) gathered) (0x5C :: (before ++ after)) tail result? := by
  rw [stringBytes]
  exact .peek_bind (.eat_bind _ (by simpa using start.bind next))

theorem gives_stringBytes_none {fuel : Nat} {gathered : List UInt8}
    (start : Gives escape before after none) (same : before ++ after = bytes ++ tail) :
    Gives (stringBytes (fuel + 1) gathered) (0x5C :: bytes) tail none := by
  rw [stringBytes]
  exact .peek_bind (.eat_bind _ (by simpa using start.bind_none same))

/-- Pieces that do not begin with an escaped code unit do not complete a surrogate pair. -/
theorem gives_pair_none {pieces : List Piece} {next : Nat → Reader β}
    (other : ∀ a b c d rest, pieces = .unit a b c d :: rest → False) :
    Gives (do
        pairByte 0x5C
        pairByte 0x75
        let second ← codeUnit
        next second) (quotedBytes pieces) tail none := by
  have no_backslash {byte : UInt8} {more : List UInt8} (noEscape : byte ≠ 0x5C) :
      Gives (pairByte 0x5C) (byte :: more) tail none :=
    gives_pairByte_none (by simpa using noEscape)
  -- The pair is given up at the first byte that is not the one of an escape.
  match pieces with
  | [] => exact (@no_backslash 0x22 [] (by decide)).bind_none rfl
  | .plain byte stands :: rest =>
    exact (no_backslash stands.2.1).bind_none rfl
  | .short letter meaning known :: rest =>
    have noUnit : letter ≠ 0x75 := by
      rintro rfl
      cases known
    have second : Gives (pairByte 0x75) (letter :: quotedBytes rest) tail none :=
      gives_pairByte_none (by simpa using noUnit)
    exact (gives_pairByte 0x5C).bind (second.bind_none rfl)
  | .unit a b c d :: rest => exact (other a b c d rest rfl).elim

/-- What was unescaped before goes in front. -/
theorem map_gathered (gathered escaped : List UInt8) (rest? : Option (List UInt8)) :
    (rest?.map (escaped ++ ·)).map (gathered.reverse ++ ·) =
      rest?.map ((escaped.reverse ++ gathered).reverse ++ ·) := by
  cases rest? <;> simp

theorem gives_stringBytes (pieces : List Piece) {fuel : Nat} (enough : pieces.length < fuel)
    (gathered : List UInt8) :
    Gives (stringBytes fuel gathered) (quotedBytes pieces) tail
      ((unescaped? pieces).map (gathered.reverse ++ ·)) := by
  obtain ⟨fuel, rfl⟩ : ∃ less, fuel = less + 1 := ⟨fuel - 1, by omega⟩
  -- Pieces are taken as they are unescaped: a surrogate pair is two of them.
  induction pieces using unescaped?.induct generalizing fuel gathered with
  | case1 =>
    rw [stringBytes]
    exact .peek_bind (.eat_bind _ (by simpa [unescaped?] using .pure gathered.reverse))
  | case2 byte stands rest ih =>
    obtain ⟨fuel, rfl⟩ : ∃ less, fuel = less + 1 := ⟨fuel - 1, by simp at enough; omega⟩
    have next := ih (byte :: gathered) fuel (Nat.lt_of_succ_lt_succ enough)
    rw [stringBytes, unescaped?, map_gathered]
    refine .peek_bind (.eat_bind _ ?_)
    simp only [stands, if_false]
    exact next
  | case3 letter meaning known rest ih =>
    obtain ⟨fuel, rfl⟩ : ∃ less, fuel = less + 1 := ⟨fuel - 1, by simp at enough; omega⟩
    have next := ih (meaning :: gathered) fuel (Nat.lt_of_succ_lt_succ enough)
    rw [unescaped?, map_gathered, quotedBytes_cons]
    exact gives_stringBytes_escape (gives_escape_short known) next
  | case4 a b c d rest unit trails =>
    -- A trailing code unit that none leads.
    rw [unescaped?_unit, if_pos trails, quotedBytes_cons]
    exact gives_stringBytes_none (gives_escape_unit (gives_escapedCodePoint_trailing trails)) rfl
  | case5 a b c d unit trails leads a' b' c' d' rest second trailing ih =>
    -- A leading code unit and a trailing one.
    obtain ⟨fuel, rfl⟩ : ∃ less, fuel = less + 1 := ⟨fuel - 1, by simp at enough; omega⟩
    have paired := gives_escapedCodePoint_pair (Bool.eq_false_iff.mpr trails) leads a' b' c' d'
      (quotedBytes rest ++ tail)
    rw [if_pos trailing] at paired
    have next := ih ((String.utf8EncodeChar (pairedCharacter unit second)).reverse ++ gathered) fuel
      (by simp at enough; omega)
    rw [unescaped?_unit, if_neg trails, if_pos leads]
    simp only
    rw [if_pos trailing, map_gathered, quotedBytes_cons, quotedBytes_cons]
    exact (gives_stringBytes_escape (gives_escape_unit paired) next).congr rfl rfl
  | case6 a b c d unit trails leads a' b' c' d' rest second trailing =>
    -- A leading code unit and one that does not trail.
    have lone := gives_escapedCodePoint_pair (Bool.eq_false_iff.mpr trails) leads a' b' c' d'
      (quotedBytes rest ++ tail)
    rw [if_neg trailing] at lone
    rw [unescaped?_unit, if_neg trails, if_pos leads]
    simp only
    rw [if_neg trailing, quotedBytes_cons, quotedBytes_cons]
    exact gives_stringBytes_none (gives_escape_unit lone) rfl
  | case7 a b c d rest unit trails leads other =>
    -- A leading code unit that no escaped one follows.
    have lone : Gives escapedCodePoint (hexBytes a b c d ++ quotedBytes rest) tail none :=
      gives_escapedCodePoint_leading (by simpa using trails) leads (gives_pair_none other)
    rw [unescaped?_unit, if_neg trails, if_pos leads, quotedBytes_cons]
    split
    next a b c d rest => exact (other a b c d rest rfl).elim
    next => exact gives_stringBytes_none (gives_escape_unit lone) rfl
  | case8 a b c d rest unit trails leads ih =>
    -- A code unit that is a character by itself.
    obtain ⟨fuel, rfl⟩ : ∃ less, fuel = less + 1 := ⟨fuel - 1, by simp at enough; omega⟩
    have next := ih ((String.utf8EncodeChar (Char.ofNat unit)).reverse ++ gathered) fuel
      (Nat.lt_of_succ_lt_succ enough)
    have single : Gives escapedCodePoint (hexBytes a b c d) (quotedBytes rest ++ tail)
        (some (String.utf8EncodeChar (Char.ofNat unit))) :=
      gives_escapedCodePoint_single (by simpa using trails) (by simpa using leads)
    rw [unescaped?_unit, if_neg trails, if_neg leads, map_gathered, quotedBytes_cons]
    exact gives_stringBytes_escape (gives_escape_unit single) next

/-- A string is read as its pieces are spelled. -/
theorem gives_string (pieces : List Piece) :
    Gives string (quotedBytes pieces) tail (text? pieces) := by
  rw [string, text?]
  refine .budget_bind fun fuel enough => ?_
  have shorter := length_lt_length_quotedBytes pieces
  rw [List.length_append] at enough
  have bytes :
      Gives (stringBytes fuel []) (quotedBytes pieces) ([] ++ tail) (unescaped? pieces) := by
    simpa using gives_stringBytes pieces (by omega : pieces.length < fuel) []
  refine (bytes.bind? fun found _ => ?_).congr rfl (List.append_nil _)
  cases Utf8.decode? found with
  | some text => exact .pure text
  | none => exact .get_bind fun input => .never fun _ _ _ => not_reads_throw

end ListWatch.Json.Reader
