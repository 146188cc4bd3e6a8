import ListWatch.Json.Render
import ListWatch.Proofs.Json.Spelled
import ListWatch.Proofs.Text.Utf8

/-!
# What is written can be read

The text that is written for a value is one of its spellings, with no blanks, as long as its numbers
are integers of 64 bits. So it is read back as it was, member by member.
-/
namespace ListWatch.Json

/-! ## Strings -/

/-- The pieces stand for the bytes, whatever pieces follow. -/
def StandFor (pieces : List Piece) (bytes : List UInt8) : Prop :=
  ∀ rest, unescaped? (pieces ++ rest) = (unescaped? rest).map (bytes ++ ·)

theorem StandFor.nil : StandFor [] [] := by
  intro rest
  cases found : unescaped? rest <;> simp [found]

theorem StandFor.append {first second : List Piece} {bytes bytes' : List UInt8}
    (stand : StandFor first bytes) (stand' : StandFor second bytes') :
    StandFor (first ++ second) (bytes ++ bytes') := by
  intro rest
  rw [List.append_assoc, stand, stand']
  cases unescaped? rest <;> simp

theorem standFor_short {letter meaning : UInt8}
    (known : Reader.shortEscape? letter = some meaning) :
    StandFor [.short letter meaning known] [meaning] := fun _ => rfl

/-- Bytes that stand for themselves. -/
theorem exists_plain {bytes : List UInt8}
    (stand : ∀ byte ∈ bytes, byte ≠ 0x22 ∧ byte ≠ 0x5C ∧ ¬ byte < 0x20) :
    ∃ pieces : List Piece, pieces.flatMap Piece.bytes = bytes ∧ StandFor pieces bytes := by
  induction bytes with
  | nil => exact ⟨[], rfl, .nil⟩
  | cons byte bytes ih =>
    obtain ⟨first, others⟩ := List.forall_mem_cons.mp stand
    obtain ⟨pieces, same, stands⟩ := ih others
    refine ⟨.plain byte first :: pieces, by rw [List.flatMap_cons, same]; rfl, fun rest => ?_⟩
    rw [List.cons_append, unescaped?, stands]
    cases unescaped? rest <;> rfl

/-- Only characters below 128 are written with bytes below 128. -/
theorem toNat_of_mem_encodeChar {c : Char} {byte : UInt8}
    (member : byte ∈ String.utf8EncodeChar c) : byte.toNat = c.toNat ∨ 0x80 ≤ byte.toNat := by
  have tail {n least : Nat} (small : n < 0x80) (high : 0x80 ≤ least) (low : least + n < 256) :
      0x80 ≤ (UInt8.ofNat (n + least)).toNat := by
    rw [UInt8.toNat_ofNat', Nat.mod_eq_of_lt (by omega)]
    omega
  unfold String.utf8EncodeChar at member
  simp only at member
  split at member
  next one =>
    rw [List.mem_singleton.mp member, UInt8.toNat_ofNat', Nat.mod_eq_of_lt (by omega)]
    exact Or.inl rfl
  next =>
    right
    split at member
    · rcases List.mem_cons.mp member with rfl | member
      · exact tail (by omega) (by omega) (by omega)
      · rw [List.mem_singleton.mp member]
        exact tail (by omega) (by omega) (by omega)
    · split at member
      all_goals
        simp only [List.mem_cons, List.not_mem_nil, or_false] at member
      · rcases member with rfl | rfl | rfl
        all_goals exact tail (by omega) (by omega) (by omega)
      · rcases member with rfl | rfl | rfl | rfl
        all_goals exact tail (by omega) (by omega) (by omega)

theorem plain_of_mem_encodeChar {c : Char} (noQuote : c ≠ '"') (noEscape : c ≠ '\\')
    (printable : ¬ c.toNat < 0x20) :
    ∀ byte ∈ String.utf8EncodeChar c, byte ≠ 0x22 ∧ byte ≠ 0x5C ∧ ¬ byte < 0x20 := by
  intro byte member
  have quote : c.toNat ≠ 0x22 := fun same => noQuote (Char.toNat_inj.mp same)
  have escape : c.toNat ≠ 0x5C := fun same => noEscape (Char.toNat_inj.mp same)
  have value := toNat_of_mem_encodeChar member
  refine ⟨?_, ?_, ?_⟩
  · rintro rfl
    have byte : (0x22 : UInt8).toNat = 0x22 := rfl
    omega
  · rintro rfl
    have byte : (0x5C : UInt8).toNat = 0x5C := rfl
    omega
  · rw [UInt8.lt_iff_toNat_lt]
    have bound : (0x20 : UInt8).toNat = 0x20 := rfl
    omega

/-- The code unit of a control character. -/
def controlPiece (n : Fin 0x20) : Piece :=
  .unit ⟨0, false⟩ ⟨0, false⟩ ⟨⟨n / 16, by omega⟩, false⟩ ⟨⟨n % 16, by omega⟩, false⟩

theorem bytes_controlPiece : ∀ n : Fin 0x20, (controlPiece n).bytes =
    Utf8.encode ['\\', 'u', '0', '0', hexDigit (n.val / 16), hexDigit n.val] := by
  decide

theorem standFor_controlPiece (n : Fin 0x20) :
    StandFor [controlPiece n] (String.utf8EncodeChar (Char.ofNat n)) := by
  intro rest
  have unit : codeUnitOf ⟨0, false⟩ ⟨0, false⟩ ⟨⟨n / 16, by omega⟩, false⟩
      ⟨⟨n % 16, by omega⟩, false⟩ = n := by
    simp only [codeUnitOf, Fin.val_zero]
    omega
  have trails : Reader.isTrailing n = false := by
    simp only [Reader.isTrailing, Bool.and_eq_false_iff, decide_eq_false_iff_not]
    omega
  have leads : Reader.isLeading n = false := by
    simp only [Reader.isLeading, Bool.and_eq_false_iff, decide_eq_false_iff_not]
    omega
  rw [List.singleton_append, controlPiece, unescaped?_unit, unit, trails, leads]
  simp only [Bool.false_eq_true, if_false]

theorem exists_pieces_of_char (c : Char) :
    ∃ pieces : List Piece, pieces.flatMap Piece.bytes = Utf8.encode (escaped c) ∧
      StandFor pieces (String.utf8EncodeChar c) := by
  have short (letter : UInt8) {meaning : UInt8} (known : Reader.shortEscape? letter = some meaning)
      (written : Utf8.encode (escaped c) = [0x5C, letter])
      (same : String.utf8EncodeChar c = [meaning]) :
      ∃ pieces : List Piece, pieces.flatMap Piece.bytes = Utf8.encode (escaped c) ∧
        StandFor pieces (String.utf8EncodeChar c) :=
    ⟨[.short letter meaning known], written.symm, same ▸ standFor_short known⟩
  have is {n : Nat} (same : c.toNat = n) : c = Char.ofNat n := by rw [← same, Char.ofNat_toNat]
  -- The cases are those of the definition of what is escaped.
  by_cases quote : c = '"'
  · subst quote
    exact short 0x22 rfl (by decide) (by decide)
  by_cases backslash : c = '\\'
  · subst backslash
    exact short 0x5C rfl (by decide) (by decide)
  by_cases backspace : c.toNat = 0x08
  · obtain rfl := is backspace
    exact short 0x62 rfl (by decide) (by decide)
  by_cases formFeed : c.toNat = 0x0C
  · obtain rfl := is formFeed
    exact short 0x66 rfl (by decide) (by decide)
  by_cases lineFeed : c = '\n'
  · subst lineFeed
    exact short 0x6E rfl (by decide) (by decide)
  by_cases carriage : c = '\r'
  · subst carriage
    exact short 0x72 rfl (by decide) (by decide)
  by_cases tab : c = '\t'
  · subst tab
    exact short 0x74 rfl (by decide) (by decide)
  rw [escaped, if_neg quote, if_neg backslash, if_neg backspace, if_neg formFeed, if_neg lineFeed,
    if_neg carriage, if_neg tab]
  split
  next control =>
    have stands := standFor_controlPiece ⟨c.toNat, control⟩
    rw [Char.ofNat_toNat] at stands
    refine ⟨[controlPiece ⟨c.toNat, control⟩], ?_, stands⟩
    rw [List.flatMap_singleton, bytes_controlPiece]
  next printable =>
    obtain ⟨pieces, same, stands⟩ :=
      exists_plain (plain_of_mem_encodeChar quote backslash printable)
    exact ⟨pieces, by rw [same, Utf8.encode, List.flatMap_singleton], stands⟩

/-- A string is written in pieces that stand for it. -/
theorem exists_pieces (text : String) :
    ∃ pieces, 0x22 :: quotedBytes pieces = Utf8.encode (stringText text) ∧
      text? pieces = some text := by
  have some : ∃ pieces : List Piece,
      pieces.flatMap Piece.bytes = Utf8.encode (text.toList.flatMap escaped) ∧
        StandFor pieces (Utf8.encode text.toList) := by
    induction text.toList with
    | nil => exact ⟨[], rfl, .nil⟩
    | cons c characters ih =>
      obtain ⟨first, same, stand⟩ := exists_pieces_of_char c
      obtain ⟨pieces, same', stand'⟩ := ih
      refine ⟨first ++ pieces, ?_, ?_⟩
      · rw [List.flatMap_append, same, same', List.flatMap_cons, Utf8.encode_append]
      · exact stand.append stand'
  obtain ⟨pieces, same, stand⟩ := some
  refine ⟨pieces, ?_, ?_⟩
  · have quote : String.utf8EncodeChar '"' = [0x22] := by decide
    rw [quotedBytes, same, stringText, List.cons_append, Utf8.encode_cons, Utf8.encode_append,
      Utf8.encode_cons, quote]
    rfl
  · have bytes := stand []
    rw [List.append_nil, unescaped?, Option.map_some, List.append_nil] at bytes
    rw [text?, bytes, Option.bind_some, Utf8.decode?_encode, String.ofList_toList]

/-! ## Numbers -/

theorem encode_digitChar :
    ∀ digit : Fin 10, Utf8.encode [Nat.digitChar digit] = [digitByte digit] := by
  decide

/-- Nothing is dropped of digits that fit a word. -/
theorem gather_of_le (run : List Nat) (start : Nat)
    (small : run.foldl (fun value digit => value * 10 + digit) start ≤ Decimal.largestWord) :
    Decimal.gather start run = (run.foldl (fun value digit => value * 10 + digit) start, 0) := by
  have grows (run : List Nat) (start : Nat) :
      start ≤ run.foldl (fun value digit => value * 10 + digit) start := by
    induction run generalizing start with
    | nil => exact Nat.le_refl _
    | cons digit run ih =>
      have more := ih (start * 10 + digit)
      rw [List.foldl_cons]
      omega
  induction run generalizing start with
  | nil => rfl
  | cons digit run ih =>
    rw [List.foldl_cons] at small ⊢
    have fits := grows run (start * 10 + digit)
    rw [Decimal.gather, if_pos (by omega), ih _ small]

/-- The digits that are written for a number. -/
theorem exists_digits (n : Nat) :
    ∃ digits : Digits, digits.bytes = Utf8.encode (decimalDigits n) ∧
      Decimal.ofDigits digits.values = n ∧ (digits.run.head? = some 0 → digits.run = [0]) := by
  induction n using Nat.strongRecOn with
  | ind n ih =>
    by_cases single : n < 10
    · refine ⟨⟨[⟨n, single⟩], by simp⟩, ?_, ?_, ?_⟩
      · rw [decimalDigits, Nat.toDigits_of_lt_base single]
        exact (encode_digitChar ⟨n, single⟩).symm
      · simp [Digits.values, Decimal.ofDigits]
      · intro zero
        simpa using zero
    · obtain ⟨⟨run, some⟩, bytes, value, leading⟩ := ih (n / 10) (by omega)
      refine ⟨⟨run ++ [⟨n % 10, by omega⟩], by simp⟩, ?_, ?_, ?_⟩
      · rw [decimalDigits, Nat.toDigits_of_base_le (by omega) (by omega), Utf8.encode_append]
        rw [decimalDigits] at bytes
        rw [← bytes]
        have last : Utf8.encode [Nat.digitChar (n % 10)] = [digitByte ⟨n % 10, by omega⟩] :=
          encode_digitChar ⟨n % 10, by omega⟩
        rw [last, Digits.bytes, Digits.bytes, List.map_append]
        rfl
      · simp only [Digits.values, Decimal.ofDigits] at value ⊢
        rw [List.map_append, List.foldl_append, value]
        simp
        omega
      · intro zero
        cases run with
        | nil => exact absurd rfl some
        | cons first more =>
          -- A zero in front would have been the only digit of a number that is not zero.
          have alone : first :: more = [0] := leading (by simpa using zero)
          change Decimal.ofDigits ((first :: more).map Fin.val) = n / 10 at value
          rw [alone] at value
          have none : n / 10 = 0 := value.symm
          omega

theorem whole_natAbs {n : Int} (whole : (Number.integer n).Whole) :
    Reader.whole (decide (n < 0)) n.natAbs = .integer n := by
  obtain ⟨low, high⟩ := whole
  have word : UInt64.size = 18446744073709551616 := rfl
  rw [Reader.whole]
  by_cases negative : n < 0
  · rw [decide_eq_true negative, Bool.not_true, if_neg Bool.false_ne_true, if_neg]
    · congr 1
      omega
    · simp only [Bool.or_eq_true, decide_eq_true_eq]
      omega
  · rw [decide_eq_false negative, Bool.not_false, if_pos rfl]
    congr 1
    omega

theorem exists_numeral {n : Number} (whole : n.Whole) :
    ∃ numeral : Numeral, numeral.bytes = Utf8.encode n.text ∧ numeral.number? = some n := by
  cases n with
  | float x => exact whole.elim
  | integer n =>
    obtain ⟨digits, bytes, value, leading⟩ := exists_digits n.natAbs
    refine ⟨⟨decide (n < 0), digits, leading, none, none⟩, ?_, ?_⟩
    · have minus : String.utf8EncodeChar '-' = [0x2D] := by decide
      rw [Numeral.bytes, Numeral.magnitude, Numeral.fractionBytes, Numeral.exponentBytes, bytes,
        Number.text, integerText]
      by_cases negative : n < 0
      · rw [if_pos (decide_eq_true negative), if_pos negative, Utf8.encode_cons, minus]
        simp
      · rw [if_neg (by simpa using negative), if_neg negative]
        simp
    · -- The digits fit a word, so none of them was left out.
      have small : Decimal.ofDigits digits.values ≤ Decimal.largestWord := by
        obtain ⟨low, high⟩ := whole
        have word : UInt64.size = 18446744073709551616 := rfl
        rw [value, Decimal.largestWord]
        omega
      have gathered : Decimal.gather 0 digits.values = (Decimal.ofDigits digits.values, 0) :=
        gather_of_le digits.values 0 small
      rw [value] at gathered
      simp only [Numeral.number?, Numeral.gathered, gathered, Option.isNone_none, Int.natCast_zero,
        and_self, if_true, whole_natAbs whole]

/-! ## Values -/

/-- The spelling is what is written for the value. -/
def Writes (spelling : Spelling) (value : Value) : Prop :=
  spelling.bytes = value.bytes ∧ spelling.value? = some value ∧ spelling.depth = value.depth

theorem exists_elements {values : List Value}
    (each : ∀ value ∈ values, ∃ spelling, Writes spelling value) :
    ∃ elements, Spelling.elementBytes false elements ++ [0x5D] =
        Utf8.encode (Value.elementCharacters values) ∧
      Spelling.elementValues? elements = some values ∧
      Spelling.elementsDepth elements = Value.elementsDepth values := by
  induction values with
  | nil => exact ⟨[], by decide, rfl, rfl⟩
  | cons value values ih =>
    obtain ⟨first, others⟩ := List.forall_mem_cons.mp each
    obtain ⟨spelling, bytes, stands, depth⟩ := first
    obtain ⟨elements, bytes', stands', depth'⟩ := ih others
    have comma : String.utf8EncodeChar ',' = [0x2C] := by decide
    refine ⟨⟨.empty, spelling, .empty⟩ :: elements, ?_, ?_, ?_⟩
    · rw [Value.elementCharacters, Utf8.encode_cons, Utf8.encode_append, ← bytes', comma]
      simp [Spelling.elementBytes, Blanks.empty, bytes, Value.bytes]
    · simp [Spelling.elementValues?, stands, stands']
    · rw [Spelling.elementsDepth, depth, depth', Value.elementsDepth]

theorem exists_members {members : Members}
    (each : ∀ entry ∈ members, ∃ spelling, Writes spelling entry.2) :
    ∃ named, Spelling.memberBytes false named ++ [0x7D] =
        Utf8.encode (Value.memberCharacters members) ∧
      Spelling.memberValues? named = some members ∧
      Spelling.membersDepth named = Value.membersDepth members := by
  induction members with
  | nil => exact ⟨[], by decide, rfl, rfl⟩
  | cons entry members ih =>
    obtain ⟨key, value⟩ := entry
    obtain ⟨first, others⟩ := List.forall_mem_cons.mp each
    obtain ⟨spelling, bytes, stands, depth⟩ := first
    obtain ⟨named, bytes', stands', depth'⟩ := ih others
    obtain ⟨pieces, written, text⟩ := exists_pieces key
    have comma : String.utf8EncodeChar ',' = [0x2C] := by decide
    have colon : String.utf8EncodeChar ':' = [0x3A] := by decide
    refine ⟨⟨.empty, pieces, .empty, ⟨.empty, spelling, .empty⟩⟩ :: named, ?_, ?_, ?_⟩
    · rw [Value.memberCharacters, Utf8.encode_cons, Utf8.encode_append, Utf8.encode_cons,
        Utf8.encode_append, ← bytes', ← written, comma, colon]
      simp [Spelling.memberBytes, Blanks.empty, bytes, Value.bytes]
    · simp [Spelling.memberValues?, text, stands, stands']
    · rw [Spelling.membersDepth, depth, depth', Value.membersDepth]

/-- What is written for a value is a spelling of it. -/
theorem exists_spelling {value : Value} (whole : value.Whole) :
    ∃ spelling, Writes spelling value := by
  induction whole with
  | null => exact ⟨.null, by decide, rfl, rfl⟩
  | boolean b =>
    cases b with
    | true => exact ⟨.boolean true, by decide, rfl, rfl⟩
    | false => exact ⟨.boolean false, by decide, rfl, rfl⟩
  | number whole =>
    obtain ⟨numeral, bytes, stands⟩ := exists_numeral whole
    refine ⟨.number numeral, ?_, ?_, rfl⟩
    · rw [Spelling.bytes, bytes, Value.bytes, Value.characters]
    · rw [Spelling.value?, stands, Option.map_some]
  | string text =>
    obtain ⟨pieces, written, stands⟩ := exists_pieces text
    refine ⟨.string pieces, ?_, ?_, rfl⟩
    · rw [Spelling.bytes, written, Value.bytes, Value.characters]
    · rw [Spelling.value?, stands, Option.map_some]
  | @list values _ ih =>
    have bracket : String.utf8EncodeChar '[' = [0x5B] := by decide
    -- The first element of a list stands without a comma, so it is spelled apart from the others.
    cases values with
    | nil => exact ⟨.list .empty [], by decide, rfl, rfl⟩
    | cons value values =>
      obtain ⟨first, others⟩ := List.forall_mem_cons.mp ih
      obtain ⟨spelling, bytes, stands, depth⟩ := first
      obtain ⟨elements, bytes', stands', depth'⟩ := exists_elements others
      refine ⟨.list .empty (⟨.empty, spelling, .empty⟩ :: elements), ?_, ?_, ?_⟩
      · rw [Value.bytes, Value.characters, Utf8.encode_cons, Utf8.encode_append, ← bytes', bracket]
        simp [Spelling.bytes, Spelling.elementBytes, Blanks.empty, bytes, Value.bytes]
      · simp [Spelling.value?, Spelling.elementValues?, stands, stands']
      · rw [Spelling.depth, Spelling.elementsDepth, depth, depth', Value.depth, Value.elementsDepth]
  | @object members _ _ ih =>
    have bracket : String.utf8EncodeChar '\x7b' = [0x7B] := by decide
    have colon : String.utf8EncodeChar ':' = [0x3A] := by decide
    cases members with
    | nil => exact ⟨.object .empty [], by decide, rfl, rfl⟩
    | cons entry members =>
      obtain ⟨key, value⟩ := entry
      obtain ⟨first, others⟩ := List.forall_mem_cons.mp ih
      obtain ⟨spelling, bytes, stands, depth⟩ := first
      obtain ⟨named, bytes', stands', depth'⟩ := exists_members others
      obtain ⟨pieces, written, text⟩ := exists_pieces key
      refine ⟨.object .empty (⟨.empty, pieces, .empty, ⟨.empty, spelling, .empty⟩⟩ :: named),
        ?_, ?_, ?_⟩
      · rw [Value.bytes, Value.characters, Utf8.encode_cons, Utf8.encode_append, Utf8.encode_cons,
          Utf8.encode_append, ← bytes', ← written, bracket, colon]
        simp [Spelling.bytes, Spelling.memberBytes, Blanks.empty, bytes, Value.bytes]
      · simp [Spelling.value?, Spelling.memberValues?, text, stands, stands']
      · rw [Spelling.depth, Spelling.membersDepth, depth, depth', Value.depth, Value.membersDepth]

end ListWatch.Json
