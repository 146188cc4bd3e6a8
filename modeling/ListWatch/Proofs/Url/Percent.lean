import ListWatch.Proofs.Text.Utf8
import ListWatch.Text.Parts
import ListWatch.Url.Basic

/-!
# Encoded parts read back

A part of a URL whose set of bytes holds the percent sign and everything outside ASCII is read
back as the text it was written from, and so is a form-encoded query of pairs. Neither can be
taken for more than it is: no byte of the set stands in the part, and no separator of pairs in a
name or a value.
-/
namespace ListWatch

/-! ## Parts of a text -/

namespace Text

variable {separator : Char} {part : List Char}

theorem splitAt_of_not_mem (whole : separator ∉ part) : splitAt separator part = [part] := by
  induction part with
  | nil => rfl
  | cons c part ih =>
    obtain ⟨other, rest⟩ : separator ≠ c ∧ separator ∉ part := by simpa using whole
    rw [splitAt, if_neg (Ne.symm other), ih rest]

theorem splitAt_ne_nil (text : List Char) : splitAt separator text ≠ [] := by
  cases text with
  | nil => simp [splitAt]
  | cons c rest =>
    rw [splitAt]
    split
    · simp
    · split <;> simp

/-- What stands on the two sides of a separator is split on its own. -/
theorem splitAt_append_cons (text rest : List Char) :
    splitAt separator (text ++ separator :: rest) =
      splitAt separator text ++ splitAt separator rest := by
  induction text with
  | nil => simp [splitAt]
  | cons c text ih =>
    rw [List.cons_append, splitAt, splitAt, ih]
    split
    · rfl
    · cases parts : splitAt separator text with
      | nil => exact absurd parts (splitAt_ne_nil text)
      | cons first others => rfl

theorem splitAt_append (whole : separator ∉ part) (rest : List Char) :
    splitAt separator (part ++ separator :: rest) = part :: splitAt separator rest := by
  rw [splitAt_append_cons, splitAt_of_not_mem whole]
  rfl

/-- Between separators alone there are empty parts. -/
theorem eq_nil_of_mem_splitAt {text : List Char} (all : ∀ c ∈ text, c = separator) :
    ∀ part ∈ splitAt separator text, part = [] := by
  induction text with
  | nil => simp [splitAt]
  | cons c text ih =>
    obtain ⟨rfl, rest⟩ := List.forall_mem_cons.mp all
    rw [splitAt, if_pos rfl]
    exact List.forall_mem_cons.mpr ⟨rfl, ih rest⟩

end Text

namespace Percent

/-! ## Bytes -/

theorem hexValue?_hexDigit (n : Nat) : hexValue? (hexDigit n) = some (n % 16) :=
  (by decide : ∀ n : Fin 16, hexValue? (Nat.digitChar n).toUpper = some n.val)
    ⟨n % 16, Nat.mod_lt _ (by decide)⟩

theorem decode_encodeByte (byte : UInt8) (rest : List Char) :
    decode (encodeByte byte ++ rest) = byte :: decode rest := by
  have digits : byte.toNat / 16 % 16 * 16 + byte.toNat % 16 = byte.toNat := by
    have := byte.toNat_lt
    omega
  simp only [encodeByte, List.cons_append, List.nil_append, decode, hexValue?_hexDigit, digits,
    UInt8.ofNat_toNat]

theorem decode_cons_of_ne {c : Char} (other : c ≠ '%') (rest : List Char) :
    decode (c :: rest) = String.utf8EncodeChar c ++ decode rest := by
  rw [decode]
  rintro high low further same
  exact absurd same other

/-- A byte of ASCII is what its character is written as. -/
theorem utf8EncodeChar_ofNat {byte : UInt8} (ascii : byte < 0x80) :
    String.utf8EncodeChar (Char.ofNat byte.toNat) = [byte] := by
  have small : byte.toNat < 0x80 := ascii
  have same := (by decide : ∀ n : Fin 0x80,
    String.utf8EncodeChar (Char.ofNat n) = [UInt8.ofNat n]) ⟨byte.toNat, small⟩
  rw [same, UInt8.ofNat_toNat]

/-! ## Sets whose parts are read back -/

/-- The set holds the percent sign and every byte outside ASCII. -/
structure Escapes (set : ByteSet) : Prop where
  percent : set 0x25 = true
  wide : ∀ byte, 0x80 ≤ byte → set byte = true

theorem escapes_inSegment : Escapes inSegment := by
  refine ⟨by decide, fun byte wide => ?_⟩
  have control : control byte = true := by
    have : (0x7F : UInt8) ≤ byte := UInt8.le_trans (by decide) wide
    simp [control, this]
  simp [inSegment, inPath, inFragment, having, control]

theorem escapes_inSpecialSegment : Escapes inSpecialSegment := by
  refine ⟨by decide, fun byte wide => ?_⟩
  simp [inSpecialSegment, having, escapes_inSegment.wide byte wide]

variable {set : ByteSet}

theorem Escapes.decode_encodeWith (escapes : Escapes set) (byte : UInt8) (rest : List Char) :
    decode (encodeWith set byte ++ rest) = byte :: decode rest := by
  cases held : set byte with
  | true =>
    rw [encodeWith, if_pos held]
    exact decode_encodeByte byte rest
  | false =>
    have ascii : byte < 0x80 := by
      refine UInt8.not_le.mp fun wide => ?_
      rw [escapes.wide byte wide] at held
      cases held
    have other : Char.ofNat byte.toNat ≠ '%' := by
      intro same
      have bytes := utf8EncodeChar_ofNat ascii
      rw [same] at bytes
      cases bytes
      exact Bool.false_ne_true (held.symm.trans escapes.percent)
    rw [encodeWith, held]
    simp only [Bool.false_eq_true, if_false, List.cons_append, List.nil_append]
    rw [decode_cons_of_ne other, utf8EncodeChar_ofNat ascii]
    rfl

theorem Escapes.decode_encode (escapes : Escapes set) (text : List Char) :
    decode (encode set text).toList = Utf8.encode text := by
  rw [encode, String.toList_ofList]
  induction Utf8.encode text with
  | nil => rfl
  | cons byte bytes ih => rw [List.flatMap_cons, escapes.decode_encodeWith, ih]

/-- An encoded part is read back as the text it was written from. -/
theorem Escapes.text?_encode (escapes : Escapes set) (text : List Char) :
    text? (encode set text) = some (String.ofList text) := by
  rw [text?, escapes.decode_encode, Utf8.decode?_encode]

/-- Different texts have different encoded parts. -/
theorem Escapes.encode_injective (escapes : Escapes set) {first second : List Char}
    (same : encode set first = encode set second) : first = second := by
  have read := escapes.text?_encode first
  rw [same, escapes.text?_encode second] at read
  exact (String.ofList_injective (Option.some.inj read)).symm

/-- No character of the set stands in an encoded part. -/
theorem not_mem_encode {c : Char}
    (held : ∀ byte : UInt8, Char.ofNat byte.toNat = c → set byte = true)
    (percent : c ≠ '%') (digit : ∀ n, hexDigit n ≠ c) (text : List Char) :
    c ∉ (encode set text).toList := by
  rw [encode, String.toList_ofList]
  intro member
  obtain ⟨byte, -, within⟩ := List.mem_flatMap.mp member
  unfold encodeWith at within
  split at within
  · simp only [encodeByte, List.mem_cons, List.not_mem_nil, or_false] at within
    rcases within with same | same | same
    · exact percent same
    · exact digit _ same.symm
    · exact digit _ same.symm
  next free => exact free (held byte (List.mem_singleton.mp within).symm)

/-! ## Forms -/

def plusToBlank (c : Char) : Char := if c = '+' then ' ' else c

/-- The text of a form-encoded name or value. -/
def formText? (part : List Char) : Option String := Utf8.decode? (decode (part.map plusToBlank))

/-- A name and a value, on the two sides of the first equals sign. -/
def formPair? (part : List Char) : Option (String × String) := do
  let name ← formText? (part.takeWhile (· ≠ '='))
  let value ← formText? ((part.dropWhile (· ≠ '=')).drop 1)
  return (name, value)

/-- The pairs that a query is the form of. -/
def formPairs? (query : String) : Option (List (String × String)) :=
  ((Text.splitAt '&' query.toList).filter (· ≠ [])).mapM formPair?

/-- What may stand in a form-encoded name or value. -/
def IsFormChar (c : Char) : Prop := c ≠ '&' ∧ c ≠ '='

private theorem plain_char {byte : UInt8} (plain : isFormPlain byte = true) :
    byte < 0x80 ∧ Char.ofNat byte.toNat ∉ ['%', '+', '&', '='] := by
  have each := (by decide +kernel : ∀ n : Fin 256, isFormPlain (UInt8.ofNat n) = true →
    n.val < 0x80 ∧ Char.ofNat n ∉ ['%', '+', '&', '=']) ⟨byte.toNat, byte.toNat_lt⟩
  rw [UInt8.ofNat_toNat] at each
  exact each plain

private theorem digit_char (n : Nat) : hexDigit n ∉ ['%', '+', '&', '='] :=
  (by decide : ∀ n : Fin 16, (Nat.digitChar n).toUpper ∉ ['%', '+', '&', '='])
    ⟨n % 16, Nat.mod_lt _ (by decide)⟩

private theorem plusToBlank_of_ne {c : Char} (other : c ≠ '+') : plusToBlank c = c := if_neg other

private theorem decode_formByte (byte : UInt8) (rest : List Char) :
    decode ((formByte byte).map plusToBlank ++ rest) = byte :: decode rest := by
  unfold formByte
  split
  next plain =>
    obtain ⟨ascii, other⟩ := plain_char plain
    simp only [List.mem_cons, not_or] at other
    simp only [List.map_cons, List.map_nil, List.cons_append, List.nil_append]
    rw [plusToBlank_of_ne other.2.1, decode_cons_of_ne other.1, utf8EncodeChar_ofNat ascii]
    rfl
  next =>
    split
    next blank =>
      subst blank
      rfl
    next =>
      have digit (n : Nat) : plusToBlank (hexDigit n) = hexDigit n :=
        plusToBlank_of_ne fun same => digit_char n (by simp [same])
      have kept : (encodeByte byte).map plusToBlank = encodeByte byte := by
        simp only [encodeByte, List.map_cons, List.map_nil, digit]
        rfl
      rw [kept, decode_encodeByte]

private theorem isFormChar_of_mem_formByte {byte : UInt8} {c : Char} (member : c ∈ formByte byte) :
    IsFormChar c := by
  have isFormChar (other : c ∉ ['%', '+', '&', '=']) : IsFormChar c := by
    simp only [List.mem_cons, not_or] at other
    exact ⟨other.2.2.1, other.2.2.2.1⟩
  unfold formByte at member
  split at member
  next plain =>
    cases List.mem_singleton.mp member
    exact isFormChar (plain_char plain).2
  next =>
    split at member
    · cases List.mem_singleton.mp member
      exact ⟨by decide, by decide⟩
    · simp only [encodeByte, List.mem_cons, List.not_mem_nil, or_false] at member
      rcases member with rfl | rfl | rfl
      · exact ⟨by decide, by decide⟩
      · exact isFormChar (digit_char _)
      · exact isFormChar (digit_char _)

/-- Neither separator of pairs stands in a form-encoded text. -/
theorem isFormChar_formEncode {text : String} : ∀ c ∈ (formEncode text).toList, IsFormChar c := by
  intro c member
  rw [formEncode, String.toList_ofList] at member
  obtain ⟨byte, -, within⟩ := List.mem_flatMap.mp member
  exact isFormChar_of_mem_formByte within

theorem formText?_formEncode (text : String) : formText? (formEncode text).toList = some text := by
  have bytes (bytes : List UInt8) : decode ((bytes.flatMap formByte).map plusToBlank) = bytes := by
    induction bytes with
    | nil => rfl
    | cons byte bytes ih => rw [List.flatMap_cons, List.map_append, decode_formByte, ih]
  rw [formText?, formEncode, String.toList_ofList, bytes, Utf8.ofString, Utf8.decode?_encode,
    String.ofList_toList]

/-- A pair as it stands in a query. -/
def formPair (pair : String × String) : String := formEncode pair.1 ++ "=" ++ formEncode pair.2

theorem formPair?_formPair (pair : String × String) :
    formPair? (formPair pair).toList = some pair := by
  have name : ∀ c ∈ (formEncode pair.1).toList, decide (c ≠ '=') = true :=
    fun c member => decide_eq_true (isFormChar_formEncode c member).2
  have written : (formPair pair).toList =
      (formEncode pair.1).toList ++ '=' :: (formEncode pair.2).toList := by
    simp [formPair, String.toList_append]
  rw [formPair?, written, List.takeWhile_append_of_pos name, List.dropWhile_append_of_pos name]
  simp [formText?_formEncode]

/-- No pair is taken for two. -/
theorem not_mem_formPair (pair : String × String) : '&' ∉ (formPair pair).toList := by
  intro member
  simp only [formPair, String.toList_append, List.mem_append] at member
  rcases member with (name | sign) | value
  · exact (isFormChar_formEncode _ name).1 rfl
  · exact absurd sign (by decide)
  · exact (isFormChar_formEncode _ value).1 rfl

/-- A query is split into its pairs. -/
theorem splitAt_intercalate {pairs : List (String × String)} (nonempty : pairs ≠ []) :
    Text.splitAt '&' ("&".intercalate (pairs.map formPair)).toList =
      pairs.map fun pair => (formPair pair).toList := by
  induction pairs with
  | nil => exact absurd rfl nonempty
  | cons pair pairs ih =>
    cases pairs with
    | nil =>
      rw [List.map_singleton, String.intercalate_singleton,
        Text.splitAt_of_not_mem (not_mem_formPair pair), List.map_singleton]
    | cons next pairs =>
      have joined : ("&".intercalate ((pair :: next :: pairs).map formPair)).toList =
          (formPair pair).toList ++
            '&' :: ("&".intercalate ((next :: pairs).map formPair)).toList := by
        rw [List.map_cons, List.map_cons, String.intercalate_cons_cons, String.toList_append,
          String.toList_append, List.append_assoc]
        rfl
      rw [joined, Text.splitAt_append (not_mem_formPair pair), ih (List.cons_ne_nil _ _)]
      rfl

/-- The query of some pairs is the form of these pairs. -/
theorem formPairs?_intercalate {pairs : List (String × String)} (nonempty : pairs ≠ []) :
    formPairs? ("&".intercalate (pairs.map formPair)) = some pairs := by
  have signed (part : List Char) (member : part ∈ pairs.map fun pair => (formPair pair).toList) :
      decide (part ≠ []) = true := by
    obtain ⟨pair, -, rfl⟩ := List.mem_map.mp member
    simp [formPair, String.toList_append]
  have read (pairs : List (String × String)) :
      pairs.mapM (formPair? ∘ fun pair => (formPair pair).toList) = some pairs := by
    induction pairs with
    | nil => rfl
    | cons pair pairs ih =>
      rw [List.mapM_cons, ih, Function.comp_apply, formPair?_formPair]
      rfl
  rw [formPairs?, splitAt_intercalate nonempty, List.filter_eq_self.mpr signed, List.mapM_map, read]

end Percent

end ListWatch
