import ListWatch.Text.Utf8

/-!
# UTF-8 read back

Every text is read back from the bytes it is written as. The bytes of a character after the
first give six bits each, and the range that the first byte sets for the second one leaves out
no character.
-/
namespace ListWatch.Utf8

/-! ## First bytes -/

private theorem lead_one {n : Nat} (small : n < 0x80) :
    lead (UInt8.ofNat n) = .character (Char.ofNat n) :=
  (by decide : ∀ n : Fin 0x80, lead (UInt8.ofNat n) = .character (Char.ofNat n)) ⟨n, small⟩

private theorem lead_two {n : Nat} (long : 2 ≤ n) (small : n < 32) :
    lead (UInt8.ofNat (n + 0xC0)) = .begun ⟨n, 1, 0x80, 0xBF⟩ :=
  (by decide : ∀ n : Fin 32, 2 ≤ n.val →
    lead (UInt8.ofNat (n + 0xC0)) = .begun ⟨n, 1, 0x80, 0xBF⟩) ⟨n, small⟩ long

private theorem lead_three {n : Nat} (small : n < 16) :
    lead (UInt8.ofNat (n + 0xE0)) =
      .begun ⟨n, 2, if n = 0 then 0xA0 else 0x80, if n = 13 then 0x9F else 0xBF⟩ :=
  (by decide : ∀ n : Fin 16, lead (UInt8.ofNat (n + 0xE0)) =
    .begun ⟨n, 2, if n.val = 0 then 0xA0 else 0x80, if n.val = 13 then 0x9F else 0xBF⟩) ⟨n, small⟩

private theorem lead_four {n : Nat} (small : n < 5) :
    lead (UInt8.ofNat (n + 0xF0)) =
      .begun ⟨n, 3, if n = 0 then 0x90 else 0x80, if n = 4 then 0x8F else 0xBF⟩ :=
  (by decide : ∀ n : Fin 5, lead (UInt8.ofNat (n + 0xF0)) =
    .begun ⟨n, 3, if n.val = 0 then 0x90 else 0x80, if n.val = 4 then 0x8F else 0xBF⟩) ⟨n, small⟩

/-! ## Later bytes -/

private theorem tail_of_between {n : Nat} {least greatest : UInt8} (small : n < 64)
    (above : least.toNat ≤ n + 0x80) (below : n + 0x80 ≤ greatest.toNat) (bits owed : Nat) :
    Begun.tail ⟨bits, owed, least, greatest⟩ (UInt8.ofNat (n + 0x80)) =
      if owed ≤ 1 then .character (Char.ofNat (bits * 64 + n))
      else .begun ⟨bits * 64 + n, owed - 1, 0x80, 0xBF⟩ := by
  have byte : (UInt8.ofNat (n + 0x80)).toNat = n + 0x80 := by
    rw [UInt8.toNat_ofNat', Nat.mod_eq_of_lt (by omega)]
  have low : (n + 0x80) % 64 = n := by omega
  simp only [Begun.tail, UInt8.le_iff_toNat_le, byte, low, above, below, decide_true,
    Bool.and_self, if_true]

private theorem charactersFrom_lead {byte : UInt8} {state : Begun}
    (begun : lead byte = .begun state) (rest : List UInt8) :
    charactersFrom none (byte :: rest) = charactersFrom (some state) rest := by
  simp only [charactersFrom, begun]

private theorem charactersFrom_tail {bits owed n : Nat} {least greatest : UInt8}
    (small : n < 64) (above : least.toNat ≤ n + 0x80) (below : n + 0x80 ≤ greatest.toNat)
    (rest : List UInt8) :
    charactersFrom (some ⟨bits, owed + 2, least, greatest⟩) (UInt8.ofNat (n + 0x80) :: rest) =
      charactersFrom (some ⟨bits * 64 + n, owed + 1, 0x80, 0xBF⟩) rest := by
  simp only [charactersFrom, tail_of_between small above below, if_neg (by omega : ¬ owed + 2 ≤ 1),
    Nat.add_one_sub_one]

private theorem charactersFrom_last {bits n : Nat} {least greatest : UInt8} (small : n < 64)
    (above : least.toNat ≤ n + 0x80) (below : n + 0x80 ≤ greatest.toNat) (rest : List UInt8) :
    charactersFrom (some ⟨bits, 1, least, greatest⟩) (UInt8.ofNat (n + 0x80) :: rest) =
      (charactersFrom none rest).map (Char.ofNat (bits * 64 + n) :: ·) := by
  simp only [charactersFrom, tail_of_between small above below, Nat.le_refl, if_true]

/-! ## Characters and texts -/

/-- A character is read back from its bytes, whatever follows them. -/
theorem charactersFrom_encodeChar (c : Char) (rest : List UInt8) :
    charactersFrom none (String.utf8EncodeChar c ++ rest) =
      (charactersFrom none rest).map (c :: ·) := by
  have valid : c.val.toNat < 0xD800 ∨ 0xDFFF < c.val.toNat ∧ c.val.toNat < 0x110000 := c.valid
  have whole : Char.ofNat c.val.toNat = c := c.ofNat_toNat
  have inside (n : Nat) : n % 64 < 64 := Nat.mod_lt _ (by decide)
  unfold String.utf8EncodeChar
  generalize c.val.toNat = v at valid whole
  -- One case for each number of bytes; the bits of all of them together are the character.
  by_cases one : v ≤ 0x7F
  · simp only [one, if_true, List.cons_append, List.nil_append, charactersFrom,
      lead_one (Nat.lt_succ_of_le one), whole]
  by_cases two : v ≤ 0x7FF
  · have bits : v / 64 * 64 + v % 64 = v := by omega
    simp only [one, two, if_true, if_false, List.cons_append, List.nil_append]
    rw [Nat.mod_eq_of_lt (by omega : v / 64 < 32),
      charactersFrom_lead (lead_two (by omega) (by omega)),
      charactersFrom_last (inside v) (by simp) (by simp; omega), bits, whole]
  by_cases three : v ≤ 0xFFFF
  · have bits : (v / 4096 * 64 + v / 64 % 64) * 64 + v % 64 = v := by omega
    simp only [one, two, three, if_true, if_false, List.cons_append, List.nil_append]
    rw [Nat.mod_eq_of_lt (by omega : v / 4096 < 16), charactersFrom_lead (lead_three (by omega)),
      charactersFrom_tail (inside _) (by split <;> simp; omega) (by split <;> simp <;> omega),
      charactersFrom_last (inside v) (by simp) (by simp; omega), bits, whole]
  · have bits : ((v / 262144 * 64 + v / 4096 % 64) * 64 + v / 64 % 64) * 64 + v % 64 = v := by omega
    simp only [one, two, three, if_false, List.cons_append, List.nil_append]
    rw [Nat.mod_eq_of_lt (by omega : v / 262144 < 8), charactersFrom_lead (lead_four (by omega)),
      charactersFrom_tail (inside _) (by split <;> simp; omega) (by split <;> simp <;> omega),
      charactersFrom_tail (inside _) (by simp) (by simp; omega),
      charactersFrom_last (inside v) (by simp) (by simp; omega), bits, whole]

theorem encode_cons (c : Char) (text : List Char) :
    encode (c :: text) = String.utf8EncodeChar c ++ encode text := List.flatMap_cons

theorem charactersFrom_encode (text : List Char) :
    charactersFrom none (encode text) = some text := by
  induction text with
  | nil => rfl
  | cons c text ih =>
    have bytes : encode (c :: text) = String.utf8EncodeChar c ++ encode text := List.flatMap_cons
    rw [bytes, charactersFrom_encodeChar, ih]
    rfl

/-- Every text is read back from its bytes. -/
theorem decode?_encode (text : List Char) : decode? (encode text) = some (String.ofList text) := by
  rw [decode?, charactersFrom_encode]
  rfl

end ListWatch.Utf8
