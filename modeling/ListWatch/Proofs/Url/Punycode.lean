import Mathlib.Data.List.Basic
import Mathlib.Data.List.TakeDrop
import Mathlib.Data.List.TakeWhile
import Mathlib.Tactic.Ring
import ListWatch.Url.Punycode

/-!
# Written labels read back

A text that is short enough for its numbers to fit a word is what its Punycode is read as. A number
is read back digit by digit, since no weight on the way outgrows a word, and each number puts its
character where the text has it among the characters of no later code point.
-/
namespace ListWatch.Punycode

/-! ## Digits -/

theorem digit?_digit {value : Nat} (small : value < 36) : digit? (digit value) = some value :=
  (by decide : ∀ value : Fin 36, digit? (digit value) = some value.val) ⟨value, small⟩

theorem digit_ne_hyphen {value : Nat} (small : value < 36) : digit value ≠ '-' :=
  (by decide : ∀ value : Fin 36, digit value ≠ '-') ⟨value, small⟩

theorem threshold_le (bias place : Nat) : threshold bias place ≤ 26 := by
  unfold threshold
  omega

theorem threshold_of_far {bias place : Nat} (far : bias + 26 ≤ place) :
    threshold bias place = 26 := by
  unfold threshold
  omega

theorem mem_writeNumber {c : Char} {bias place number : Nat}
    (member : c ∈ writeNumber bias place number) : ∃ value < 36, c = digit value := by
  fun_induction writeNumber bias place number with
  | case1 place number limit below =>
    have := threshold_le bias place
    exact ⟨number, by omega, by simpa using member⟩
  | case2 place number limit _ ih =>
    have := threshold_le bias place
    obtain rfl | later := List.mem_cons.mp member
    · have := Nat.mod_lt (number - limit) (show 0 < 36 - limit by omega)
      exact ⟨_, by omega, rfl⟩
    · exact ih later

theorem mem_writeAll {c : Char} {pairs : List (Nat × Nat)} {state : Insertion}
    (member : c ∈ writeAll state pairs) : ∃ value < 36, c = digit value := by
  induction pairs generalizing state with
  | nil => simp [writeAll] at member
  | cons pair rest ih =>
    obtain here | later := List.mem_append.mp member
    · exact mem_writeNumber here
    · cases next : state.insert? (state.numberTo pair.1 pair.2) with
      | none => simp [next] at later
      | some after => exact ih (by simpa [next] using later)

/-! ## Numbers -/

/-- The greatest bias after a number that fits a word. -/
def greatestBias : Nat := 213

theorem scaledBias_le (times : Nat) {number : Nat} (bound : number < 456 * 35 ^ times) :
    scaledBias number ≤ 36 * times + 33 := by
  induction times generalizing number with
  | zero =>
    have small : number ≤ 455 := by omega
    rw [scaledBias, if_neg (by omega)]
    exact Nat.le_of_lt_succ ((Nat.div_lt_iff_lt_mul (by omega)).mpr (by omega))
  | succ times ih =>
    have fewer : number / 35 < 456 * 35 ^ times := by
      rw [Nat.div_lt_iff_lt_mul (by omega)]
      omega
    have := ih fewer
    rw [scaledBias]
    split
    · omega
    · have : 36 * number / (number + 38) < 34 :=
        (Nat.div_lt_iff_lt_mul (by omega)).mpr (by omega)
      omega

theorem nextBias_le {number length : Nat} (isFirst : Bool) (fits : number < UInt32.size) :
    nextBias number length isFirst ≤ greatestBias := by
  have halved : (if isFirst then number / 700 else number / 2) ≤ number / 2 := by
    split <;> omega
  have shared : ∀ damped ≤ number / 2, damped + damped / length < 456 * 35 ^ 5 := by
    intro damped bound
    have := Nat.div_le_self damped length
    simp only [UInt32.size] at fits
    omega
  exact scaledBias_le 5 (shared _ halved)

/-- The weight of a further digit fits a word. Up to the seventh digit it is at most a power of 35;
after that the threshold is 26, and the number outweighs the rest of the base. -/
theorem next_weight_lt {bias places weight number : Nat} (usual : bias ≤ greatestBias)
    (light : weight ≤ 35 ^ places) (fits : weight * number < UInt32.size)
    (goesOn : threshold bias (36 * (places + 1)) ≤ number) :
    weight * (36 - threshold bias (36 * (places + 1))) < UInt32.size := by
  obtain few | many : places ≤ 5 ∨ 6 ≤ places := by omega
  · have positive := threshold_pos bias (36 * (places + 1))
    calc weight * (36 - threshold bias (36 * (places + 1)))
        ≤ 35 ^ 5 * 35 :=
          Nat.mul_le_mul (Nat.le_trans light (Nat.pow_le_pow_right (by decide) few)) (by omega)
      _ < UInt32.size := by decide
  · have far : threshold bias (36 * (places + 1)) = 26 :=
      threshold_of_far (by simp only [greatestBias] at usual; omega)
    rw [far] at goesOn ⊢
    exact Nat.lt_of_le_of_lt (Nat.mul_le_mul_left weight (by omega)) fits

/-- The digits of a number are read as the number. -/
theorem insertAll_writeNumber {state : Insertion} (usual : state.bias ≤ greatestBias)
    (rest : List Char) (places : Nat) {weight number : Nat} (gathered : Nat)
    (light : weight ≤ 35 ^ places) (fits : weight * number < UInt32.size) :
    insertAll state (36 * (places + 1)) weight gathered
        (writeNumber state.bias (36 * (places + 1)) number ++ rest) =
      (state.insert? (gathered + number * weight)).bind (insertAll · 36 1 0 rest) := by
  -- Each digit takes its part of the number away, so the recursion of the number is the induction;
  -- what the digits before it came to is general.
  induction number using Nat.strongRecOn generalizing places weight gathered with
  | ind number ih =>
    have positive := threshold_pos state.bias (36 * (places + 1))
    have small := threshold_le state.bias (36 * (places + 1))
    have word := next_weight_lt usual light fits
    rw [writeNumber]
    generalize bound : threshold state.bias (36 * (places + 1)) = limit at *
    split
    case isTrue below =>
      simp [insertAll, digit?_digit (show number < 36 by omega), bound, below, Option.bind_eq_bind]
    case isFalse goesOn =>
      have remains := Nat.mod_lt (number - limit) (show 0 < 36 - limit by omega)
      have whole := Nat.mod_add_div (number - limit) (36 - limit)
      have shrinks := Nat.div_le_self (number - limit) (36 - limit)
      generalize (number - limit) % (36 - limit) = extra at *
      generalize (number - limit) / (36 - limit) = further at *
      have outweighed : weight * (36 - limit) * further ≤ weight * number := by
        rw [Nat.mul_assoc]
        exact Nat.mul_le_mul_left weight (by omega)
      have heavier : weight * (36 - limit) ≤ 35 ^ (places + 1) :=
        Nat.mul_le_mul light (by omega)
      -- What this digit and the further ones add up to is the number at its weight.
      have total : (limit + extra) * weight + further * (weight * (36 - limit)) =
          number * weight := by
        have parts : number = limit + extra + (36 - limit) * further := by omega
        rw [parts]
        ring
      have later := ih further (by omega) (places + 1) (gathered + (limit + extra) * weight) heavier
        (Nat.lt_of_le_of_lt outweighed fits)
      rw [Nat.add_assoc gathered, total, Nat.mul_succ 36 (places + 1)] at later
      rw [List.cons_append, insertAll, digit?_digit (by omega), bound]
      simp only [Option.bind_eq_bind, Option.bind_some]
      rw [if_neg (by omega), if_neg (Nat.not_le_of_lt (word (by omega))), later]

/-! ## Insertions -/

namespace Insertion

/-- From a state on a character may be inserted at an index or after it: it is no character before
the newest one, and the index is not before the newest one's if it is the same. -/
structure Leads (state : Insertion) (c : Char) (index : Nat) : Prop where
  code_le : state.code ≤ c.toNat
  index_le : state.code = c.toNat → state.index ≤ index
  within : state.index ≤ state.text.length
  usual : state.bias ≤ greatestBias

def inserted (state : Insertion) (c : Char) (index : Nat) : Insertion :=
  { text := state.text.insertIdx index c
    code := c.toNat
    index := index + 1
    bias := nextBias (state.numberTo c.toNat index) (state.text.length + 1) (state.index = 0) }

/-- What the numbers written from a state on are read as. -/
def readBack (state : Insertion) (pairs : List (Nat × Nat)) : Option (List Char) :=
  insertAll state 36 1 0 (writeAll state pairs)

variable {state : Insertion} {c : Char} {index : Nat}

theorem Leads.mono (leads : state.Leads c index) {later : Nat} (after : index ≤ later) :
    state.Leads c later :=
  { leads with index_le := fun same => Nat.le_trans (leads.index_le same) after }

theorem Leads.next (leads : state.Leads c index) {d : Char} (later : c < d) : state.Leads d 0 := by
  have after : c.toNat < d.toNat := later
  have := leads.code_le
  exact { leads with code_le := by omega, index_le := fun same => by omega }

theorem index_add_numberTo (leads : state.Leads c index) :
    state.index + state.numberTo c.toNat index =
      (state.text.length + 1) * (c.toNat - state.code) + index := by
  obtain ⟨code_le, index_le, within, -⟩ := leads
  rw [numberTo, Nat.mul_comm]
  obtain same | later := Nat.eq_or_lt_of_le code_le
  · have := index_le same
    simp only [same, Nat.sub_self, Nat.mul_zero]
    omega
  · have : state.text.length + 1 ≤ (state.text.length + 1) * (c.toNat - state.code) :=
      Nat.le_mul_of_pos_right _ (by omega)
    omega

theorem insert?_numberTo (leads : state.Leads c index) (fits : index ≤ state.text.length) :
    state.insert? (state.numberTo c.toNat index) = some (state.inserted c index) := by
  have size : 0 < state.text.length + 1 := Nat.succ_pos _
  have small : index < state.text.length + 1 := Nat.lt_succ_of_le fits
  have code : state.code + (c.toNat - state.code) = c.toNat := Nat.add_sub_of_le leads.code_le
  simp only [insert?, index_add_numberTo leads, Nat.mul_add_div size, Nat.div_eq_of_lt small,
    Nat.add_zero, code, Nat.mul_add_mod, Nat.mod_eq_of_lt small, Char.ofNat_toNat, inserted]
  exact if_pos c.valid

/-- A number goes at most as far as all code points at all indices. -/
theorem numberTo_lt (leads : state.Leads c index) (fits : index ≤ state.text.length)
    (short : 0x110000 * (state.text.length + 1) ≤ UInt32.size) :
    state.numberTo c.toNat index < UInt32.size := by
  have inside : c.toNat < 0x110000 := by
    have := c.valid
    simp only [UInt32.isValidChar, Nat.isValidChar] at this
    simp only [Char.toNat]
    omega
  have := index_add_numberTo leads
  have most : (state.text.length + 1) * (c.toNat - state.code + 1) ≤
      (state.text.length + 1) * 0x110000 :=
    Nat.mul_le_mul_left _ (by omega)
  rw [Nat.mul_succ] at most
  omega

theorem inserted_leads (leads : state.Leads c index) (fits : index ≤ state.text.length)
    (short : 0x110000 * (state.text.length + 1) ≤ UInt32.size) :
    (state.inserted c index).Leads c (index + 1) where
  code_le := Nat.le_refl _
  index_le _ := Nat.le_refl _
  within := by
    rw [inserted, List.length_insertIdx_of_le_length fits]
    exact Nat.succ_le_succ fits
  usual := nextBias_le _ (numberTo_lt leads fits short)

theorem readBack_cons (leads : state.Leads c index) (fits : index ≤ state.text.length)
    (short : 0x110000 * (state.text.length + 1) ≤ UInt32.size) (rest : List (Nat × Nat)) :
    state.readBack ((c.toNat, index) :: rest) = (state.inserted c index).readBack rest := by
  have word : 1 * state.numberTo c.toNat index < UInt32.size :=
    (Nat.one_mul _).trans_lt (numberTo_lt leads fits short)
  have read := insertAll_writeNumber leads.usual (writeAll (state.inserted c index) rest) 0 0
    (Nat.le_refl 1) word
  simpa [readBack, writeAll, insert?_numberTo leads fits] using read

theorem insertIdx_length_append (before rest : List Char) (c : Char) :
    (before ++ rest).insertIdx before.length c = before ++ c :: rest := by
  induction before with
  | nil => rfl
  | cons first before ih => simpa using ih

/-- The numbers of a character put it where the text has it, and leave the rest as it is. -/
theorem readBack_indices (rest before : List Char) {state : Insertion}
    (leads : state.Leads c before.length)
    (without : state.text = before ++ rest.filter (· ≠ c))
    (short : 0x110000 * (before.length + rest.length) ≤ UInt32.size)
    (more : List (Nat × Nat)) :
    ∃ after : Insertion, after.text = before ++ rest ∧ (∃ last, after.Leads c last) ∧
      state.readBack ((indices c before.length rest).map (c.toNat, ·) ++ more) =
        after.readBack more := by
  -- The text is gone through once: the state has all of it up to here, and after that all but `c`.
  induction rest generalizing state before with
  | nil => exact ⟨state, without, ⟨_, leads⟩, rfl⟩
  | cons first rest ih =>
    have moved : (before ++ [first]).length = before.length + 1 := by simp
    have onward : 0x110000 * ((before ++ [first]).length + rest.length) ≤ UInt32.size := by
      rw [moved]
      simp only [List.length_cons] at short
      omega
    have left : (rest.filter (· ≠ c)).length ≤ rest.length := List.length_filter_le _ _
    by_cases same : first = c
    · subst same
      rw [List.filter_cons_of_neg (by simp)] at without
      have length : state.text.length = before.length + (rest.filter (· ≠ first)).length := by
        rw [without, List.length_append]
      have fits : before.length ≤ state.text.length := by omega
      have short' : 0x110000 * (state.text.length + 1) ≤ UInt32.size := by
        simp only [List.length_cons] at short
        omega
      obtain ⟨after, text, last, read⟩ := ih (before ++ [first])
        (moved.symm ▸ inserted_leads leads fits short')
        (by simp [inserted, without, insertIdx_length_append]) onward
      refine ⟨after, by simpa using text, last, ?_⟩
      rw [indices, if_pos rfl, List.map_cons, List.cons_append, readBack_cons leads fits short',
        ← moved, read]
    · rw [List.filter_cons_of_pos (by simpa using same)] at without
      have leads' : state.Leads c (before ++ [first]).length := leads.mono (by rw [moved]; omega)
      obtain ⟨after, text, last, read⟩ := ih (before ++ [first]) leads' (by simpa using without)
        onward
      refine ⟨after, by simpa using text, last, ?_⟩
      rw [indices, if_neg same, ← moved, read]

/-- The characters outside a state's text are put where the whole text has them, in ascending
order. -/
theorem readBack_insertions (text : List Char) {cs : List Char} {state : Insertion}
    (ascending : cs.Pairwise (· < ·)) (leads : ∀ c ∈ cs, state.Leads c 0)
    (without : state.text = text.filter (· ∉ cs))
    (short : 0x110000 * text.length ≤ UInt32.size) :
    state.readBack (insertions text cs) = some text := by
  -- After each character the state's text lacks the later ones alone.
  induction cs generalizing state with
  | nil => simp [insertions, readBack, writeAll, insertAll, without]
  | cons c later ih =>
    obtain ⟨greater, ascending⟩ := List.pairwise_cons.mp ascending
    have kept : (text.filter (· ∉ later)).length ≤ text.length := List.length_filter_le _ _
    obtain ⟨after, partly, ⟨last, leads'⟩, read⟩ :=
      readBack_indices (text.filter (· ∉ later)) [] (leads c List.mem_cons_self)
        (by simpa [List.filter_filter] using without) (by simp only [List.length_nil]; omega)
        (insertions text later)
    rw [insertions]
    refine read.trans (ih ascending (fun d member => leads'.next (greater d member)) ?_)
    simpa using partly

end Insertion

/-! ## Characters outside ASCII -/

theorem mem_addOnce {c d : Char} {cs : List Char} : d ∈ addOnce c cs ↔ d = c ∨ d ∈ cs := by
  induction cs with
  | nil => simp [addOnce]
  | cons first rest ih =>
    rw [addOnce]
    split
    · simp
    · split
      case isTrue same => simp [same]
      case isFalse => simp [ih, or_left_comm]

theorem pairwise_addOnce {c : Char} {cs : List Char} (ascending : cs.Pairwise (· < ·)) :
    (addOnce c cs).Pairwise (· < ·) := by
  induction cs with
  | nil => simp [addOnce]
  | cons first rest ih =>
    obtain ⟨greater, tail⟩ := List.pairwise_cons.mp ascending
    rw [addOnce]
    split
    case isTrue below =>
      refine List.pairwise_cons.mpr ⟨List.forall_mem_cons.mpr ⟨below, fun d member => ?_⟩, ascending⟩
      exact Char.lt_trans below (greater d member)
    case isFalse notBelow =>
      split
      · exact ascending
      case isFalse other =>
        have above : first < c := Std.lt_of_le_of_ne (Char.not_lt.mp notBelow) (Ne.symm other)
        refine List.pairwise_cons.mpr ⟨fun d member => ?_, ih tail⟩
        obtain rfl | held := mem_addOnce.mp member
        · exact above
        · exact greater d held

theorem mem_outside {c : Char} {text : List Char} :
    c ∈ outside text ↔ c ∈ text ∧ 0x80 ≤ c.toNat := by
  have gathered : ∀ cs : List Char, c ∈ cs.foldr addOnce [] ↔ c ∈ cs := by
    intro cs
    induction cs with
    | nil => simp
    | cons first rest ih => simp [mem_addOnce, ih]
  simp [outside, gathered]

theorem pairwise_outside (text : List Char) : (outside text).Pairwise (· < ·) :=
  List.foldrRecOn _ addOnce List.Pairwise.nil fun _ ascending _ _ => pairwise_addOnce ascending

/-! ## Labels -/

theorem ne_hyphen_of_mem_reverse {numbers : List Char} (whole : '-' ∉ numbers) :
    ∀ c ∈ numbers.reverse, decide (c ≠ '-') = true := fun c member => by
  simpa using ne_of_mem_of_not_mem (List.mem_reverse.mp member) whole

theorem splitBasic?_of_whole {numbers : List Char} (whole : '-' ∉ numbers) :
    splitBasic? numbers = some ([], numbers) := by
  rw [splitBasic?, List.span_eq_takeWhile_dropWhile,
    List.dropWhile_eq_nil_iff.mpr (ne_hyphen_of_mem_reverse whole)]

theorem splitBasic?_append {basic numbers : List Char} (some_basic : basic ≠ [])
    (whole : '-' ∉ numbers) :
    splitBasic? (basic ++ '-' :: numbers) = some (basic, numbers) := by
  have all := ne_hyphen_of_mem_reverse whole
  have turned : (basic ++ '-' :: numbers).reverse = numbers.reverse ++ '-' :: basic.reverse := by
    simp
  rw [splitBasic?, turned, List.span_eq_takeWhile_dropWhile, List.takeWhile_append_of_pos all,
    List.dropWhile_append_of_pos all]
  obtain ⟨first, rest, parts⟩ :=
    List.exists_cons_of_ne_nil (mt List.reverse_eq_nil_iff.mp some_basic)
  simp [parts, ← List.reverse_eq_iff.mp parts]

/-- Punycode is read as the text it was written from. -/
theorem decode?_encode {text : List Char} (short : 0x110000 * text.length ≤ UInt32.size) :
    decode? (encode text) = some text := by
  have split : splitBasic? (encode text) = some (text.filter fun c => c.toNat < 0x80, writeAll
      { text := text.filter fun c => c.toNat < 0x80 } (insertions text (outside text))) := by
    have whole : ∀ {state pairs}, '-' ∉ writeAll state pairs := fun member => by
      obtain ⟨value, small, same⟩ := mem_writeAll member
      exact digit_ne_hyphen small same.symm
    rw [encode]
    cases basic : text.filter fun c => c.toNat < 0x80 with
    | nil => exact splitBasic?_of_whole whole
    | cons first rest => simpa using splitBasic?_append (List.cons_ne_nil first rest) whole
  rw [decode?, split]
  refine Insertion.readBack_insertions text (pairwise_outside text) ?_ ?_ short
  · intro c member
    exact
      { code_le := (mem_outside.mp member).2
        index_le := fun _ => Nat.le_refl 0
        within := Nat.zero_le _
        usual := (by decide : 72 ≤ greatestBias) }
  · refine List.filter_congr fun c member => ?_
    simp [mem_outside, member]

theorem mem_encode {c : Char} {text : List Char} (member : c ∈ encode text) :
    (c ∈ text ∧ c.toNat < 0x80) ∨ c = '-' ∨ ∃ value < 36, c = digit value := by
  obtain kept | written := List.mem_append.mp member
  · split at kept
    · simp at kept
    · obtain basic | hyphen := List.mem_append.mp kept
      · exact .inl (by simpa using List.mem_filter.mp basic)
      · exact .inr (.inl (List.mem_singleton.mp hyphen))
  · exact .inr (.inr (mem_writeAll written))

end ListWatch.Punycode
