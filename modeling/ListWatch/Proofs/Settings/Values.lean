import Mathlib.Data.List.DropRight
import Mathlib.Data.Nat.Digits.Defs
import ListWatch.Settings

/-!
# Configured values

What a lookup says of a key: the text without the blanks at its ends, where anything is left, or
that the key is unset. A number is read from a numeral, digits behind an optional plus sign, exactly
when its value is not too large.
-/
namespace ListWatch

/-! ## Trimmed texts -/

namespace Text

variable {α : Type} {drop : α → Bool} {items kept : List α}

/-- The items are those kept between others at both ends that are dropped, and neither end of those
kept could be dropped as well. -/
structure Trims (drop : α → Bool) (items kept : List α) : Prop where
  within : ∃ front back, items = front ++ kept ++ back ∧
    (∀ x ∈ front, drop x = true) ∧ ∀ x ∈ back, drop x = true
  first : ∀ x ∈ kept.head?, drop x = false
  last : ∀ x ∈ kept.getLast?, drop x = false

theorem dropWhile_append_kept {front : List α} (dropped : ∀ x ∈ front, drop x = true)
    (first : ∀ x ∈ kept.head?, drop x = false) : (front ++ kept).dropWhile drop = kept := by
  rw [List.dropWhile_append_of_pos dropped]
  cases kept with
  | nil => rfl
  | cons x kept => rw [List.dropWhile_cons_of_neg (by simpa using first x rfl)]

theorem head?_dropWhile (drop : α → Bool) (items : List α) :
    ∀ x ∈ (items.dropWhile drop).head?, drop x = false := by
  intro x begins
  have ended := List.head?_dropWhile_not drop items
  rw [Option.mem_def.mp begins] at ended
  exact ended

theorem trims_trimEnds (drop : α → Bool) (items : List α) :
    Trims drop items (trimEnds drop items) := by
  have same : trimEnds drop items = (items.dropWhile drop).rdropWhile drop := rfl
  rw [same]
  refine ⟨⟨items.takeWhile drop, (items.dropWhile drop).rtakeWhile drop, ?_, ?_, ?_⟩, ?_, ?_⟩
  · rw [List.append_assoc, List.rdropWhile_append_rtakeWhile, List.takeWhile_append_dropWhile]
  · exact fun x => List.mem_takeWhile_imp
  · exact fun x => List.mem_rtakeWhile_imp
  · intro x first
    -- What is kept begins where the dropping from the front came to an end.
    obtain ⟨back, whole⟩ := List.rdropWhile_prefix drop (items.dropWhile drop)
    refine head?_dropWhile drop items x ?_
    rw [← whole, List.head?_append, Option.mem_def.mp first]
    rfl
  · rw [List.rdropWhile, List.getLast?_reverse]
    exact head?_dropWhile drop _

/-- Nothing is kept of items that are all dropped. -/
theorem trims_nil : Trims drop items [] ↔ ∀ x ∈ items, drop x = true := by
  constructor
  · rintro ⟨⟨front, back, rfl, dropped, dropped'⟩, -, -⟩
    rw [List.append_nil]
    exact List.forall_mem_append.mpr ⟨dropped, dropped'⟩
  · intro all
    exact ⟨⟨items, [], by simp, all, nofun⟩, nofun, nofun⟩

/-- What is left between the ends is the only thing that could be. -/
theorem Trims.trimEnds_eq (trims : Trims drop items kept) : trimEnds drop items = kept := by
  by_cases empty : kept = []
  · subst kept
    rw [trimEnds, List.dropWhile_eq_nil_iff.mpr (trims_nil.mp trims)]
    rfl
  · obtain ⟨⟨front, back, rfl, dropped, dropped'⟩, first, last⟩ := trims
    rw [← List.head?_reverse] at last
    have begins : (front ++ (kept ++ back)).dropWhile drop = kept ++ back := by
      refine dropWhile_append_kept dropped fun x begins => first x ?_
      rwa [List.head?_append_of_ne_nil _ empty] at begins
    have ends : (back.reverse ++ kept.reverse).dropWhile drop = kept.reverse :=
      dropWhile_append_kept (by simpa using dropped') last
    rw [trimEnds, List.append_assoc, begins, List.reverse_append, ends, List.reverse_reverse]

end Text

/-! ## Numerals -/

/-- The digits of a number, the first one being the most significant. -/
def digitsValue (digits : List Char) : Nat :=
  Nat.ofDigits 10 (digits.reverse.map fun c => c.toNat - 0x30)

/-- The text is a numeral: digits, at least one of them, behind an optional plus sign. -/
def Numeral (text : List Char) (n : Nat) : Prop :=
  ∃ digits, digits ≠ [] ∧ (∀ c ∈ digits, c.isDigit = true) ∧
    (text = digits ∨ text = '+' :: digits) ∧ digitsValue digits = n

namespace Settings

variable {greatest value n : Nat} {digits : List Char}

/-- These are left of the text without the plus sign that it may begin with. -/
def Signed (text digits : List Char) : Prop :=
  text = '+' :: digits ∨ text = digits ∧ digits.head? ≠ some '+'

variable {front rest : List Char}

theorem Signed.of_append {head : List Char} (signed : Signed (head ++ rest) digits)
    (some_head : head ≠ []) : ∃ front, digits = front ++ rest ∧ Signed head front := by
  rcases signed with same | ⟨rfl, other⟩
  · obtain ⟨c, front, rfl⟩ := List.exists_cons_of_ne_nil some_head
    obtain ⟨rfl, behind⟩ := List.cons.inj same
    exact ⟨front, behind.symm, .inl rfl⟩
  · rw [List.head?_append_of_ne_nil _ some_head] at other
    exact ⟨head, rfl, .inr ⟨rfl, other⟩⟩

variable {text : String}

variable {lookup : Lookup} {key : String}

/-- The key has a text, which is not blank and is this one without the blanks at its ends. -/
def Says (lookup : Lookup) (key text : String) : Prop :=
  text ≠ "" ∧ ∃ raw, lookup key = some raw ∧ Text.Trims Text.isBlank raw.toList text.toList

theorem trim_eq_iff {raw : String} :
    Text.trim raw = text ↔ Text.Trims Text.isBlank raw.toList text.toList := by
  have same : Text.trim raw = text ↔ Text.trimEnds Text.isBlank raw.toList = text.toList := by
    rw [Text.trim]
    constructor
    · rintro rfl
      exact (String.toList_ofList).symm
    · intro kept
      rw [kept, String.ofList_toList]
  rw [same]
  exact ⟨fun kept => kept ▸ Text.trims_trimEnds _ _, Text.Trims.trimEnds_eq⟩

theorem optional_eq_some : optional lookup key = some text ↔ Says lookup key text := by
  simp only [optional, Option.filter_eq_some_iff, Option.map_eq_some_iff, trim_eq_iff, Says,
    decide_eq_true_eq]
  exact And.comm

/-- A key has one text at most. -/
theorem Says.eq {text' : String} (told : Says lookup key text) (told' : Says lookup key text') :
    text = text' :=
  Option.some.inj ((optional_eq_some.mpr told).symm.trans (optional_eq_some.mpr told'))

end Settings

end ListWatch
