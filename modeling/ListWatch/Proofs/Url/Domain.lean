import ListWatch.Proofs.Url.Punycode
import ListWatch.Url.Host

/-!
# Domains in ASCII

A label with characters outside ASCII is read back from the way it is written, unless that is too
long to be read at all. Whatever text it comes from, a domain is in ASCII and holds no character
that would part a URL.
-/
namespace ListWatch

namespace Text

theorem mem_of_mem_splitAt {separator c : Char} {text part : List Char}
    (inside : part ∈ splitAt separator text) (member : c ∈ part) : c ∈ text := by
  induction text generalizing part with
  | nil => simp_all [splitAt]
  | cons first text ih =>
    rw [splitAt] at inside
    split at inside
    · obtain rfl | later := List.mem_cons.mp inside
      · simp at member
      · exact List.mem_cons_of_mem _ (ih later member)
    · cases parts : splitAt separator text with
      | nil => simp_all
      | cons head others =>
        rw [parts] at inside ih
        obtain rfl | later := List.mem_cons.mp inside
        · obtain rfl | further := List.mem_cons.mp member
          · exact List.mem_cons_self
          · exact List.mem_cons_of_mem _ (ih List.mem_cons_self further)
        · exact List.mem_cons_of_mem _ (ih (List.mem_cons_of_mem _ later) member)

theorem mem_intercalate {separator : List Char} {c : Char} {parts : List (List Char)}
    (member : c ∈ separator.intercalate parts) : c ∈ separator ∨ ∃ part ∈ parts, c ∈ part := by
  induction parts with
  | nil => simp at member
  | cons first parts ih =>
    cases parts with
    | nil => exact .inr ⟨first, List.mem_cons_self, by simpa using member⟩
    | cons second parts =>
      rw [List.intercalate_cons_cons, List.mem_append, List.mem_append] at member
      obtain (here | between) | later := member
      · exact .inr ⟨first, List.mem_cons_self, here⟩
      · exact .inl between
      · exact (ih later).imp_right fun ⟨part, inside, member⟩ =>
          ⟨part, List.mem_cons_of_mem _ inside, member⟩

end Text

namespace Label

/-- What a character of a written label can be. -/
theorem mem_write {c : Char} {label : List Char} (member : c ∈ write label) :
    (c ∈ label ∧ isAscii c) ∨ c ∈ marker ∨ ∃ value < 36, c = Punycode.digit value := by
  rw [write] at member
  split at member
  case isTrue ascii => exact .inl ⟨member, List.all_eq_true.mp ascii c member⟩
  case isFalse =>
    obtain mark | code := List.mem_append.mp member
    · exact .inr (.inl mark)
    · obtain ⟨kept, ascii⟩ | rfl | digit := Punycode.mem_encode code
      · exact .inl ⟨kept, by simpa [isAscii] using ascii⟩
      · exact .inr (.inl (by decide))
      · exact .inr (.inr digit)

theorem write_ascii {label : List Char} : ∀ c ∈ write label, isAscii c := by
  intro c member
  obtain ⟨-, ascii⟩ | mark | ⟨value, small, rfl⟩ := mem_write member
  · exact ascii
  · exact List.all_eq_true.mp (by decide : marker.all isAscii) c mark
  · exact (by decide : ∀ value : Fin 36, isAscii (Punycode.digit value)) ⟨value, small⟩

/-- A label with characters outside ASCII is what is read from the way it is written. -/
theorem read?_write {label : List Char} (marked : isMarked label)
    (short : (Punycode.encode label).length ≤ greatestCode) : read? (write label) = some label := by
  have parts := marked
  simp only [isMarked, isFitting, Bool.and_eq_true, Bool.or_eq_true, Bool.not_eq_true',
    decide_eq_true_eq] at parts
  obtain ⟨⟨⟨-, -, length⟩, -⟩, outside⟩ := parts
  have fits : 0x110000 * label.length ≤ UInt32.size := by
    simp only [outside, greatestLength, UInt32.size, Bool.false_eq_true, false_or] at *
    omega
  have written : write label = marker ++ Punycode.encode label := if_neg (by simp [outside])
  have ascii : (marker ++ Punycode.encode label).all isAscii :=
    List.all_eq_true.mpr (written ▸ write_ascii)
  rw [written, read?, if_pos (by rfl), ascii]
  simp [marker, Punycode.decode?_encode fits, marked, short, Nat.add_comm 4]

theorem mem_writeAll? {c : Char} {labels : List (List Char)} {domain : List Char}
    (written : writeAll? labels = some domain) (member : c ∈ domain) :
    c = '.' ∨ ∃ label ∈ labels, c ∈ write label := by
  rw [writeAll?] at written
  split at written
  case h_1 =>
    split at written
    · simp at written
    · obtain rfl := Option.some.inj written
      obtain stop | ⟨part, inside, member⟩ := Text.mem_intercalate member
      · exact .inl (List.mem_singleton.mp stop)
      · obtain ⟨label, listed, rfl⟩ := List.mem_map.mp inside
        exact .inr ⟨label, listed, member⟩
  case h_2 => simp at written

end Label

namespace Host

/-- Every domain that is read is in ASCII and holds no forbidden character. -/
theorem domain?_plain {text domain : List Char} (read : domain? text = some domain) :
    ∀ c ∈ domain, Label.isAscii c ∧ ¬ isForbidden c := by
  intro c member
  obtain ⟨characters, -, read⟩ := Option.bind_eq_some_iff.mp read
  obtain ⟨spelled, -, read⟩ := Option.bind_eq_some_iff.mp read
  split at read
  case isTrue => simp at read
  case isFalse allowed =>
    obtain rfl | ⟨label, inside, member⟩ := Label.mem_writeAll? read member
    · decide
    · refine ⟨Label.write_ascii c member, ?_⟩
      obtain ⟨kept, -⟩ | mark | ⟨value, small, rfl⟩ := Label.mem_write member
      · exact fun forbidden => allowed
          (List.any_eq_true.mpr ⟨c, Text.mem_of_mem_splitAt inside kept, forbidden⟩)
      · simpa using List.all_eq_true.mp (by decide : Label.marker.all (!isForbidden ·)) c mark
      · exact (by decide : ∀ value : Fin 36, ¬ isForbidden (Punycode.digit value)) ⟨value, small⟩

/-- Capitals, escapes and another full stop, all spelled in one way. -/
example : domain? "B%C3%BCcher\u3002Example".toList = some "xn--bcher-kva.example".toList := by
  decide +kernel

end Host

end ListWatch
