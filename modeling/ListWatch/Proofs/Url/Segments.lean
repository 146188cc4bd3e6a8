import ListWatch.Proofs.Url.Percent

/-!
# Segments pushed

A text that is pushed onto a path is one segment of its own, encoded whole, as long as it is plain:
it is no step along the path, and nothing in it is dropped. Paths of files have two rules more. They
begin with a segment that is not empty, and at their front the letter of a drive has a form of its
own.
-/
namespace ListWatch

/-! ## Plain texts -/

/-- A text that becomes a segment of its own: it is no step, and nothing in it is dropped. -/
def IsPlain (text : String) : Prop :=
  text ≠ "." ∧ text ≠ ".." ∧ ∀ c ∈ text.toList, isDropped c = false

instance (text : String) : Decidable (IsPlain text) := inferInstanceAs (Decidable (_ ∧ _ ∧ _))

theorem IsPlain.withoutDropped {text : String} (plain : IsPlain text) :
    withoutDropped text.toList = text.toList := by
  refine List.filter_eq_self.mpr fun c member => ?_
  rw [plain.2.2 c member]
  rfl

/-- A drive letter is cut off only in front of what is dropped. -/
theorem IsPlain.cutDrive?_eq {text : String} (plain : IsPlain text) :
    cutDrive? text.toList = none := by
  unfold cutDrive?
  split
  next letter colon next more _ later =>
    have member : next ∈ text.toList := (List.dropWhile_sublist _).subset (by rw [later]; simp)
    simp [plain.2.2 next member]
  next => rfl

/-! ## Segments written -/

/-- The bytes that are encoded in the segments of a scheme. -/
def segmentSet (scheme : String) : Percent.ByteSet :=
  if isSpecialScheme scheme then Percent.inSpecialSegment else Percent.inSegment

theorem escapes_segmentSet (scheme : String) : Percent.Escapes (segmentSet scheme) := by
  unfold segmentSet
  split
  · exact Percent.escapes_inSpecialSegment
  · exact Percent.escapes_inSegment

/-- The segment that a plain text becomes in a URL of a scheme. -/
def segmentOf (scheme text : String) : String := Percent.encode (segmentSet scheme) text.toList

theorem text?_segmentOf (scheme text : String) :
    Percent.text? (segmentOf scheme text) = some text := by
  rw [segmentOf, (escapes_segmentSet scheme).text?_encode, String.ofList_toList]

theorem segmentOf_injective (scheme : String) : Function.Injective (segmentOf scheme) := by
  intro first second same
  have read := text?_segmentOf scheme first
  rw [same, text?_segmentOf] at read
  exact (Option.some.inj read).symm

theorem segmentOf_ne_empty {scheme text : String} (some : text ≠ "") :
    segmentOf scheme text ≠ "" :=
  fun same => some (segmentOf_injective scheme same)

/-- Nothing but a drive letter is written as one. -/
theorem isDriveLetter_of_segmentOf {scheme text : String}
    (drive : isDriveLetter (segmentOf scheme text) = true) : isDriveLetter text = true := by
  have read := text?_segmentOf scheme text
  have marked := drive
  unfold isDriveLetter at drive
  split at drive
  next letter mark written =>
    have other {c : Char} (sign : c.isAlpha = true ∨ c = ':' ∨ c = '|') : c ≠ '%' := by
      rintro rfl
      revert sign
      decide
    simp only [isDriveMark, Bool.and_eq_true, Bool.or_eq_true, decide_eq_true_eq] at drive
    -- Neither character stands for another, so the segment is the text.
    have spelled : Percent.decode [letter, mark] = Utf8.encode [letter, mark] := by
      rw [Percent.decode_cons_of_ne (other (.inl drive.1)),
        Percent.decode_cons_of_ne (other (.inr drive.2))]
      rfl
    rw [Percent.text?, written, spelled, Utf8.decode?_encode, ← written, String.ofList_toList]
      at read
    rwa [Option.some.inj read] at marked
  next => cases drive

section Push

variable {scheme text : String} {segments : List String}

/-- A plain text is written whole, unless it is a drive letter at the front of a file path. -/
theorem writeSegment_plain (plain : IsPlain text) {before : List String}
    (undriven : scheme = "file" → before = [] → isDriveLetter text = false) :
    writeSegment (segmentSet scheme) scheme before text.toList = [segmentOf scheme text] := by
  unfold writeSegment
  rw [plain.withoutDropped, plain.cutDrive?_eq]
  split
  next front =>
    obtain ⟨file, none⟩ : scheme = "file" ∧ before = [] := by simpa using front
    -- Encoding makes no drive letter of anything else.
    have unmarked : ¬ isDriveLetter (segmentOf scheme text) = true := fun drive => by
      have letter := isDriveLetter_of_segmentOf drive
      rw [undriven file none] at letter
      cases letter
    exact congrArg ([·]) (if_neg unmarked)
  next => rfl

theorem pushSegment_plain (plain : IsPlain text)
    (undriven : scheme = "file" → pushBase segments = [] → isDriveLetter text = false) :
    pushSegment scheme segments text =
      collapseFront scheme (pushBase segments ++ [segmentOf scheme text]) := by
  have whole := plain.withoutDropped
  have up : text.toList ≠ ['.', '.'] := fun same => plain.2.1 (String.toList_injective same)
  have stay : text.toList ≠ ['.'] := fun same => plain.1 (String.toList_injective same)
  have written := writeSegment_plain plain undriven
  rw [segmentSet] at written
  simp only [pushSegment, if_neg (not_or.mpr ⟨plain.1, plain.2.1⟩), whole, if_neg up, if_neg stay,
    written]

/-- The segments that stay in front of what is pushed. Those of a file path do not begin with an
empty one. -/
def pushFront (scheme : String) (segments : List String) : List String :=
  if scheme = "file" then (pushBase segments).dropWhile (· = "") else pushBase segments

/-- Segments that stay as they are whatever is pushed behind them. -/
structure Settled (scheme : String) (segments : List String) : Prop where
  some : segments ≠ []
  other : segments ≠ [""]
  front : scheme = "file" → segments.head? ≠ .some ""

theorem Settled.concat (settled : Settled scheme segments) (last : String) :
    Settled scheme (segments ++ [last]) := by
  obtain ⟨first, rest, rfl⟩ := List.exists_cons_of_ne_nil settled.some
  refine ⟨by simp, by simp, fun file => ?_⟩
  exact settled.front file

theorem Settled.pushSegment_eq (settled : Settled scheme segments) (plain : IsPlain text) :
    pushSegment scheme segments text = segments ++ [segmentOf scheme text] := by
  have base : pushBase segments = segments := if_neg settled.other
  rw [pushSegment_plain plain fun _ none => absurd (base.symm.trans none) settled.some, base]
  unfold collapseFront
  split
  next file =>
    -- The first segment is not empty, so none is left out.
    obtain ⟨first, rest, rfl⟩ := List.exists_cons_of_ne_nil settled.some
    have begins : first ≠ "" := by simpa using settled.front file
    rw [List.cons_append, List.dropWhile_cons_of_neg (by simpa using begins)]
  next => rfl

theorem Settled.pushSegments_eq (settled : Settled scheme segments) {texts : List String}
    (plain : ∀ text ∈ texts, IsPlain text) :
    pushSegments scheme segments texts = segments ++ texts.map (segmentOf scheme) := by
  induction texts generalizing segments with
  | nil => rw [List.map_nil, List.append_nil]; rfl
  | cons text texts ih =>
    obtain ⟨here, rest⟩ := List.forall_mem_cons.mp plain
    rw [pushSegments, List.foldl_cons, ← pushSegments, settled.pushSegment_eq here,
      ih (settled.concat _) rest, List.map_cons, List.append_assoc]
    rfl

/-- The first text that is pushed, if it is not empty, settles what is in front of it. -/
theorem pushSegment_first (some : text ≠ "") (plain : IsPlain text)
    (undriven : scheme = "file" → isDriveLetter text = false) :
    pushSegment scheme segments text = pushFront scheme segments ++ [segmentOf scheme text] ∧
      Settled scheme (pushFront scheme segments ++ [segmentOf scheme text]) := by
  have last : segmentOf scheme text ≠ "" := segmentOf_ne_empty some
  rw [pushSegment_plain plain fun file _ => undriven file]
  generalize segmentOf scheme text = segment at last
  have lone : ∀ front : List String, front ++ [segment] ≠ [""] := by
    intro front same
    have ends := congrArg List.getLast? same
    simp [last] at ends
  unfold pushFront collapseFront
  by_cases file : scheme = "file"
  · -- Of a file path the empty segments in front are left out, up to the first that is not.
    rw [if_pos file, if_pos file, List.dropWhile_append]
    cases kept : (pushBase segments).dropWhile (· = "") with
    | nil =>
      have stays : [segment].dropWhile (fun text => decide (text = "")) = [segment] :=
        List.dropWhile_cons_of_neg (by simpa using last)
      refine ⟨by simp [stays], by simp, lone [], fun _ => ?_⟩
      simpa using last
    | cons first rest =>
      have begins := List.head?_dropWhile_not (fun text : String => decide (text = ""))
        (pushBase segments)
      rw [kept] at begins
      refine ⟨by simp, by simp, lone _, fun _ => ?_⟩
      simpa using begins
  · rw [if_neg file, if_neg file]
    exact ⟨rfl, by simp, lone _, fun same => absurd same file⟩

/-- Plain texts become one segment each, behind the path that they are pushed onto. -/
theorem pushSegments_plain {first : String} {texts : List String} (begins : first ≠ "")
    (plain : ∀ text ∈ first :: texts, IsPlain text)
    (undriven : scheme = "file" → isDriveLetter first = false) :
    pushSegments scheme segments (first :: texts) =
      pushFront scheme segments ++ (first :: texts).map (segmentOf scheme) := by
  obtain ⟨here, rest⟩ := List.forall_mem_cons.mp plain
  obtain ⟨pushed, settled⟩ : pushSegment scheme segments first = _ ∧ _ :=
    pushSegment_first begins here undriven
  calc pushSegments scheme segments (first :: texts)
      = pushSegments scheme (pushSegment scheme segments first) texts := rfl
    _ = pushFront scheme segments ++ [segmentOf scheme first] ++ texts.map (segmentOf scheme) := by
      rw [pushed, settled.pushSegments_eq rest]
    _ = pushFront scheme segments ++ (first :: texts).map (segmentOf scheme) := by
      rw [List.append_assoc]
      rfl

/-- What is dropped makes no difference, unless the text is a step without it. -/
theorem pushSegment_dropped (other : scheme ≠ "file") {text' : String}
    (stays : ¬ (text = "." ∨ text = "..")) (stays' : ¬ (text' = "." ∨ text' = ".."))
    (same : withoutDropped text.toList = withoutDropped text'.toList) :
    pushSegment scheme segments text = pushSegment scheme segments text' := by
  simp only [pushSegment, if_neg stays, if_neg stays', same, writeSegment,
    decide_eq_false other, Bool.false_and, Bool.false_eq_true, if_false]

/-- A step along the path is passed over. -/
theorem pushSegments_step (text : String) (step : text = "." ∨ text = "..") :
    pushSegments scheme segments [text] = segments :=
  if_pos step

end Push

end ListWatch
