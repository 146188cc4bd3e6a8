import Mathlib.Data.List.DropRight
import Mathlib.Data.List.Induction
import ListWatch.Event.Lines
import ListWatch.Resource.Untyped

/-!
# Framing

What a stream of bytes says is a matter of the bytes alone: its lines that end
with a line feed, trimmed and without the blank ones, and what they decode to. A
decoder that is fed the stream in chunks of any kind, and asked for changes at any
moments in between, gives these results and no others, in order and each once.

The bytes taken so far end with a line feed, or there are none. That is kept by
every use of a decoder, and everything else follows from it.
-/
namespace ListWatch

/-! ## What a stream says -/

/-- The lines that end with a line feed, trimmed, without the blank ones. -/
def contentLines (bytes : List UInt8) : List (List UInt8) :=
  ((bytes.splitOn lineFeed).dropLast.map (Text.trimEnds isLineBlank)).filter fun line =>
    !line.isEmpty

/-- The bytes after the last line feed. -/
def openLine (bytes : List UInt8) : List UInt8 := bytes.rtakeWhile (· ≠ lineFeed)

/-- What the lines of a stream decode to, malformed ones included. -/
def streamResults (α : Type) [Resource α] (bytes : List UInt8) :
    List (Except LineError (Change α)) :=
  (contentLines bytes).map (Change.ofLine α)

/-- No line is begun at the end of the bytes. -/
def Closed (bytes : List UInt8) : Prop := bytes = [] ∨ ∃ body, bytes = body ++ [lineFeed]

theorem Closed.append {first second : List UInt8} (left : Closed first) (right : Closed second) :
    Closed (first ++ second) := by
  rcases right with rfl | ⟨body, rfl⟩
  · simpa using left
  · exact Or.inr ⟨first ++ body, by simp⟩

theorem contentLines_of_not_mem {bytes : List UInt8} (unfed : lineFeed ∉ bytes) :
    contentLines bytes = [] := by
  simp [contentLines, List.splitOn_eq_singleton unfed]

theorem contentLines_append {gone : List UInt8} (closed : Closed gone) (rest : List UInt8) :
    contentLines (gone ++ rest) = contentLines gone ++ contentLines rest := by
  rcases closed with rfl | ⟨body, rfl⟩
  · simp [contentLines, List.splitOn_nil]
  · have pieces (more : List UInt8) : (body ++ lineFeed :: more).splitOn lineFeed =
        body.splitOn lineFeed ++ more.splitOn lineFeed :=
      List.splitOn_append_cons_self body more
    -- The last piece of what is gone is empty, so the line left open is that of the rest.
    have last : rest.splitOn lineFeed ≠ [] := List.splitOn_ne_nil lineFeed rest
    rw [List.append_assoc, List.singleton_append]
    simp only [contentLines, pieces, List.splitOn_nil, List.dropLast_append_of_ne_nil last,
      List.dropLast_concat, List.map_append, List.filter_append]

/-- A line without its line feed holds nothing but itself. -/
theorem contentLines_line {line : List UInt8} (unfed : lineFeed ∉ line) :
    contentLines (line ++ [lineFeed]) =
      [Text.trimEnds isLineBlank line].filter fun line => !line.isEmpty := by
  have pieces : (line ++ [lineFeed]).splitOn lineFeed = [line, []] := by
    rw [List.splitOn_append_cons_self, List.splitOn_eq_singleton unfed, List.splitOn_nil]
    rfl
  simp [contentLines, pieces]

theorem openLine_append {gone rest : List UInt8} (closed : Closed gone)
    (unfed : lineFeed ∉ rest) : openLine (gone ++ rest) = rest := by
  have plain : ∀ byte ∈ rest.reverse, decide (byte ≠ lineFeed) = true := by
    intro byte member
    simpa using fun same : byte = lineFeed => unfed (same ▸ List.mem_reverse.mp member)
  rcases closed with rfl | ⟨body, rfl⟩
  · simpa [openLine, List.rtakeWhile_eq_self_iff] using plain
  · have turned : (body ++ [lineFeed] ++ rest).reverse =
        rest.reverse ++ lineFeed :: body.reverse := by simp
    rw [openLine, List.rtakeWhile, turned, List.takeWhile_append_of_pos plain,
      List.takeWhile_cons_of_neg (by simp), List.append_nil, List.reverse_reverse]

theorem streamResults_append (α : Type) [Resource α] {gone : List UInt8} (closed : Closed gone)
    (rest : List UInt8) :
    streamResults α (gone ++ rest) = streamResults α gone ++ streamResults α rest := by
  simp only [streamResults, contentLines_append closed, List.map_append]

theorem exists_closed_append (bytes : List UInt8) :
    ∃ gone rest, bytes = gone ++ rest ∧ Closed gone ∧ lineFeed ∉ rest := by
  induction bytes using List.reverseRecOn with
  | nil => exact ⟨[], [], rfl, Or.inl rfl, by simp⟩
  | append_singleton bytes byte ih =>
    by_cases fed : byte = lineFeed
    · exact ⟨bytes ++ [byte], [], by simp, Or.inr ⟨bytes, by rw [fed]⟩, by simp⟩
    · obtain ⟨gone, rest, rfl, closed, unfed⟩ := ih
      refine ⟨gone, rest ++ [byte], by simp, closed, ?_⟩
      simpa [unfed] using fun same : lineFeed = byte => fed same.symm

/-- What a stream has said is not taken back by the bytes that follow. -/
theorem streamResults_isPrefix (α : Type) [Resource α] (bytes more : List UInt8) :
    streamResults α bytes <+: streamResults α (bytes ++ more) := by
  obtain ⟨gone, rest, rfl, closed, unfed⟩ := exists_closed_append bytes
  have silent : streamResults α rest = [] := by
    rw [streamResults, contentLines_of_not_mem unfed, List.map_nil]
  rw [List.append_assoc, streamResults_append α closed, streamResults_append α closed, silent,
    List.append_nil]
  exact List.prefix_append _ _

/-! ## Taking lines -/

/-- Taking a line splits the bytes at hand into those taken, which are closed and hold that line
alone, and those left, which hold no line feed when there was no line to take. -/
theorem takeLine_splits (begun : List UInt8) (consumed : Nat) (bytes : List UInt8)
    (unfed : lineFeed ∉ begun) :
    ∃ gone rest, begun.reverse ++ bytes = gone ++ rest ∧ Closed gone ∧
      (takeLine begun consumed bytes).2 = consumed + gone.length ∧
      contentLines gone = (takeLine begun consumed bytes).1.toList ∧
      ((takeLine begun consumed bytes).1 = none → lineFeed ∉ rest) := by
  induction bytes generalizing begun consumed with
  | nil =>
    exact ⟨[], begun.reverse, by simp, Or.inl rfl, rfl, contentLines_of_not_mem (by simp),
      fun _ member => unfed (List.mem_reverse.mp member)⟩
  | cons byte bytes ih =>
    by_cases fed : byte = lineFeed
    · subst fed
      have line : lineFeed ∉ begun.reverse := fun member => unfed (List.mem_reverse.mp member)
      have content := contentLines_line line
      have ended : Closed (begun.reverse ++ [lineFeed]) := Or.inr ⟨begun.reverse, rfl⟩
      by_cases blank : (Text.trimEnds isLineBlank begun.reverse).isEmpty = true
      -- A blank line counts among the bytes taken with the line after it.
      · obtain ⟨gone, rest, whole, closed, count, lines, left⟩ :=
          ih [] (consumed + begun.length + 1) (by simp)
        simp only [takeLine, if_true, if_pos blank]
        refine ⟨begun.reverse ++ [lineFeed] ++ gone, rest, ?_, ended.append closed, ?_, ?_, left⟩
        · simpa using whole
        · rw [count]
          simp only [List.length_append, List.length_reverse, List.length_singleton]
          omega
        · rw [contentLines_append ended, content, lines]
          simp [blank]
      · simp only [takeLine, if_true, if_neg blank]
        exact ⟨begun.reverse ++ [lineFeed], bytes, by simp, ended, by simp; omega,
          by simp [content, blank], by simp⟩
    · simp only [takeLine, if_neg fed]
      have grown : lineFeed ∉ byte :: begun := by
        simpa [eq_comm (a := lineFeed), fed] using unfed
      simpa using ih (byte :: begun) consumed grown

namespace LineDecoder

variable {α : Type} [Resource α] {decoder rest : LineDecoder} {fed : List UInt8}
  {results : List (Except LineError (Change α))}

/-- The bytes fed to a decoder are those taken, which are closed and hold the results returned, and
those still to be taken. -/
def HasRead (decoder : LineDecoder) (fed : List UInt8)
    (results : List (Except LineError (Change α))) : Prop :=
  ∃ gone, fed = gone ++ decoder.pending ∧ Closed gone ∧ results = streamResults α gone

@[simp] theorem pending_feed (decoder : LineDecoder) (chunk : List UInt8) :
    (decoder.feed chunk).pending = decoder.pending ++ chunk := by
  unfold feed
  split
  next => simp [pending]
  next fresh =>
    have none : decoder.consumed = 0 := by omega
    simp [pending, none]

@[simp] theorem length_pending (decoder : LineDecoder) :
    decoder.pending.length = decoder.pendingLength := by
  simp [pending, pendingLength]

/-- Of the bytes that a decoder holds it has returned nothing yet. -/
theorem hasRead_pending (decoder : LineDecoder) : decoder.HasRead (α := α) decoder.pending [] :=
  ⟨[], rfl, Or.inl rfl, by simp [streamResults, contentLines_of_not_mem]⟩

theorem hasRead_new : ({} : LineDecoder).HasRead (α := α) [] [] := hasRead_pending {}

theorem HasRead.feed (read : decoder.HasRead fed results) (chunk : List UInt8) :
    (decoder.feed chunk).HasRead (fed ++ chunk) results := by
  obtain ⟨gone, whole, closed, returned⟩ := read
  exact ⟨gone, by simp [whole], closed, returned⟩

/-- Asking for a change returns what the next line decodes to. -/
theorem HasRead.next (read : decoder.HasRead fed results) :
    (decoder.next α).2.HasRead fed (results ++ (decoder.next α).1.toList) ∧
      ((decoder.next α).1 = none → lineFeed ∉ (decoder.next α).2.pending) := by
  obtain ⟨gone, whole, closed, returned⟩ := read
  obtain ⟨taken, left, split, ended, count, lines, unfed⟩ :=
    takeLine_splits [] decoder.consumed decoder.pending (by simp)
  -- What was consumed before counts from the start of the buffer, as does what is consumed now.
  have pending : (decoder.next α).2.pending = left := by
    change decoder.buffer.drop (takeLine [] decoder.consumed decoder.pending).2 = left
    rw [count, ← List.drop_drop]
    change decoder.pending.drop taken.length = left
    rw [show decoder.pending = taken ++ left by simpa using split, List.drop_left]
  have result : streamResults α taken = (decoder.next α).1.toList := by
    rw [streamResults, lines]
    cases found : (takeLine [] decoder.consumed decoder.pending).1 <;>
      simp [LineDecoder.next, found]
  refine ⟨⟨gone ++ taken, ?_, closed.append ended, ?_⟩, ?_⟩
  · rw [whole, pending, List.append_assoc, ← split, List.reverse_nil, List.nil_append]
  · rw [streamResults_append α closed, returned, result]
  · rw [pending]
    intro exhausted
    apply unfed
    simpa [LineDecoder.next] using exhausted

/-- A result is returned only with bytes taken. -/
theorem length_pending_of_next {result : Except LineError (Change α)}
    (taken : decoder.next α = (some result, rest)) :
    rest.pending.length < decoder.pending.length := by
  obtain ⟨gone, whole, -, returned⟩ := (decoder.hasRead_pending (α := α)).next.1
  rw [taken] at whole returned
  have something : gone ≠ [] := by
    rintro rfl
    simp [streamResults, contentLines_of_not_mem] at returned
  have counted : decoder.pending.length = gone.length + rest.pending.length := by
    rw [whole, List.length_append]
  have := List.length_pos_of_ne_nil something
  omega

theorem HasRead.isPrefix (read : decoder.HasRead fed results) :
    results <+: streamResults α fed := by
  obtain ⟨gone, rfl, closed, rfl⟩ := read
  exact ⟨streamResults α decoder.pending, (streamResults_append α closed _).symm⟩

/-- Where no line feed is left everything has been returned, and the line begun is what is left. -/
theorem HasRead.of_not_mem (read : decoder.HasRead fed results)
    (unfed : lineFeed ∉ decoder.pending) :
    results = streamResults α fed ∧ openLine fed = decoder.pending := by
  obtain ⟨gone, rfl, closed, rfl⟩ := read
  refine ⟨?_, openLine_append closed unfed⟩
  rw [streamResults_append α closed, streamResults, streamResults,
    contentLines_of_not_mem unfed, List.map_nil, List.append_nil]

theorem HasRead.next_eq_none_iff (read : decoder.HasRead fed results) :
    (decoder.next α).1 = none ↔ results = streamResults α fed := by
  obtain ⟨after, unfed⟩ := read.next
  constructor
  · intro exhausted
    simpa [exhausted] using (after.of_not_mem (unfed exhausted)).1
  · intro all
    cases found : (decoder.next α).1 with
    | none => rfl
    | some result =>
      -- One more result would make what was returned longer than all there is.
      have bound := after.isPrefix.length_le
      simp only [found, all, Option.toList_some, List.length_append,
        List.length_singleton] at bound
      omega

end LineDecoder

/-! ## Decoders in use -/

/-- What is done with a decoder. -/
inductive DecoderUse where
  | feed (chunk : List UInt8)
  | next

/-- A decoder in use, with all bytes fed to it and all results it has returned so far. -/
structure Reading (α : Type) where
  decoder : LineDecoder := {}
  fed : List UInt8 := []
  returned : List (Except LineError (Change α)) := []

namespace Reading

variable {α : Type} [Resource α]

def use (reading : Reading α) : DecoderUse → Reading α
  | .feed chunk =>
    { reading with decoder := reading.decoder.feed chunk, fed := reading.fed ++ chunk }
  | .next =>
    { reading with
      decoder := (reading.decoder.next α).2
      returned := reading.returned ++ (reading.decoder.next α).1.toList }

/-- A new decoder after several uses. -/
def ofUses (uses : List DecoderUse) : Reading α := uses.foldl use {}

def Sound (reading : Reading α) : Prop := reading.decoder.HasRead reading.fed reading.returned

theorem Sound.use {reading : Reading α} (sound : reading.Sound) (act : DecoderUse) :
    (reading.use act).Sound := by
  cases act with
  | feed chunk => exact sound.feed chunk
  | next => exact sound.next.1

theorem sound_ofUses (uses : List DecoderUse) : (ofUses uses : Reading α).Sound := by
  have kept (reading : Reading α) (sound : reading.Sound) :
      (uses.foldl Reading.use reading).Sound := by
    induction uses generalizing reading with
    | nil => exact sound
    | cons act uses ih => exact ih _ (sound.use act)
  exact kept {} LineDecoder.hasRead_new

/-- However a stream is cut into chunks, and whenever a decoder is asked, what it has returned so
far is a beginning of what the stream says; it returns nothing just when it has returned all of it,
and then what it still holds, and would discard, is the line begun. -/
theorem returned_independent_of_chunks (uses : List DecoderUse) :
    let reading : Reading α := ofUses uses
    reading.returned <+: streamResults α reading.fed ∧
    ((reading.decoder.next α).1 = none ↔ reading.returned = streamResults α reading.fed) ∧
    match reading.decoder.next α with
    | (some result, _) => reading.returned ++ [result] <+: streamResults α reading.fed
    | (none, rest) =>
      rest.pendingLength = (openLine reading.fed).length ∧
        rest.finish = (openLine reading.fed).length := by
  intro reading
  have sound : reading.Sound := sound_ofUses uses
  refine ⟨sound.isPrefix, sound.next_eq_none_iff, ?_⟩
  obtain ⟨after, unfed⟩ := sound.next
  rcases found : reading.decoder.next α with ⟨_ | result, rest⟩ <;> rw [found] at after unfed
  · have left := (after.of_not_mem (unfed rfl)).2
    rw [left, LineDecoder.length_pending]
    exact ⟨rfl, rfl⟩
  · exact after.isPrefix

/-- A blank line that is cut within its end leaves nothing behind. -/
example :
    let reading : Reading UntypedObject := ofUses [.feed [0x20, 0x0D], .next, .feed [0x0A, 0x7B], .next]
    (reading.returned.length, reading.decoder.finish) = (0, 1) := by
  decide

end Reading

end ListWatch
