import ListWatch.Proofs.Event.Noise
import ListWatch.Resource.Untyped

/-!
# Pushing chunks

To push a chunk is to feed it and to take all lines then held, up to the first that is malformed.
What a push gives depends on the bytes held and fed alone: the changes of their lines, or the error
of the first malformed one, with which it stops right after that line. So a push that succeeds
leaves nothing but the line begun, and the next one goes on as if both chunks had come together.
-/
namespace ListWatch

variable {α : Type} [Resource α]

/-! ## Results until the first error -/

omit [Resource α] in
theorem mapM_ok (changes : List (Change α)) :
    (changes.map Except.ok : List (Except LineError (Change α))).mapM id = .ok changes := by
  induction changes with
  | nil => rfl
  | cons change changes ih => rw [List.map_cons, List.mapM_cons, ih]; rfl

omit [Resource α] in
/-- The first error decides, whatever comes after it. -/
theorem mapM_error (changes : List (Change α)) (error : LineError)
    (more : List (Except LineError (Change α))) :
    (changes.map Except.ok ++ Except.error error :: more).mapM id = .error error := by
  induction changes with
  | nil => rfl
  | cons change changes ih => rw [List.map_cons, List.cons_append, List.mapM_cons, ih]; rfl

/-! ## The line that is taken -/

/-- A line that is taken ends where the bytes taken end, and only blank lines come before it. -/
theorem takeLine_eq_some {begun bytes content : List UInt8} {consumed taken : Nat}
    (unfed : lineFeed ∉ begun) (found : takeLine begun consumed bytes = (some content, taken)) :
    ∃ blank line rest, begun.reverse ++ bytes = blank ++ line ++ lineFeed :: rest ∧
      Closed blank ∧ contentLines blank = [] ∧ lineFeed ∉ line ∧
      Text.trimEnds isLineBlank line = content ∧ content ≠ [] ∧
      taken = consumed + (blank ++ line ++ [lineFeed]).length := by
  -- Along the bytes, with the line begun that they go on with.
  induction bytes generalizing begun consumed with
  | nil => cases found
  | cons byte bytes ih =>
    by_cases fed : byte = lineFeed
    · subst fed
      have line : lineFeed ∉ begun.reverse := fun member => unfed (List.mem_reverse.mp member)
      rw [takeLine, if_pos rfl] at found
      by_cases blank : (Text.trimEnds isLineBlank begun.reverse).isEmpty = true
      · -- The line begun is blank, and joins the blank lines before the one that is taken.
        simp only [if_pos blank] at found
        obtain ⟨before, content, rest, whole, closed, empty, unfed, trimmed, filled, count⟩ :=
          ih (by simp) found
        have ended : Closed (begun.reverse ++ [lineFeed]) := Or.inr ⟨begun.reverse, rfl⟩
        refine ⟨begun.reverse ++ [lineFeed] ++ before, content, rest, ?_, ended.append closed, ?_,
          unfed, trimmed, filled, ?_⟩
        · simpa using whole
        · rw [contentLines_append ended, contentLines_line line, empty]
          simp [blank]
        · rw [count]
          simp
          omega
      · simp only [if_neg blank, Prod.mk.injEq, Option.some.injEq] at found
        obtain ⟨rfl, rfl⟩ := found
        refine ⟨[], begun.reverse, bytes, rfl, Or.inl rfl, contentLines_of_not_mem (by simp), line,
          rfl, by simpa using blank, by simp; omega⟩
    · rw [takeLine, if_neg fed] at found
      have grown : lineFeed ∉ byte :: begun := by
        simpa [eq_comm (a := lineFeed), fed] using unfed
      simpa using ih grown found

/-- How many bytes were taken before makes no difference to the line that is taken. -/
theorem takeLine_eq (begun bytes : List UInt8) (consumed : Nat) :
    takeLine begun consumed bytes =
      ((takeLine begun 0 bytes).1, consumed + (takeLine begun 0 bytes).2) := by
  induction bytes generalizing begun consumed with
  | nil => rfl
  | cons byte bytes ih =>
    simp only [takeLine]
    split
    · split
      · rw [ih [] (consumed + begun.length + 1), ih [] (0 + begun.length + 1)]
        simp only [Prod.mk.injEq, true_and]
        omega
      · simp only [Prod.mk.injEq, true_and]
        omega
    · exact ih (byte :: begun) consumed

namespace LineDecoder

variable {decoder first second rest : LineDecoder} {bytes : List UInt8}

theorem pending_next (decoder : LineDecoder) :
    (decoder.next α).2.pending =
      decoder.pending.drop (takeLine [] 0 decoder.pending).2 := by
  change decoder.buffer.drop (takeLine [] decoder.consumed decoder.pending).2 = _
  rw [takeLine_eq, ← List.drop_drop]
  rfl

theorem next_fst (decoder : LineDecoder) :
    (decoder.next α).1 = (takeLine [] 0 decoder.pending).1.map (Change.ofLine α) := by
  rw [next, takeLine_eq]

/-- The result returned is that of a line, and what is left begins after that line. -/
theorem next_eq_some {result : Except LineError (Change α)}
    (taken : decoder.next α = (some result, rest)) :
    ∃ blank line, decoder.pending = blank ++ line ++ lineFeed :: rest.pending ∧ Closed blank ∧
      streamResults α blank = [] ∧ lineFeed ∉ line ∧ lineResult? α line = some result := by
  have left := decoder.pending_next (α := α)
  have returned := decoder.next_fst (α := α)
  rw [taken] at left returned
  rcases found : takeLine [] 0 decoder.pending with ⟨_ | content, count⟩ <;>
    rw [found] at left returned
  · -- Without a line there is no result.
    cases returned
  · cases returned
    obtain ⟨blank, line, tail, whole, closed, empty, unfed, rfl, filled, rfl⟩ :=
      takeLine_eq_some (by simp) found
    rw [List.reverse_nil, List.nil_append] at whole
    have split : decoder.pending = blank ++ line ++ [lineFeed] ++ tail := by simpa using whole
    rw [split, Nat.zero_add, List.drop_left] at left
    exact ⟨blank, line, left ▸ whole, closed, by rw [streamResults, empty, List.map_nil], unfed,
      by simp [lineResult?, filled]⟩

/-- When nothing is returned what is left is no line, and no result is lost. -/
theorem next_eq_none (taken : decoder.next α = (none, rest)) :
    ∃ gone, decoder.pending = gone ++ rest.pending ∧ Closed gone ∧ streamResults α gone = [] ∧
      lineFeed ∉ rest.pending := by
  obtain ⟨⟨gone, split, closed, returned⟩, unfed⟩ := (decoder.hasRead_pending (α := α)).next
  rw [taken] at split returned unfed
  exact ⟨gone, split, closed, returned.symm, unfed rfl⟩

end LineDecoder

/-! ## Draining -/

/-- What taking the lines of some bytes comes to: all of them are taken, or those up to the first
that is malformed. -/
inductive Drained (bytes : List UInt8) :
    Except LineError (List (Change α)) × LineDecoder → Prop where
  | whole {gone rest} {changes : List (Change α)} : bytes = gone ++ rest.pending → Closed gone →
      streamResults α gone = changes.map .ok → lineFeed ∉ rest.pending →
      Drained bytes (.ok changes, rest)
  | malformed {before line error rest} {changes : List (Change α)} :
      bytes = before ++ line ++ lineFeed :: rest.pending → Closed before →
      streamResults α before = changes.map .ok → lineFeed ∉ line →
      lineResult? α line = some (.error error) → Drained bytes (.error error, rest)

namespace Drained

variable {bytes more gone : List UInt8} {changes : List (Change α)} {error : LineError}
  {rest : LineDecoder} {outcome : Except LineError (List (Change α)) × LineDecoder}

private theorem results_append {first second : List (Change α)} (closed : Closed gone)
    (earlier : streamResults α gone = first.map .ok)
    (later : streamResults α more = second.map .ok) :
    streamResults α (gone ++ more) = (first ++ second).map .ok := by
  rw [streamResults_append α closed, earlier, later, List.map_append]

/-- Lines that were taken before come first. -/
theorem after (drained : Drained bytes outcome) (closed : Closed gone)
    (earlier : streamResults α gone = changes.map .ok) :
    Drained (gone ++ bytes) (outcome.1.map (changes ++ ·), outcome.2) := by
  cases drained with
  | whole split ended results unfed =>
    exact .whole (by rw [split, List.append_assoc]) (closed.append ended)
      (results_append closed earlier results) unfed
  | malformed split ended results unfed wrong =>
    exact .malformed (by rw [split]; simp) (closed.append ended)
      (results_append closed earlier results) unfed wrong

/-- Bytes that come after lines that were all taken are taken with the line begun. -/
theorem append (drained : Drained bytes (.ok changes, rest))
    (further : Drained (rest.pending ++ more) outcome) :
    Drained (bytes ++ more) (outcome.1.map (changes ++ ·), outcome.2) := by
  cases drained with
  | whole split closed results _ =>
    rw [split, List.append_assoc]
    exact further.after closed results

/-- What the bytes say begins with the changes before a malformed line, and its error. -/
theorem streamResults_eq (drained : Drained (α := α) bytes (.error error, rest)) :
    ∃ changes : List (Change α), streamResults α bytes =
      changes.map .ok ++ .error error :: streamResults α rest.pending := by
  cases drained with
  | @malformed _ _ _ _ changes split closed results unfed wrong =>
    refine ⟨changes, ?_⟩
    rw [split, List.append_assoc, streamResults_append α closed, results,
      streamResults_line unfed, wrong]
    rfl

/-- Without a malformed line the bytes say the changes, and a line is begun at most. -/
theorem streamResults_eq_map (drained : Drained bytes (.ok changes, rest)) :
    streamResults α bytes = changes.map .ok ∧ openLine bytes = rest.pending := by
  cases drained with
  | whole split closed results unfed =>
    have silent : streamResults α rest.pending = [] := by
      rw [streamResults, contentLines_of_not_mem unfed, List.map_nil]
    rw [split, streamResults_append α closed, results, silent, List.append_nil]
    exact ⟨rfl, openLine_append closed unfed⟩

/-- All changes are returned when no line is malformed, and the first error otherwise. -/
theorem mapM_eq (drained : Drained bytes outcome) :
    (streamResults α bytes).mapM id = outcome.1 := by
  obtain ⟨result, rest⟩ := outcome
  cases result with
  | ok changes => rw [drained.streamResults_eq_map.1, mapM_ok]
  | error error =>
    obtain ⟨changes, results⟩ := drained.streamResults_eq
    rw [results, mapM_error]

/-- What follows a malformed line does not change which error comes first. -/
theorem mapM_append (drained : Drained (α := α) bytes (.error error, rest)) (more : List UInt8) :
    (streamResults α (bytes ++ more)).mapM id = .error error := by
  obtain ⟨changes, results⟩ := drained.streamResults_eq
  obtain ⟨later, grown⟩ := streamResults_isPrefix α bytes more
  rw [← grown, results, List.append_assoc, List.cons_append, mapM_error]

end Drained

namespace LineDecoder

variable {decoder first second rest : LineDecoder}

theorem drained_drainFrom {fuel : Nat} (enough : decoder.pending.length < fuel) :
    Drained decoder.pending (decoder.drainFrom α fuel) := by
  induction fuel generalizing decoder with
  | zero => omega
  | succ fuel ih =>
    rcases taken : decoder.next α with ⟨_ | _ | change, rest⟩ <;>
      simp only [drainFrom, taken]
    · obtain ⟨gone, split, closed, nothing, unfed⟩ := next_eq_none taken
      exact .whole split closed nothing unfed
    · obtain ⟨blank, line, split, closed, nothing, unfed, wrong⟩ := next_eq_some taken
      have none : streamResults α blank = ([] : List (Change α)).map .ok := nothing
      exact .malformed split closed none unfed wrong
    · obtain ⟨blank, line, split, closed, nothing, unfed, right⟩ := next_eq_some taken
      have shorter := length_pending_of_next taken
      have ended : Closed (blank ++ line ++ [lineFeed]) := Or.inr ⟨blank ++ line, rfl⟩
      have single : streamResults α (blank ++ line ++ [lineFeed]) = [change].map .ok := by
        rw [List.append_assoc, streamResults_append α closed, streamResults_line unfed, right,
          nothing]
        rfl
      have whole : decoder.pending = blank ++ line ++ [lineFeed] ++ rest.pending := by
        simpa using split
      -- The line that was taken comes before what is drained from the rest.
      rw [whole]
      exact (ih (by omega)).after ended single

theorem drained_drain (decoder : LineDecoder) : Drained decoder.pending (decoder.drain α) :=
  drained_drainFrom (Nat.lt_succ_self _)

theorem drained_push (decoder : LineDecoder) (chunk : List UInt8) :
    Drained (decoder.pending ++ chunk) (decoder.push α chunk) := by
  rw [← pending_feed]
  exact drained_drain _

variable (α) in
/-- Pushes chunks one after the other, up to the first push that fails. -/
def pushAll (decoder : LineDecoder) :
    List (List UInt8) → Except LineError (List (Change α)) × LineDecoder
  | [] => (.ok [], decoder)
  | chunk :: chunks =>
    match decoder.push α chunk with
    | (.error error, rest) => (.error error, rest)
    | (.ok changes, rest) =>
      let (more, last) := rest.pushAll chunks
      (more.map (changes ++ ·), last)

variable {chunk : List UInt8} {chunks : List (List UInt8)} {changes : List (Change α)}
  {error : LineError}

theorem pushAll_cons_of_error (failed : decoder.push α chunk = (.error error, rest)) :
    decoder.pushAll α (chunk :: chunks) = (.error error, rest) := by
  rw [pushAll, failed]

theorem pushAll_cons_of_ok (pushed : decoder.push α chunk = (.ok changes, rest)) :
    decoder.pushAll α (chunk :: chunks) =
      ((rest.pushAll α chunks).1.map (changes ++ ·), (rest.pushAll α chunks).2) := by
  rw [pushAll, pushed]

/-- Pushes come to what taking the lines of all chunks pushed comes to. Without a push, lines may be
left that were held before. -/
theorem exists_drained_pushAll (settled : chunks = [] → lineFeed ∉ decoder.pending) :
    ∃ pushed, pushed <+: chunks.flatten ∧
      Drained (decoder.pending ++ pushed) (decoder.pushAll α chunks) ∧
      ((decoder.pushAll α chunks).1.isOk = true → pushed = chunks.flatten) := by
  -- After a push that succeeds only a line begun is left, so no push need follow it.
  induction chunks generalizing decoder with
  | nil =>
    refine ⟨[], List.nil_prefix, ?_, fun _ => rfl⟩
    rw [List.append_nil]
    have nothing : streamResults α [] = ([] : List (Change α)).map .ok := rfl
    exact .whole (List.nil_append _).symm (Or.inl rfl) nothing (settled rfl)
  | cons chunk chunks ih =>
    have first := decoder.drained_push (α := α) chunk
    rw [List.flatten_cons]
    rcases pushed : decoder.push α chunk with ⟨error | changes, rest⟩ <;> rw [pushed] at first
    · rw [pushAll_cons_of_error pushed]
      exact ⟨chunk, List.prefix_append _ _, first, fun succeeds => by cases succeeds⟩
    · have unfed : lineFeed ∉ rest.pending := by
        cases first with
        | whole _ _ _ unfed => exact unfed
      obtain ⟨more, initial, further, all⟩ := @ih rest fun _ => unfed
      rw [pushAll_cons_of_ok pushed]
      refine ⟨chunk ++ more, (List.prefix_append_right_inj chunk).mpr initial, ?_, ?_⟩
      · rw [← List.append_assoc]
        exact first.append further
      · intro succeeds
        have same : (rest.pushAll α chunks).1.isOk = true := by
          rw [← succeeds]
          cases (rest.pushAll α chunks).1 <;> rfl
        rw [all same]

/-- However bytes are cut, pushing the pieces gives what pushing them whole gives; and the decoders
hold the same bytes when that succeeds. -/
theorem pushAll_eq_push (decoder : LineDecoder) (pieces : chunks ≠ []) :
    (decoder.pushAll α chunks).1 = (decoder.push α chunks.flatten).1 ∧
      ((decoder.pushAll α chunks).1.isOk = true →
        (decoder.pushAll α chunks).2.pending = (decoder.push α chunks.flatten).2.pending) := by
  obtain ⟨pushed, ⟨unpushed, split⟩, drained, all⟩ :=
    exists_drained_pushAll (α := α) fun none => absurd none pieces
  have whole := decoder.drained_push (α := α) chunks.flatten
  rcases outcome : decoder.pushAll α chunks with ⟨error | changes, rest⟩ <;>
    rw [outcome] at drained all
  · -- The pieces after the malformed line are not pushed, and would not matter.
    have failed := drained.mapM_append unpushed
    rw [List.append_assoc, split, whole.mapM_eq] at failed
    exact ⟨failed.symm, fun succeeds => by cases succeeds⟩
  · rw [all rfl] at drained
    have succeeded : (decoder.push α chunks.flatten).1 = .ok changes := by
      rw [← whole.mapM_eq, drained.mapM_eq]
    refine ⟨succeeded.symm, fun _ => ?_⟩
    -- What is left of either is the line begun in the bytes as a whole.
    rw [← Prod.eta (decoder.push α chunks.flatten), succeeded] at whole
    rw [← drained.streamResults_eq_map.2, whole.streamResults_eq_map.2]

/-! ## Decoders that hold the same bytes -/

variable {first second : LineDecoder}

theorem next_congr (same : first.pending = second.pending) :
    (first.next α).1 = (second.next α).1 ∧
      (first.next α).2.pending = (second.next α).2.pending := by
  constructor
  · rw [next_fst, next_fst, same]
  · rw [pending_next, pending_next, same]

theorem drainFrom_congr (fuel : Nat) (same : first.pending = second.pending) :
    (first.drainFrom α fuel).1 = (second.drainFrom α fuel).1 ∧
      (first.drainFrom α fuel).2.pending = (second.drainFrom α fuel).2.pending := by
  induction fuel generalizing first second with
  | zero => exact ⟨rfl, same⟩
  | succ fuel ih =>
    -- Both find the same line or none, and hold the same bytes after it.
    obtain ⟨result, left⟩ := next_congr (α := α) same
    rcases taken : first.next α with ⟨_ | _ | change, rest⟩ <;>
      rcases taken' : second.next α with ⟨_, rest'⟩ <;>
      rw [taken, taken'] at result left <;> cases result <;>
      simp only [drainFrom, taken, taken', true_and]
    · exact left
    · exact left
    · obtain ⟨drained, final⟩ := ih left
      exact ⟨by rw [drained], final⟩

theorem drain_congr (same : first.pending = second.pending) :
    (first.drain α).1 = (second.drain α).1 ∧
      (first.drain α).2.pending = (second.drain α).2.pending := by
  rw [drain, drain, same]
  exact drainFrom_congr _ same

theorem push_congr (same : first.pending = second.pending) (chunk : List UInt8) :
    (first.push α chunk).1 = (second.push α chunk).1 ∧
      (first.push α chunk).2.pending = (second.push α chunk).2.pending :=
  drain_congr (by rw [pending_feed, pending_feed, same])

end LineDecoder

/-- What is asked of a decoder. -/
inductive DecoderCall where
  | feed (chunk : List UInt8)
  | next
  | push (chunk : List UInt8)
  | pendingLength

inductive DecoderAnswer (α : Type) where
  | fed
  | taken (result : Option (Except LineError (Change α)))
  | pushed (result : Except LineError (List (Change α)))
  | holds (length : Nat)

namespace LineDecoder

section Calls

variable (α)

def answer (decoder : LineDecoder) : DecoderCall → DecoderAnswer α × LineDecoder
  | .feed chunk => (.fed, decoder.feed chunk)
  | .next => ((decoder.next α).map .taken id)
  | .push chunk => ((decoder.push α chunk).map .pushed id)
  | .pendingLength => (.holds decoder.pendingLength, decoder)

/-- What a decoder answers to several calls. -/
def answers (decoder : LineDecoder) : List DecoderCall → List (DecoderAnswer α)
  | [] => []
  | call :: calls => (decoder.answer α call).1 :: (decoder.answer α call).2.answers calls

end Calls

variable {first second : LineDecoder}

theorem answer_congr (same : first.pending = second.pending) (call : DecoderCall) :
    (first.answer α call).1 = (second.answer α call).1 ∧
      (first.answer α call).2.pending = (second.answer α call).2.pending := by
  cases call with
  | feed chunk => exact ⟨rfl, by rw [answer, answer, pending_feed, pending_feed, same]⟩
  | next => exact ⟨congrArg DecoderAnswer.taken (next_congr same).1, (next_congr (α := α) same).2⟩
  | push chunk =>
    exact ⟨congrArg DecoderAnswer.pushed (push_congr same chunk).1,
      (push_congr (α := α) same chunk).2⟩
  | pendingLength =>
    exact ⟨by rw [answer, answer, ← length_pending, ← length_pending, same], same⟩

/-- Decoders that hold the same bytes cannot be told apart. -/
theorem answers_congr (same : first.pending = second.pending) (calls : List DecoderCall) :
    first.answers α calls = second.answers α calls := by
  induction calls generalizing first second with
  | nil => rfl
  | cons call calls ih =>
    obtain ⟨answer, left⟩ := answer_congr (α := α) same call
    rw [answers, answers, answer, ih left]

/-! ## Results after a failure -/

theorem resultsFrom_eq {fuel : Nat} {decoder : LineDecoder}
    (enough : decoder.pending.length < fuel) :
    (decoder.resultsFrom α fuel).1 = streamResults α decoder.pending := by
  induction fuel generalizing decoder with
  | zero => omega
  | succ fuel ih =>
    rcases taken : decoder.next α with ⟨_ | result, rest⟩ <;> simp only [resultsFrom, taken]
    · obtain ⟨gone, split, closed, nothing, unfed⟩ := next_eq_none taken
      rw [split, streamResults_append α closed, nothing, streamResults,
        contentLines_of_not_mem unfed]
      rfl
    · obtain ⟨blank, line, split, closed, nothing, unfed, returned⟩ := next_eq_some taken
      have shorter := length_pending_of_next taken
      rw [ih (by omega), split, List.append_assoc, streamResults_append α closed,
        streamResults_line unfed, returned, nothing]
      rfl

end LineDecoder

/-- However bytes are cut into chunks, and whatever a decoder holds before, pushing the chunks one by
one succeeds just when pushing the bytes at once does, with the same changes, and fails with the same
error otherwise; after a success the decoders hold the same bytes and answer alike for ever. A push
succeeds when no line of the bytes held and pushed is malformed, with the changes of all lines. When
it fails it has taken the lines up to the first that is malformed, whose error it returns, and no
byte more; what can still be taken are the results of the lines after that. -/
theorem push_independent_of_cuts (decoder : LineDecoder) (chunk : List UInt8)
    (chunks : List (List UInt8)) :
    let whole := decoder.push α (chunk :: chunks).flatten
    let pieces := decoder.pushAll α (chunk :: chunks)
    pieces.1 = whole.1 ∧
    (pieces.1.isOk = true → pieces.2.pending = whole.2.pending ∧
      ∀ calls, pieces.2.answers α calls = whole.2.answers α calls) ∧
    ∀ bytes, match decoder.push α bytes with
      | (.ok changes, _) => streamResults α (decoder.pending ++ bytes) = changes.map .ok
      | (.error error, rest) =>
        ∃ (before line : List UInt8) (changes : List (Change α)),
          decoder.pending ++ bytes = before ++ line ++ lineFeed :: rest.pending ∧ Closed before ∧
          streamResults α before = changes.map .ok ∧ lineFeed ∉ line ∧
          lineResult? α line = some (.error error) ∧
          streamResults α (decoder.pending ++ bytes) =
            changes.map .ok ++ .error error :: (rest.results α).1 ∧
          (rest.results α).1 = streamResults α rest.pending := by
  intro whole pieces
  obtain ⟨same, alike⟩ := decoder.pushAll_eq_push (α := α) (List.cons_ne_nil chunk chunks)
  refine ⟨same, ?_, ?_⟩
  · intro succeeds
    exact ⟨alike succeeds, LineDecoder.answers_congr (alike succeeds)⟩
  · intro bytes
    have drained := decoder.drained_push (α := α) bytes
    rcases pushed : decoder.push α bytes with ⟨error | changes, rest⟩ <;> rw [pushed] at drained
    · have left : (rest.results α).1 = streamResults α rest.pending :=
        LineDecoder.resultsFrom_eq (Nat.lt_succ_self _)
      cases drained with
      | @malformed before line _ _ changes split closed results unfed wrong =>
        refine ⟨before, line, changes, split, closed, results, unfed, wrong, ?_, left⟩
        rw [left, split, List.append_assoc, streamResults_append α closed, results,
          streamResults_line unfed, wrong]
        rfl
    · exact drained.streamResults_eq_map.1

namespace Sample

/-- A decoder that holds a whole line and the beginning of another. -/
def holding : LineDecoder :=
  ({} : LineDecoder).feed (Utf8.ofString "\x7b\"type\":\"A\"\x7d\n\x7b\"type\"")

/-- The end of that line, cut between its last two bytes. -/
def lineEnd : List (List UInt8) := [Utf8.ofString ":\"B\"\x7d\r", [lineFeed]]

theorem pushed_in_two_pieces :
    (holding.pushAll UntypedObject lineEnd).1 = .ok [.unknown "A", .unknown "B"] ∧
      (holding.pushAll UntypedObject lineEnd).2.pending = [] := by
  obtain ⟨same, alike, -⟩ := push_independent_of_cuts (α := UntypedObject) holding
    (Utf8.ofString ":\"B\"\x7d\r") [[lineFeed]]
  have whole : (holding.push UntypedObject lineEnd.flatten).1 =
      .ok [.unknown "A", .unknown "B"] := by decide +kernel
  have left : (holding.push UntypedObject lineEnd.flatten).2.pending = [] := by decide +kernel
  have succeeds : (holding.pushAll UntypedObject lineEnd).1 = _ := same.trans whole
  exact ⟨succeeds, (alike (congrArg Except.isOk succeeds)).1.trans left⟩

end Sample

end ListWatch
