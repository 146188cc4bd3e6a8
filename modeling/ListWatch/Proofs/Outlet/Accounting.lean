import Mathlib.Algebra.Group.Nat.Defs
import ListWatch.Outlet.Basic

/-!
# What the readers of an outlet are told

Whatever is done with an outlet, and in whatever order, the readers of its notices lose nothing
without being told: what a reader received and what it was told it lost are the notices emitted since
it joined, one after the other. What it is told next depends on how many of them it has not been told
of, and on nothing that another reader does. A reader of the snapshots gets the one published last.
-/
namespace ListWatch

/-! ## Buffers -/

/-- What a result accounts for: the event received, or a gap for each event that was lost. -/
def Received.accounted {ε : Type} : Received ε → List (Option ε)
  | .event received => [some received]
  | .lagged skipped => List.replicate skipped none
  | .empty | .closed => []

namespace EventBuffer

variable {ε : Type} {buffer : EventBuffer ε} {events : List ε} {index next : Nat}

theorem roomFor_least (size : Nat) :
    ∃ power, roomFor size = 2 ^ power ∧ max size 1 ≤ 2 ^ power ∧ 2 ^ power < 2 * max size 1 := by
  by_cases small : size ≤ 1
  · refine ⟨0, if_pos small, ?_, ?_⟩ <;> omega
  · have below := Nat.log2_self_le (n := size - 1) (by omega)
    have above := Nat.lt_log2_self (n := size - 1)
    have double := Nat.pow_succ (n := 2) (m := (size - 1).log2)
    refine ⟨(size - 1).log2 + 1, if_neg small, ?_, ?_⟩ <;> omega

/-- The buffer holds the last of the events emitted so far, as many as there is room for. -/
structure Holds (buffer : EventBuffer ε) (events : List ε) : Prop where
  room : 0 < buffer.capacity
  dropped : buffer.dropped = events.length - buffer.capacity
  held : buffer.held = events.drop buffer.dropped

theorem holds_ofSize (size : Nat) : (ofSize size : EventBuffer ε).Holds [] := by
  obtain ⟨power, same, -, -⟩ := roomFor_least size
  refine ⟨?_, (Nat.zero_sub _).symm, rfl⟩
  change 0 < roomFor size
  rw [same]
  exact Nat.two_pow_pos power

namespace Holds

theorem length_held (holds : buffer.Holds events) :
    buffer.held.length = min events.length buffer.capacity := by
  rw [holds.held, List.length_drop, holds.dropped]
  omega

theorem emitted_eq (holds : buffer.Holds events) : buffer.emitted = events.length := by
  rw [emitted, holds.length_held, holds.dropped]
  omega

theorem emit (holds : buffer.Holds events) (event : ε) :
    (buffer.emit event).Holds (events ++ [event]) := by
  have length := holds.length_held
  have room := holds.room
  have dropped := holds.dropped
  rw [EventBuffer.emit]
  split
  · -- There is room, so nothing was dropped so far.
    have none : buffer.dropped = 0 := by omega
    constructor
    · exact room
    · simp only [List.length_append, List.length_singleton]
      omega
    · simp [holds.held, none]
  · have within : buffer.dropped + 1 ≤ events.length := by omega
    constructor
    · exact room
    · simp only [List.length_append, List.length_singleton]
      omega
    · simp only
      rw [holds.held, List.drop_drop, List.drop_append_of_le_length within]

end Holds

/-- What a reader gets that goes on with the event of this number. -/
def answerAt (capacity : Nat) (events : List ε) (next : Nat) : Received ε :=
  if capacity < events.length - next then .lagged (events.length - next - capacity)
  else match events[next]? with
    | some event => .event event
    | none => .empty

theorem setReader_self (joined : buffer.readers[index]? = some next) :
    buffer.setReader index next = buffer := by
  obtain ⟨within, same⟩ := List.getElem?_eq_some_iff.mp joined
  rw [setReader, ← same, List.set_getElem_self]

/-- A reader is answered by the number of the event it goes on with, and goes on after whatever it was
told of. -/
theorem receive_eq (holds : buffer.Holds events) (joined : buffer.readers[index]? = some next) :
    (buffer.receive index).2 = answerAt buffer.capacity events next ∧
      (buffer.receive index).1 = buffer.setReader index
        (next + (answerAt buffer.capacity events next).accounted.length) := by
  have dropped := holds.dropped
  simp only [receive, joined]
  -- A reader lags just when the event it is to get next was dropped.
  by_cases behind : next < buffer.dropped
  · have late : buffer.capacity < events.length - next := by omega
    have lost : events.length - next - buffer.capacity = buffer.dropped - next := by omega
    have resumed : next + (buffer.dropped - next) = buffer.dropped := by omega
    simp [answerAt, behind, late, lost, Received.accounted, resumed]
  · have timely : ¬ buffer.capacity < events.length - next := by
      have room := holds.room
      omega
    have place : buffer.dropped + (next - buffer.dropped) = next := by omega
    have found : buffer.held[next - buffer.dropped]? = events[next]? := by
      rw [holds.held, List.getElem?_drop, place]
    simp only [if_neg behind, found, answerAt, if_neg timely]
    cases events[next]? with
    | some event => simp [Received.accounted]
    | none => simp [Received.accounted, setReader_self joined]

theorem length_readers_receive (buffer : EventBuffer ε) (index : Nat) :
    (buffer.receive index).1.readers.length = buffer.readers.length := by
  rw [receive]
  repeat' split
  all_goals simp [setReader]

/-- Only the events from where the reader could have begun matter. -/
theorem answerAt_append (capacity : Nat) (past : List ε) (events : List ε) (next : Nat) :
    answerAt capacity (past ++ events) (past.length + next) = answerAt capacity events next := by
  have left : (past ++ events).length - (past.length + next) = events.length - next := by
    rw [List.length_append]
    omega
  have found : (past ++ events)[past.length + next]? = events[next]? := by
    rw [List.getElem?_append_right (by omega), Nat.add_sub_cancel_left]
  rw [answerAt, answerAt, left, found]

theorem answerAt_eq_lagged_iff {capacity skipped : Nat} :
    answerAt capacity events next = .lagged skipped ↔
      capacity < events.length - next ∧ skipped = events.length - next - capacity := by
  rw [answerAt]
  split
  next late => simp [late, eq_comm]
  next timely => cases events[next]? <;> simp [timely]

theorem answerAt_eq_empty_iff {capacity : Nat} (within : next ≤ events.length) :
    answerAt capacity events next = .empty ↔ next = events.length := by
  rw [answerAt]
  split
  next late =>
    constructor
    · nofun
    · omega
  next timely =>
    cases found : events[next]? with
    | some event =>
      obtain ⟨less, -⟩ := List.getElem?_eq_some_iff.mp found
      simp
      omega
    | none =>
      have past := List.getElem?_eq_none_iff.mp found
      simp
      omega

theorem answerAt_eq_event_iff {capacity : Nat} {event : ε} :
    answerAt capacity events next = .event event ↔
      events.length - next ≤ capacity ∧ events[next]? = some event := by
  rw [answerAt]
  split
  next late =>
    constructor
    · nofun
    · omega
  next timely => cases events[next]? <;> simp [Nat.not_lt.mp timely]

theorem answerAt_ne_closed {capacity : Nat} : answerAt capacity events next ≠ .closed := by
  rw [answerAt]
  split
  · nofun
  · cases events[next]? <;> nofun

/-- An event that is received is the one the reader goes on with. -/
theorem getElem?_of_answerAt {capacity place : Nat} {event : ε}
    (received : (answerAt capacity events next).accounted[place]? = some (some event)) :
    events[next + place]? = some event := by
  rw [answerAt] at received
  split at received
  · simp [Received.accounted, List.getElem?_replicate] at received
  · cases found : events[next]? with
    | none => simp [found, Received.accounted] at received
    | some first =>
      cases place with
      | zero => simpa [found, Received.accounted] using received
      | succ place => simp [found, Received.accounted] at received

/-- Whoever is told something is told of no more than there is. -/
theorem length_accounted_answerAt {capacity : Nat} (within : next ≤ events.length) :
    next + (answerAt capacity events next).accounted.length ≤ events.length := by
  rw [answerAt]
  split
  · simp only [Received.accounted, List.length_replicate]
    omega
  · cases found : events[next]? with
    | none => simpa [Received.accounted] using within
    | some event =>
      obtain ⟨less, -⟩ := List.getElem?_eq_some_iff.mp found
      simp [Received.accounted]
      omega

end EventBuffer

namespace Outlet

variable {α : Type} {outlet outlet' : Outlet α} {reader next : Nat} {events : List Notice}

/-- What may be done with an outlet: the first three are about its notices, the others about its
snapshots. -/
inductive Use (α : Type) where
  | subscribe
  | emit (notice : Notice)
  | receive (reader : Nat)
  | watch
  | publish (snapshot : Snapshot α)
  | look (reader : Nat)
  | read (reader : Nat)

namespace Use

def notice? : Use α → Option Notice
  | .emit notice => some notice
  | .subscribe | .receive _ | .watch | .publish _ | .look _ | .read _ => none

def snapshot? : Use α → Option (Snapshot α)
  | .publish snapshot => some snapshot
  | .subscribe | .emit _ | .receive _ | .watch | .look _ | .read _ => none

def isSubscribe : Use α → Bool
  | .subscribe => true
  | .emit _ | .receive _ | .watch | .publish _ | .look _ | .read _ => false

/-- Whether no reader of the notices but this one receives. -/
def sparesOthers (reader : Nat) : Use α → Bool
  | .receive other => other = reader
  | .subscribe | .emit _ | .watch | .publish _ | .look _ | .read _ => true

end Use

def use (outlet : Outlet α) : Use α → Outlet α
  | .subscribe => { outlet with notices := outlet.notices.subscribe.1 }
  | .emit notice => outlet.emit notice
  | .receive reader => { outlet with notices := (outlet.notices.receive reader).1 }
  | .watch => { outlet with snapshots := outlet.snapshots.subscribe.1 }
  | .publish snapshot => outlet.publish snapshot
  | .look _ => outlet
  | .read reader => { outlet with snapshots := (outlet.snapshots.read? reader).1 }

def useAll (outlet : Outlet α) (uses : List (Use α)) : Outlet α := uses.foldl use outlet

/-- What a reader of the notices is told by one use, if it receives. -/
def toldBy? (outlet : Outlet α) (reader : Nat) : Use α → Option (Received Notice)
  | .receive other => if other = reader then some (outlet.notices.receive reader).2 else none
  | .subscribe | .emit _ | .watch | .publish _ | .look _ | .read _ => none

/-- All that a reader of the notices is told, in its order. -/
def told (outlet : Outlet α) (reader : Nat) : List (Use α) → List (Received Notice)
  | [] => []
  | use :: uses => (outlet.toldBy? reader use).toList ++ (outlet.use use).told reader uses

@[simp] theorem useAll_nil : outlet.useAll [] = outlet := rfl

theorem useAll_append (outlet : Outlet α) (first second : List (Use α)) :
    outlet.useAll (first ++ second) = (outlet.useAll first).useAll second :=
  List.foldl_append

@[simp] theorem useAll_cons (use : Use α) (uses : List (Use α)) :
    outlet.useAll (use :: uses) = (outlet.use use).useAll uses := rfl

/-! ## Notices -/

/-- Of the events emitted so far the reader goes on with the one of this number. -/
structure GoesOn (outlet : Outlet α) (events : List Notice) (reader next : Nat) : Prop where
  holds : outlet.notices.Holds events
  joined : outlet.notices.readers[reader]? = some next
  within : next ≤ events.length

theorem holds_use (holds : outlet.notices.Holds events) (use : Use α) :
    (outlet.use use).notices.Holds (events ++ use.notice?.toList) ∧
      (outlet.use use).notices.capacity = outlet.notices.capacity := by
  cases use with
  | emit notice =>
    refine ⟨holds.emit notice, ?_⟩
    simp only [Outlet.use, Outlet.emit, EventBuffer.emit]
    split <;> rfl
  | receive other =>
    -- A reader that receives changes its own place, and nothing of what is held.
    simp only [Use.notice?, Option.toList_none, List.append_nil, Outlet.use]
    cases joined : outlet.notices.readers[other]? with
    | none => simpa [EventBuffer.receive, joined] using holds
    | some next =>
      rw [(EventBuffer.receive_eq holds joined).2]
      exact ⟨⟨holds.room, holds.dropped, holds.held⟩, rfl⟩
  | subscribe | watch | publish _ | look _ | read _ =>
    simp only [Use.notice?, Option.toList_none, List.append_nil]
    exact ⟨⟨holds.room, holds.dropped, holds.held⟩, rfl⟩

theorem holds_useAll (holds : outlet.notices.Holds events) (uses : List (Use α)) :
    (outlet.useAll uses).notices.Holds (events ++ uses.filterMap Use.notice?) ∧
      (outlet.useAll uses).notices.capacity = outlet.notices.capacity := by
  induction uses generalizing outlet events with
  | nil => exact ⟨by simpa using holds, rfl⟩
  | cons use uses ih =>
    obtain ⟨after, same⟩ := holds_use holds use
    obtain ⟨final, kept⟩ := ih after
    refine ⟨?_, kept.trans same⟩
    cases emitted : use.notice? <;> simpa [emitted] using final

theorem length_readers_useAll (outlet : Outlet α) (uses : List (Use α)) :
    (outlet.useAll uses).notices.readers.length =
      outlet.notices.readers.length + uses.countP Use.isSubscribe := by
  induction uses generalizing outlet with
  | nil => rfl
  | cons use uses ih =>
    have next : (outlet.use use).notices.readers.length =
        outlet.notices.readers.length + if use.isSubscribe then 1 else 0 := by
      cases use with
      | subscribe => exact List.length_append
      | emit notice =>
        simp only [Outlet.use, Outlet.emit, EventBuffer.emit]
        split <;> rfl
      | receive other => exact outlet.notices.length_readers_receive other
      | watch | publish _ | look _ | read _ => rfl
    rw [useAll_cons, ih, next, List.countP_cons]
    omega

/-- What is left out was neither emitted nor joined by a reader. -/
theorem kept_sparesOthers (reader : Nat) (uses : List (Use α)) :
    (uses.filter (Use.sparesOthers reader)).filterMap Use.notice? = uses.filterMap Use.notice? ∧
      (uses.filter (Use.sparesOthers reader)).countP Use.isSubscribe =
        uses.countP Use.isSubscribe := by
  constructor
  · rw [List.filterMap_filter]
    congr 1
    funext use
    cases use <;> simp [Use.notice?, Use.sparesOthers]
  · rw [List.countP_filter]
    congr 1
    funext use
    cases use <;> simp [Use.isSubscribe, Use.sparesOthers]

/-- A new reader goes on with what is emitted next. -/
theorem goesOn_subscribe (holds : outlet.notices.Holds events) :
    (outlet.use .subscribe).GoesOn events outlet.notices.subscribe.2 events.length := by
  have joined : (outlet.notices.readers ++ [outlet.notices.emitted])[outlet.notices.readers.length]?
      = some events.length := by
    rw [List.getElem?_concat_length, holds.emitted_eq]
  exact ⟨⟨holds.room, holds.dropped, holds.held⟩, joined, Nat.le_refl _⟩

/-- What the reader is told by a use is the answer at its place, and it goes on after that. -/
theorem GoesOn.use (goes : outlet.GoesOn events reader next) (use : Use α) :
    (∀ result ∈ outlet.toldBy? reader use,
      result = EventBuffer.answerAt outlet.notices.capacity events next) ∧
    (outlet.use use).GoesOn (events ++ use.notice?.toList) reader
      (next + ((outlet.toldBy? reader use).toList.flatMap Received.accounted).length) := by
  have holds := (holds_use goes.holds use).1
  have joined := goes.joined
  have within := goes.within
  cases use with
  | receive other =>
    simp only [toldBy?, Outlet.use, Use.notice?, Option.toList_none, List.append_nil] at holds ⊢
    by_cases own : other = reader
    · subst own
      obtain ⟨answer, moved⟩ := EventBuffer.receive_eq goes.holds joined
      obtain ⟨less, -⟩ := List.getElem?_eq_some_iff.mp joined
      refine ⟨by simp [answer], holds, ?_, ?_⟩
      · simp [answer, moved, EventBuffer.setReader, less]
      · simpa [answer] using EventBuffer.length_accounted_answerAt within
    · refine ⟨by simp [own], holds, ?_, by simpa [own] using within⟩
      cases there : outlet.notices.readers[other]? with
      | none => simpa [EventBuffer.receive, there, own] using joined
      | some place =>
        rw [(EventBuffer.receive_eq goes.holds there).2]
        simpa [EventBuffer.setReader, List.getElem?_set, own] using joined
  | emit notice =>
    refine ⟨by simp [toldBy?], holds, ?_, ?_⟩
    · change (outlet.notices.emit notice).readers[reader]? = some next
      rw [EventBuffer.emit]
      split <;> exact joined
    · change next ≤ (events ++ [notice]).length
      rw [List.length_append]
      omega
  | subscribe =>
    obtain ⟨less, same⟩ := List.getElem?_eq_some_iff.mp joined
    refine ⟨by simp [toldBy?], holds, ?_, by simpa [toldBy?, Use.notice?] using within⟩
    simp [toldBy?, Outlet.use, EventBuffer.subscribe, List.getElem?_append_left less, joined]
  | watch | publish _ | look _ | read _ =>
    exact ⟨by simp [toldBy?], holds, joined, by simpa [toldBy?, Use.notice?] using within⟩

/-- What a reader is told of are the events from where it goes on, in their order, and every event it
receives is the one in that place. -/
theorem GoesOn.useAll (goes : outlet.GoesOn events reader next) (uses : List (Use α)) :
    let accounted := (outlet.told reader uses).flatMap Received.accounted
    (outlet.useAll uses).GoesOn (events ++ uses.filterMap Use.notice?) reader
        (next + accounted.length) ∧
      ∀ place event, accounted[place]? = some (some event) →
        (events ++ uses.filterMap Use.notice?)[next + place]? = some event := by
  -- Each use leaves the reader as far along as what it was told so far accounts for.
  induction uses generalizing outlet events next with
  | nil => exact ⟨by simpa [told] using goes, by simp [told]⟩
  | cons use uses ih =>
    obtain ⟨answers, after⟩ := goes.use use
    obtain ⟨final, later⟩ := ih after
    have all : events ++ use.notice?.toList ++ uses.filterMap Use.notice? =
        events ++ (use :: uses).filterMap Use.notice? := by
      cases emitted : use.notice? <;> simp [emitted]
    rw [all] at final later
    simp only [told, List.flatMap_append, List.length_append]
    rw [Nat.add_assoc] at final
    refine ⟨final, ?_⟩
    intro place event received
    by_cases here : place < ((outlet.toldBy? reader use).toList.flatMap Received.accounted).length
    · -- It was received by this very use, and what was emitted since then stands after it.
      rw [List.getElem?_append_left here] at received
      have found : events[next + place]? = some event := by
        cases single : outlet.toldBy? reader use with
        | none => simp [single] at here
        | some result =>
          have answer := answers result single
          apply EventBuffer.getElem?_of_answerAt
          simpa [single, answer] using received
      obtain ⟨less, -⟩ := List.getElem?_eq_some_iff.mp found
      rw [List.getElem?_append_left less]
      exact found
    · rw [List.getElem?_append_right (by omega)] at received
      have found := later _ event received
      rw [Nat.add_assoc, Nat.add_sub_cancel' (by omega)] at found
      exact found

/-- Since it joined a reader is told of the notices emitted since then, from the first on. -/
theorem accounts_subscribe (holds : outlet.notices.Holds events) (uses : List (Use α)) :
    let joined := outlet.use .subscribe
    let reader := outlet.notices.subscribe.2
    let emitted := uses.filterMap Use.notice?
    let accounted := (joined.told reader uses).flatMap Received.accounted
    accounted.length ≤ emitted.length ∧
      (∀ (place : Nat) (notice : Notice),
        accounted[place]? = some (some notice) → emitted[place]? = some notice) ∧
      ((joined.useAll uses).notices.receive reader).2 =
        EventBuffer.answerAt outlet.notices.capacity emitted accounted.length := by
  intro joined reader emitted accounted
  have begins : joined.GoesOn events reader events.length := goesOn_subscribe holds
  obtain ⟨goes, received⟩ := begins.useAll uses
  refine ⟨?_, ?_, ?_⟩
  · have within : events.length + accounted.length ≤ (events ++ emitted).length := goes.within
    rw [List.length_append] at within
    omega
  · intro place notice found
    have placed := received place notice found
    rwa [List.getElem?_append_right (by omega), Nat.add_sub_cancel_left] at placed
  · have kept : (joined.useAll uses).notices.capacity = outlet.notices.capacity :=
      (holds_useAll begins.holds uses).2
    rw [(EventBuffer.receive_eq goes.holds goes.joined).1, kept]
    exact EventBuffer.answerAt_append _ _ _ _

/-- What other readers receive makes no difference to what a reader is told. -/
theorem told_filter_sparesOthers (goes : outlet.GoesOn events reader next)
    (goes' : outlet'.GoesOn events reader next)
    (room : outlet.notices.capacity = outlet'.notices.capacity) (uses : List (Use α)) :
    outlet.told reader uses = outlet'.told reader (uses.filter (Use.sparesOthers reader)) := by
  induction uses generalizing outlet outlet' events next with
  | nil => rfl
  | cons use uses ih =>
    have after := (goes.use use).2
    have kept := (holds_use goes.holds use).2
    by_cases spares : use.sparesOthers reader = true
    · -- Both readers are told the same by this use, and go on in the same place.
      have same : outlet.toldBy? reader use = outlet'.toldBy? reader use := by
        cases use with
        | receive other =>
          simp only [toldBy?, (EventBuffer.receive_eq goes.holds goes.joined).1,
            (EventBuffer.receive_eq goes'.holds goes'.joined).1, room]
        | subscribe | emit _ | watch | publish _ | look _ | read _ => rfl
      have after' := (goes'.use use).2
      have kept' := (holds_use goes'.holds use).2
      rw [← same] at after'
      rw [List.filter_cons_of_pos spares, told, told, same,
        ih after after' (by rw [kept, kept', room])]
    · -- What another reader receives tells this one nothing and emits nothing.
      have silent : outlet.toldBy? reader use = none ∧ use.notice? = none := by
        cases use with
        | receive other =>
          have apart : ¬ other = reader := by simpa [Use.sparesOthers] using spares
          exact ⟨by simp [toldBy?, apart], rfl⟩
        | subscribe | emit _ | watch | publish _ | look _ | read _ => exact absurd rfl spares
      simp only [silent.1, silent.2, Option.toList_none, List.append_nil, List.flatMap_nil,
        List.length_nil, Nat.add_zero] at after
      rw [List.filter_cons_of_neg spares, told, silent.1, Option.toList_none, List.nil_append,
        ih after goes' (by rw [kept, room])]

/-! ## Snapshots -/

theorem current_useAll (outlet : Outlet α) (uses : List (Use α)) :
    (outlet.useAll uses).current =
      ((uses.filterMap Use.snapshot?).getLast?).getD outlet.current := by
  induction uses generalizing outlet with
  | nil => rfl
  | cons use uses ih =>
    have next : (outlet.use use).current = use.snapshot?.getD outlet.current := by
      cases use with
      | read other =>
        simp only [Outlet.use, Outlet.current, Latest.read?]
        split <;> rfl
      | subscribe | emit _ | receive _ | watch | publish _ | look _ => rfl
    refine (ih (outlet.use use)).trans ?_
    rw [next]
    cases published : use.snapshot? with
    | none => rw [List.filterMap_cons_none published, Option.getD_none]
    | some snapshot =>
      rw [List.filterMap_cons_some published, Option.getD_some, List.getLast?_cons,
        Option.getD_some]

theorem readers_use (outlet : Outlet α) (use : Use α) (other : use ≠ .read reader)
    (joined : reader < outlet.snapshots.readers.length) :
    (outlet.use use).snapshots.readers[reader]? = outlet.snapshots.readers[reader]? ∧
      (outlet.use use).snapshots.version =
        outlet.snapshots.version + use.snapshot?.toList.length := by
  cases use with
  | watch => exact ⟨List.getElem?_append_left joined, rfl⟩
  | read index =>
    have apart : index ≠ reader := fun same => other (by rw [same])
    simp only [Outlet.use, Latest.read?]
    cases outlet.snapshots.readers[index]? with
    | none => exact ⟨rfl, rfl⟩
    | some seen => exact ⟨List.getElem?_set_ne apart, rfl⟩
  | subscribe | emit _ | receive _ | publish _ | look _ => exact ⟨rfl, rfl⟩

/-- As long as a reader of the snapshots does not read, what it has seen stays. -/
theorem readers_useAll {seen : Nat} (joined : outlet.snapshots.readers[reader]? = some seen)
    {uses : List (Use α)} (unread : .read reader ∉ uses) :
    (outlet.useAll uses).snapshots.readers[reader]? = some seen ∧
      (outlet.useAll uses).snapshots.version =
        outlet.snapshots.version + (uses.filterMap Use.snapshot?).length := by
  induction uses generalizing outlet with
  | nil => exact ⟨joined, rfl⟩
  | cons use uses ih =>
    rw [List.mem_cons, not_or] at unread
    obtain ⟨other, unread⟩ := unread
    obtain ⟨within, -⟩ := List.getElem?_eq_some_iff.mp joined
    obtain ⟨still, counted⟩ := outlet.readers_use use (Ne.symm other) within
    obtain ⟨stays, version⟩ := ih (still.trans joined) unread
    refine ⟨stays, ?_⟩
    rw [useAll_cons, version, counted]
    cases published : use.snapshot? with
    | none => simp [published]
    | some snapshot =>
      simp only [List.filterMap_cons_some published, Option.toList_some, List.length_cons,
        List.length_nil]
      omega

/-- Whoever watches keeps its place, and has seen the newest snapshot once it reads. -/
theorem readers_read (joined : reader < outlet.snapshots.readers.length) (uses : List (Use α)) :
    reader < (outlet.useAll uses).snapshots.readers.length ∧
      ((outlet.useAll uses).use (.read reader)).snapshots.readers[reader]? =
        some (outlet.useAll uses).snapshots.version := by
  induction uses generalizing outlet with
  | nil =>
    refine ⟨joined, ?_⟩
    simp [Outlet.use, Latest.read?, joined]
  | cons use uses ih =>
    refine ih (Nat.lt_of_lt_of_le joined ?_)
    cases use with
    | watch => simp [Outlet.use, Latest.subscribe]
    | read other =>
      simp only [Outlet.use, Latest.read?]
      split <;> simp
    | subscribe | emit _ | receive _ | publish _ | look _ => exact Nat.le_refl _

theorem changed?_useAll (joined : outlet.snapshots.readers[reader]? = some outlet.snapshots.version)
    {uses : List (Use α)} (unread : .read reader ∉ uses) :
    (outlet.useAll uses).snapshots.changed? reader =
      some (uses.any fun use => use.snapshot?.isSome) := by
  obtain ⟨stays, version⟩ := readers_useAll joined unread
  rw [Latest.changed?, stays, version, Option.map_some]
  congr 1
  rw [Bool.eq_iff_iff, List.any_eq_true, decide_eq_true_iff]
  constructor
  · intro differs
    obtain ⟨snapshot, published⟩ := List.exists_mem_of_ne_nil (uses.filterMap Use.snapshot?) (by
      intro none
      simp [none] at differs)
    obtain ⟨use, member, found⟩ := List.mem_filterMap.mp published
    exact ⟨use, member, by rw [found]; rfl⟩
  · rintro ⟨use, member, published⟩
    obtain ⟨snapshot, found⟩ := Option.isSome_iff_exists.mp published
    have counted := List.length_pos_of_mem (List.mem_filterMap.mpr ⟨use, member, found⟩)
    omega

theorem watching (outlet : Outlet α) :
    outlet.snapshots.subscribe.2 < (outlet.use .watch).snapshots.readers.length := by
  change outlet.snapshots.readers.length < (outlet.snapshots.readers ++ [_]).length
  rw [List.length_append]
  exact Nat.lt_succ_self _

/-- For one who watches, what was published since it read or joined is new. -/
theorem changed?_watch {uses unread : List (Use α)}
    (quiet : .read outlet.snapshots.subscribe.2 ∉ unread)
    (since : uses = unread ∨
      ∃ earlier, uses = earlier ++ .read outlet.snapshots.subscribe.2 :: unread) :
    ((outlet.use .watch).useAll uses).snapshots.changed? outlet.snapshots.subscribe.2 =
      some (unread.any fun use => use.snapshot?.isSome) := by
  rcases since with rfl | ⟨earlier, rfl⟩
  · exact changed?_useAll List.getElem?_concat_length quiet
  · obtain ⟨within, seen⟩ := readers_read outlet.watching earlier
    have same : (((outlet.use .watch).useAll earlier).use
        (.read outlet.snapshots.subscribe.2)).snapshots.version =
          ((outlet.use .watch).useAll earlier).snapshots.version := by
      simp only [Outlet.use, Latest.read?]
      split <;> rfl
    rw [useAll_append]
    exact changed?_useAll (seen.trans (congrArg some same.symm)) quiet

end Outlet

/-- Of an outlet of any size, whatever was done with it before a reader joined and whatever is done
after, in any order: the outlet has room for the least power of two that is enough. What the reader is
told, a lag counted as so many events lost, are the notices emitted since it joined, in order. Next it
is told that there is none when it was told of all of them, how many it lost when more are left than
there is room for, and else the first of them. It would be told the same had nobody else received
anything. A reader of the snapshots gets the one published last, and one is new to it just when it was
published since the reader read, or joined. -/
theorem readers_are_told_of_all {α : Type} (size : Nat) (before after : List (Outlet.Use α)) :
    let new : Outlet α := .ofSize size
    let room := new.notices.capacity
    let outlet := new.useAll before
    let reader := outlet.notices.subscribe.2
    let accounted := ((outlet.use .subscribe).told reader after).flatMap Received.accounted
    let emitted := after.filterMap Outlet.Use.notice?
    let left := emitted.length - accounted.length
    let answer := (((outlet.use .subscribe).useAll after).notices.receive reader).2
    let spares := Outlet.Use.sparesOthers (α := α) reader
    let watcher := outlet.snapshots.subscribe.2
    let watched := (outlet.use .watch).useAll after
    (∃ power, room = 2 ^ power ∧ max size 1 ≤ 2 ^ power ∧ 2 ^ power < 2 * max size 1) ∧
    (accounted.length ≤ emitted.length ∧ ∀ (place : Nat) (notice : Notice),
      accounted[place]? = some (some notice) → emitted[place]? = some notice) ∧
    ((answer = .empty ↔ accounted.length = emitted.length) ∧
      (∀ skipped, answer = .lagged skipped ↔ room < left ∧ skipped = left - room) ∧
      (∀ notice, answer = .event notice ↔
        left ≤ room ∧ emitted[accounted.length]? = some notice) ∧
      answer ≠ .closed) ∧
    (outlet.use .subscribe).told reader after =
      ((new.useAll (before.filter spares)).use .subscribe).told reader (after.filter spares) ∧
    (watched.snapshots.read? watcher).2 =
      some (((before ++ after).filterMap Outlet.Use.snapshot?).getLast?.getD .empty) ∧
    ∀ unread, .read watcher ∉ unread →
      (after = unread ∨ ∃ earlier, after = earlier ++ .read watcher :: unread) →
        watched.snapshots.changed? watcher =
          some (unread.any fun use => use.snapshot?.isSome) := by
  intro new room outlet reader accounted emitted left answer spares watcher watched
  have created : new.notices.Holds [] := EventBuffer.holds_ofSize size
  obtain ⟨holds, kept⟩ := Outlet.holds_useAll created before
  obtain ⟨within, received, answered⟩ := Outlet.accounts_subscribe holds after
  rw [kept] at answered
  have answered : answer = EventBuffer.answerAt room emitted accounted.length := answered
  refine ⟨EventBuffer.roomFor_least size, ⟨within, received⟩, ?_, ?_, ?_, ?_⟩
  · rw [answered]
    exact ⟨EventBuffer.answerAt_eq_empty_iff within, fun _ => EventBuffer.answerAt_eq_lagged_iff,
      fun _ => EventBuffer.answerAt_eq_event_iff, EventBuffer.answerAt_ne_closed⟩
  · -- With the reads of the others left out the reader joins in the same place.
    obtain ⟨holds', kept'⟩ := Outlet.holds_useAll created (before.filter spares)
    obtain ⟨emittedBefore, joinedBefore⟩ := Outlet.kept_sparesOthers reader before
    have place : (new.useAll (before.filter spares)).notices.subscribe.2 = reader := by
      change (new.useAll (before.filter spares)).notices.readers.length =
        (new.useAll before).notices.readers.length
      rw [Outlet.length_readers_useAll, Outlet.length_readers_useAll, joinedBefore]
    rw [emittedBefore] at holds'
    have joins' := Outlet.goesOn_subscribe holds'
    rw [place] at joins'
    exact Outlet.told_filter_sparesOthers (Outlet.goesOn_subscribe holds) joins'
      (kept.trans kept'.symm) after
  · obtain ⟨still, -⟩ := Outlet.readers_read outlet.watching after
    have last : watched.current = _ := (outlet.use .watch).current_useAll after
    have first : (outlet.use .watch).current = _ := new.current_useAll before
    have read : (watched.snapshots.read? watcher).2 = some watched.current := by
      rw [Latest.read?, List.getElem?_eq_getElem still]
      rfl
    rw [read, last, first, List.filterMap_append, List.getLast?_append]
    cases (after.filterMap Outlet.Use.snapshot?).getLast? <;> rfl
  · intro unread quiet since
    exact Outlet.changed?_watch quiet since

namespace Sample

/-- Notices that differ in a number. -/
def counted (items : Nat) : Notice := .resynced "pods" none items

/-- Six notices are more than a buffer for three, which has room for four, can hold: the second reader
is told that it lost two, gets the third and has three left. The snapshot published after it read is
new to the reader of the snapshots. -/
theorem told_of_all_after_lag :
    let before : List (Outlet.Use Unit) := [.subscribe, .emit (counted 0), .receive 0]
    let emitted : List (Outlet.Use Unit) :=
      [.emit (counted 1), .emit (counted 2), .emit (counted 3), .emit (counted 4),
        .emit (counted 5), .emit (counted 6)]
    let after := emitted ++ [.receive 0, .receive 1, .receive 1, .read 0, .publish .empty]
    let outlet : Outlet Unit := (Outlet.ofSize 3).useAll before
    (outlet.use .subscribe).told 1 after = [.lagged 2, .event (counted 3)] ∧
      (((outlet.use .subscribe).useAll after).notices.receive 1).2 = .event (counted 4) ∧
      ((outlet.use .watch).useAll after).snapshots.changed? 0 = some true := by
  intro before emitted after outlet
  obtain ⟨-, -, ⟨-, -, received, -⟩, -, -, changed⟩ := readers_are_told_of_all 3 before after
  refine ⟨by decide +kernel, ?_, ?_⟩
  · exact (received _).mpr (by decide +kernel)
  · exact changed [.publish .empty] (by simp)
      (Or.inr ⟨emitted ++ [.receive 0, .receive 1, .receive 1], rfl⟩)

end Sample

end ListWatch
