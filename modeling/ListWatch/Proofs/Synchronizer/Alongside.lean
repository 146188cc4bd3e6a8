import ListWatch.Proofs.Event.Envelope
import ListWatch.Proofs.Synchronizer.Outward

/-!
# Two lives alongside

Two lives go alongside when they do the same but for reading: each takes from its own watch stream
what it is given, in chunks of its own. Whatever else they do they do together, at moments when
what they have taken of their streams is the same but for noise. Then all that shows of them is the
same.
-/
namespace ListWatch

variable {α : Type} [Resource α]

/-- A life with the replica that its last watch began from, and the bytes of the lines that were
taken of its stream. -/
structure Watched (α : Type) where
  turn : Turn α
  origin : Replica α := .empty
  taken : List UInt8 := []
  deriving DecidableEq

namespace Watched

/-- A life that goes on. A watch that is opened begins from what is held then. -/
def follow (watched : Watched α) (act : Act) : Option (Watched α) :=
  (watched.turn.follow act).map fun turn =>
    if watched.turn.synchronizer.reads act then
      { watched with turn, taken := watched.taken ++ watched.turn.synchronizer.passed }
    else match act with
      | .step _ (.opened _) => { turn, origin := turn.synchronizer.snapshot }
      | _ => { watched with turn }

/-- Whether the life may go on with an act, or has a line to take first. -/
def Ready (watched : Watched α) (act : Act) : Prop :=
  (watched.follow act).isSome ∨
    watched.turn.synchronizer.isReading = true ∧
      ∀ credential, (watched.follow (.step credential .proceed)).isSome

end Watched

/-- Two lives of the same synchronizer that do the same but for reading. -/
inductive Alongside (client : Client) (options : Options) : Watched α → Watched α → Prop where
  | created :
      Alongside client options { turn := (Synchronizer.create client options).unmoved }
        { turn := (Synchronizer.create client options).unmoved }
  | left {first second act next} : Alongside client options first second →
      first.turn.synchronizer.reads act = true → first.follow act = some next →
      Alongside client options next second
  | right {first second act next} : Alongside client options first second →
      second.turn.synchronizer.reads act = true → second.follow act = some next →
      Alongside client options first next
  | both {first second act first' second'} : Alongside client options first second →
      SameButNoise first.origin first.taken second.taken →
      first.turn.synchronizer.reads act = false →
      first.follow act = some first' → second.follow act = some second' →
      Alongside client options first' second'

/-! ## What was taken shows -/

/-- What shows of a life is what showed when its watch began, with the lines taken. -/
structure Watched.Past (base : Turn α) (watched : Watched α) : Prop where
  coherent : watched.turn.synchronizer.Coherent
  closed : Closed watched.taken
  reads : base.ReadsAt watched.origin
  shows : watched.turn.outward = base.absorbAll (streamResults α watched.taken)

namespace Watched

variable {base : Turn α} {watched next : Watched α} {act : Act}

theorem follow_turn (followed : watched.follow act = some next) :
    watched.turn.follow act = some next.turn := by
  obtain ⟨turn, did, rfl⟩ := Option.map_eq_some_iff.mp followed
  rw [did]
  split
  · rfl
  · split <;> rfl

theorem follow_coherent (coherent : watched.turn.synchronizer.Coherent)
    (followed : watched.follow act = some next) : next.turn.synchronizer.Coherent := by
  obtain ⟨phase, run, effects, same, deed⟩ :=
    Synchronizer.follow_deed coherent (follow_turn followed)
  rw [same]
  exact deed.coherent coherent

theorem follow_of_reads (reads : watched.turn.synchronizer.reads act = true)
    (followed : watched.follow act = some next) :
    next.origin = watched.origin ∧
      next.taken = watched.taken ++ watched.turn.synchronizer.passed := by
  obtain ⟨turn, did, rfl⟩ := Option.map_eq_some_iff.mp followed
  rw [if_pos reads]
  exact ⟨rfl, rfl⟩

/-- Reading adds to what was taken, and to what shows. -/
theorem Past.read (past : watched.Past base) (reads : watched.turn.synchronizer.reads act = true)
    (followed : watched.follow act = some next) :
    next.Past base ∧ next.origin = watched.origin := by
  obtain ⟨origin, taken⟩ := follow_of_reads reads followed
  refine ⟨⟨follow_coherent past.coherent followed, ?_, ?_, ?_⟩, origin⟩
  · rw [taken]
    exact past.closed.append watched.turn.synchronizer.closed_passed
  · rw [origin]
    exact past.reads
  · rw [Turn.outward_of_reads past.coherent reads (follow_turn followed), past.shows, taken,
      streamResults_append α past.closed, Turn.absorbAll_append]

/-- A life that has taken nothing yet shows what it shows. -/
theorem past_of_taken_nil (coherent : watched.turn.synchronizer.Coherent)
    (fresh : watched.taken = []) (origin : watched.turn.outward.ReadsAt watched.origin) :
    watched.Past watched.turn.outward :=
  ⟨coherent, Or.inl fresh, origin, by rw [fresh]; rfl⟩

/-- A life that does not read shows what it shows, whatever it has taken. -/
theorem past_of_not_reading (coherent : watched.turn.synchronizer.Coherent)
    (closed : Closed watched.taken) (idle : watched.turn.synchronizer.isReading = false) :
    watched.Past watched.turn.outward := by
  rw [← Synchronizer.isReading_outward] at idle
  exact ⟨coherent, closed, Turn.readsAt_of_not_reading idle,
    (Turn.absorbAll_of_not_reading idle _).symm⟩

/-- What follows when an act is none of reading. -/
theorem follow_of_not_reads (other : watched.turn.synchronizer.reads act = false)
    (followed : watched.follow act = some next) :
    (∃ credential answer, act = .step credential (.opened answer)) ∧ next.taken = [] ∧
        next.origin = next.turn.synchronizer.snapshot ∨
      (∀ credential answer, act ≠ .step credential (.opened answer)) ∧
        next.taken = watched.taken ∧ next.origin = watched.origin := by
  obtain ⟨turn, did, rfl⟩ := Option.map_eq_some_iff.mp followed
  rw [if_neg (by simp [other])]
  split
  · exact Or.inl ⟨⟨_, _, rfl⟩, rfl, rfl⟩
  · next unopened => exact Or.inr ⟨fun credential answer same => unopened _ _ same, rfl, rfl⟩

end Watched

/-! ## Going alongside -/

/-- Two lives that show the same but for what they have taken since. -/
def Watched.Abreast (first second : Watched α) : Prop :=
  ∃ base, first.Past base ∧ second.Past base ∧ first.origin = second.origin

namespace Watched.Abreast

variable {first second first' second' : Watched α} {act : Act}

/-- Where what was taken is the same but for noise, what shows is the same. -/
theorem outward_eq (abreast : first.Abreast second)
    (same : SameButNoise first.origin first.taken second.taken) :
    first.turn.outward = second.turn.outward := by
  obtain ⟨base, left, right, -⟩ := abreast
  rw [left.shows, right.shows, same.absorbAll left.reads]

/-- Lives that show the same, and then do the same but no reading, are abreast. -/
theorem both (abreast : first.Abreast second)
    (same : SameButNoise first.origin first.taken second.taken)
    (other : first.turn.synchronizer.reads act = false) (before : first.follow act = some first')
    (after : second.follow act = some second') : first'.Abreast second' := by
  have shows := abreast.outward_eq same
  obtain ⟨base, left, right, origins⟩ := abreast
  have other' : second.turn.synchronizer.reads act = false :=
    (Synchronizer.reads_eq_of_outward_eq (congrArg Turn.synchronizer shows) act).symm.trans other
  have shows' : first'.turn.outward = second'.turn.outward :=
    Turn.outward_eq_of_follow shows left.coherent right.coherent other (follow_turn before)
      (follow_turn after)
  have coherent := follow_coherent left.coherent before
  have coherent' := follow_coherent right.coherent after
  rcases follow_of_not_reads other before with ⟨opened, fresh, origin⟩ | ⟨unopened, kept, origin⟩
  · -- The watch begins from what is held, and nothing was taken of its stream.
    rcases follow_of_not_reads other' after with ⟨-, fresh', origin'⟩ | ⟨unopened, -, -⟩
    · refine ⟨first'.turn.outward, past_of_taken_nil coherent fresh ?_, ?_, ?_⟩
      · rw [origin]
        exact Turn.readsAt_snapshot coherent
      · rw [shows']
        refine past_of_taken_nil coherent' fresh' ?_
        rw [origin']
        exact Turn.readsAt_snapshot coherent'
      · have snapshots : first'.turn.outward.synchronizer.snapshot =
            second'.turn.outward.synchronizer.snapshot := by rw [shows']
        rw [origin, origin']
        exact snapshots
    · obtain ⟨credential, answer, rfl⟩ := opened
      exact absurd rfl (unopened credential answer)
  · rcases follow_of_not_reads other' after with ⟨⟨_, _, rfl⟩, -, -⟩ | ⟨-, kept', origin'⟩
    · exact absurd rfl (unopened _ _)
    have closed : Closed first'.taken := kept ▸ left.closed
    have closed' : Closed second'.taken := kept' ▸ right.closed
    have origins' : first'.origin = second'.origin := by rw [origin, origin', origins]
    cases reading : first'.turn.synchronizer.isReading with
    | false =>
      have reading' : second'.turn.synchronizer.isReading = false := by
        rw [← Synchronizer.isReading_eq_of_outward_eq (congrArg Turn.synchronizer shows'), reading]
      refine ⟨first'.turn.outward, past_of_not_reading coherent closed reading, ?_, origins'⟩
      rw [shows']
      exact past_of_not_reading coherent' closed' reading'
    | true =>
      -- A run that read before and was left alone shows what it showed.
      have still : first'.turn.outward = first.turn.outward := by
        rcases Turn.opened_or_outward_eq left.coherent other (follow_turn before) reading with
          ⟨credential, answer, opened⟩ | still
        · exact absurd opened (unopened credential answer)
        · exact still
      refine ⟨base, ⟨coherent, closed, ?_, ?_⟩, ⟨coherent', closed', ?_, ?_⟩, origins'⟩
      · rw [origin]
        exact left.reads
      · rw [still, kept]
        exact left.shows
      · rw [origin']
        exact right.reads
      · rw [← shows', still, shows, kept']
        exact right.shows

end Watched.Abreast

/-- Two lives that go alongside are abreast. -/
theorem Alongside.abreast {client : Client} {options : Options} {first second : Watched α}
    (alongside : Alongside client options first second) : first.Abreast second := by
  -- Reading adds to what its own side has taken; only what both do moves the base.
  induction alongside with
  | created =>
    have past : Watched.Past _
        ({ turn := (Synchronizer.create client options).unmoved } : Watched α) :=
      Watched.past_of_not_reading (Synchronizer.coherent_create client options) (Or.inl rfl) rfl
    exact ⟨_, past, past, rfl⟩
  | left _ reads followed ih =>
    obtain ⟨base, left, right, origins⟩ := ih
    obtain ⟨after, origin⟩ := left.read reads followed
    exact ⟨base, after, right, origin.trans origins⟩
  | right _ reads followed ih =>
    obtain ⟨base, left, right, origins⟩ := ih
    obtain ⟨after, origin⟩ := right.read reads followed
    exact ⟨base, left, after, origins.trans origin.symm⟩
  | both _ same other before after ih => exact ih.both same other before after

/-- Whatever a life does next but reading, another that shows the same is ready for. -/
theorem Watched.ready_of_outward_eq {first second : Watched α} {act : Act}
    (shows : first.turn.outward = second.turn.outward)
    (other : first.turn.synchronizer.reads act = false) (before : (first.follow act).isSome) :
    second.Ready act := by
  have acts (watched : Watched α) (act : Act) :
      (watched.follow act).isSome = (watched.turn.follow act).isSome := Option.isSome_map ..
  rw [acts] at before
  rcases Turn.follow_of_outward_eq shows other before with ready | ⟨reading, taking⟩
  · exact Or.inl (by rw [acts]; exact ready)
  · exact Or.inr ⟨reading, fun credential => by rw [acts]; exact taking credential⟩

/-- Two lives that do the same but for reading show the same, told, published, sent and waited for,
wherever what they have taken of their streams is the same but for noise; and what one does next the
other is ready for. A line is noise in particular when it is an object with a single string member
type, other than the three that carry an object, and at most one member object, of whatever
shape: it always decodes, and leaves every replica alone. -/
theorem only_object_changes_matter {client : Client} {options : Options} :
    (∀ {first second : Watched α}, Alongside client options first second →
      SameButNoise first.origin first.taken second.taken →
      first.turn.outward = second.turn.outward ∧
        ∀ act, first.turn.synchronizer.reads act = false → (first.follow act).isSome →
          second.Ready act) ∧
    ∀ {line members name}, Json.documentMembers (Text.trimEnds isLineBlank line) = .ok members →
      Json.valuesOf "type" members = [.string name] → name ∉ ["ADDED", "MODIFIED", "DELETED"] →
      (Json.valuesOf "object" members).length ≤ 1 →
      (∃ change, Change.ofLine α (Text.trimEnds isLineBlank line) = .ok change) ∧
        ∀ replica : Replica α, Noise replica line := by
  constructor
  · intro first second alongside same
    have shows := alongside.abreast.outward_eq same
    exact ⟨shows, fun act other before => Watched.ready_of_outward_eq shows other before⟩
  · intro line members name document typed other single
    obtain ⟨change, decoded, idle⟩ := Change.ofLine_idle (α := α) document typed single other
    refine ⟨⟨change, decoded⟩, fun replica result found => ⟨change, ?_, idle replica⟩⟩
    rw [lineResult?] at found
    split at found
    · cases found
    · cases found
      exact decoded

namespace Sample

/-- A bookmark that carries something else. -/
def bookmark : List UInt8 :=
  Utf8.ofString "\x7b\"object\":[\x7b\"metadata\":1\x7d],\"type\":\"BOOKMARK\",\"more\":\"\"\x7d"

/-- The stream of the short life after a bookmark and a blank line. -/
def noisy : List UInt8 := bookmark ++ lineFeed :: 0x20 :: lineFeed :: line

/-- The acts up to the opened watch, and the change taken at once. -/
def quietly : List Act :=
  acts.take 4 ++ [.step .anonymous (.body (.chunk line)), .step .anonymous .proceed]

/-- The same acts, and the change taken from the other stream, in two chunks. -/
def noisily : List Act :=
  acts.take 4 ++ [.step .anonymous (.body (.chunk (noisy.take 40))),
    .step .anonymous (.body (.chunk (noisy.drop 40))), .step .anonymous .proceed,
    .step .anonymous .proceed]

/-- The life of these acts, if they can follow each other. -/
def goes? (acts : List Act) : Option (Watched UntypedObject) :=
  acts.foldlM Watched.follow { turn := (Synchronizer.create client {}).unmoved }

def goes (acts : List Act) : Watched UntypedObject :=
  (goes? acts).getD { turn := (Synchronizer.create client {}).unmoved }

theorem goes_follow (before : List Act) (act : Act) {after : List Act}
    (alive : (goes? (before ++ act :: after)).isSome = true) :
    (goes before).follow act = some (goes (before ++ [act])) := by
  obtain ⟨last, went⟩ := Option.isSome_iff_exists.mp alive
  rw [goes?, List.foldlM_append] at went
  obtain ⟨earlier, led, went⟩ := Option.bind_eq_some_iff.mp went
  obtain ⟨next, followed, -⟩ := Option.bind_eq_some_iff.mp went
  have start : goes before = earlier := by rw [goes, goes?, led, Option.getD_some]
  have final : goes (before ++ [act]) = next := by
    rw [goes, goes?, List.foldlM_append, led]
    simp [followed]
  rw [start, final, followed]

theorem quietly_goes : (goes? quietly).isSome = true ∧ (goes quietly).taken = line := by
  decide +kernel

/-- What no stream was read for is done together. -/
theorem alongside_concat {before : List Act} (act : Act) {after : List Act}
    (whole : before ++ act :: after = quietly)
    (alongside : Alongside client {} (goes before) (goes before))
    (fresh : (goes before).taken = []) (other : (goes before).turn.synchronizer.reads act = false) :
    Alongside client {} (goes (before ++ [act])) (goes (before ++ [act])) :=
  have followed := goes_follow before act (whole ▸ quietly_goes.1)
  .both alongside (by rw [fresh]; exact .nil) other followed followed

theorem alongside_opened : Alongside client {} (goes (acts.take 4)) (goes (acts.take 4)) := by
  have idle : Alongside client {} (goes []) (goes []) := .created
  have started := alongside_concat .start rfl idle rfl rfl
  have listing := alongside_concat (.step .anonymous .proceed) rfl started (by decide +kernel)
    (by decide +kernel)
  have opening := alongside_concat (.step .anonymous (.answered (.ok list))) rfl listing
    (by decide +kernel) rfl
  exact alongside_concat (.step .anonymous (.opened (.ok { status := 200 }))) rfl opening
    (by decide +kernel) rfl

theorem noisily_goes : (goes? (noisily ++ [.step .anonymous (.body .ended)])).isSome = true ∧
    (goes noisily).taken = noisy := by
  decide +kernel

theorem alongside_read : Alongside client {} (goes quietly) (goes noisily) := by
  have alive := noisily_goes.1
  have fed := Alongside.left alongside_opened rfl (goes_follow _ _ quietly_goes.1)
  have read := Alongside.left fed (by decide +kernel) (goes_follow _ _ quietly_goes.1)
  have begun := Alongside.right read rfl (goes_follow _ _ alive)
  have ended := Alongside.right begun rfl (goes_follow _ _ alive)
  have marked := Alongside.right ended (by decide +kernel) (goes_follow _ _ alive)
  exact Alongside.right marked (by decide +kernel) (goes_follow _ _ alive)

/-- A bookmark and a blank line, and other chunks, make no difference to the short life. -/
theorem only_object_changes_matter_of_bookmark :
    (goes quietly).taken = line ∧ (goes noisily).taken = noisy ∧
      (goes quietly).turn.outward = (goes noisily).turn.outward ∧
      (goes noisily).Ready (.step .anonymous (.body .ended)) ∧
      ∃ change, Change.ofLine UntypedObject (Text.trimEnds isLineBlank bookmark) = .ok change := by
  obtain ⟨alike, noise⟩ := @only_object_changes_matter UntypedObject _ client {}
  have document : Json.documentMembers (Text.trimEnds isLineBlank bookmark) =
      .ok [("object", .list [.object [("metadata", .natural 1)]]), ("type", .string "BOOKMARK"),
        ("more", .string "")] := by decide +kernel
  have other : "BOOKMARK" ∉ ["ADDED", "MODIFIED", "DELETED"] := by decide
  obtain ⟨decodes, idle⟩ := noise document (by decide +kernel) other (by decide +kernel)
  have blank : Noise (goes quietly).origin [0x20] := by
    intro result found
    cases found
  have ended : line = line.dropLast ++ lineFeed :: [] := by decide +kernel
  have same : SameButNoise (goes quietly).origin line noisy := by
    refine .right (by decide +kernel) (idle _) ?_
    refine SameButNoise.right (by decide : lineFeed ∉ [0x20]) blank ?_
    rw [ended]
    exact .line (by decide +kernel) .nil
  rw [← quietly_goes.2, ← noisily_goes.2] at same
  obtain ⟨shows, ready⟩ := alike alongside_read same
  exact ⟨quietly_goes.2, noisily_goes.2, shows, ready _ rfl (by decide +kernel), decodes⟩

end Sample

end ListWatch
