import ListWatch.Proofs.Event.Framing
import ListWatch.Proofs.Replica.Keys

/-!
# Noise in a stream

A line of a watch stream is noise for a replica when it is blank, or decodes to a change that
leaves the replica alone and is told to nobody: a bookmark, an error, a change of an unknown kind,
or the deletion of an object that is not held. Two streams are the same but for noise when they
come from one by putting in lines that are noise where they stand.
-/
namespace ListWatch

variable {α : Type} [Resource α]

/-- The change leaves the replica alone and contradicts nothing. -/
def Change.Idle (replica : Replica α) : Change α → Prop
  | .bookmark _ | .error _ | .unknown _ => True
  | .deleted object => Resource.key object ∉ replica.keys
  | .added _ | .modified _ => False

theorem Change.Idle.apply {replica : Replica α} {change : Change α} (idle : change.Idle replica) :
    replica.apply change = (replica, .unchanged) := by
  cases change with
  | added _ | modified _ => exact idle.elim
  | deleted object => exact replica.apply_deleted_of_not_mem idle
  | bookmark _ | error _ | unknown _ => rfl

/-! ## Lines -/

/-- What a line decodes to, unless it is blank. -/
def lineResult? (α : Type) [Resource α] (line : List UInt8) :
    Option (Except LineError (Change α)) :=
  let text := Text.trimEnds isLineBlank line
  if text.isEmpty then none else some (Change.ofLine α text)

/-- A stream says what its first line does, and then what the rest does. -/
theorem streamResults_line {line : List UInt8} (unfed : lineFeed ∉ line) (rest : List UInt8) :
    streamResults α (line ++ lineFeed :: rest) =
      (lineResult? α line).toList ++ streamResults α rest := by
  have ended : Closed (line ++ [lineFeed]) := Or.inr ⟨line, rfl⟩
  have whole : line ++ lineFeed :: rest = line ++ [lineFeed] ++ rest := by simp
  rw [whole, streamResults_append α ended, streamResults, contentLines_line unfed, lineResult?]
  cases blank : (Text.trimEnds isLineBlank line).isEmpty <;> simp [blank]

/-- Every change that the line decodes to is idle. -/
def Noise (replica : Replica α) (line : List UInt8) : Prop :=
  ∀ result ∈ lineResult? α line, ∃ change, result = .ok change ∧ change.Idle replica

/-- The replica once the line was taken. -/
def Replica.afterLine (replica : Replica α) (line : List UInt8) : Replica α :=
  match lineResult? α line with
  | some (.ok change) => (replica.apply change).1
  | some (.error _) | none => replica

/-! ## Streams -/

/-- Two streams that a replica is taken along, with the same lines but for noise. -/
inductive SameButNoise : Replica α → List UInt8 → List UInt8 → Prop where
  | nil {replica} : SameButNoise replica [] []
  | line {replica line first second} : lineFeed ∉ line →
      SameButNoise (replica.afterLine line) first second →
      SameButNoise replica (line ++ lineFeed :: first) (line ++ lineFeed :: second)
  | left {replica line first second} : lineFeed ∉ line → Noise replica line →
      SameButNoise replica first second →
      SameButNoise replica (line ++ lineFeed :: first) second
  | right {replica line first second} : lineFeed ∉ line → Noise replica line →
      SameButNoise replica first second →
      SameButNoise replica first (line ++ lineFeed :: second)

end ListWatch
