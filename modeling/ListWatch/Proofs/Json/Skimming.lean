import ListWatch.Proofs.Json.Members
import ListWatch.Proofs.Json.Tokens

/-!
# Passing over values

What is read as a value can be passed over, and whoever passes over it stops where the reader did.
Neither the depth of the brackets nor the fuel stands in the way: the open brackets are kept on a
stack, and every second step eats a byte.
-/
namespace ListWatch.Json.Reader

variable {input rest between final : Input}

/-! ## Blanks -/

theorem skipBlanksFrom_skipBlanksFrom (bytes : List UInt8) (position : Position) :
    skipped (skipBlanksFrom bytes position) = skipBlanksFrom bytes position := by
  induction bytes generalizing position with
  | nil => rfl
  | cons byte bytes ih =>
    rw [skipBlanksFrom]
    split
    · exact ih _
    next solid => rw [skipped, skipBlanksFrom, if_neg solid]

@[simp] theorem skipped_skipped (input : Input) : skipped (skipped input) = skipped input :=
  skipBlanksFrom_skipBlanksFrom _ _

theorem length_skipped (input : Input) : (skipped input).rest.length ≤ input.rest.length := by
  obtain ⟨bytes, position⟩ := input
  induction bytes generalizing position with
  | nil => exact Nat.le_refl _
  | cons byte bytes ih =>
    rw [skipped, skipBlanksFrom]
    split
    · exact Nat.le_succ_of_le (ih _)
    · exact Nat.le_refl _

/-! ## Steps of passing over -/

/-- The fuel that is enough. -/
def Goal.fuel : Goal → Input → Nat
  | .value, input => 2 * input.rest.length
  | .first, input | .next, input => 2 * input.rest.length + 1

/-- Inside these brackets everything is passed over up to the final input. -/
def SkimsFrom (goal : Goal) (stack : List Bracket) (input final : Input) : Prop :=
  ∀ fuel, goal.fuel input ≤ fuel → Reads (skimFrom fuel goal stack) input () final

namespace SkimsFrom

variable {stack : List Bracket} {bracket : Bracket}

theorem done (input : Input) : SkimsFrom .next [] input input := by
  intro fuel enough
  cases fuel with
  | zero => cases enough
  | succ fuel => exact reads_pure.mpr ⟨rfl, rfl⟩

theorem scalar (start : Reads skimStart input none between)
    (shorter : between.rest.length < input.rest.length)
    (skims : SkimsFrom .next stack between final) : SkimsFrom .value stack input final := by
  intro fuel enough
  simp only [Goal.fuel] at enough
  cases fuel with
  | zero => omega
  | succ fuel =>
    exact reads_bind.mpr ⟨none, between, start, skims fuel (by simp only [Goal.fuel]; omega)⟩

theorem opened (start : Reads skimStart input (some bracket) between)
    (shorter : between.rest.length < input.rest.length)
    (skims : SkimsFrom .first (bracket :: stack) between final) :
    SkimsFrom .value stack input final := by
  intro fuel enough
  simp only [Goal.fuel] at enough
  cases fuel with
  | zero => omega
  | succ fuel =>
    exact reads_bind.mpr
      ⟨some bracket, between, start, skims fuel (by simp only [Goal.fuel]; omega)⟩

/-- The bracket is closed, with nothing in it or after its last value. -/
theorem closed {goal : Goal} (inside : goal = .first ∨ goal = .next)
    (token : (skipped input).rest.head? = some bracket.close)
    (skims : SkimsFrom .next stack (Input.eat (skipped input)) final) :
    SkimsFrom goal (bracket :: stack) input final := by
  intro fuel enough
  have shorter := length_eat token
  have fewer := length_skipped input
  have comma : bracket.close ≠ 0x2C := by cases bracket <;> decide
  rcases inside with rfl | rfl
  all_goals
    simp only [Goal.fuel] at enough
    cases fuel with
    | zero => omega
    | succ fuel =>
      rw [skimFrom, reads_peekToken_bind, token]
      simp only [if_true, comma, if_false, reads_eat_bind]
      exact skims fuel (by simp only [Goal.fuel]; omega)

theorem begun {byte : UInt8} (token : (skipped input).rest.head? = some byte)
    (more : byte ≠ bracket.close) (key : Reads (skimKey bracket) (skipped input) () between)
    (shorter : between.rest.length ≤ input.rest.length)
    (skims : SkimsFrom .value (bracket :: stack) between final) :
    SkimsFrom .first (bracket :: stack) input final := by
  intro fuel enough
  simp only [Goal.fuel] at enough
  cases fuel with
  | zero => omega
  | succ fuel =>
    rw [skimFrom, reads_peekToken_bind, token]
    simp only [if_neg more]
    exact reads_bind.mpr ⟨(), between, key, skims fuel (by simp only [Goal.fuel]; omega)⟩

theorem continued (token : (skipped input).rest.head? = some 0x2C)
    (key : Reads (skimKey bracket) (Input.eat (skipped input)) () between)
    (shorter : between.rest.length ≤ input.rest.length)
    (skims : SkimsFrom .value (bracket :: stack) between final) :
    SkimsFrom .next (bracket :: stack) input final := by
  intro fuel enough
  simp only [Goal.fuel] at enough
  cases fuel with
  | zero => omega
  | succ fuel =>
    rw [skimFrom, reads_peekToken_bind, token]
    simp only [if_true, reads_eat_bind]
    exact reads_bind.mpr ⟨(), between, key, skims fuel (by simp only [Goal.fuel]; omega)⟩

/-- Blanks before a value are passed over too. -/
theorem of_skipped (skims : SkimsFrom .value stack (skipped input) final) :
    SkimsFrom .value stack input final := by
  intro fuel enough
  have fewer := length_skipped input
  simp only [Goal.fuel] at enough
  have read := skims fuel (by simp only [Goal.fuel]; omega)
  cases fuel with
  | zero => exact absurd read not_reads_failHere
  | succ fuel =>
    obtain ⟨opened, between, start, after⟩ := reads_bind.mp read
    rw [skimStart, reads_peekToken_bind, skipped_skipped] at start
    exact reads_bind.mpr ⟨opened, between, start, after⟩

end SkimsFrom

/-! ## What is read between values -/

theorem reads_close {attempt : Reader (Except Fault Unit)} {result : PUnit} :
    Reads (close attempt) input result rest ↔ Reads attempt input (.ok ()) rest := by
  rw [close, reads_bind]
  constructor
  · rintro ⟨_ | ⟨⟩, between, tried, done⟩
    · exact absurd done not_reads_throw
    · obtain ⟨-, rfl⟩ := reads_pure.mp done
      exact tried
  · intro tried
    exact ⟨.ok (), rest, tried, reads_pure.mpr ⟨rfl, rfl⟩⟩

theorem not_reads_faultNext {cause : Cause} : ¬ Reads (faultNext cause) input (.ok ()) rest := nofun

theorem of_reads_closeList (closed : Reads (close tryCloseList) input () rest) :
    (skipped input).rest.head? = some Bracket.list.close ∧ rest = Input.eat (skipped input) := by
  rw [reads_close, tryCloseList, reads_peekToken_bind] at closed
  split at closed
  next token =>
    rw [reads_eat_bind, reads_pure] at closed
    exact ⟨token, closed.2.symm⟩
  next =>
    rw [reads_eat_bind, reads_peekToken_bind] at closed
    split at closed <;> exact absurd closed not_reads_faultNext
  next => exact absurd closed not_reads_faultNext
  next => exact absurd closed not_reads_faultNext

theorem of_reads_closeObject (closed : Reads (close tryCloseObject) input () rest) :
    (skipped input).rest.head? = some Bracket.object.close ∧ rest = Input.eat (skipped input) := by
  rw [reads_close, tryCloseObject, reads_peekToken_bind] at closed
  split at closed
  next token =>
    rw [reads_eat_bind, reads_pure] at closed
    exact ⟨token, closed.2.symm⟩
  next => exact absurd closed not_reads_faultNext
  next => exact absurd closed not_reads_faultNext
  next => exact absurd closed not_reads_faultNext

theorem of_reads_colon {result : PUnit} (read : Reads colon input result rest) :
    (skipped input).rest.head? = some 0x3A ∧ rest = Input.eat (skipped input) := by
  rw [colon, reads_peekToken_bind] at read
  split at read
  next token => exact ⟨token, (reads_eat.mp read).symm⟩
  next => exact absurd read not_reads_failNext
  next => exact absurd read not_reads_failNext

/-- What stands before the next value inside a bracket, or before its end. -/
inductive Separated (bracket : Bracket) (input : Input) : (first found : Bool) → Input → Prop where
  | ended {first} : Separated bracket input first false (skipped input)
  | begun {byte} : (skipped input).rest.head? = some byte → byte ≠ bracket.close →
      Separated bracket input true true (skipped input)
  | continued : (skipped input).rest.head? = some 0x2C →
      Separated bracket input false true (skipped (Input.eat (skipped input)))

theorem separated_of_nextElement {first found : Bool}
    (read : Reads (nextElement first) input found rest) :
    Separated .list input first found rest := by
  rw [nextElement, reads_peekToken_bind] at read
  split at read
  next => exact absurd read not_reads_failNext
  next =>
    obtain ⟨rfl, rfl⟩ := reads_pure.mp read
    exact .ended
  next byte other token =>
    cases first with
    | true =>
      obtain ⟨rfl, rfl⟩ := reads_pure.mp read
      exact .begun token other
    | false =>
      simp only [Bool.false_eq_true, if_false] at read
      split at read
      next comma =>
        rw [reads_eat_bind, reads_peekToken_bind] at read
        split at read
        next => exact absurd read not_reads_failNext
        next =>
          obtain ⟨rfl, rfl⟩ := reads_pure.mp read
          exact .continued (comma ▸ token)
        next => exact absurd read not_reads_failNext
      next => exact absurd read not_reads_failNext

/-- Whether a key begins here. -/
def beginsKey : Option UInt8 → Reader Bool
  | some 0x22 => pure true
  | some 0x7D => failNext .trailingComma
  | some _ => failNext .keyNotString
  | none => failNext .endInValue

theorem of_reads_beginsKey {token : Option UInt8} {found : Bool}
    (read : Reads (beginsKey token) input found rest) :
    found = true ∧ token = some 0x22 ∧ input = rest := by
  unfold beginsKey at read
  split at read
  · obtain ⟨rfl, rfl⟩ := reads_pure.mp read
    exact ⟨rfl, rfl, rfl⟩
  all_goals exact absurd read not_reads_failNext

theorem separated_of_nextMember {first found : Bool}
    (read : Reads (nextMember first) input found rest) :
    Separated .object input first found rest ∧ (found = true → rest.rest.head? = some 0x22) := by
  rw [nextMember, reads_peekToken_bind] at read
  split at read
  next => exact absurd read not_reads_failNext
  next =>
    obtain ⟨rfl, rfl⟩ := reads_pure.mp read
    exact ⟨.ended, nofun⟩
  next byte other token =>
    cases first with
    | true =>
      simp only [if_true, pure_bind] at read
      obtain ⟨rfl, quote, rfl⟩ := of_reads_beginsKey read
      exact ⟨.begun token other, fun _ => quote⟩
    | false =>
      simp only [Bool.false_eq_true, if_false] at read
      split at read
      next comma =>
        rw [reads_eat_bind, reads_peekToken_bind] at read
        obtain ⟨rfl, quote, rfl⟩ := of_reads_beginsKey read
        exact ⟨.continued (comma ▸ token), fun _ => quote⟩
      next => exact absurd read not_reads_failNext_bind

/-! ## Values -/

/-- What was read up to the rest is passed over, with these brackets open. -/
def PassesOver (goal : Goal) (opened : List Bracket) (input rest : Input) : Prop :=
  rest.rest.length < input.rest.length ∧ ∀ stack final, SkimsFrom .next stack rest final →
    SkimsFrom goal (opened ++ stack) input final

theorem PassesOver.scalar (start : Reads skimStart input none rest)
    (shorter : rest.rest.length < input.rest.length) : PassesOver .value [] input rest :=
  ⟨shorter, fun _ _ skims => .scalar start shorter skims⟩

theorem PassesOver.bracket {bracket : Bracket}
    (start : Reads skimStart input (some bracket) between)
    (shorter : between.rest.length < input.rest.length)
    (passes : PassesOver .first [bracket] between rest) : PassesOver .value [] input rest := by
  obtain ⟨less, passed⟩ := passes
  exact ⟨by omega, fun stack final skims => .opened start shorter (passed _ _ skims)⟩

theorem PassesOver.elements {element : Reader Value}
    (passes : ∀ input value rest, Reads element input value rest → PassesOver .value [] input rest)
    {fuel : Nat} {first : Bool} {values : List Value}
    (read : Reads (elements element fuel first) input values between)
    (closed : Reads (close tryCloseList) between () rest) :
    PassesOver (if first then .first else .next) [.list] input rest := by
  have fewer := length_skipped input
  -- The fuel of the reader carries the induction. That of whoever passes over comes from the bytes.
  induction fuel generalizing first input values with
  | zero => exact absurd read not_reads_failNext
  | succ fuel ih =>
    obtain ⟨found, next, decided, read⟩ := reads_bind.mp read
    cases separated_of_nextElement decided with
    | ended =>
      obtain ⟨-, rfl⟩ := reads_pure.mp read
      obtain ⟨token, rfl⟩ := of_reads_closeList closed
      rw [skipped_skipped] at token ⊢
      have shorter := length_eat token
      exact ⟨by omega, fun stack final skims => .closed (by cases first <;> simp) token skims⟩
    | begun token more =>
      obtain ⟨value, after, element, read⟩ := reads_bind.mp read
      obtain ⟨values, last, remaining, returned⟩ := reads_bind.mp read
      obtain ⟨-, rfl⟩ := reads_pure.mp returned
      obtain ⟨less, passed⟩ := passes _ _ _ element
      obtain ⟨still, left⟩ := ih remaining (length_skipped after)
      refine ⟨by omega, fun stack final skims => ?_⟩
      exact .begun token more (reads_pure.mpr ⟨rfl, rfl⟩) fewer (passed _ _ (left _ _ skims))
    | continued token =>
      obtain ⟨value, after, element, read⟩ := reads_bind.mp read
      obtain ⟨values, last, remaining, returned⟩ := reads_bind.mp read
      obtain ⟨-, rfl⟩ := reads_pure.mp returned
      obtain ⟨less, passed⟩ := passes _ _ _ element
      obtain ⟨still, left⟩ := ih remaining (length_skipped after)
      have eaten := length_eat token
      have blanks := length_skipped (Input.eat (skipped input))
      refine ⟨by omega, fun stack final skims => ?_⟩
      exact .continued token (reads_pure.mpr ⟨rfl, rfl⟩) (by omega)
        (.of_skipped (passed _ _ (left _ _ skims)))

theorem skimKey_object {key : String} {named : Input} {result : PUnit}
    (quote : (skipped input).rest.head? = some 0x22)
    (text : Reads string (Input.eat (skipped input)) key named)
    (parted : Reads colon named result rest) :
    Reads (skimKey .object) input () rest ∧ rest.rest.length < input.rest.length := by
  obtain ⟨token, rfl⟩ := of_reads_colon parted
  obtain ⟨shorter, skimmed⟩ := skimString_of_string text
  have eaten := length_eat quote
  have closed := length_eat token
  have fewer := length_skipped input
  have blanks := length_skipped named
  refine ⟨?_, by omega⟩
  rw [skimKey, reads_peekToken_bind, quote]
  refine reads_eat_bind.mpr (reads_bind.mpr ⟨(), named, skimmed, ?_⟩)
  rw [reads_peekToken_bind, token]
  exact reads_eat.mpr rfl

theorem PassesOver.members {value : Reader Value}
    (passes : ∀ input found rest, Reads value input found rest → PassesOver .value [] input rest)
    {fuel : Nat} {first : Bool} {members : Members}
    (read : Reads (listMembers value fuel first) input members between)
    (closed : Reads (close tryCloseObject) between () rest) :
    PassesOver (if first then .first else .next) [.object] input rest := by
  have fewer := length_skipped input
  induction fuel generalizing first input members with
  | zero => exact absurd read not_reads_failNext
  | succ fuel ih =>
    obtain ⟨found, next, decided, read⟩ := reads_bind.mp read
    obtain ⟨separated, quoted⟩ := separated_of_nextMember decided
    cases found with
    | false =>
      cases separated
      obtain ⟨-, rfl⟩ := reads_pure.mp read
      obtain ⟨token, rfl⟩ := of_reads_closeObject closed
      rw [skipped_skipped] at token ⊢
      have shorter := length_eat token
      exact ⟨by omega, fun stack final skims => .closed (by cases first <;> simp) token skims⟩
    | true =>
      obtain ⟨key, named, text, read⟩ := reads_bind.mp (reads_eat_bind.mp read)
      obtain ⟨_, colon, stopped, read⟩ := reads_bind.mp read
      obtain ⟨found, after, value, read⟩ := reads_bind.mp read
      obtain ⟨members, last, remaining, returned⟩ := reads_bind.mp read
      obtain ⟨-, rfl⟩ := reads_pure.mp returned
      obtain ⟨less, passed⟩ := passes _ _ _ value
      obtain ⟨still, left⟩ := ih remaining (length_skipped after)
      have quote := quoted rfl
      cases separated with
      | begun token more =>
        rw [← skipped_skipped] at quote text
        obtain ⟨skimmed, shorter⟩ := skimKey_object quote text stopped
        refine ⟨by omega, fun stack final skims => ?_⟩
        exact .begun token more skimmed (by omega) (passed _ _ (left _ _ skims))
      | continued token =>
        obtain ⟨skimmed, shorter⟩ := skimKey_object quote text stopped
        have eaten := length_eat token
        refine ⟨by omega, fun stack final skims => ?_⟩
        exact .continued token skimmed (by omega) (passed _ _ (left _ _ skims))

theorem of_reads_enter {depth : Nat} {result : PUnit}
    (read : Reads (enter depth) input result rest) : rest = Input.eat input := by
  rw [enter] at read
  split at read
  · exact absurd read not_reads_failNext
  · exact (reads_eat.mp read).symm

theorem skimStart_digit {byte : UInt8} (token : (skipped input).rest.head? = some byte)
    (digit : isDigit byte = true) (skimmed : Reads skimNumber (skipped input) () rest) :
    Reads skimStart input none rest := by
  rw [skimStart, reads_peekToken_bind, token]
  split
  case h_9 same =>
    cases same
    simp only [digit, if_true]
    exact reads_bind.mpr ⟨(), rest, skimmed, reads_pure.mpr ⟨rfl, rfl⟩⟩
  case h_1 same => cases same
  -- No digit is one of the bytes that begin another value.
  all_goals
    rename_i same
    cases same
    cases digit

/-- Whatever is read as a value can be passed over. -/
theorem passesOver_of_reads_any {depth : Nat} {value : Value}
    (read : Reads (Schema.read depth .any) input value rest) : PassesOver .value [] input rest := by
  have fewer := length_skipped input
  induction depth generalizing input value rest with
  | zero => exact absurd read not_reads_failNext
  | succ depth ih =>
    have within : ∀ input value rest, Reads (Schema.read depth .any) input value rest →
        PassesOver .value [] input rest := fun _ _ _ read => ih read (length_skipped _)
    rw [Schema.read, reads_peekToken_bind] at read
    -- The first byte tells both readers what value stands there.
    split at read
    case h_1 => exact absurd read not_reads_failNext
    case h_2 token | h_3 token | h_4 token =>
      obtain ⟨_, between, tail, read⟩ := reads_bind.mp (reads_eat_bind.mp read)
      obtain ⟨-, rfl⟩ := reads_pure.mp read
      have eaten := length_eat token
      have shorter := Shrinks.word _ _ _ _ tail
      refine .scalar ?_ (by omega)
      rw [skimStart, reads_peekToken_bind, token]
      exact reads_eat_bind.mpr (reads_bind.mpr ⟨(), between, tail, reads_pure.mpr ⟨rfl, rfl⟩⟩)
    case h_5 token =>
      obtain ⟨n, between, number, read⟩ := reads_bind.mp (reads_eat_bind.mp read)
      obtain ⟨-, rfl⟩ := reads_pure.mp read
      obtain ⟨shorter, skimmed⟩ := skimNumber_of_number number
      have eaten := length_eat token
      refine .scalar ?_ (by omega)
      rw [skimStart, reads_peekToken_bind, token]
      exact reads_eat_bind.mpr (reads_bind.mpr ⟨(), between, skimmed, reads_pure.mpr ⟨rfl, rfl⟩⟩)
    case h_6 token =>
      obtain ⟨text, between, string, read⟩ := reads_bind.mp (reads_eat_bind.mp read)
      obtain ⟨-, rfl⟩ := reads_pure.mp read
      obtain ⟨shorter, skimmed⟩ := skimString_of_string string
      have eaten := length_eat token
      refine .scalar ?_ (by omega)
      rw [skimStart, reads_peekToken_bind, token]
      exact reads_eat_bind.mpr (reads_bind.mpr ⟨(), between, skimmed, reads_pure.mpr ⟨rfl, rfl⟩⟩)
    case h_7 token =>
      obtain ⟨_, entered, enter, read⟩ := reads_bind.mp read
      obtain rfl := of_reads_enter enter
      obtain ⟨values, between, elements, read⟩ := reads_bind.mp (reads_budget_bind.mp read)
      obtain ⟨_, last, closed, read⟩ := reads_bind.mp read
      obtain ⟨-, rfl⟩ := reads_pure.mp read
      have eaten := length_eat token
      have inside : PassesOver .first [.list] _ last := .elements within elements closed
      have opened : Reads skimStart input (some .list) (Input.eat (skipped input)) := by
        rw [skimStart, reads_peekToken_bind, token]
        exact reads_eat_bind.mpr (reads_pure.mpr ⟨rfl, rfl⟩)
      exact .bracket opened (by omega) inside
    case h_8 token =>
      obtain ⟨_, entered, enter, read⟩ := reads_bind.mp read
      obtain rfl := of_reads_enter enter
      obtain ⟨found, between, members, read⟩ := reads_bind.mp (reads_budget_bind.mp read)
      obtain ⟨_, last, closed, read⟩ := reads_bind.mp read
      obtain ⟨-, rfl⟩ := reads_pure.mp read
      rw [members_anyMember, reads_map] at members
      obtain ⟨listed, members, -⟩ := members
      have eaten := length_eat token
      have inside : PassesOver .first [.object] _ last := .members within members closed
      have opened : Reads skimStart input (some .object) (Input.eat (skipped input)) := by
        rw [skimStart, reads_peekToken_bind, token]
        exact reads_eat_bind.mpr (reads_pure.mpr ⟨rfl, rfl⟩)
      exact .bracket opened (by omega) inside
    case h_9 byte _ _ _ _ _ _ _ token =>
      split at read
      next digit =>
        obtain ⟨n, between, number, read⟩ := reads_bind.mp read
        obtain ⟨-, rfl⟩ := reads_pure.mp read
        obtain ⟨shorter, skimmed⟩ := skimNumber_of_number number
        exact .scalar (skimStart_digit token digit skimmed) (by omega)
      next => exact absurd read not_reads_failNext

/-- What is read as a value is skimmed, from the same input to the same. -/
theorem reads_skim {depth : Nat} {value : Value}
    (read : Reads (Schema.read depth .any) input value rest) : Reads skim input () rest := by
  obtain ⟨-, passed⟩ := passesOver_of_reads_any read
  rw [skim, reads_budget_bind]
  exact passed [] rest (.done rest) _ (by simp only [Goal.fuel]; omega)

end ListWatch.Json.Reader
