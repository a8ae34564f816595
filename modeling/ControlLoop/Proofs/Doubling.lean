import ControlLoop.Settings
import Mathlib.Algebra.Order.Ring.Nat

/-!
# Pauses that double

The pauses of a policy double up to the longest one as long as the power of two fits into a
word of 32 bits.  The attempts after that pause for the longest time, so a policy whose
longest pause is more than `2 ^ 32` times the first one skips all pauses in between.  That
the seconds of a duration are counted in a word of 64 bits makes no difference.

Main statement: `RetryPolicy.doubles_iff`.
-/

namespace ControlLoop

/-! ## Counting in words -/

namespace Duration

/-- The seconds of a duration fit into a word of 64 bits. -/
def IsCounted (duration : Duration) : Prop :=
  duration.seconds < UInt64.size

instance (duration : Duration) : Decidable duration.IsCounted :=
  inferInstanceAs (Decidable (_ < _))

/-- A multiple of a duration, if its seconds fit into a word of 64 bits. -/
def times? (duration : Duration) (factor : Nat) : Option Duration :=
  let product : Duration := duration * factor
  if product.IsCounted then some product else none

/-- What is longer than any duration that can be counted exceeds those that can. -/
theorem lt_of_not_isCounted {duration longer : Duration} (counted : duration.IsCounted)
    (uncounted : ¬ longer.IsCounted) : duration < longer := by
  rw [IsCounted, Nat.not_lt] at uncounted
  exact Nat.lt_of_div_lt_div (Nat.lt_of_lt_of_le counted uncounted)

end Duration

namespace RetryPolicy

/-- A power of two, if it fits into a word of 32 bits. -/
def doubling? (attempt : Nat) : Option Nat :=
  if 2 ^ attempt < UInt32.size then some (2 ^ attempt) else none

/-- The pause after a failed attempt, counted in words: the longest one where a word
overflows. -/
def countedBackoff (policy : RetryPolicy) (attempt : Nat) : Duration :=
  match (doubling? attempt).bind policy.initialBackoff.times? with
  | some delay => min delay policy.maxBackoff
  | none => policy.maxBackoff

/-- The first pause, doubled as often as attempts came before and cut down to the longest
one. -/
def doubled (policy : RetryPolicy) (attempt : Nat) : Duration :=
  min (policy.initialBackoff * 2 ^ attempt) policy.maxBackoff

/-- All pauses of a policy double up to the longest one. -/
def Doubles (policy : RetryPolicy) : Prop :=
  ∀ attempt, policy.backoff attempt = policy.doubled attempt

variable {policy : RetryPolicy} {attempt : Nat}

theorem doubling?_eq (attempt : Nat) :
    doubling? attempt = if attempt < doublingLimit then some (2 ^ attempt) else none := by
  have size : UInt32.size = 2 ^ doublingLimit := by decide
  have fits : 2 ^ attempt < UInt32.size ↔ attempt < doublingLimit := by
    rw [size, Nat.pow_lt_pow_iff_right Nat.one_lt_two]
  simp only [doubling?, fits]

/-! ## Pauses -/

theorem backoff_of_lt (early : attempt < doublingLimit) :
    policy.backoff attempt = policy.doubled attempt := by
  rw [backoff, if_pos early, Nat.shiftLeft_eq]
  rfl

theorem backoff_of_le (late : doublingLimit ≤ attempt) :
    policy.backoff attempt = policy.maxBackoff := by
  rw [backoff, if_neg (Nat.not_lt.2 late)]

/-- Counting in words changes no pause, if the longest one can be counted. -/
theorem countedBackoff_eq (counted : policy.maxBackoff.IsCounted) (attempt : Nat) :
    policy.countedBackoff attempt = policy.backoff attempt := by
  rw [countedBackoff, doubling?_eq]
  rcases Nat.lt_or_ge attempt doublingLimit with early | late
  · rw [if_pos early, backoff_of_lt early, Option.bind_some, Duration.times?]
    by_cases counts : Duration.IsCounted (policy.initialBackoff * 2 ^ attempt)
    · rw [if_pos counts]
      rfl
    · -- the product is longer than the longest pause
      rw [if_neg counts, doubled]
      exact (Nat.min_eq_right (Duration.lt_of_not_isCounted counted counts).le).symm
  · rw [if_neg (Nat.not_lt.2 late), backoff_of_le late]
    rfl

theorem doubled_mono (policy : RetryPolicy) : Monotone policy.doubled := by
  intro attempt later before
  have powers : 2 ^ attempt ≤ 2 ^ later := Nat.pow_le_pow_right (by decide) before
  exact Nat.le_min.2 ⟨(Nat.min_le_left _ _).trans (Nat.mul_le_mul_left _ powers),
    Nat.min_le_right _ _⟩

theorem doubled_le_maxBackoff (policy : RetryPolicy) (attempt : Nat) :
    policy.doubled attempt ≤ policy.maxBackoff :=
  Nat.min_le_right _ _

theorem backoff_le_maxBackoff (policy : RetryPolicy) (attempt : Nat) :
    policy.backoff attempt ≤ policy.maxBackoff := by
  rcases Nat.lt_or_ge attempt doublingLimit with early | late
  · rw [backoff_of_lt early]
    exact policy.doubled_le_maxBackoff attempt
  · rw [backoff_of_le late]

theorem backoff_mono (policy : RetryPolicy) : Monotone policy.backoff := by
  intro attempt later before
  rcases Nat.lt_or_ge later doublingLimit with early | late
  · rw [backoff_of_lt early, backoff_of_lt (Nat.lt_of_le_of_lt before early)]
    exact policy.doubled_mono before
  · rw [backoff_of_le late]
    exact policy.backoff_le_maxBackoff attempt

/-! ## Doubling -/

theorem doubled_eq_maxBackoff_iff :
    policy.doubled attempt = policy.maxBackoff ↔
      policy.maxBackoff ≤ policy.initialBackoff * 2 ^ attempt :=
  inf_eq_right

/-- A pause is as doubled unless the power of two overflows before the longest pause is
reached. -/
theorem backoff_eq_doubled_iff :
    policy.backoff attempt = policy.doubled attempt ↔
      attempt < doublingLimit ∨ policy.maxBackoff ≤ policy.initialBackoff * 2 ^ attempt := by
  rcases Nat.lt_or_ge attempt doublingLimit with early | late
  · simp [early, backoff_of_lt early]
  · rw [backoff_of_le late, eq_comm, doubled_eq_maxBackoff_iff,
      or_iff_right (Nat.not_lt.2 late)]

theorem doubles_iff_le :
    policy.Doubles ↔ policy.maxBackoff ≤ policy.initialBackoff * 2 ^ doublingLimit := by
  constructor
  · intro doubles
    exact (backoff_eq_doubled_iff.1 (doubles doublingLimit)).resolve_left (Nat.lt_irrefl _)
  · intro reached attempt
    rcases Nat.lt_or_ge attempt doublingLimit with early | late
    · exact backoff_of_lt early
    · have powers := Nat.mul_le_mul_left policy.initialBackoff
        (Nat.pow_le_pow_right (by decide) late : 2 ^ doublingLimit ≤ 2 ^ attempt)
      exact backoff_eq_doubled_iff.2 (.inr (reached.trans powers))

theorem doubled_succ_le (policy : RetryPolicy) (attempt : Nat) :
    policy.doubled (attempt + 1) ≤ 2 * policy.doubled attempt := by
  rw [doubled, doubled, Nat.pow_succ]
  lia

/-- Pauses at most double from one attempt to the next, if they double at all. -/
theorem backoff_succ_le_iff :
    (∀ attempt, policy.backoff (attempt + 1) ≤ 2 * policy.backoff attempt) ↔
      policy.Doubles := by
  constructor
  · intro gradual
    -- the pause before the power of two overflows is the last one that is doubled
    have last : policy.backoff 31 = policy.doubled 31 := backoff_of_lt (by decide)
    have jump := gradual 31
    rw [last, backoff_of_le (by decide), doubled] at jump
    rw [doubles_iff_le, doublingLimit]
    lia
  · intro doubles attempt
    rw [doubles, doubles]
    exact policy.doubled_succ_le attempt

/-- Whatever the policy, its pauses never become shorter and do not exceed the longest one,
and no overflow of the seconds changes them.  They double exactly if the longest pause is at
most `2 ^ 32` times the first one, and otherwise jump to it at once. -/
theorem doubles_iff (policy : RetryPolicy) :
    Monotone policy.backoff ∧ (∀ attempt, policy.backoff attempt ≤ policy.maxBackoff) ∧
    (policy.maxBackoff.IsCounted →
      ∀ attempt, policy.countedBackoff attempt = policy.backoff attempt) ∧
    (∀ attempt, policy.backoff attempt = policy.doubled attempt ↔
      attempt < doublingLimit ∨ policy.maxBackoff ≤ policy.initialBackoff * 2 ^ attempt) ∧
    (policy.Doubles ↔ policy.maxBackoff ≤ policy.initialBackoff * 2 ^ doublingLimit) ∧
    ((∀ attempt, policy.backoff (attempt + 1) ≤ 2 * policy.backoff attempt) ↔
      policy.maxBackoff ≤ policy.initialBackoff * 2 ^ doublingLimit) :=
  ⟨policy.backoff_mono, policy.backoff_le_maxBackoff, countedBackoff_eq,
    fun _ => backoff_eq_doubled_iff, doubles_iff_le, backoff_succ_le_iff.trans doubles_iff_le⟩

theorem write_doubles :
    write.maxBackoff.IsCounted ∧
      (∀ attempt, write.countedBackoff attempt = write.backoff attempt) ∧
      write.Doubles := by
  have counted : write.maxBackoff.IsCounted := by decide
  obtain ⟨-, -, same, -, doubles, -⟩ := write.doubles_iff
  exact ⟨counted, same counted, doubles.2 (by decide)⟩

/-- Pauses from a nanosecond up to ten seconds. -/
def hasty : RetryPolicy :=
  { write with initialBackoff := 1, jitter := false }

/-- After a pause of two seconds, the next one is ten seconds long at once. -/
theorem hasty_jumps :
    hasty.maxBackoff.IsCounted ∧ hasty.backoff 31 = .ofParts 2 147483648 ∧
      hasty.doubled 32 = .ofParts 4 294967296 ∧ hasty.backoff 32 = .ofSeconds 10 ∧
      hasty.countedBackoff 32 = .ofSeconds 10 ∧ ¬ hasty.Doubles := by
  refine ⟨by decide, by decide, by decide, by decide, by decide, fun doubles => ?_⟩
  exact absurd (doubles 32) (by decide)

end RetryPolicy

/-- The pauses that settings ask for double exactly if the longest one is at most `2 ^ 32`
times the first one. -/
theorem Settings.retryPolicy_doubles_iff (settings : Settings) (deadline : Duration) :
    (settings.retryPolicy deadline).Doubles ↔
      settings.maxBackoffMilliseconds.toNat ≤
        settings.initialBackoffMilliseconds.toNat * 2 ^ RetryPolicy.doublingLimit := by
  rw [RetryPolicy.doubles_iff_le, retryPolicy]
  simp only [Duration.ofMilliseconds, RetryPolicy.doublingLimit]
  lia

end ControlLoop
