import Mathlib.Algebra.Ring.Nat
import Mathlib.Data.List.Induction
import SharedRing.Backoff

/-!
How long pauses get. Whatever was called before, the next pause takes as long as the base that
holds now, times what the pauses since the last reset have made of it (`growth`), but no longer
than the longest duration and the maximum that holds now. So between two resets, as long as base
and maximum stay as they are, no pause is shorter than one before it, and the first that takes the
maximum is followed by such pauses only (`nextDelay_after`).

The growth doubles 31 times and nearly doubles once more; from then on it stands still.
-/

namespace SharedRing

theorem Duration.eq_of_nanos {d e : Duration} (h : d.nanos = e.nanos) : d = e := by
  cases d
  cases e
  cases h
  rfl

namespace Backoff

/-! ### Calls -/

inductive Call where
  | snooze
  | reset
  | setBase (d : Duration)
  | setMax (d : Duration)
  deriving DecidableEq

def step (b : Backoff) : Call → Backoff
  | .snooze => b.snooze
  | .reset => b.reset
  | .setBase d => { b with base := d }
  | .setMax d => { b with max := d }

def after (b : Backoff) (calls : List Call) : Backoff := calls.foldl step b

theorem after_append_singleton (b : Backoff) (calls : List Call) (call : Call) :
    b.after (calls ++ [call]) = (b.after calls).step call := by
  simp [after]

namespace Call

def base? : Call → Option Duration
  | setBase d => some d
  | _ => none

def max? : Call → Option Duration
  | setMax d => some d
  | _ => none

end Call

/-- What was set last, by the calls that set it; the first value if none did. -/
def lastSet (set? : Call → Option Duration) (first : Duration) (calls : List Call) : Duration :=
  (calls.reverse.findSome? set?).getD first

theorem lastSet_append_singleton (set? : Call → Option Duration) (first : Duration)
    (calls : List Call) (call : Call) :
    lastSet set? first (calls ++ [call]) = (set? call).getD (lastSet set? first calls) := by
  rw [lastSet, List.reverse_append, List.reverse_singleton, List.singleton_append,
    List.findSome?_cons]
  cases set? call <;> rfl

def lastBase (first : Duration) (calls : List Call) : Duration := lastSet Call.base? first calls

def lastMax (first : Duration) (calls : List Call) : Duration := lastSet Call.max? first calls

def pauses (calls : List Call) : Nat :=
  (calls.reverse.takeWhile (· ≠ .reset)).count .snooze

variable {base max : Duration} {calls more : List Call}

theorem base_after : ((new base max).after calls).base = lastBase base calls := by
  induction calls using List.reverseRecOn with
  | nil => rfl
  | append_singleton calls call ih =>
      rw [after_append_singleton, lastBase, lastSet_append_singleton, ← lastBase, ← ih]
      cases call <;> rfl

theorem max_after : ((new base max).after calls).max = lastMax max calls := by
  induction calls using List.reverseRecOn with
  | nil => rfl
  | append_singleton calls call ih =>
      rw [after_append_singleton, lastMax, lastSet_append_singleton, ← lastMax, ← ih]
      cases call <;> rfl

theorem toNat_attempt_snooze (b : Backoff) :
    b.snooze.attempt.toNat = min (b.attempt.toNat + 1) 4294967295 := by
  have hlt := b.attempt.toNat_lt
  rw [snooze]
  dsimp only
  split
  · rename_i hlast
    rw [hlast]
    rfl
  · rename_i hnext
    rw [← UInt32.toNat_inj] at hnext
    simp only [UInt32.toNat_add, UInt32.toNat_one, UInt32.reduceToNat] at hnext ⊢
    omega

/-- The count of a backoff is the number of its pauses since the last reset, as far as 32 bits
count them. -/
theorem toNat_attempt_after :
    ((new base max).after calls).attempt.toNat = min (pauses calls) 4294967295 := by
  induction calls using List.reverseRecOn with
  | nil => rfl
  | append_singleton calls call ih =>
      rw [after_append_singleton]
      cases call with
      | snooze =>
          have hnext : pauses (calls ++ [.snooze]) = pauses calls + 1 := by simp [pauses]
          rw [step, toNat_attempt_snooze, ih, hnext]
          omega
      | reset => simp [step, reset, pauses]
      | setBase d | setMax d => simpa [step, pauses] using ih

/-- Calls without a reset among them only add their pauses. -/
theorem pauses_append (h : .reset ∉ more) :
    pauses (calls ++ more) = more.count .snooze + pauses calls := by
  have hkept : ∀ call ∈ more.reverse, decide (call ≠ .reset) = true := by
    intro call hcall
    rw [decide_eq_true_iff]
    rintro rfl
    exact h (List.mem_reverse.1 hcall)
  rw [pauses, List.reverse_append, List.takeWhile_append_of_pos hkept, List.count_append,
    List.count_reverse, pauses]

/-! ### Lengths -/

/-- How many times the base a pause takes after so many others. -/
def growth (k : Nat) : Nat := if k < 32 then 2 ^ k else 2 ^ 32 - 1

theorem growth_min (k : Nat) : growth (min k 4294967295) = growth k := by
  by_cases h : k ≤ 4294967295
  · rw [Nat.min_eq_left h]
  · rw [growth, growth, if_neg (by omega), if_neg (by omega)]

theorem growth_mono {k l : Nat} (h : k ≤ l) : growth k ≤ growth l := by
  have hstep {k l : Nat} (h : k ≤ l) : 2 ^ k ≤ 2 ^ l := Nat.pow_le_pow_right (by decide) h
  rw [growth, growth]
  split
  · split
    · exact hstep h
    · -- the last doubling falls one short, and is still more than none
      exact Nat.le_trans (hstep (l := 31) (by omega)) (by decide)
  · rw [if_neg (by omega)]

/-- The nanoseconds of a base that has grown so often: the product, or the longest duration when
the product is none. -/
def grown (base : Duration) (k : Nat) : Nat :=
  if base.nanos * growth k < Duration.limit then base.nanos * growth k else Duration.limit - 1

theorem grown_mono (base : Duration) {k l : Nat} (h : k ≤ l) : grown base k ≤ grown base l := by
  have hproduct := Nat.mul_le_mul_left base.nanos (growth_mono h)
  rw [grown, grown]
  split <;> split <;> omega

theorem nanos_nextDelay (b : Backoff) :
    b.nextDelay.nanos = min (grown b.base b.attempt.toNat) b.max.nanos := by
  have hgrown : (b.base.mul (factor b.attempt)).nanos = grown b.base b.attempt.toNat := by
    have hlimit := Duration.limit_pos
    have hfactor : factor b.attempt = growth b.attempt.toNat := rfl
    rw [grown, Duration.mul, hfactor, Duration.ofNanos_nanos]
    split <;> omega
  rw [nextDelay, delay, Duration.atMost, ← hgrown]
  split <;> omega

theorem nanos_nextDelay_after :
    ((new base max).after calls).nextDelay.nanos =
      min (grown (lastBase base calls) (pauses calls)) (lastMax max calls).nanos := by
  rw [nanos_nextDelay, base_after, max_after, toNat_attempt_after, grown, growth_min, grown]

/-- After any calls the next pause takes as long as the base that was set last, grown by the pauses
since the last reset, or as long as the maximum that was set last, if that is less. When more calls
follow, without a reset and with the same base and maximum at their end, then it is no shorter
there, and the maximum if it was the maximum before. -/
theorem nextDelay_after (base max : Duration) (calls : List Call) :
    ((new base max).after calls).nextDelay.nanos =
        min (grown (lastBase base calls) (pauses calls)) (lastMax max calls).nanos ∧
      ((new base max).after calls).nextDelay.nanos ≤ (lastMax max calls).nanos ∧
      ∀ more : List Call, .reset ∉ more →
        lastBase base (calls ++ more) = lastBase base calls →
        lastMax max (calls ++ more) = lastMax max calls →
        ((new base max).after calls).nextDelay.nanos ≤
            ((new base max).after (calls ++ more)).nextDelay.nanos ∧
          (((new base max).after calls).nextDelay = lastMax max calls →
            ((new base max).after (calls ++ more)).nextDelay = lastMax max calls) := by
  refine ⟨nanos_nextDelay_after, ?_, ?_⟩
  · rw [nanos_nextDelay_after]
    exact Nat.min_le_right _ _
  · intro more hreset hbase hmax
    have hpauses : pauses calls ≤ pauses (calls ++ more) := by
      rw [pauses_append hreset]
      exact Nat.le_add_left _ _
    have hgrown := grown_mono (lastBase base calls) hpauses
    refine ⟨?_, fun hreached => Duration.eq_of_nanos ?_⟩
    · rw [nanos_nextDelay_after, nanos_nextDelay_after, hbase, hmax]
      omega
    · have hnow := congrArg Duration.nanos hreached
      rw [nanos_nextDelay_after] at hnow ⊢
      rw [hbase, hmax]
      omega

/-- A base of `2 ^ 33` seconds has grown to the longest duration after 31 pauses, which is the
maximum here, and setting the same base again is no way back. -/
theorem nextDelay_after_longest :
    Call.reset ∉ [.snooze, .setBase (.ofParts 8589934592 0), .snooze] ∧
      pauses (.snooze :: .reset :: .replicate 31 .snooze) = 31 ∧
      ((new (.ofParts 8589934592 0) (.ofNanos Duration.limit)).after
        (.snooze :: .reset :: .replicate 31 .snooze)).nextDelay = .ofNanos Duration.limit ∧
      ((new (.ofParts 8589934592 0) (.ofNanos Duration.limit)).after
        ((.snooze :: .reset :: .replicate 31 .snooze) ++
          [.snooze, .setBase (.ofParts 8589934592 0), .snooze])).nextDelay =
        .ofNanos Duration.limit := by
  have hreset : Call.reset ∉ [.snooze, .setBase (.ofParts 8589934592 0), .snooze] := by decide
  obtain ⟨hlength, -, hmore⟩ := nextDelay_after (.ofParts 8589934592 0) (.ofNanos Duration.limit)
    (.snooze :: .reset :: .replicate 31 .snooze)
  have hlongest : ((new (.ofParts 8589934592 0) (.ofNanos Duration.limit)).after
      (.snooze :: .reset :: .replicate 31 .snooze)).nextDelay = .ofNanos Duration.limit :=
    Duration.eq_of_nanos (hlength.trans (by decide))
  exact ⟨hreset, by decide, hlongest, (hmore _ hreset (by decide) (by decide)).2 hlongest⟩

end Backoff

end SharedRing
