import Mathlib.Algebra.Ring.Nat
import Mathlib.Order.Bounds.Defs
import SharedRing.Ring.Basic

/-!
Rounding down to a power of two. Each step sets, below every bit that is set, as many bits as are
set by then (`Filled`), so that after five steps all bits below the highest one are set and half
of the word, plus one, is that bit: `2 ^ log2 v` (`toNat_roundDownPow2`). That is the greatest power
of two up to the word (`isRoundedDown_roundDownPow2`), from which it follows that rounding keeps the
order of words and leaves powers of two alone (`roundDownPow2_isGreatest`).

A producer rounds down as many bytes as 32 bits count; what it gets is the greatest power of two
that fits (`isRoundedDown_roundedCapacity`), and a capacity unless it is too small
(`exists_word_eq_roundedCapacity`).
-/

namespace SharedRing

open SharedRing.Ring

/-! ### The highest bit -/

/-- The bits of `w` are those of `v` and the `n - 1` places below each. -/
def Filled (n v w : Nat) : Prop :=
  ∀ i, w.testBit i = true ↔ ∃ j, i ≤ j ∧ j < i + n ∧ v.testBit j = true

theorem filled_one (v : Nat) : Filled 1 v v := by
  intro i
  constructor
  · intro hi
    exact ⟨i, Nat.le_refl i, by omega, hi⟩
  · rintro ⟨j, hij, hji, hj⟩
    rwa [show i = j by omega]

theorem Filled.step {n v w : Nat} (h : Filled n v w) : Filled (n + n) v (w ||| w >>> n) := by
  intro i
  rw [Nat.testBit_or, Nat.testBit_shiftRight, Bool.or_eq_true, h i, h (n + i)]
  constructor
  · rintro (⟨j, hij, hji, hj⟩ | ⟨j, hij, hji, hj⟩)
    · exact ⟨j, hij, by omega, hj⟩
    · exact ⟨j, by omega, by omega, hj⟩
  · rintro ⟨j, hij, hji, hj⟩
    by_cases hnear : j < i + n
    · exact Or.inl ⟨j, hij, hnear, hj⟩
    · exact Or.inr ⟨j, by omega, by omega, hj⟩

theorem Filled.toNat_step {n v : Nat} {w : UInt32} (h : Filled n v w.toNat) (hn : n < 32) :
    Filled (n + n) v (w ||| w >>> UInt32.ofNat n).toNat := by
  have hshift : (w >>> UInt32.ofNat n).toNat = w.toNat >>> n := by
    rw [UInt32.toNat_shiftRight, UInt32.toNat_ofNat', Nat.mod_eq_of_lt (a := n) (by omega),
      Nat.mod_eq_of_lt hn]
  rw [UInt32.toNat_or, hshift]
  exact h.step

/-- When as many places are filled as the word has, all bits up to the highest one are set. -/
theorem Filled.eq_two_pow_sub_one {v w : Nat} (h : Filled 32 v w) (hpos : v ≠ 0)
    (hlt : v < 2 ^ 32) : w = 2 ^ (v.log2 + 1) - 1 := by
  have hlog : v.log2 < 32 := (Nat.log2_lt hpos).2 hlt
  apply Nat.eq_of_testBit_eq
  intro i
  rw [Nat.testBit_two_pow_sub_one, Bool.eq_iff_iff, h i, decide_eq_true_iff]
  constructor
  · rintro ⟨j, hij, -, hj⟩
    have hle : 2 ^ j ≤ v := Nat.ge_two_pow_of_testBit hj
    have hj' := (Nat.le_log2 hpos).2 hle
    omega
  · intro hi
    refine ⟨v.log2, by omega, by omega, ?_⟩
    exact Nat.testBit_log2 hpos

/-- The word whose half, plus one, is the result of rounding. -/
def fill (v : UInt32) : UInt32 :=
  let v := v ||| (v >>> 1)
  let v := v ||| (v >>> 2)
  let v := v ||| (v >>> 4)
  let v := v ||| (v >>> 8)
  v ||| (v >>> 16)

section

variable {v : UInt32}

theorem toNat_ne_zero (h : v ≠ 0) : v.toNat ≠ 0 := UInt32.toNat_inj.not.2 h

theorem roundDownPow2_of_ne_zero (h : v ≠ 0) : roundDownPow2 v = fill v >>> 1 + 1 := if_neg h

theorem toNat_fill (h : v ≠ 0) : (fill v).toNat = 2 ^ (v.toNat.log2 + 1) - 1 := by
  -- the places filled double with each step, from one to the 32 that the word has
  have htwo := (filled_one v.toNat).toNat_step (by decide)
  have hfour := htwo.toNat_step (by decide)
  have height := hfour.toNat_step (by decide)
  have hsixteen := height.toNat_step (by decide)
  have hall := hsixteen.toNat_step (by decide)
  exact hall.eq_two_pow_sub_one (toNat_ne_zero h) v.toNat_lt

/-- Half of the filled word falls one short of the highest bit. -/
theorem toNat_half_fill (h : v ≠ 0) : (fill v >>> 1).toNat + 1 = 2 ^ v.toNat.log2 := by
  have hbit := Nat.two_pow_pos v.toNat.log2
  have hhalf : (fill v >>> 1).toNat = (fill v).toNat / 2 := by
    rw [UInt32.toNat_shiftRight]
    exact Nat.shiftRight_eq_div_pow _ 1
  rw [hhalf, toNat_fill h, Nat.pow_succ]
  omega

/-- Rounding gives the power of two at the highest bit. -/
theorem toNat_roundDownPow2 (h : v ≠ 0) : (roundDownPow2 v).toNat = 2 ^ v.toNat.log2 := by
  have hbit : 2 ^ v.toNat.log2 < 2 ^ 32 :=
    Nat.lt_of_le_of_lt (Nat.log2_self_le (toNat_ne_zero h)) v.toNat_lt
  rw [roundDownPow2_of_ne_zero h, UInt32.toNat_add, UInt32.toNat_one, toNat_half_fill h]
  exact Nat.mod_eq_of_lt hbit

end

/-! ### Words of capacities -/

/-- The words that stand for a capacity are the powers of two within its bounds. -/
theorem Capacity.exists_word_eq_iff (w : UInt32) :
    (∃ c : Capacity, c.word = w) ↔
      (∃ k, w.toNat = 2 ^ k) ∧ minCapacity ≤ w.toNat ∧ w.toNat ≤ maxCapacity := by
  constructor
  · rintro ⟨c, rfl⟩
    rw [c.word_toNat]
    exact ⟨⟨c.log, rfl⟩, c.eight_le_size, c.size_le⟩
  · rintro ⟨⟨k, hk⟩, hmin, hmax⟩
    rw [hk] at hmin hmax
    have hlo : 3 ≤ k := (Nat.pow_le_pow_iff_right (by decide : 1 < 2)).1 hmin
    have hhi : k ≤ 31 := (Nat.pow_le_pow_iff_right (by decide : 1 < 2)).1 hmax
    refine ⟨⟨k, hlo, by omega⟩, ?_⟩
    rw [word, size, ← hk, UInt32.ofNat_toNat]

theorem Capacity.size_mod_three (c : Capacity) : c.size % 3 ≠ 0 := by
  have hpow (k : Nat) : 2 ^ k % 3 ≠ 0 := by
    induction k with
    | zero => decide
    | succ k ih =>
        rw [Nat.pow_succ]
        omega
  exact hpow c.log

namespace Ring

variable {n p : Nat}

/-! ### The greatest power of two -/

def PowersUpTo (n : Nat) : Set Nat := {p | (∃ k, p = 2 ^ k) ∧ p ≤ n}

/-- The greatest power of two up to `n`, or zero when there is none. -/
def IsRoundedDown (n p : Nat) : Prop :=
  if n = 0 then p = 0 else IsGreatest (PowersUpTo n) p

theorem isGreatest_two_pow_log2 (hn : n ≠ 0) : IsGreatest (PowersUpTo n) (2 ^ n.log2) := by
  refine ⟨⟨⟨n.log2, rfl⟩, Nat.log2_self_le hn⟩, ?_⟩
  rintro _ ⟨⟨k, rfl⟩, hle⟩
  exact Nat.pow_le_pow_right (by decide) ((Nat.le_log2 hn).2 hle)

theorem isRoundedDown_zero : IsRoundedDown 0 0 := by rw [IsRoundedDown, if_pos rfl]

namespace IsRoundedDown

theorem isGreatest (h : IsRoundedDown n p) (hn : n ≠ 0) : IsGreatest (PowersUpTo n) p := by
  rwa [IsRoundedDown, if_neg hn] at h

theorem le (h : IsRoundedDown n p) : p ≤ n := by
  rw [IsRoundedDown] at h
  split at h
  · omega
  · exact h.1.2

theorem two_pow_le (h : IsRoundedDown n p) {k : Nat} (hk : 2 ^ k ≤ n) : 2 ^ k ≤ p := by
  have hpos := Nat.two_pow_pos k
  exact (h.isGreatest (by omega)).2 ⟨⟨k, rfl⟩, hk⟩

/-- Less than half is rounded off. -/
theorem lt_two_mul (h : IsRoundedDown n p) (hn : n ≠ 0) : n < 2 * p := by
  obtain ⟨⟨k, rfl⟩, -⟩ := (h.isGreatest hn).1
  apply Nat.lt_of_not_le
  intro hle
  rw [Nat.mul_comm, ← Nat.pow_succ] at hle
  have hnext := h.two_pow_le hle
  exact Nat.not_lt_of_le hnext (Nat.pow_lt_pow_right (by decide) (Nat.lt_succ_self k))

theorem exists_eq_two_pow (h : IsRoundedDown n p) (hp : p ≠ 0) : ∃ k, p = 2 ^ k := by
  rw [IsRoundedDown] at h
  split at h
  · exact absurd h hp
  · exact h.1.1

/-- Of a greater number no less is left. -/
theorem mono {m q : Nat} (h : IsRoundedDown n p) (h' : IsRoundedDown m q) (hle : n ≤ m) :
    p ≤ q := by
  by_cases hp : p = 0
  · rw [hp]
    exact Nat.zero_le q
  · obtain ⟨k, rfl⟩ := h.exists_eq_two_pow hp
    exact h'.two_pow_le (Nat.le_trans h.le hle)

theorem unique {q : Nat} (h : IsRoundedDown n p) (h' : IsRoundedDown n q) : p = q :=
  Nat.le_antisymm (h.mono h' (Nat.le_refl n)) (h'.mono h (Nat.le_refl n))

/-- Nothing is rounded off a power of two, and something off any other number. -/
theorem eq_iff (h : IsRoundedDown n p) (hn : n ≠ 0) : p = n ↔ ∃ k, n = 2 ^ k := by
  constructor
  · rintro rfl
    exact h.exists_eq_two_pow hn
  · rintro ⟨k, rfl⟩
    exact Nat.le_antisymm h.le (h.two_pow_le (Nat.le_refl _))

end IsRoundedDown

theorem isRoundedDown_roundDownPow2 (v : UInt32) :
    IsRoundedDown v.toNat (roundDownPow2 v).toNat := by
  by_cases hv : v = 0
  · rw [hv]
    exact isRoundedDown_zero
  · rw [IsRoundedDown, if_neg (toNat_ne_zero hv), toNat_roundDownPow2 hv]
    exact isGreatest_two_pow_log2 (toNat_ne_zero hv)

theorem roundDownPow2_of_two_pow {v : UInt32} {k : Nat} (h : v.toNat = 2 ^ k) :
    roundDownPow2 v = v := by
  have hpos : v.toNat ≠ 0 := h ▸ Nat.ne_of_gt (Nat.two_pow_pos k)
  exact UInt32.toNat.inj (((isRoundedDown_roundDownPow2 v).eq_iff hpos).2 ⟨k, h⟩)

theorem roundDownPow2_mono {v w : UInt32} (h : v ≤ w) : roundDownPow2 v ≤ roundDownPow2 w :=
  UInt32.le_iff_toNat_le.2 ((isRoundedDown_roundDownPow2 v).mono (isRoundedDown_roundDownPow2 w)
    (UInt32.le_iff_toNat_le.1 h))

theorem roundDownPow2_roundDownPow2 (v : UInt32) :
    roundDownPow2 (roundDownPow2 v) = roundDownPow2 v := by
  by_cases hv : v = 0
  · rw [hv]
    rfl
  · exact roundDownPow2_of_two_pow (toNat_roundDownPow2 hv)

/-- A word above zero is rounded to the greatest power of two up to it. That is more than half of
the word, and it is half of the filled word and one, a sum that does not go round. A power of two
stays as it is, the order of words is kept, rounding once more makes no difference, and zero stays
zero. -/
theorem roundDownPow2_isGreatest (v : UInt32) :
    (0 < v →
        IsGreatest (PowersUpTo v.toNat) (roundDownPow2 v).toNat ∧
          v.toNat < 2 * (roundDownPow2 v).toNat ∧
          (roundDownPow2 v).toNat = (fill v >>> 1).toNat + 1) ∧
      ((∃ k, v.toNat = 2 ^ k) → roundDownPow2 v = v) ∧
      (∀ w, v ≤ w → roundDownPow2 v ≤ roundDownPow2 w) ∧
      roundDownPow2 (roundDownPow2 v) = roundDownPow2 v ∧
      roundDownPow2 0 = 0 := by
  refine ⟨?_, ?_, fun _ => roundDownPow2_mono, roundDownPow2_roundDownPow2 v, rfl⟩
  · intro hv
    have hne : v ≠ 0 := UInt32.pos_iff_ne_zero.1 hv
    have hrounded := isRoundedDown_roundDownPow2 v
    refine ⟨hrounded.isGreatest (toNat_ne_zero hne), hrounded.lt_two_mul (toNat_ne_zero hne), ?_⟩
    rw [toNat_roundDownPow2 hne, toNat_half_fill hne]
  · rintro ⟨k, hk⟩
    exact roundDownPow2_of_two_pow hk

/-- The largest word loses all bits but its highest, which itself stays. -/
theorem roundDownPow2_isGreatest_largest :
    (0 : UInt32) < 4294967295 ∧
      IsGreatest (PowersUpTo 4294967295) 2147483648 ∧
      4294967295 < 2 * (roundDownPow2 4294967295).toNat ∧
      (fill 4294967295 >>> 1).toNat + 1 = 2147483648 ∧
      roundDownPow2 2147483648 = 2147483648 := by
  have hpos : (0 : UInt32) < 4294967295 := by decide
  obtain ⟨hgreatest, hhalf, hsum⟩ := (roundDownPow2_isGreatest 4294967295).1 hpos
  have hvalue : (roundDownPow2 4294967295).toNat = 2147483648 := by decide
  rw [hvalue] at hgreatest hsum
  exact ⟨hpos, hgreatest, hhalf, hsum.symm,
    (roundDownPow2_isGreatest 2147483648).2.1 ⟨31, by decide⟩⟩

/-! ### A producer's capacity -/

/-- A producer's capacity, before it is checked, is the area rounded down; what 32 bits cannot
count is not used. -/
theorem isRoundedDown_roundedCapacity (n : Nat) :
    IsRoundedDown (min n 4294967295) (roundedCapacity n).toNat := by
  have hword : (UInt32.ofNat (min n 4294967295)).toNat = min n 4294967295 := by
    rw [UInt32.toNat_ofNat']
    omega
  have hrounded := isRoundedDown_roundDownPow2 (UInt32.ofNat (min n 4294967295))
  rwa [hword] at hrounded

example : (roundedCapacity (18446744073709551615 - Header.size)).toNat = maxCapacity := by decide

theorem minCapacity_le_roundedCapacity_iff :
    minCapacity ≤ (roundedCapacity n).toNat ↔ minCapacity ≤ n := by
  have hrounded := isRoundedDown_roundedCapacity n
  constructor
  · intro h
    have hle := hrounded.le
    omega
  · intro h
    exact hrounded.two_pow_le (k := 3) (Nat.le_min.2 ⟨h, by decide⟩)

/-- The only check that a producer's capacity needs is the one that it is not too small. -/
theorem exists_word_eq_roundedCapacity (h : minCapacity ≤ (roundedCapacity n).toNat) :
    ∃ c : Capacity, c.word = roundedCapacity n := by
  have hpos : (roundedCapacity n).toNat ≠ 0 := Nat.ne_of_gt (Nat.lt_of_lt_of_le (by decide) h)
  obtain ⟨k, hk⟩ := (isRoundedDown_roundedCapacity n).exists_eq_two_pow hpos
  refine (Capacity.exists_word_eq_iff _).2 ⟨⟨k, hk⟩, h, ?_⟩
  have hlt := Capacity.log_lt_of_pow_eq hk.symm
  rw [hk]
  exact Nat.pow_le_pow_right (by decide) (Nat.le_of_lt_succ hlt)

/-- A producer never takes more bytes than a span leaves for the ring. -/
theorem toNat_roundedCapacity_le (n : Nat) : (roundedCapacity n).toNat ≤ n :=
  Nat.le_trans (isRoundedDown_roundedCapacity n).le (Nat.min_le_left n _)

end Ring

end SharedRing
