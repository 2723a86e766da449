/-!
Sizes of a circular data area. A size is a power of two between `2 ^ 3` and `2 ^ 31`, so that a
cursor modulo `2 ^ 32` is also a position modulo the size, and masking a cursor is taking it
modulo the size (`offset_eq`).
-/

namespace SharedRing

-- powers are those of the core library, whatever else is imported
attribute [local instance (2000)] instPowNat

/-- The greatest power of two that is at most `v`; 0 stays 0. Every bit below the highest set one
is set first, so that half of the result, plus one, is that highest bit. -/
def roundDownPow2 (v : UInt32) : UInt32 :=
  if v = 0 then 0
  else
    let v := v ||| (v >>> 1)
    let v := v ||| (v >>> 2)
    let v := v ||| (v >>> 4)
    let v := v ||| (v >>> 8)
    let v := v ||| (v >>> 16)
    (v >>> 1) + 1

structure Capacity where
  log : Nat
  three_le_log : 3 ≤ log
  log_lt : log < 32

namespace Capacity

def size (c : Capacity) : Nat := 2 ^ c.log

def word (c : Capacity) : UInt32 := UInt32.ofNat c.size

def mask (c : Capacity) : UInt32 := c.word - 1

def offset (c : Capacity) (pos : UInt32) : Nat := (pos &&& c.mask).toNat

theorem log_lt_of_pow_eq {w : UInt32} {k : Nat} (h : 2 ^ k = w.toNat) : k < 32 := by
  have hw := w.toNat_lt
  rw [← h] at hw
  exact (Nat.pow_lt_pow_iff_right (by decide)).1 hw

/-- Reads a size from its word; every word that is no power of two from 8 to `2 ^ 31` is refused. -/
def ofWord? (w : UInt32) : Option Capacity :=
  if h : 3 ≤ w.toNat.log2 ∧ 2 ^ w.toNat.log2 = w.toNat then
    some ⟨w.toNat.log2, h.1, log_lt_of_pow_eq h.2⟩
  else none

theorem size_pos (c : Capacity) : 0 < c.size := Nat.two_pow_pos _

theorem eight_le_size (c : Capacity) : 8 ≤ c.size :=
  Nat.pow_le_pow_right (by decide : 0 < 2) c.three_le_log

theorem size_le (c : Capacity) : c.size ≤ 2 ^ (31 : Nat) :=
  Nat.pow_le_pow_right (by decide) (Nat.le_of_lt_succ c.log_lt)

theorem word_toNat (c : Capacity) : c.word.toNat = c.size := by
  have h := c.size_le
  simp only [word, UInt32.toNat_ofNat']
  omega

theorem mask_toNat (c : Capacity) : c.mask.toNat = c.size - 1 := by
  have h := c.eight_le_size
  rw [mask, UInt32.toNat_sub_of_le _ _ (by rw [UInt32.le_iff_toNat_le, word_toNat]; simp; omega),
    word_toNat]
  rfl

theorem offset_eq (c : Capacity) (pos : UInt32) : c.offset pos = pos.toNat % c.size := by
  rw [offset, UInt32.toNat_and, mask_toNat, size, Nat.and_two_pow_sub_one_eq_mod]

theorem offset_lt (c : Capacity) (pos : UInt32) : c.offset pos < c.size := by
  rw [offset_eq]
  exact Nat.mod_lt _ c.size_pos

end Capacity

end SharedRing
