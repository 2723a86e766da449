import Mathlib.Algebra.Ring.Nat
import Mathlib.Data.List.Chain
import SharedRing.Video.Sequence

/-!
What a sequence counts. Frames have numbers without bound, of which only the low 32 bits arrive.
As long as no frame is more than `2 ^ 32` behind the one before it, the difference of two indices
is the difference of their numbers: each frame is told how many were left out before it
(`told_eq_distances`).

The gaps are the total of what was told, modulo `2 ^ 64` (`gaps_after`). They are exact for fewer
than `2 ^ 32` frames, whatever their indices, and for numbers that leave out fewer than `2 ^ 64`;
beyond that they are not (`gaps_go_round`).
-/

namespace SharedRing.Video.Sequence

/-! ### Any indices -/

def after (s : Sequence) (indices : List UInt32) : Sequence :=
  indices.foldl (fun s index => (s.observe index).2) s

def told (s : Sequence) : List UInt32 → List Nat
  | [] => []
  | index :: indices => (s.observe index).1.toNat :: told (s.observe index).2 indices

/-- How many frames are skipped in all, counted without bound. -/
def totalSkipped (s : Sequence) : List UInt32 → Nat
  | [] => 0
  | index :: indices => (s.observe index).1.toNat + totalSkipped (s.observe index).2 indices

theorem gaps_lt (s : Sequence) : s.gaps < 2 ^ 64 := s.total.toNat_lt

theorem gaps_observe (s : Sequence) (index : UInt32) :
    (s.observe index).2.gaps = (s.gaps + (s.observe index).1.toNat) % 2 ^ 64 := by
  rw [gaps, observe, UInt64.toNat_add, UInt32.toNat_toUInt64, gaps]

/-- A frame skips fewer than `2 ^ 32` others. -/
theorem totalSkipped_le (s : Sequence) (indices : List UInt32) :
    s.totalSkipped indices ≤ indices.length * 4294967295 := by
  induction indices generalizing s with
  | nil => exact Nat.le_refl 0
  | cons index indices ih =>
      have hskipped := (s.observe index).1.toNat_lt
      have hrest := ih (s.observe index).2
      rw [totalSkipped, List.length_cons, Nat.succ_mul]
      omega

/-- It takes `2 ^ 32` frames, or more, to skip more than 64 bits count. -/
theorem totalSkipped_lt (s : Sequence) {indices : List UInt32} (h : indices.length < 2 ^ 32) :
    s.totalSkipped indices < 2 ^ 64 := by
  have htotal := s.totalSkipped_le indices
  omega

theorem gaps_after (s : Sequence) (indices : List UInt32) :
    (s.after indices).gaps = (s.gaps + s.totalSkipped indices) % 2 ^ 64 := by
  induction indices generalizing s with
  | nil => exact (Nat.mod_eq_of_lt s.gaps_lt).symm
  | cons index indices ih =>
      have hrest := ih (s.observe index).2
      -- to go round on the way makes no difference
      rw [gaps_observe, Nat.mod_add_mod, Nat.add_assoc] at hrest
      exact hrest

theorem gaps_after_start (indices : List UInt32) :
    (start.after indices).gaps = start.totalSkipped indices % 2 ^ 64 := by
  rw [gaps_after]
  exact congrArg (· % 2 ^ 64) (Nat.zero_add _)

/-! ### Numbers -/

def observeAll (s : Sequence) (numbers : List Nat) : Sequence :=
  numbers.foldl (fun s number => (s.observe (UInt32.ofNat number)).2) s

theorem after_map_ofNat (s : Sequence) (numbers : List Nat) :
    s.after (numbers.map UInt32.ofNat) = s.observeAll numbers :=
  List.foldl_map

theorem observeAll_append_singleton (s : Sequence) (numbers : List Nat) (number : Nat) :
    s.observeAll (numbers ++ [number]) =
      ((s.observeAll numbers).observe (UInt32.ofNat number)).2 := by
  simp [observeAll]

/-- One number follows another, and not by more than the indices go round. -/
def Follows (a b : Nat) : Prop := a < b ∧ b ≤ a + 2 ^ 32

/-- The frame that comes next is told the distance, less one. -/
theorem toNat_skipped {a b : Nat} (h : Follows a b) (total : UInt64) :
    (skipped ⟨some (UInt32.ofNat a + 1), total⟩ (UInt32.ofNat b)).toNat = b - a - 1 := by
  obtain ⟨hlt, hle⟩ := h
  have hb : UInt32.ofNat b = UInt32.ofNat a + 1 + UInt32.ofNat (b - a - 1) := by
    apply UInt32.toNat.inj
    simp only [UInt32.toNat_add, UInt32.toNat_ofNat', UInt32.toNat_one]
    omega
  have hcancel (x y : UInt32) : x + y - x = y := by
    rw [UInt32.add_comm, UInt32.add_sub_cancel]
  simp only [skipped]
  rw [hb, hcancel, UInt32.toNat_ofNat']
  omega

theorem told_cons {a : Nat} {numbers : List Nat} (h : (a :: numbers).IsChain Follows)
    (total : UInt64) :
    told ⟨some (UInt32.ofNat a + 1), total⟩ (numbers.map UInt32.ofNat) =
      List.zipWith (fun a b => b - a - 1) (a :: numbers) numbers := by
  induction numbers generalizing a total with
  | nil => rfl
  | cons b numbers ih =>
      rw [List.isChain_cons_cons] at h
      rw [List.map_cons, told, List.zipWith_cons_cons]
      exact congr (congrArg List.cons (toNat_skipped h.1 total)) (ih h.2 _)

/-- From a frame on, as many are skipped as the distance to the last one, less those that came. -/
theorem totalSkipped_cons {a : Nat} {numbers : List Nat} (h : (a :: numbers).IsChain Follows)
    (total : UInt64) :
    totalSkipped ⟨some (UInt32.ofNat a + 1), total⟩ (numbers.map UInt32.ofNat) +
        numbers.length + a = numbers.getLastD a := by
  induction numbers generalizing a total with
  | nil => simp [totalSkipped]
  | cons b numbers ih =>
      rw [List.isChain_cons_cons] at h
      obtain ⟨hlt, -⟩ := h.1
      have hskip : (observe ⟨some (UInt32.ofNat a + 1), total⟩ (UInt32.ofNat b)).1.toNat =
          b - a - 1 := toNat_skipped h.1 total
      have hrest := ih h.2
        (observe ⟨some (UInt32.ofNat a + 1), total⟩ (UInt32.ofNat b)).2.total
      rw [List.map_cons, totalSkipped, hskip, List.length_cons, List.getLastD_cons, ← hrest]
      simp only [observe]
      omega

/-- The numbers between the first and the last frame are those that came and those skipped. -/
theorem totalSkipped_start {first : Nat} {numbers : List Nat}
    (h : (first :: numbers).IsChain Follows) :
    start.totalSkipped ((first :: numbers).map UInt32.ofNat) + numbers.length + first =
      numbers.getLastD first := by
  have hfirst : start.totalSkipped ((first :: numbers).map UInt32.ofNat) =
      totalSkipped ⟨some (UInt32.ofNat first + 1), 0⟩ (numbers.map UInt32.ofNat) :=
    Nat.zero_add _
  rw [hfirst, totalSkipped_cons h]

/-- However often the indices go round, each frame but the first is told how many numbers lie
between it and the one before it, also when its index is the same as that one's. The gaps are the
numbers from the first to the last that did not come, modulo `2 ^ 64`, and exactly these if there
are fewer. Of any frames that are fewer than `2 ^ 32`, nothing is lost of what they skipped. -/
theorem told_eq_distances {first : Nat} {numbers : List Nat}
    (h : (first :: numbers).IsChain Follows) :
    start.told ((first :: numbers).map UInt32.ofNat) =
      0 :: List.zipWith (fun a b => b - a - 1) (first :: numbers) numbers ∧
    ((start.after ((first :: numbers).map UInt32.ofNat)).gaps + numbers.length + first) % 2 ^ 64 =
      numbers.getLastD first % 2 ^ 64 ∧
    (numbers.getLastD first < first + numbers.length + 2 ^ 64 →
      (start.after ((first :: numbers).map UInt32.ofNat)).gaps + numbers.length + first =
        numbers.getLastD first) ∧
    ∀ indices : List UInt32, indices.length < 2 ^ 32 →
      start.totalSkipped indices < 2 ^ 64 ∧
        (start.after indices).gaps = start.totalSkipped indices := by
  have htotal := totalSkipped_start h
  have hgaps := gaps_after_start ((first :: numbers).map UInt32.ofNat)
  refine ⟨?_, ?_, ?_, ?_⟩
  · rw [List.map_cons, told]
    exact congrArg (0 :: ·) (told_cons h 0)
  · rw [hgaps]
    omega
  · intro hfits
    rw [hgaps]
    omega
  · intro indices hlength
    have hlt := start.totalSkipped_lt hlength
    exact ⟨hlt, by rw [gaps_after_start, Nat.mod_eq_of_lt hlt]⟩

/-- The second frame has the index zero, and the third, `2 ^ 32` further on, has it again. -/
theorem told_eq_distances_repeated :
    [4294967294, 4294967296, 8589934592].IsChain Follows ∧
      start.told [4294967294, 0, 0] = [0, 1, 4294967295] ∧
      (start.after [4294967294, 0, 0]).gaps = 4294967296 := by
  have hchain : [4294967294, 4294967296, 8589934592].IsChain Follows := by
    simp [Follows]
  obtain ⟨htold, -, hgaps, -⟩ := told_eq_distances hchain
  refine ⟨hchain, htold, ?_⟩
  simpa using hgaps (by simp)

/-- The numbers of frames each of which comes a whole lap behind the one before it. -/
def laps (n : Nat) : List Nat := (List.range n).map fun k => 2 ^ 32 * (k + 1)

theorem isChain_laps (n : Nat) : (0 :: laps n).IsChain Follows := by
  have hlist : 0 :: laps n = (List.range (n + 1)).map (2 ^ 32 * ·) := by
    rw [List.range_succ_eq_map, List.map_cons, List.map_map]
    rfl
  rw [hlist, List.isChain_iff_getElem]
  intro i hi
  rw [List.getElem_map, List.getElem_map, List.getElem_range, List.getElem_range, Follows]
  omega

theorem getLastD_laps (n : Nat) : (laps n).getLastD 0 = 2 ^ 32 * n := by
  cases n with
  | zero => rfl
  | succ n =>
      rw [laps, List.range_succ, List.map_append, List.map_singleton, List.getLastD_concat]

theorem length_laps (n : Nat) : (laps n).length = n := by
  rw [laps, List.length_map, List.length_range]

theorem gaps_laps (n : Nat) :
    (start.after ((0 :: laps n).map UInt32.ofNat)).gaps = 4294967295 * n % 2 ^ 64 := by
  have htotal := totalSkipped_start (isChain_laps n)
  rw [getLastD_laps, length_laps] at htotal
  rw [gaps_after_start]
  congr 1
  omega

/-- With a lap between any two of them, `2 ^ 32 + 3` frames leave out more than 64 bits count. -/
theorem gaps_go_round :
    (0 :: laps 4294967298).IsChain Follows ∧
      (laps 4294967298).getLastD 0 - (laps 4294967298).length = 18446744078004518910 ∧
      (start.after ((0 :: laps 4294967298).map UInt32.ofNat)).gaps = 4294967294 ∧
      (start.after ((0 :: laps 4294967298).map UInt32.ofNat)).gaps + (laps 4294967298).length ≠
        (laps 4294967298).getLastD 0 := by
  rw [gaps_laps, getLastD_laps, length_laps]
  exact ⟨isChain_laps 4294967298, rfl, rfl, by decide⟩

end SharedRing.Video.Sequence
