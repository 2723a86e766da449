/-!
Rounding a quotient of naturals to the nearest natural; a half goes to the even neighbour.
-/

namespace SharedRing

def roundHalfEven (num den : Nat) : Nat :=
  let q := num / den
  let r := num % den
  if 2 * r < den then q
  else if den < 2 * r then q + 1
  else if q % 2 = 0 then q else q + 1

/-- The rounded quotient is at most half a unit off. -/
theorem roundHalfEven_dist (num : Nat) {den : Nat} (h : 0 < den) :
    2 * num ≤ (2 * roundHalfEven num den + 1) * den ∧
      2 * (roundHalfEven num den * den) ≤ 2 * num + den := by
  have hdiv := Nat.div_add_mod num den
  have hmod := Nat.mod_lt num h
  rw [Nat.mul_comm] at hdiv
  have hsucc : (num / den + 1) * den = num / den * den + den := Nat.succ_mul _ _
  have hone (k : Nat) : (2 * k + 1) * den = 2 * (k * den) + den := by
    rw [Nat.add_mul, Nat.one_mul, Nat.mul_assoc]
  simp only [roundHalfEven, hone]
  split
  · omega
  · split
    · omega
    · split <;> omega

end SharedRing
