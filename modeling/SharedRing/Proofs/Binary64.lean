import SharedRing.Binary64.Basic

/-!
Where quotients of naturals end up when they are rounded. A quotient gets 53 bits, or fewer if it is
small, and its units are those of `rounded`, unless they are too many for a finite number
(`ofRatio_cases`). From half a unit below a power of two it is rounded up to it, and from further
below it stays a whole unit below (`rounded_cases`). So a reciprocal is below `2 ^ 64`, and then by
more than one, just when its number is above `1 / (2 ^ 64 - 2 ^ 10)` (`reciprocal_cases`).
-/

namespace SharedRing

-- powers are those of the core library, whatever else is imported
attribute [local instance (2000)] instPowNat

variable {num den n : Nat}

/-! ### Whole numbers -/

theorem le_roundHalfEven (hden : 0 < den) (h : n * den ≤ num) : n ≤ roundHalfEven num den := by
  obtain ⟨hdist, -⟩ := roundHalfEven_dist num hden
  have hle : 2 * n * den ≤ (2 * roundHalfEven num den + 1) * den := by
    rw [Nat.mul_assoc]
    omega
  have hle' := Nat.le_of_mul_le_mul_right hle hden
  omega

theorem roundHalfEven_le (hden : 0 < den) (h : num ≤ n * den) : roundHalfEven num den ≤ n := by
  obtain ⟨-, hdist⟩ := roundHalfEven_dist num hden
  have hle : 2 * roundHalfEven num den * den ≤ (2 * n + 1) * den := by
    rw [Nat.mul_assoc, Nat.add_mul, Nat.one_mul, Nat.mul_assoc]
    omega
  have hle' := Nat.le_of_mul_le_mul_right hle hden
  omega

/-- Half a unit below an even number is enough to be rounded up to it. -/
theorem succ_le_roundHalfEven_iff (num : Nat) (hden : 0 < den) (hodd : n % 2 = 1) :
    n + 1 ≤ roundHalfEven num den ↔ (2 * n + 1) * den ≤ 2 * num := by
  have hdiv := Nat.div_add_mod num den
  have hmod := Nat.mod_lt num hden
  have hlt : n < num / den ↔ n * den + den ≤ num := by
    rw [← Nat.succ_mul, ← Nat.le_div_iff_mul_le hden]
    exact Iff.rfl
  have hle : n ≤ num / den ↔ n * den ≤ num := Nat.le_div_iff_mul_le hden
  have hhalf : (2 * n + 1) * den = 2 * (n * den) + den := by
    rw [Nat.add_mul, Nat.one_mul, Nat.mul_assoc]
  rw [hhalf]
  rcases Nat.lt_trichotomy n (num / den) with hn | rfl | hn
  · have hround : n + 1 ≤ roundHalfEven num den := le_roundHalfEven hden (by
      rw [Nat.succ_mul]
      exact hlt.1 hn)
    have hfits := hlt.1 hn
    omega
  · rw [Nat.mul_comm] at hdiv
    simp only [roundHalfEven, hodd]
    generalize num / den * den = whole at hdiv ⊢
    split
    · omega
    · split
      · omega
      · rw [if_neg (by decide)]
        omega
  · have hround : roundHalfEven num den ≤ n := roundHalfEven_le hden (by
      have hfits := mt hle.2 (Nat.not_le_of_lt hn)
      omega)
    have hfits := mt hle.2 (Nat.not_le_of_lt hn)
    have hfits' : num / den * den + den ≤ n * den := by
      rw [← Nat.succ_mul]
      exact Nat.mul_le_mul_right den hn
    rw [Nat.mul_comm] at hdiv
    omega

namespace Binary64

theorem unitsPerOne_pos : 0 < unitsPerOne := by decide +kernel

/-! ### Quotients -/

/-- How far a quotient is shifted to be left with 53 bits. -/
def scaleOf (num den : Nat) : Nat := (num / den).log2 - 52

/-- The units of the number nearest to a quotient of units, if there were no largest one. -/
def rounded (num den : Nat) : Nat :=
  roundHalfEven num (den * 2 ^ scaleOf num den) * 2 ^ scaleOf num den

theorem scaled_pos (hden : 0 < den) (k : Nat) : 0 < den * 2 ^ k :=
  Nat.mul_pos hden (Nat.two_pow_pos k)

/-- No quotient has more than 53 bits then, -/
theorem num_lt (num : Nat) (hden : 0 < den) :
    num < 2 * hiddenBit * (den * 2 ^ scaleOf num den) := by
  have hquotient : num / den < 2 ^ (scaleOf num den + 53) :=
    Nat.lt_of_lt_of_le Nat.lt_log2_self
      (Nat.pow_le_pow_right (by decide) (by rw [scaleOf]; omega))
  have hnum := (Nat.div_lt_iff_lt_mul hden).1 hquotient
  have hpow : 2 ^ (scaleOf num den + 53) * den = 2 * hiddenBit * (den * 2 ^ scaleOf num den) := by
    rw [Nat.pow_add, Nat.mul_comm den, ← Nat.mul_assoc, Nat.mul_comm (2 * hiddenBit)]
    rfl
  rwa [hpow] at hnum

/-- and only small ones have fewer. -/
theorem le_num (num : Nat) (hden : 0 < den) (hscale : 0 < scaleOf num den) :
    hiddenBit * (den * 2 ^ scaleOf num den) ≤ num := by
  have hlog : (num / den).log2 = scaleOf num den + 52 := by
    rw [scaleOf] at hscale ⊢
    omega
  have hne : num / den ≠ 0 := by
    intro hzero
    rw [hzero] at hlog
    exact absurd hlog (Nat.ne_of_lt (Nat.succ_pos _))
  have hquotient := Nat.log2_self_le hne
  rw [hlog, Nat.le_div_iff_mul_le hden] at hquotient
  have hpow : 2 ^ (scaleOf num den + 52) * den = hiddenBit * (den * 2 ^ scaleOf num den) := by
    rw [Nat.pow_add, Nat.mul_comm den, ← Nat.mul_assoc, Nat.mul_comm hiddenBit]
    rfl
  rwa [hpow] at hquotient

theorem mantissa_le (num : Nat) (hden : 0 < den) :
    roundHalfEven num (den * 2 ^ scaleOf num den) ≤ 2 * hiddenBit :=
  roundHalfEven_le (scaled_pos hden _) (Nat.le_of_lt (num_lt num hden))

theorem hiddenBit_le_mantissa (num : Nat) (hden : 0 < den) (hscale : 0 < scaleOf num den) :
    hiddenBit ≤ roundHalfEven num (den * 2 ^ scaleOf num den) :=
  le_roundHalfEven (scaled_pos hden _) (le_num num hden hscale)

/-- The units of a number with these parts, unless it is beyond the largest. -/
theorem ofParts_cases (negative : Bool) {mantissa scale : Nat}
    (hlow : maxScale < scale → hiddenBit ≤ mantissa) :
    ofParts negative mantissa scale = finite negative mantissa scale ∨
      ofParts negative mantissa scale = infinite negative ∧
        hiddenBit * 2 ^ (maxScale + 1) ≤ units mantissa scale := by
  rw [ofParts]
  split
  · rename_i hlarge
    exact Or.inr ⟨rfl, Nat.mul_le_mul (hlow hlarge) (Nat.pow_le_pow_right (by decide) hlarge)⟩
  · exact Or.inl rfl

/-- What becomes of a quotient: the number with its rounded units, unless that is beyond the
largest. -/
theorem ofRatio_cases (negative : Bool) (num : Nat) (hden : 0 < den) :
    (∃ mantissa scale, ofRatio negative num den = finite negative mantissa scale ∧
      units mantissa scale = rounded (num * unitsPerOne) den) ∨
    ofRatio negative num den = infinite negative ∧
      hiddenBit * 2 ^ (maxScale + 1) ≤ rounded (num * unitsPerOne) den := by
  have hlow := hiddenBit_le_mantissa (num * unitsPerOne) hden
  rw [ofRatio, rounded]
  rw [scaleOf] at hlow ⊢
  generalize num * unitsPerOne = total at hlow ⊢
  generalize (total / den).log2 - 52 = scale at hlow ⊢
  generalize roundHalfEven total (den * 2 ^ scale) = mantissa at hlow ⊢
  by_cases hcarry : mantissa = 2 * hiddenBit
  · -- the units are those of half the mantissa, one place further
    have hunits : units hiddenBit (scale + 1) = mantissa * 2 ^ scale := by
      rw [units, hcarry, Nat.pow_succ, Nat.mul_comm 2, Nat.mul_assoc, Nat.mul_comm 2]
    rw [if_pos hcarry, ← hunits]
    rcases ofParts_cases negative (fun _ => Nat.le_refl hiddenBit) with heq | hlarge
    · exact Or.inl ⟨_, _, heq, rfl⟩
    · exact Or.inr hlarge
  · rw [if_neg hcarry]
    rcases ofParts_cases negative (fun h => hlow (Nat.lt_of_le_of_lt (Nat.zero_le _) h)) with
      heq | hlarge
    · exact Or.inl ⟨_, _, heq, rfl⟩
    · exact Or.inr hlarge

/-! ### Powers of two -/

/-- A quotient is rounded to the power of two or above, or to a unit below it or less. Which of
both is settled by half a unit below. -/
theorem rounded_cases (num : Nat) (hden : 0 < den) (k : Nat) :
    (4 * hiddenBit - 1) * (den * 2 ^ k) ≤ 2 * num ∧
        2 * hiddenBit * 2 ^ k ≤ rounded num den ∨
      2 * num < (4 * hiddenBit - 1) * (den * 2 ^ k) ∧
        rounded num den ≤ (2 * hiddenBit - 1) * 2 ^ k := by
  have hlt := num_lt num hden
  have hle := le_num num hden
  have hmantissa := mantissa_le num hden
  have hmantissa' := hiddenBit_le_mantissa num hden
  have hodd : (2 * hiddenBit - 1) % 2 = 1 := by decide
  have htie := succ_le_roundHalfEven_iff num (scaled_pos hden k) hodd
  rw [rounded]
  generalize scaleOf num den = scale at hlt hle hmantissa hmantissa' ⊢
  simp only [hiddenBit, Nat.reducePow, Nat.reduceMul, Nat.reduceSub, Nat.reduceAdd]
    at hlt hle hmantissa hmantissa' htie ⊢
  rcases Nat.lt_trichotomy scale k with hscale | rfl | hscale
  · -- too small by a bit, or by more
    have hpow : 2 ^ scale * 2 ≤ 2 ^ k := Nat.pow_le_pow_right Nat.two_pos hscale
    have hpow' := Nat.mul_le_mul_left den hpow
    have hproduct := Nat.mul_le_mul_right (2 ^ scale) hmantissa
    rw [← Nat.mul_assoc] at hpow'
    omega
  · by_cases hround : 9007199254740992 ≤ roundHalfEven num (den * 2 ^ scale)
    · exact Or.inl ⟨htie.1 hround, Nat.mul_le_mul_right _ hround⟩
    · refine Or.inr ⟨Nat.lt_of_not_le (mt htie.2 hround), Nat.mul_le_mul_right _ ?_⟩
      omega
  · -- large enough by a bit, or by more
    have hpow : 2 ^ k * 2 ≤ 2 ^ scale := Nat.pow_le_pow_right Nat.two_pos hscale
    have hpow' := Nat.mul_le_mul_left den hpow
    have hpos := Nat.lt_of_le_of_lt (Nat.zero_le k) hscale
    have hproduct := Nat.mul_le_mul_right (2 ^ scale) (hmantissa' hpos)
    have hfits := hle hpos
    rw [← Nat.mul_assoc] at hpow'
    omega

/-! ### Small numbers -/

def AtMostOneIn (k : Nat) : Binary64 → Prop
  | nan => False
  | infinite negative => negative = true
  | finite true _ _ => True
  | finite false mantissa scale => units mantissa scale * k ≤ unitsPerOne

instance (k : Nat) : (x : Binary64) → Decidable (AtMostOneIn k x)
  | nan => inferInstanceAs (Decidable False)
  | infinite negative => inferInstanceAs (Decidable (negative = true))
  | finite true _ _ => inferInstanceAs (Decidable True)
  | finite false mantissa scale =>
      inferInstanceAs (Decidable (units mantissa scale * k ≤ unitsPerOne))

/-- The mantissa that is read from a bit pattern has 53 bits, unless the scale is zero. -/
theorem mantissa_of_ofBits {bits mantissa scale : Nat} {negative : Bool}
    (h : ofBits bits = finite negative mantissa scale) :
    mantissa < 2 * hiddenBit ∧ (0 < scale → hiddenBit ≤ mantissa) := by
  have hfraction : bits % hiddenBit < hiddenBit := Nat.mod_lt _ (by decide)
  simp only [ofBits] at h
  split at h
  · split at h <;> cases h
  · split at h
    · cases h
      exact ⟨by omega, fun hscale => absurd hscale (Nat.lt_irrefl 0)⟩
    · cases h
      exact ⟨by omega, fun _ => Nat.le_add_left _ _⟩

/-- Of numbers of 53 bits those up to a power of two are also those that are not half a unit
above it. -/
theorem units_le_iff {mantissa scale : Nat} (hlt : mantissa < 2 * hiddenBit)
    (hle : 0 < scale → hiddenBit ≤ mantissa) (k : Nat) :
    units mantissa scale * (4 * hiddenBit - 1) ≤ units hiddenBit k * (4 * hiddenBit) ↔
      units mantissa scale ≤ units hiddenBit k := by
  have hpos : 0 < 2 ^ k := Nat.two_pow_pos k
  simp only [units, hiddenBit, Nat.reducePow, Nat.reduceMul, Nat.reduceSub] at hlt hle ⊢
  rcases Nat.lt_trichotomy scale k with hscale | rfl | hscale
  · have hpow : 2 ^ scale * 2 ≤ 2 ^ k := Nat.pow_le_pow_right Nat.two_pos hscale
    have hproduct := Nat.mul_le_mul_right (2 ^ scale) (Nat.le_of_lt hlt)
    omega
  · by_cases hmantissa : mantissa ≤ 4503599627370496
    · have hproduct := Nat.mul_le_mul_right (2 ^ scale) hmantissa
      omega
    · have hproduct := Nat.mul_le_mul_right (2 ^ scale) (Nat.lt_of_not_le hmantissa)
      omega
  · have hpow : 2 ^ k * 2 ≤ 2 ^ scale := Nat.pow_le_pow_right Nat.two_pos hscale
    have hmantissa := hle (Nat.lt_of_le_of_lt (Nat.zero_le k) hscale)
    have hproduct := Nat.mul_le_mul_right (2 ^ scale) hmantissa
    omega

/-- There is no floating-point number between `2 ^ -64` and `1 / (2 ^ 64 - 2 ^ 10)`. -/
theorem atMostOneIn_ofBits_iff (bits : Nat) :
    (ofBits bits).AtMostOneIn 18446744073709550592 ↔
      (ofBits bits).AtMostOneIn 18446744073709551616 := by
  cases hnumber : ofBits bits with
  | nan => exact Iff.rfl
  | infinite negative => exact Iff.rfl
  | finite negative mantissa scale =>
      obtain ⟨hlt, hle⟩ := mantissa_of_ofBits hnumber
      cases negative with
      | true => exact Iff.rfl
      | false =>
          have hone : unitsPerOne = units hiddenBit 958 * (4 * hiddenBit) * 1024 := by
            decide +kernel
          have hbelow : 18446744073709550592 = (4 * hiddenBit - 1) * 1024 := by decide
          have hpower : 18446744073709551616 = 4 * hiddenBit * 1024 := by decide
          have hcancel (u v k : Nat) : u * (k * 1024) ≤ v * 1024 ↔ u * k ≤ v := by
            rw [← Nat.mul_assoc]
            exact Nat.mul_le_mul_right_iff (by decide)
          have hbit : 0 < 4 * hiddenBit := by decide
          rw [AtMostOneIn, AtMostOneIn, hone, hbelow, hpower, hcancel, hcancel,
            Nat.mul_le_mul_right_iff hbit, units_le_iff hlt hle]

/-! ### Reciprocals -/

/-- In units, one divided by a number is at least `2 ^ 64`, or at most one less. The former are the
reciprocals from `2 ^ 64 - 2 ^ 10` on. -/
theorem rounded_reciprocal_cases {u : Nat} (hu : 0 < u) :
    u * 18446744073709550592 ≤ unitsPerOne ∧
        18446744073709551616 * unitsPerOne ≤ rounded (unitsPerOne * unitsPerOne) u ∨
      unitsPerOne < u * 18446744073709550592 ∧
        rounded (unitsPerOne * unitsPerOne) u ≤ 18446744073709551615 * unitsPerOne := by
  obtain ⟨k, hpow⟩ : ∃ k, 2 ^ k = 1024 * (2 * unitsPerOne) := ⟨1085, by decide +kernel⟩
  have hbelow : 18446744073709550592 = (4 * hiddenBit - 1) * 1024 := by decide
  have hpower : 18446744073709551616 = 2 * hiddenBit * (1024 * 2) := by decide
  have hpower' : (2 * hiddenBit - 1) * (1024 * 2) ≤ 18446744073709551615 := by decide
  have hcases := rounded_cases (unitsPerOne * unitsPerOne) hu k
  have hpos : 0 < 2 * unitsPerOne := Nat.mul_pos Nat.two_pos unitsPerOne_pos
  rw [hpow] at hcases
  rw [hbelow, hpower]
  generalize unitsPerOne = one at hpos hcases ⊢
  generalize rounded (one * one) u = r at hcases ⊢
  -- both sides of the first comparison are multiplied by twice the units of one
  have hleft : (4 * hiddenBit - 1) * (u * (1024 * (2 * one))) =
      u * ((4 * hiddenBit - 1) * 1024) * (2 * one) := by ac_rfl
  have hright : 2 * (one * one) = one * (2 * one) := Nat.mul_left_comm 2 one one
  have hthreshold (m : Nat) : m * (1024 * (2 * one)) = m * (1024 * 2) * one := by ac_rfl
  rw [hleft, hright, hthreshold, hthreshold, Nat.mul_le_mul_right_iff hpos,
    Nat.mul_lt_mul_right hpos] at hcases
  rcases hcases with hcases | ⟨hlt, hle⟩
  · exact Or.inl hcases
  · exact Or.inr ⟨hlt, Nat.le_trans hle (Nat.mul_le_mul_right one hpower')⟩

/-- The reciprocal of a positive number has at least `2 ^ 64` units of one, or is infinite; or else
it has at most one unit of one less. -/
theorem reciprocal_cases {mantissa : Nat} (hpos : 0 < mantissa) (scale : Nat) :
    AtMostOneIn 18446744073709550592 (finite false mantissa scale) ∧
        ((finite false mantissa scale).reciprocal = infinite false ∨
          ∃ m s, (finite false mantissa scale).reciprocal = finite false m s ∧
            18446744073709551616 * unitsPerOne ≤ units m s) ∨
      ¬AtMostOneIn 18446744073709550592 (finite false mantissa scale) ∧
        ∃ m s, (finite false mantissa scale).reciprocal = finite false m s ∧
          units m s ≤ 18446744073709551615 * unitsPerOne := by
  have hu : 0 < units mantissa scale := Nat.mul_pos hpos (Nat.two_pow_pos scale)
  have hreciprocal : (finite false mantissa scale).reciprocal =
      ofRatio false unitsPerOne (units mantissa scale) := by
    rw [reciprocal, if_neg (Nat.ne_of_gt hpos)]
  have hrounded := rounded_reciprocal_cases hu
  rw [hreciprocal, AtMostOneIn]
  rcases ofRatio_cases false unitsPerOne hu with ⟨m, s, hfinite, hunits⟩ | ⟨hinfinite, hlarge⟩
  · rw [← hunits] at hrounded
    rcases hrounded with ⟨hsmall, hlong⟩ | ⟨hlarge, hshort⟩
    · exact Or.inl ⟨hsmall, Or.inr ⟨m, s, hfinite, hlong⟩⟩
    · exact Or.inr ⟨Nat.not_le_of_lt hlarge, m, s, hfinite, hshort⟩
  · rcases hrounded with ⟨hsmall, -⟩ | ⟨-, hshort⟩
    · exact Or.inl ⟨hsmall, Or.inl hinfinite⟩
    · have hbeyond : 18446744073709551615 * unitsPerOne < hiddenBit * 2 ^ (maxScale + 1) := by
        decide +kernel
      exact absurd (Nat.le_trans hlarge hshort) (Nat.not_le_of_lt hbeyond)

end Binary64

end SharedRing
