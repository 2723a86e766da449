import SharedRing.Proofs.Binary64
import SharedRing.Proofs.Video.Publication

/-!
Which rates have a period. A period is the reciprocal of the rate, rounded to a floating-point
number, and a duration is shorter than `2 ^ 64` seconds; so all rates have one but those of one
frame in `2 ^ 64 - 2 ^ 10` seconds or more, for which the reciprocal is rounded up
(`Pacer.ofRate_cases`). Of floating-point numbers these are the rates up to `2 ^ -64`.

The settings let all positive rates pass. A run whose rate has no period breaks off as soon as its
channel is there, and leaves the name (`publish_breaksOff_iff`).
-/

namespace SharedRing

open Host Binary64

namespace Video

/-! ### Periods -/

variable {mantissa scale : Nat}

theorem durationOfSeconds_finite (mantissa scale : Nat) :
    durationOfSeconds (.finite false mantissa scale) =
      let nanos := roundHalfEven (units mantissa scale * Duration.nanosPerSecond) unitsPerOne
      if h : nanos < Duration.limit then .ok ⟨nanos, h⟩ else .error .tooLong := by
  rw [durationOfSeconds, isNegative, Bool.false_and, if_neg Bool.false_ne_true]

theorem durationOfSeconds_of_le
    (h : 18446744073709551616 * unitsPerOne ≤ units mantissa scale) :
    durationOfSeconds (.finite false mantissa scale) = .error .tooLong := by
  have hlong : Duration.limit * unitsPerOne ≤ units mantissa scale * Duration.nanosPerSecond := by
    rw [Duration.limit, Nat.mul_right_comm]
    exact Nat.mul_le_mul_right _ h
  have hnanos := le_roundHalfEven unitsPerOne_pos hlong
  rw [durationOfSeconds_finite, dif_neg (Nat.not_lt_of_le hnanos)]

theorem durationOfSeconds_of_lt
    (h : units mantissa scale ≤ 18446744073709551615 * unitsPerOne) :
    ∃ d, durationOfSeconds (.finite false mantissa scale) = .ok d := by
  have hshort : units mantissa scale * Duration.nanosPerSecond ≤
      (Duration.limit - 1) * unitsPerOne := by
    refine Nat.le_trans (Nat.mul_le_mul_right _ h) ?_
    rw [Nat.mul_right_comm]
    exact Nat.mul_le_mul_right _ (by decide)
  have hnanos := roundHalfEven_le unitsPerOne_pos hshort
  rw [durationOfSeconds_finite, dif_pos (Nat.lt_of_le_sub_one Duration.limit_pos hnanos)]
  exact ⟨_, rfl⟩

/-- A positive rate has a period, unless it is too small; then the period is too long, and not
negative. -/
theorem Pacer.ofRate_cases (hpos : 0 < mantissa) (scale : Nat) :
    AtMostOneIn 18446744073709550592 (.finite false mantissa scale) ∧
        ofRate (.finite false mantissa scale) = .error .tooLong ∨
      ¬AtMostOneIn 18446744073709550592 (.finite false mantissa scale) ∧
        ∃ pacer, ofRate (.finite false mantissa scale) = .ok pacer := by
  rw [ofRate]
  rcases reciprocal_cases hpos scale with
    ⟨hsmall, heq | ⟨m, s, heq, hlong⟩⟩ | ⟨hlarge, m, s, heq, hshort⟩
  · rw [heq]
    exact Or.inl ⟨hsmall, rfl⟩
  · rw [heq, durationOfSeconds_of_le hlong]
    exact Or.inl ⟨hsmall, rfl⟩
  · obtain ⟨d, hd⟩ := durationOfSeconds_of_lt hshort
    rw [heq, hd]
    exact Or.inr ⟨hlarge, _, rfl⟩

namespace ProducerSettings

variable {s : ProducerSettings}

theorem exists_rate_of_validate (h : s.validate = .ok ()) :
    ∃ mantissa scale, 0 < mantissa ∧ s.rate = .finite false mantissa scale := by
  have hpositive : s.rate.isFinite && s.rate.isPositive := by
    rw [validate] at h
    split at h
    · cases h
    · split at h
      · cases h
      · rename_i hrate
        rwa [Bool.not_eq_true', Bool.not_eq_false] at hrate
  cases hrate : s.rate with
  | nan =>
      rw [hrate] at hpositive
      cases hpositive
  | infinite negative =>
      rw [hrate] at hpositive
      cases hpositive
  | finite negative mantissa scale =>
      rw [hrate] at hpositive
      simp only [isFinite, isPositive, Bool.true_and, Bool.and_eq_true, Bool.not_eq_true',
        bne_iff_ne] at hpositive
      obtain ⟨rfl, hne⟩ := hpositive
      exact ⟨mantissa, scale, Nat.pos_of_ne_zero hne, rfl⟩

/-- The rate of valid settings has no period only if it is too small. -/
theorem ofRate_eq_error_iff (h : s.validate = .ok ()) (e : PeriodError) :
    Pacer.ofRate s.rate = .error e ↔ AtMostOneIn 18446744073709550592 s.rate ∧ e = .tooLong := by
  obtain ⟨mantissa, scale, hpos, hrate⟩ := exists_rate_of_validate h
  rw [hrate]
  rcases Pacer.ofRate_cases hpos scale with ⟨hsmall, hfails⟩ | ⟨hlarge, pacer, hok⟩
  · rw [hfails, Except.error.injEq, eq_comm]
    exact (and_iff_right hsmall).symm
  · rw [hok]
    exact iff_of_false (by rintro ⟨⟩) fun h => hlarge h.1

end ProducerSettings

end Video

/-! ### Leaving without removing the name -/

variable {h h' : Host} {name : String} {p : Producer} {requested : Nat}

/-- A producer that was just created does nothing by going away. -/
theorem Producer.drop_of_create (hc : create h name requested = (.ok p, h')) (h'' : Host) :
    p.drop h'' = h'' := by
  obtain ⟨r, hp, -⟩ := of_create_ok hc
  rw [hp]
  rfl

/-- Its channel can be opened under its name, whatever is reported. -/
theorem Producer.exists_attach_of_create (hc : create h name requested = (.ok p, h'))
    (notice : Notice) : ∃ t, Segment.attach (h'.report notice) name 0 = .ok t := by
  obtain ⟨_, -, hname, -, -, hsize, hadds⟩ := of_create_ok hc
  have hreported := hadds.report notice
  have hattach := attach_of_find? hreported.admitted hreported.find?_eq
    (hreported.held_new.trans_lt hsize)
  simp only [Segment.attach, hname, hattach]
  exact ⟨_, rfl⟩

namespace Video

open Publish in
/-- Which runs with valid settings break off: those whose rate is so small that its period would be
`2 ^ 64` seconds, up to `2 ^ -64` as a floating-point number, and whose channel was created and
holds a frame. They are the only ones that leave their names; all others return, and leave nothing
under them. -/
theorem publish_breaksOff_iff {h : Host} (hnames : h.NamesExist) {s : ProducerSettings}
    (hvalid : s.validate = .ok ()) {stopAfter : Option Nat} {elapsed : Nat → Duration}
    {res : Except Failure PublishStats} {h' : Host}
    (hrun : publish s stopAfter elapsed h = (res, h')) :
    ((∃ e, res = .error (.breaksOff e)) ↔
      s.rate.AtMostOneIn 18446744073709550592 ∧ ∃ p h₁,
        Producer.create (Segment.remove h s.name) s.name s.requestedCapacity = (.ok p, h₁) ∧
          s.geometry.messageSize ≤ p.capacity) ∧
    (∀ e, res = .error (.breaksOff e) →
      e = .tooLong ∧ ∃ t, Segment.attach h' s.name 0 = .ok t) ∧
    ((∀ e, res ≠ .error (.breaksOff e)) → Vacates h h' s.name) ∧
    ∀ bits, s.rate = .ofBits bits →
      (s.rate.AtMostOneIn 18446744073709550592 ↔ s.rate.AtMostOneIn 18446744073709551616) := by
  have ho := publish_outcome hvalid stopAfter elapsed h
  have hconfined := confined_publish s stopAfter elapsed h
  have hrate := ProducerSettings.ofRate_eq_error_iff hvalid
  rw [hrun] at ho hconfined
  dsimp only at ho
  refine ⟨?_, ?_, fun hreturns => ho.vacates hreturns hnames hconfined, ?_⟩
  · constructor
    · rintro ⟨e, rfl⟩
      cases ho with
      | breaksOff hc hfits hfails => exact ⟨((hrate _).1 hfails).1, _, _, hc, hfits⟩
    · rintro ⟨hsmall, p, h₁, hc, hfits⟩
      have hfails := (hrate .tooLong).2 ⟨hsmall, rfl⟩
      cases ho with
      | cannotCreate hc' =>
          rw [hc] at hc'
          cases hc'
      | cannotHold hc' hsmall' =>
          rw [hc] at hc'
          cases hc'
          exact absurd hfits (Nat.not_le_of_lt hsmall')
      | breaksOff hc' hfits' hfails' => exact ⟨_, rfl⟩
      | done hc' hfits' hok =>
          rw [hfails] at hok
          cases hok
  · rintro e rfl
    cases ho with
    | breaksOff hc hfits hfails =>
        rw [Producer.drop_of_create hc]
        exact ⟨((hrate _).1 hfails).2, Producer.exists_attach_of_create hc _⟩
  · intro bits hbits
    rw [hbits]
    exact atMostOneIn_ofBits_iff bits

/-- The smallest floating-point number above `2 ^ -64`. -/
theorem publish_breaksOff_iff_least :
    let s : ProducerSettings := ⟨"v", ⟨2, 2⟩, .ofBits 0x3bf0000000000001, 5, some 0⟩
    Host.empty.NamesExist ∧ s.validate = .ok () ∧
      ∃ res h', publish s none (fun _ => .zero) .empty = (res, h') ∧
        (∀ e, res ≠ .error (.breaksOff e)) ∧ Vacates .empty h' "v" := by
  intro s
  have hnames : Host.empty.NamesExist := by
    rintro _ ⟨⟩
  have hvalid : s.validate = .ok () := by decide +kernel
  have hrate : ¬s.rate.AtMostOneIn 18446744073709551616 := by decide +kernel
  cases hrun : publish s none (fun _ => .zero) .empty with
  | mk res h' =>
      obtain ⟨hbreaks, -, hvacates, hbits⟩ := publish_breaksOff_iff hnames hvalid hrun
      have hreturns : ∀ e, res ≠ .error (.breaksOff e) := by
        intro e he
        have hsmall := (hbreaks.1 ⟨e, he⟩).1
        exact hrate ((hbits 0x3bf0000000000001 rfl).1 hsmall)
      exact ⟨hnames, hvalid, res, h', rfl, hreturns, hvacates hreturns⟩

/-- At a rate of `2 ^ -64` the settings are valid, and the run breaks off. Its name can still be
opened. -/
theorem publish_breaksOff_slow :
    let s : ProducerSettings := ⟨"v", ⟨2, 2⟩, .ofBits 0x3bf0000000000000, 5, some 0⟩
    s.validate = .ok () ∧
      (publish s none (fun _ => .zero) .empty).1 = .error (.breaksOff .tooLong) ∧
      Segment.attach (publish s none (fun _ => .zero) .empty).2 "v" 0 =
        .ok ⟨"/v", some ⟨0, 96⟩, false, false, false⟩ := by
  decide +kernel

end Video

end SharedRing
