import SharedRing.Proofs.Channel.Opening
import SharedRing.Video.Settings

/-!
How large a channel is for the settings of its producer. A frame of valid settings takes its three
bytes a pixel and four of length, which 32 bits count, and the settings ask for as many of them as
they buffer (`ProducerSettings.buffered`), or for as much as 64 bits count. No verdict on settings
comes from a product that was cut off (`ProducerSettings.sizes_eq_products`).

The ring gets the greatest power of two up to what the settings ask for, at most `2 ^ 31`: more than
half of it, if it is no more than 32 bits count.
-/

namespace SharedRing

open SharedRing.Ring

/-! ### The capacity of a new channel -/

namespace Producer

variable {h h' : Host} {name : String} {requested : Nat} {p : Producer} {e : ChannelError}

theorem capacity_le (p : Producer) : p.capacity ≤ maxCapacity := by
  rw [capacity]
  cases p.binding with
  | none => exact Nat.zero_le _
  | some b => exact b.ring.capacity.size_le

/-- A new channel has the greatest power of two up to what was asked for, as far as 32 bits count. -/
theorem isRoundedDown_capacity (hc : create h name requested = (.ok p, h')) :
    IsRoundedDown (min requested 4294967295) p.capacity := by
  obtain ⟨r, hp, -, hbound, -⟩ := of_create_ok hc
  have hcapacity : p.capacity = r.capacity.size := by
    rw [hp]
    rfl
  have hword : (roundedCapacity requested).toNat = r.capacity.size := by
    rw [← r.capacity.word_toNat, hbound.rounded, Nat.add_sub_cancel]
  rw [hcapacity, ← hword]
  exact isRoundedDown_roundedCapacity requested

/-- Enough bytes for a ring were asked for, so it is not the ring that fails. -/
theorem ne_invalidRing_of_create (hrequested : minCapacity ≤ requested)
    (hc : create h name requested = (.error e, h')) (error : RingError) :
    e ≠ .invalidRing error := by
  rintro rfl
  rcases Segment.create_cases h name (min (requested + Header.size) maxSpan) with
    ⟨e, h₁, hsegment, hfails⟩ | ⟨n, h₁, hsegment, -, hsize, -⟩
  · simp only [create, hsegment] at hc
    cases hc
    cases hfails with
    | cleared hname he hclears => cases he
  · have hspan : min (requested + Header.size) maxSpan = requested + Header.size := by
      simp only [maxSpan, Host.mapLimit] at hsize ⊢
      omega
    rw [hspan] at hsegment
    obtain ⟨c, hword⟩ := exists_word_eq_roundedCapacity
      (minCapacity_le_roundedCapacity_iff.2 hrequested)
    have hbound : (⟨0, c, .producer⟩ : Ring).BoundProducer (requested + Header.size) :=
      ⟨rfl, Nat.le_add_left _ _, rfl, by rw [Nat.add_sub_cancel]; exact hword⟩
    have hnew := Binding.new_eq (s := created n h.objects.size requested) rfl .producer h₁
    rw [show (0 : Nat) = (⟨0, c, .producer⟩ : Ring).base from rfl, hbound.bind] at hnew
    simp only [created] at hnew
    simp only [create, hspan, hsegment, hnew] at hc
    cases hc

end Producer

namespace Video

/-! ### Frames and settings -/

namespace Geometry

variable {g : Geometry}

def messageSize (g : Geometry) : Nat := g.frameSize + lengthSize

theorem validate_iff :
    g.validate = .ok () ↔ Frame.indexSize ≤ g.frameSize ∧ g.frameSize ≤ maxFrameSize := by
  rw [validate]
  split
  · simp only [reduceCtorEq, false_iff]
    omega
  · split
    · simp only [reduceCtorEq, false_iff]
      omega
    · simp only [true_iff]
      omega

/-- It makes no difference that the pixels are cut off first. -/
theorem frameSize_eq_saturate (g : Geometry) :
    g.frameSize = saturate (g.width * g.height * channels) := by
  simp only [frameSize, saturate, channels]
  omega

/-- The size of a valid frame is its product: nowhere on the way was it cut off. -/
theorem frameSize_eq (h : g.validate = .ok ()) : g.frameSize = g.width * g.height * channels := by
  obtain ⟨-, hmax⟩ := validate_iff.1 h
  rw [frameSize_eq_saturate] at hmax ⊢
  simp only [saturate, maxFrameSize, lengthSize] at hmax ⊢
  omega

/-- The size of a valid frame is a multiple of three, so it has bytes behind its index. -/
theorem indexSize_lt_frameSize (h : g.validate = .ok ()) : Frame.indexSize < g.frameSize := by
  obtain ⟨hmin, -⟩ := validate_iff.1 h
  have hpixels := frameSize_eq h
  simp only [Frame.indexSize, channels] at hmin hpixels ⊢
  omega

theorem frameSize_pos (h : g.validate = .ok ()) : 0 < g.frameSize :=
  Nat.lt_of_le_of_lt (Nat.zero_le _) (indexSize_lt_frameSize h)

theorem messageSize_le (h : g.validate = .ok ()) : g.messageSize ≤ 4294967295 := by
  obtain ⟨-, hmax⟩ := validate_iff.1 h
  simp only [messageSize, maxFrameSize, lengthSize] at hmax ⊢
  omega

theorem minCapacity_le_messageSize (h : g.validate = .ok ()) : minCapacity ≤ g.messageSize := by
  obtain ⟨hmin, -⟩ := validate_iff.1 h
  simp only [messageSize, Frame.indexSize, minCapacity, lengthSize] at hmin ⊢
  omega

end Geometry

namespace ProducerSettings

variable {s : ProducerSettings}

theorem of_validate (h : s.validate = .ok ()) :
    s.geometry.validate = .ok () ∧ 0 < s.bufferedFrames := by
  rw [validate] at h
  split at h
  · cases h
  · rename_i hgeometry
    split at h
    · cases h
    · split at h
      · cases h
      · rename_i hbuffered
        exact ⟨hgeometry, Nat.pos_of_ne_zero hbuffered⟩

def buffered (s : ProducerSettings) : Nat := s.bufferedFrames * s.geometry.messageSize

theorem messageSize_le_buffered (h : s.validate = .ok ()) :
    s.geometry.messageSize ≤ s.buffered :=
  Nat.le_mul_of_pos_left _ (of_validate h).2

/-- The frame with its length is never cut off, so the whole product is cut off once at most. -/
theorem requestedCapacity_eq (h : s.geometry.validate = .ok ()) :
    s.requestedCapacity = saturate s.buffered := by
  have hmessage := Geometry.messageSize_le h
  have hexact : saturate (s.frameSize + lengthSize) = s.geometry.messageSize :=
    Nat.min_eq_left (Nat.le_trans hmessage (by decide))
  rw [requestedCapacity, hexact, buffered, Nat.mul_comm]

theorem minCapacity_le_requestedCapacity (h : s.validate = .ok ()) :
    minCapacity ≤ s.requestedCapacity := by
  have hmin := Geometry.minCapacity_le_messageSize (of_validate h).1
  rw [requestedCapacity_eq (of_validate h).1]
  exact Nat.le_min.2 ⟨Nat.le_trans hmin (messageSize_le_buffered h), by decide⟩

/-- A geometry is valid if its three bytes a pixel, counted without bound, have room for an index
and make a message of 32 bits with their length. Then nothing is cut off in the size of a frame, or
goes round when its length is added in 64 bits, and the room asked for is the product of the
message and the buffered frames, as far as 64 bits count it. -/
theorem sizes_eq_products (s : ProducerSettings) :
    (s.geometry.validate = .ok () ↔
        4 ≤ 3 * s.geometry.width * s.geometry.height ∧
          3 * s.geometry.width * s.geometry.height ≤ 2 ^ 32 - 5) ∧
      (s.geometry.validate = .ok () →
        s.frameSize = 3 * s.geometry.width * s.geometry.height ∧
          (UInt64.ofNat s.frameSize + UInt64.ofNat lengthSize).toNat = s.frameSize + lengthSize ∧
          s.frameSize + lengthSize < 2 ^ 32 ∧
          s.requestedCapacity =
            min ((3 * s.geometry.width * s.geometry.height + 4) * s.bufferedFrames)
              (2 ^ 64 - 1)) := by
  have hproduct : s.geometry.width * s.geometry.height * channels =
      3 * s.geometry.width * s.geometry.height := by
    rw [Nat.mul_comm, Nat.mul_assoc]
    rfl
  constructor
  · rw [Geometry.validate_iff, Geometry.frameSize_eq_saturate, hproduct]
    simp only [saturate, Geometry.maxFrameSize, Frame.indexSize, lengthSize]
    omega
  · intro hvalid
    have hsize : s.frameSize = 3 * s.geometry.width * s.geometry.height :=
      (Geometry.frameSize_eq hvalid).trans hproduct
    have hmessage : s.frameSize + lengthSize < 2 ^ 32 :=
      Nat.lt_succ_of_le (Geometry.messageSize_le hvalid)
    refine ⟨hsize, ?_, hmessage, ?_⟩
    · simp only [UInt64.toNat_add, UInt64.toNat_ofNat', lengthSize] at hmessage ⊢
      omega
    · rw [requestedCapacity_eq hvalid, buffered, Nat.mul_comm, ← hsize]
      rfl

/-- The largest frames there are, and so many of them that the room for them cannot be counted. -/
theorem sizes_eq_products_largest :
    Geometry.validate ⟨1431655763, 1⟩ = .ok () ∧
      (⟨"z", ⟨1431655763, 1⟩, .nan, 4294967300, none⟩ : ProducerSettings).frameSize =
        4294967289 ∧
      (⟨"z", ⟨1431655763, 1⟩, .nan, 4294967300, none⟩ : ProducerSettings).requestedCapacity =
        18446744073709551615 := by
  obtain ⟨hiff, hsizes⟩ :=
    sizes_eq_products ⟨"z", ⟨1431655763, 1⟩, .nan, 4294967300, none⟩
  have hvalid := hiff.2 (by decide)
  obtain ⟨hsize, -, -, hrequested⟩ := hsizes hvalid
  exact ⟨hvalid, hsize, hrequested⟩

end ProducerSettings

/-! ### What the settings get -/

section Created

variable {s : ProducerSettings} {h h' : Host} {p : Producer}
  (hvalid : s.validate = .ok ())
  (hc : Producer.create h s.name s.requestedCapacity = (.ok p, h'))

include hvalid hc

/-- What 32 bits cannot count makes no difference, and so neither does what 64 bits cannot. -/
theorem isRoundedDown_created : IsRoundedDown (min s.buffered 4294967295) p.capacity := by
  have hrounded := Producer.isRoundedDown_capacity hc
  rwa [ProducerSettings.requestedCapacity_eq (ProducerSettings.of_validate hvalid).1, saturate,
    Nat.min_assoc] at hrounded

/-- All buffered frames fit only if nothing was rounded off. -/
theorem buffered_le_capacity_iff :
    s.buffered ≤ p.capacity ↔ (∃ k, s.buffered = 2 ^ k) ∧ s.buffered ≤ maxCapacity := by
  have hrounded := isRoundedDown_created hvalid hc
  have hmax := p.capacity_le
  have hpos : 0 < s.buffered :=
    Nat.lt_of_lt_of_le (by decide) (Nat.le_trans
      (Geometry.minCapacity_le_messageSize (ProducerSettings.of_validate hvalid).1)
      (ProducerSettings.messageSize_le_buffered hvalid))
  constructor
  · intro hfits
    have hle := hrounded.le
    have heq : s.buffered = p.capacity := by omega
    refine ⟨?_, Nat.le_trans hfits hmax⟩
    rw [heq]
    exact hrounded.exists_eq_two_pow (by omega)
  · rintro ⟨⟨k, hk⟩, hbound⟩
    rw [hk] at hrounded hbound ⊢
    apply hrounded.two_pow_le
    exact Nat.le_min.2 ⟨Nat.le_refl _, Nat.le_trans hbound (by decide)⟩

/-- Of what two messages take, less than half is rounded off. -/
theorem messageSize_le_capacity (htwo : 2 ≤ s.bufferedFrames)
    (hmax : s.geometry.messageSize ≤ maxCapacity) : s.geometry.messageSize ≤ p.capacity := by
  have hrounded := isRoundedDown_created hvalid hc
  have hdouble : 2 * s.geometry.messageSize ≤ s.buffered := Nat.mul_le_mul_right _ htwo
  have hmin := Geometry.minCapacity_le_messageSize (ProducerSettings.of_validate hvalid).1
  simp only [minCapacity, maxCapacity] at hmin hmax
  have hhalf := hrounded.lt_two_mul (by omega)
  omega

/-- A ring for one message is that message rounded down. -/
theorem isRoundedDown_single (hone : s.bufferedFrames = 1) :
    IsRoundedDown s.geometry.messageSize p.capacity := by
  have hrounded := isRoundedDown_created hvalid hc
  have hmessage := Geometry.messageSize_le (ProducerSettings.of_validate hvalid).1
  rwa [ProducerSettings.buffered, hone, Nat.one_mul, Nat.min_eq_left hmessage] at hrounded

/-- The ring has no room for a frame if no ring has, or if it was made for one frame that does not
fill it. -/
theorem capacity_lt_messageSize_iff :
    p.capacity < s.geometry.messageSize ↔
      maxCapacity < s.geometry.messageSize ∨
        s.bufferedFrames = 1 ∧ ¬∃ k, s.geometry.messageSize = 2 ^ k := by
  obtain ⟨hgeometry, hbuffered⟩ := ProducerSettings.of_validate hvalid
  have hpos : s.geometry.messageSize ≠ 0 :=
    Nat.ne_of_gt (Nat.lt_of_lt_of_le (by decide) (Geometry.minCapacity_le_messageSize hgeometry))
  constructor
  · intro hsmall
    apply Classical.or_iff_not_imp_left.2
    intro hlarge
    have hone : s.bufferedFrames = 1 := by
      apply Nat.le_antisymm _ hbuffered
      apply Nat.le_of_not_lt
      intro htwo
      have hfits := messageSize_le_capacity hvalid hc htwo (Nat.le_of_not_lt hlarge)
      exact Nat.not_lt_of_le hfits hsmall
    refine ⟨hone, fun hpow => ?_⟩
    exact Nat.ne_of_lt hsmall (((isRoundedDown_single hvalid hc hone).eq_iff hpos).2 hpow)
  · rintro (hlarge | ⟨hone, hpow⟩)
    · exact Nat.lt_of_le_of_lt p.capacity_le hlarge
    · have hrounded := isRoundedDown_single hvalid hc hone
      exact Nat.lt_of_le_of_ne hrounded.le (mt (hrounded.eq_iff hpos).1 hpow)

end Created

end Video

end SharedRing
