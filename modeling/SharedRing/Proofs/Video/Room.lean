import SharedRing.Proofs.Ring.Footprint
import SharedRing.Proofs.Video.Publication
import SharedRing.Proofs.Video.Reception

/-!
Whether a channel has room for the frames it is meant for. Three checks ask this: the size of a new
channel is worked out from the frames to be buffered, a run that publishes asks whether a frame fits
with its length, and a run that receives asks whether it fits without. Since capacities are powers
of two, the answers differ from what was meant in cases that are told here exactly: most channels
hold fewer frames than were to be buffered (`buffered_written_iff`), a channel for one frame can nearly
never hold it (`cannotHold_iff`), and a receiver may wait on a channel that carries no frame of its
size (`checks_agree_iff`).
-/

namespace SharedRing.Video

open Publish

variable {h h' h₁ : Host} {p : Producer} {stopAfter : Option Nat} {elapsed : Nat → Duration}

/-! ### Buffered frames -/

namespace ProducerSettings

variable {s : ProducerSettings}

/-- The ring has room for the buffered frames just when it has as many bytes as they take. -/
theorem bufferedFrames_le_room_iff (s : ProducerSettings) (capacity : Nat) :
    s.bufferedFrames ≤ room capacity s.frameSize ↔ s.buffered ≤ capacity :=
  Nat.le_div_iff_mul_le (Nat.add_pos_right _ (by decide))

end ProducerSettings

/-- The ring of a run that nobody reads holds the first frames, as many as were written. -/
theorem drain_of_publish_ok {s : ProducerSettings} (hvalid : s.validate = .ok ()) {count : Nat}
    (hcount : s.maxFrames = some count) {stats : PublishStats}
    (hrun : publish s none elapsed h = (.ok stats, h')) :
    ∃ p h₁ b,
      Producer.create (Segment.remove h s.name) s.name s.requestedCapacity = (.ok p, h₁) ∧
      p.binding = some b ∧ stats.written = min count (room p.capacity s.frameSize) ∧
      b.ring.drain (b.memory h') =
        (List.range stats.written).map (Pipeline.frameOf s.frameSize) := by
  obtain ⟨p, h₁, pacer, hc, hrate, rfl, rfl⟩ := of_publish_ok hvalid hrun
  obtain ⟨b, hp, hb, hcapacity, hlast⟩ := after_last hc hrate
    (Geometry.frameSize_pos (ProducerSettings.of_validate hvalid).1) none elapsed
  have hwritten := hlast.written
  have hholds := hlast.holds
  have hmemory : b.memory (p.leave (last p s pacer none elapsed h₁).reported) =
      (last p s pacer none elapsed h₁).host.memory (Segment.remove h s.name).objects.size := by
    rw [Binding.memory_eq hb, (Producer.keeps_leave _ _).memory]
    rfl
  rw [hcapacity, hcount] at hwritten
  rw [hlast.written.symm] at hholds
  refine ⟨p, h₁, b, hc, hp, hwritten, ?_⟩
  rw [hmemory]
  exact hholds.drain

/-- Whether a channel gets room for the frames to be buffered, and a run that nobody reads writes
them all before it drops one: both just when these frames take, with their lengths, a power of two
of bytes that is not more than a ring can have. Of other sizes some is rounded off. -/
theorem buffered_written_iff {s : ProducerSettings} (hvalid : s.validate = .ok ()) :
    (∀ h p h', Producer.create h s.name s.requestedCapacity = (.ok p, h') →
      Ring.IsRoundedDown (min s.buffered 4294967295) p.capacity ∧
        (s.buffered ≤ p.capacity ↔
          (∃ k, s.buffered = 2 ^ k) ∧ s.buffered ≤ Ring.maxCapacity)) ∧
      ∀ h elapsed count stats h', s.maxFrames = some count → s.bufferedFrames ≤ count →
        publish s none elapsed h = (.ok stats, h') →
        (∃ p h₁ b,
          Producer.create (Segment.remove h s.name) s.name s.requestedCapacity = (.ok p, h₁) ∧
          p.binding = some b ∧ b.ring.drain (b.memory h') =
            (List.range stats.written).map (Pipeline.frameOf s.frameSize)) ∧
          (s.bufferedFrames ≤ stats.written ↔
            (∃ k, s.buffered = 2 ^ k) ∧ s.buffered ≤ Ring.maxCapacity) := by
  refine ⟨?_, ?_⟩
  · intro h p h' hc
    exact ⟨isRoundedDown_created hvalid hc, buffered_le_capacity_iff hvalid hc⟩
  · intro h elapsed count stats h' hcount hle hrun
    obtain ⟨p, h₁, b, hc, hp, hwritten, hdrain⟩ := drain_of_publish_ok hvalid hcount hrun
    refine ⟨⟨p, h₁, b, hc, hp, hdrain⟩, ?_⟩
    rw [← buffered_le_capacity_iff hvalid hc, ← s.bufferedFrames_le_room_iff, hwritten,
      Nat.le_min]
    exact and_iff_right hle

/-- Two messages of 16 bytes fill a ring. -/
theorem buffered_written_iff_exact :
    let s : ProducerSettings := ⟨"v", ⟨2, 2⟩, .ofRatio false 1000000000000 1, 2, some 3⟩
    s.validate = .ok () ∧ s.buffered = 2 ^ 5 ∧
      ∃ h', publish s none (fun _ => .zero) .empty = (.ok ⟨2, 1, 3⟩, h') ∧
        s.bufferedFrames ≤ (⟨2, 1, 3⟩ : PublishStats).written := by
  intro s
  have hvalid : s.validate = .ok () := by decide +kernel
  have hbuffered : s.buffered = 2 ^ 5 := by decide +kernel
  have hstats : (publish s none (fun _ => .zero) .empty).1 = .ok ⟨2, 1, 3⟩ := by decide +kernel
  have hrun : publish s none (fun _ => .zero) .empty =
      (.ok ⟨2, 1, 3⟩, (publish s none (fun _ => .zero) .empty).2) := by rw [← hstats]
  have hall := ((buffered_written_iff hvalid).2 _ _ 3 _ _ rfl (by decide) hrun).2
  exact ⟨hvalid, hbuffered, _, hrun, hall.2 ⟨⟨5, hbuffered⟩, by rw [hbuffered]; decide⟩⟩

/-- Three of them get a ring with room for two, so the third is dropped. -/
theorem buffered_exceeds_capacity :
    let s : ProducerSettings := ⟨"v", ⟨2, 2⟩, .ofRatio false 1000000000000 1, 3, some 3⟩
    s.validate = .ok () ∧
      (∃ p h', Producer.create .empty s.name s.requestedCapacity = (.ok p, h') ∧
        p.capacity < s.buffered) ∧
      ∃ h', publish s none (fun _ => .zero) .empty = (.ok ⟨2, 1, 3⟩, h') ∧
        (⟨2, 1, 3⟩ : PublishStats).written < s.bufferedFrames := by
  intro s
  have hcapacity : (Producer.create .empty s.name s.requestedCapacity).1.toOption.map
      Producer.capacity = some 32 := by decide +kernel
  have hstats : (publish s none (fun _ => .zero) .empty).1 = .ok ⟨2, 1, 3⟩ := by decide +kernel
  refine ⟨by decide +kernel, ?_, (publish s none (fun _ => .zero) .empty).2, by rw [← hstats],
    by decide⟩
  obtain ⟨p, h', hc, hsize⟩ := exists_ok_of_map_eq hcapacity
  refine ⟨p, h', hc, ?_⟩
  rw [hsize]
  decide +kernel

/-! ### The check of a run that publishes -/

/-- A run whose channel was created fails just when the channel cannot hold a frame. -/
theorem fst_publish_eq_error_iff {s : ProducerSettings} (hvalid : s.validate = .ok ())
    (hc : Producer.create (Segment.remove h s.name) s.name s.requestedCapacity = (.ok p, h₁))
    (stopAfter : Option Nat) (elapsed : Nat → Duration) (e : RunError) :
    (publish s stopAfter elapsed h).1 = .error (.error e) ↔
      p.capacity < s.geometry.messageSize ∧ e = .cannotHoldFrame p.capacity s.frameSize := by
  have ho := publish_outcome hvalid stopAfter elapsed h
  generalize (publish s stopAfter elapsed h).1 = res at ho ⊢
  generalize (publish s stopAfter elapsed h).2 = h' at ho
  cases ho with
  | cannotCreate hc' =>
      rw [hc] at hc'
      cases hc'
  | cannotHold hc' hsmall =>
      rw [hc] at hc'
      cases hc'
      simp [hsmall, eq_comm]
  | breaksOff hc' hfits hrate =>
      rw [hc] at hc'
      cases hc'
      simp [Nat.not_lt_of_le hfits]
  | done hc' hfits hrate =>
      rw [hc] at hc'
      cases hc'
      simp [Nat.not_lt_of_le hfits]

/-- When a run refuses the channel that it made itself. The ring in it can always be made. It cannot
hold a frame if no ring can, or if one frame was to be buffered whose message is no power of two;
so with two frames or more every message that fits any ring fits this one. Nothing else makes a run
fail once its channel was created. -/
theorem cannotHold_iff {s : ProducerSettings} (hvalid : s.validate = .ok ()) :
    (∀ h e h', Producer.create h s.name s.requestedCapacity = (.error e, h') →
      ∀ error, e ≠ .invalidRing error) ∧
      ∀ h p h₁,
        Producer.create (Segment.remove h s.name) s.name s.requestedCapacity = (.ok p, h₁) →
        ∀ stopAfter elapsed,
          ((publish s stopAfter elapsed h).1 =
              .error (.error (.cannotHoldFrame p.capacity s.frameSize)) ↔
            Ring.maxCapacity < s.geometry.messageSize ∨
              s.bufferedFrames = 1 ∧ ¬∃ k, s.geometry.messageSize = 2 ^ k) ∧
          (∀ e, (publish s stopAfter elapsed h).1 = .error (.error e) → e.chain =
            [s!"Channel capacity {p.capacity} cannot hold one {s.frameSize}-byte frame"]) ∧
          (2 ≤ s.bufferedFrames → s.geometry.messageSize ≤ Ring.maxCapacity →
            ∀ e, (publish s stopAfter elapsed h).1 ≠ .error (.error e)) := by
  refine ⟨?_, ?_⟩
  · intro h e h' hc
    exact Producer.ne_invalidRing_of_create
      (ProducerSettings.minCapacity_le_requestedCapacity hvalid) hc
  · intro h p h₁ hc stopAfter elapsed
    have hsmall := capacity_lt_messageSize_iff hvalid hc
    refine ⟨?_, ?_, ?_⟩
    · rw [fst_publish_eq_error_iff hvalid hc, hsmall]
      exact and_iff_left rfl
    · intro e he
      obtain ⟨-, rfl⟩ := (fst_publish_eq_error_iff hvalid hc stopAfter elapsed e).1 he
      rfl
    · intro htwo hmax e he
      obtain ⟨hlt, -⟩ := (fst_publish_eq_error_iff hvalid hc stopAfter elapsed e).1 he
      rcases hsmall.1 hlt with hlarge | ⟨hone, -⟩
      · exact Nat.not_lt_of_le hmax hlarge
      · omega

/-- A message of ten bytes for which eight were allocated, since only one was to be buffered. -/
theorem cannotHold_iff_single :
    let s : ProducerSettings := ⟨"v", ⟨2, 1⟩, .ofNat 30, 1, none⟩
    s.validate = .ok () ∧ s.bufferedFrames = 1 ∧ (¬∃ k, s.geometry.messageSize = 2 ^ k) ∧
      (publish s none (fun _ => .zero) .empty).1 =
        .error (.error (.cannotHoldFrame 8 6)) := by
  intro s
  have hvalid : s.validate = .ok () := by decide +kernel
  have hmessage : s.geometry.messageSize = 10 := by decide +kernel
  have hpow : ¬∃ k, s.geometry.messageSize = 2 ^ k := by
    rw [hmessage]
    rintro ⟨k, hk⟩
    have hlo : 3 < k := (Nat.pow_lt_pow_iff_right (by decide : 1 < 2)).1 (by rw [← hk]; decide)
    have hhi : k < 4 := (Nat.pow_lt_pow_iff_right (by decide : 1 < 2)).1 (by rw [← hk]; decide)
    omega
  have hcapacity : (Producer.create (Segment.remove .empty s.name) s.name
      s.requestedCapacity).1.toOption.map Producer.capacity = some 8 := by decide +kernel
  refine ⟨hvalid, rfl, hpow, ?_⟩
  obtain ⟨p, h₁, hc, hsize⟩ := exists_ok_of_map_eq hcapacity
  have hfails := (((cannotHold_iff hvalid).2 _ p h₁ hc none (fun _ => .zero)).1).2
    (Or.inr ⟨rfl, hpow⟩)
  rw [hsize] at hfails
  exact hfails

/-! ### The check of a run that receives -/

/-- No ring of that capacity takes a frame, whatever its memory holds. -/
def Geometry.NeverFits (g : Geometry) (c : Capacity) : Prop :=
  ∀ (r : Ring) (m : Memory) (frame : Bytes), r.capacity = c → frame.size = g.frameSize →
    (r.write m frame).1 = false

/-- An empty ring that is not too small takes a frame, and hands it on. -/
theorem read_write_of_holds_nil {g : Geometry} (hvalid : g.validate = .ok ()) {r : Ring}
    {m : Memory} (hempty : r.Holds m []) (hfits : g.messageSize ≤ r.capacity.size)
    {frame : Bytes} (hframe : frame.size = g.frameSize) :
    (r.write m frame).1 = true ∧
      (r.read (r.write m frame).2 (Array.replicate g.frameSize 0)).out = frame := by
  have hpos : 0 < frame.size := by
    rw [hframe]
    exact Geometry.frameSize_pos hvalid
  have hroom : frame.size + Ring.lengthSize ≤ r.capacity.size - Ring.used [] := by
    rw [hframe]
    exact hfits
  have hholds := hempty.appendMessage hpos hroom
  rw [List.nil_append] at hholds
  rw [hempty.write_eq, if_pos ⟨hpos, hroom⟩]
  refine ⟨rfl, ?_⟩
  simp [hholds.read_cons, hframe]

theorem Geometry.neverFits_iff {g : Geometry} (hvalid : g.validate = .ok ()) (c : Capacity) :
    g.NeverFits c ↔ c.size < g.messageSize := by
  constructor
  · intro hnever
    apply Nat.lt_of_not_le
    intro hfits
    -- a ring that was just made would take it
    have hempty := Ring.holds_publish ⟨0, c, .producer⟩ .zeroed c.word
    have hframe := Array.size_replicate (n := g.frameSize) (v := (0 : UInt8))
    obtain ⟨haccepted, -⟩ := read_write_of_holds_nil hvalid hempty hfits hframe
    rw [hnever _ _ _ rfl hframe] at haccepted
    cases haccepted
  · rintro hsmall r m frame rfl hframe
    have hwritable : r.writable m ≤ r.capacity.size := Nat.sub_le ..
    rw [Ring.write_eq_ite, if_neg]
    rw [hframe]
    rintro ⟨-, hfits⟩
    rw [messageSize] at hsmall
    omega

/-- A run that has opened its channel fails just when that is smaller than a frame. -/
theorem fst_receive_eq_error_iff {s : ConsumerSettings} (hvalid : s.validate = .ok ())
    {c : Consumer} (hattach : Consumer.attach h s.name 0 = (.ok c, h₁)) (stopped : Bool)
    (e : RunError) :
    (receive s stopped h).1 = .error e ↔
      c.capacity < s.frameSize ∧ e = .smallerThanFrame c.capacity s.geometry := by
  have hrun : (receive s stopped h).1 =
      (Receive.onChannel c s stopped (h₁.reportAll [Receive.opened s])).1 := by
    simp only [receive, hvalid, hattach, waitFor, Wait.run]
    rfl
  rw [hrun, Receive.onChannel]
  split
  · rename_i hsmall
    simp [hsmall, eq_comm]
  · rename_i hlarge
    simp [hlarge]

theorem fst_onChannel_eq_error_iff (p : Producer) (s : ProducerSettings) (stopAfter : Option Nat)
    (elapsed : Nat → Duration) (h : Host) (e : RunError) :
    (onChannel p s stopAfter elapsed h).1 = .error (.error e) ↔
      p.capacity < s.geometry.messageSize ∧ e = .cannotHoldFrame p.capacity s.frameSize := by
  rw [onChannel]
  dsimp only
  split
  · rename_i hsmall
    have hmessage : p.capacity < s.geometry.messageSize := hsmall
    simp [hmessage, eq_comm]
  · rename_i hlarge
    have hmessage : ¬p.capacity < s.geometry.messageSize := hlarge
    split
    · simp [hmessage]
    · simp [hmessage]

/-- Frames are of whole pixels, and no power of two is a multiple of three; so between a frame and
its message there are only two sizes that a ring may have. -/
theorem Geometry.frameSize_le_iff {g : Geometry} (hvalid : g.validate = .ok ()) (c : Capacity) :
    (g.frameSize ≤ c.size ∧ c.size < g.messageSize) ↔
      c.size = g.frameSize + 1 ∨ c.size = g.frameSize + 2 := by
  have hthree := c.size_mod_three
  have hpixels := Geometry.frameSize_eq hvalid
  rw [channels] at hpixels
  rw [messageSize, Ring.lengthSize]
  omega

/-- Whether the two programs agree on the channels that can carry a frame. The one that publishes
refuses those which can never take it. The one that receives leaves the length of the frame out of
account, and so takes two sizes, those one and two bytes longer than the frame, on which none can
ever arrive. On all others that it takes, the first frame gets through. -/
theorem checks_agree_iff {g : Geometry} (hvalid : g.validate = .ok ()) (c : Capacity) :
    (∀ (s : ConsumerSettings) h consumer h₁ stopped, s.geometry = g →
      Consumer.attach h s.name 0 = (.ok consumer, h₁) → consumer.capacity = c.size →
      ((receive s stopped h).1 = .error (.smallerThanFrame c.size g) ↔ c.size < g.frameSize) ∧
      ∀ e, (receive s stopped h).1 = .error e → e.chain =
        [s!"Channel capacity {c.size} is smaller than a {g.width}x{g.height} frame"]) ∧
    (∀ (s : ProducerSettings) p stopAfter elapsed h, s.geometry = g →
      Producer.capacity p = c.size →
      ((onChannel p s stopAfter elapsed h).1 =
        .error (.error (.cannotHoldFrame c.size g.frameSize)) ↔ g.NeverFits c)) ∧
    (g.NeverFits c ↔ c.size < g.frameSize + Ring.lengthSize) ∧
    ((c.size < g.frameSize ↔ g.NeverFits c) ↔
      c.size ≠ g.frameSize + 1 ∧ c.size ≠ g.frameSize + 2) ∧
    (g.frameSize ≤ c.size → c.size ≠ g.frameSize + 1 → c.size ≠ g.frameSize + 2 →
      ∀ (r : Ring) m frame, r.capacity = c → r.Holds m [] → frame.size = g.frameSize →
        (r.write m frame).1 = true ∧
          (r.read (r.write m frame).2 (Array.replicate g.frameSize 0)).out = frame) := by
  have hnever := Geometry.neverFits_iff hvalid c
  have hbetween := Geometry.frameSize_le_iff hvalid c
  have hlonger : g.frameSize ≤ g.messageSize := Nat.le_add_right ..
  refine ⟨?_, ?_, hnever, ?_, ?_⟩
  · rintro s h consumer h₁ stopped rfl hattach hcapacity
    rw [← hcapacity]
    refine ⟨?_, ?_⟩
    · rw [fst_receive_eq_error_iff hvalid hattach]
      exact and_iff_left rfl
    · intro e he
      obtain ⟨-, rfl⟩ := (fst_receive_eq_error_iff hvalid hattach stopped e).1 he
      rfl
  · rintro s p stopAfter elapsed h rfl hcapacity
    rw [hnever, ← hcapacity, fst_onChannel_eq_error_iff]
    exact and_iff_left rfl
  · rw [hnever]
    omega
  · rintro hlarge hone htwo r m frame rfl hempty hframe
    exact read_write_of_holds_nil hvalid hempty (by omega) hframe

/-- A ring of 16 bytes carries frames of six. -/
theorem checks_agree_iff_sixteen :
    let g : Geometry := ⟨2, 1⟩
    let r : Ring := ⟨0, ⟨4, by decide, by decide⟩, .producer⟩
    let m := Header.publish .zeroed 0 16
    let frame := Frame.fill 6 7
    g.validate = .ok () ∧ g.frameSize = 6 ∧
      (r.capacity.size < g.frameSize ↔ g.NeverFits r.capacity) ∧ (r.write m frame).1 = true ∧
      (r.read (r.write m frame).2 (Array.replicate 6 0)).out = #[7, 0, 0, 0, 7, 7] := by
  intro g r m frame
  have hvalid : g.validate = .ok () := by decide +kernel
  have hsize : g.frameSize = 6 := by decide +kernel
  have hempty : r.Holds m [] := Ring.holds_publish r .zeroed 16
  obtain ⟨-, -, -, hagree, hcarries⟩ := checks_agree_iff hvalid r.capacity
  rw [hsize] at hagree hcarries
  obtain ⟨hwrite, hread⟩ :=
    hcarries (by decide) (by decide) (by decide) r m frame rfl hempty (Frame.size_fill 6 7)
  rw [hsize]
  exact ⟨hvalid, rfl, hagree.2 ⟨by decide, by decide⟩, hwrite, hread.trans (by decide)⟩

/-- A ring of eight bytes has room for the six of a frame and not for its length as well. The
receiver takes it all the same. -/
theorem checks_disagree_eight :
    let g : Geometry := ⟨2, 1⟩
    let s : ConsumerSettings := ⟨"v", g, none, 100⟩
    let h := (Producer.create .empty "v" 8).2
    s.validate = .ok () ∧
      ∃ consumer h₁ c, Consumer.attach h s.name 0 = (.ok consumer, h₁) ∧
        consumer.capacity = Capacity.size c ∧ g.NeverFits c ∧
        ∀ stopped, (receive s stopped h).1 ≠ .error (.smallerThanFrame c.size g) := by
  intro g s h
  have hvalid : s.validate = .ok () := by decide +kernel
  have hcapacity : (Consumer.attach h s.name 0).1.toOption.map Consumer.capacity = some 8 := by
    decide +kernel
  obtain ⟨consumer, h₁, hattach, hsize⟩ := exists_ok_of_map_eq hcapacity
  refine ⟨hvalid, consumer, h₁, ⟨3, by decide, by decide⟩, hattach, hsize,
    (Geometry.neverFits_iff hvalid _).2 (by decide), ?_⟩
  intro stopped hrejects
  obtain ⟨hsmall, -⟩ := (fst_receive_eq_error_iff hvalid hattach stopped _).1 hrejects
  rw [hsize] at hsmall
  exact absurd hsmall (by decide)

end SharedRing.Video
