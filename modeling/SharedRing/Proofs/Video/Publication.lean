import SharedRing.Proofs.Confinement
import SharedRing.Proofs.Vacancy
import SharedRing.Proofs.Video.Pipeline
import SharedRing.Proofs.Video.Sizing

/-!
What a run that publishes frames does while nobody reads, and what it leaves behind. The ring takes
the first frames, as many as it has room for, and from then on every frame is dropped
(`Publish.Wrote`); the lines of status and the overruns follow from the number of the attempt
(`Publish.After`). Each is kept by one step, and the run follows by induction on the attempts.

A run ends in one of four ways (`Publish.Outcome`). Unless it breaks off, the name of its channel is
gone, and all other names and all older objects are as they were.
-/

namespace SharedRing

open Host

variable {h h' : Host} {name : String} {id : ObjectId} {p : Producer} {b : Binding}

namespace Video

/-! ### The pace -/

namespace Pacer

@[simp] theorem period_wait (pacer : Pacer) (elapsed : Duration) :
    (pacer.wait elapsed).period = pacer.period := by
  rw [wait]
  split <;> rfl

/-- An overrun is a frame that took its period, or longer. -/
theorem overruns_wait (pacer : Pacer) (elapsed : Duration) :
    (pacer.wait elapsed).overruns =
      pacer.overruns + if pacer.period.nanos ≤ elapsed.nanos then 1 else 0 := by
  rw [wait, remaining, Duration.sub?]
  by_cases hle : elapsed.nanos ≤ pacer.period.nanos
  · simp only [if_pos hle]
    by_cases hzero : pacer.period.nanos - elapsed.nanos = 0
    · simp only [if_pos hzero]
      rw [if_pos (by omega)]
    · simp only [if_neg hzero]
      rw [if_neg (by omega)]
      rfl
  · simp only [if_neg hle]
    rw [if_pos (by omega)]

theorem overruns_ofRate {rate : Binary64} {pacer : Pacer} (h : ofRate rate = .ok pacer) :
    pacer.overruns = 0 := by
  rw [ofRate] at h
  split at h
  · cases h
  · cases h
    rfl

end Pacer

namespace Publish

variable {s : State} {frameSize capacity k : Nat}

/-! ### Attempts -/

/-- How many frames a ring of that many bytes has room for. -/
def room (capacity frameSize : Nat) : Nat := capacity / (frameSize + Ring.lengthSize)

/-- With as many frames in the ring as were attempted, or as it has room for, there is space for
another one just when it has room for one more. -/
theorem fits_iff (capacity frameSize k : Nat) :
    frameSize + Ring.lengthSize ≤
        capacity - min k (room capacity frameSize) * (frameSize + Ring.lengthSize) ↔
      k < room capacity frameSize := by
  have hpos : 0 < frameSize + Ring.lengthSize := Nat.add_pos_right _ (by decide)
  -- one message more fits just when the quotient is not reached yet
  have hnext := Nat.le_div_iff_mul_le (x := min k (room capacity frameSize) + 1) (y := capacity)
    hpos
  rw [Nat.succ_mul, ← room] at hnext
  omega

def statusAfter (capacity frameSize k : Nat) : Notice :=
  let written := min k (room capacity frameSize)
  .publishStatus written (k - written) (capacity - written * (frameSize + Ring.lengthSize))

/-- The lines of status of `k` attempts, one for each hundred of them. -/
def statuses (capacity frameSize k : Nat) : List Notice :=
  (List.range (k / statusInterval)).map fun i =>
    statusAfter capacity frameSize ((i + 1) * statusInterval)

theorem statuses_succ (capacity frameSize k : Nat) :
    statuses capacity frameSize (k + 1) =
      statuses capacity frameSize k ++
        if (k + 1) % statusInterval = 0 then [statusAfter capacity frameSize (k + 1)] else [] := by
  rw [statuses, statuses]
  by_cases hdue : (k + 1) % statusInterval = 0
  · have hcount : (k + 1) / statusInterval = k / statusInterval + 1 := by
      simp only [statusInterval] at hdue ⊢
      omega
    have hlast : (k / statusInterval + 1) * statusInterval = k + 1 := by
      simp only [statusInterval] at hdue ⊢
      omega
    rw [if_pos hdue, hcount, List.range_succ, List.map_append, List.map_singleton, hlast]
  · have hcount : (k + 1) / statusInterval = k / statusInterval := by
      simp only [statusInterval] at hdue ⊢
      omega
    rw [if_neg hdue, hcount, List.append_nil]

/-- A run after `k` attempts: the ring holds the first frames, as many as it has room for. -/
structure Wrote (b : Binding) (id : ObjectId) (frameSize k : Nat) (s : State) : Prop where
  exists_object : id < s.host.objects.size
  index : s.index = k
  written : s.written = min k (room b.ring.capacity.size frameSize)
  dropped : s.dropped = k - min k (room b.ring.capacity.size frameSize)
  holds : b.ring.Holds (s.host.memory id)
    ((List.range (min k (room b.ring.capacity.size frameSize))).map (Pipeline.frameOf frameSize))

namespace Wrote

theorem used (k capacity frameSize : Nat) :
    Ring.used ((List.range (min k (room capacity frameSize))).map (Pipeline.frameOf frameSize)) =
      min k (room capacity frameSize) * (frameSize + Ring.lengthSize) := by
  rw [Pipeline.used_frames, List.length_range]

theorem writable (hw : Wrote b id frameSize k s) (hp : p.binding = some b)
    (hb : b.object? = some id) :
    p.writable s.host = b.ring.capacity.size -
      min k (room b.ring.capacity.size frameSize) * (frameSize + Ring.lengthSize) := by
  rw [Producer.writable, hp, Option.map_some, Option.getD_some, Binding.memory_eq hb,
    hw.holds.writable, used]

theorem attempt (hw : Wrote b id frameSize k s) (hp : p.binding = some b)
    (hb : b.object? = some id) (hsize : 0 < frameSize) :
    Wrote b id frameSize (k + 1) (Publish.attempt p frameSize s) := by
  have hframe : Frame.fill frameSize (UInt32.ofNat s.index) = Pipeline.frameOf frameSize k := by
    rw [hw.index, Pipeline.frameOf]
  simp only [Publish.attempt, Producer.write, hp, Binding.memory_eq hb, hframe, hw.holds.write_eq,
    used, Pipeline.size_frameOf, fits_iff]
  by_cases hk : k < room b.ring.capacity.size frameSize
  · -- one more frame finds room
    have hfits := (fits_iff _ _ _).2 hk
    have hframeSize := Pipeline.size_frameOf frameSize k
    have happend := hw.holds.appendMessage (Nat.lt_of_lt_of_eq hsize hframeSize.symm)
      (by rwa [used, hframeSize])
    have hmin : min k (room b.ring.capacity.size frameSize) = k := by omega
    have hmin' : min (k + 1) (room b.ring.capacity.size frameSize) = k + 1 := by omega
    simp only [hsize, hk, and_self, if_true, Binding.setMemory_eq hb]
    refine ⟨?_, congrArg (· + 1) hw.index, ?_, ?_, ?_⟩
    · rw [Host.size_setMemory]
      exact hw.exists_object
    · rw [hw.written, hmin, hmin']
    · rw [hw.dropped, hmin, hmin']
      omega
    · rw [Host.memory_setMemory hw.exists_object, hmin', List.range_succ, List.map_append]
      rwa [hmin] at happend
  · -- the ring is full and stays as it is
    have hmin : min (k + 1) (room b.ring.capacity.size frameSize) =
        min k (room b.ring.capacity.size frameSize) := by omega
    simp only [hk, and_false, if_false, Bool.false_eq_true, Binding.setMemory_eq hb,
      Host.setMemory_memory]
    refine ⟨hw.exists_object, congrArg (· + 1) hw.index, ?_, ?_, ?_⟩
    · rw [hw.written, hmin]
    · rw [hw.dropped, hmin]
      dsimp only
      omega
    · rw [hmin]
      exact hw.holds

end Wrote

/-- A run after `k` attempts, from the host and the pace it began with, has also reported as many
lines of status and counted the frames that took their period. -/
structure After (b : Binding) (id : ObjectId) (frameSize : Nat) (elapsed : Nat → Duration)
    (h : Host) (period : Duration) (k : Nat) (s : State) : Prop
    extends Wrote b id frameSize k s where
  notices : s.host.notices.toList =
    h.notices.toList ++ statuses b.ring.capacity.size frameSize k
  overruns : s.pacer.overruns =
    (List.range k).countP fun i => period.nanos ≤ (elapsed i).nanos
  period : s.pacer.period = period

theorem pacer_step (p : Producer) (frameSize : Nat) (elapsed : Nat → Duration) (s : State) :
    (step p frameSize elapsed s).pacer = s.pacer.wait (elapsed s.index) := by
  rw [step, reportStatus]
  dsimp only
  split <;> rfl

namespace After

variable {elapsed : Nat → Duration} {period : Duration}

theorem start {pacer : Pacer} (hid : id < h.objects.size) (hring : b.ring.Holds (h.memory id) [])
    (hpacer : pacer.overruns = 0) :
    After b id frameSize elapsed h pacer.period 0 ⟨h, pacer, 0, 0, 0⟩ := by
  refine ⟨⟨hid, rfl, ?_, ?_, ?_⟩, ?_, hpacer, rfl⟩
  · rw [Nat.zero_min]
  · rw [Nat.zero_sub]
  · rw [Nat.zero_min]
    exact hring
  · simp [statuses]

theorem step (ha : After b id frameSize elapsed h period k s) (hp : p.binding = some b)
    (hb : b.object? = some id) (hsize : 0 < frameSize) :
    After b id frameSize elapsed h period (k + 1) (Publish.step p frameSize elapsed s) := by
  have hw := ha.toWrote.attempt hp hb hsize
  have hlines : (Publish.attempt p frameSize s).host.notices.toList =
      h.notices.toList ++ statuses b.ring.capacity.size frameSize k := by
    rw [← ha.notices, Publish.attempt, Producer.notices_write]
  have hpacer := pacer_step p frameSize elapsed s
  refine ⟨?_, ?_, ?_, ?_⟩
  · rw [Publish.step, reportStatus]
    split
    · exact ⟨hw.exists_object, hw.index, hw.written, hw.dropped, hw.holds⟩
    · exact ⟨hw.exists_object, hw.index, hw.written, hw.dropped, hw.holds⟩
  · rw [Publish.step, reportStatus, statuses_succ, ← List.append_assoc, ← hlines, hw.index]
    split
    · rw [Host.report, Array.toList_push, hw.writable hp hb, hw.written, hw.dropped]
      rfl
    · rw [List.append_nil]
  · rw [hpacer, Pacer.overruns_wait, ha.overruns, ha.period, ha.index, countP_range_succ]
    simp only [decide_eq_true_eq]
  · rw [hpacer, Pacer.period_wait, ha.period]

theorem steps {j : Nat} (ha : After b id frameSize elapsed h period j s)
    (hp : p.binding = some b) (hb : b.object? = some id) (hsize : 0 < frameSize) (count : Nat) :
    After b id frameSize elapsed h period (j + count)
      (Publish.steps p frameSize elapsed count s) := by
  induction count generalizing j s with
  | zero => exact ha
  | succ count ih =>
      -- the others start one attempt later
      have hrest := ih (ha.step hp hb hsize)
      rwa [Nat.add_right_comm] at hrest

end After

/-- The attempts store in the object of their producer only. -/
theorem preserves_steps (hp : p.binding = some b) (hb : b.object? = some id)
    (hid : h.objects.size ≤ id) (frameSize : Nat) (elapsed : Nat → Duration) (count : Nat)
    {s : State} (hkept : h.Preserves s.host) :
    h.Preserves (steps p frameSize elapsed count s).host := by
  induction count generalizing s with
  | zero => exact hkept
  | succ count ih =>
      have hattempt := Producer.preserves_write hkept hp hb hid
        (Frame.fill frameSize (UInt32.ofNat s.index))
      apply ih
      rw [step, reportStatus]
      dsimp only
      split
      · exact hattempt.trans (Host.keeps_report _ _).preserves
      · exact hattempt

/-! ### The run -/

def ready (p : Producer) (s : ProducerSettings) : Notice :=
  .publishing p.name s.geometry.width s.geometry.height s.rate s.frameSize p.capacity
    (room p.capacity s.frameSize)

def last (p : Producer) (s : ProducerSettings) (pacer : Pacer) (stopAfter : Option Nat)
    (elapsed : Nat → Duration) (h : Host) : State :=
  steps p s.frameSize elapsed (attempts s.maxFrames stopAfter)
    ⟨h.report (ready p s), pacer, 0, 0, 0⟩

def State.reported (s : State) : Host :=
  s.host.report (.publishedAll s.written s.dropped s.pacer.overruns)

/-- How a run with valid settings ends: its channel cannot be created, or cannot hold a frame, or
its rate has no period, or all its attempts are made. -/
inductive Outcome (s : ProducerSettings) (stopAfter : Option Nat) (elapsed : Nat → Duration)
    (h : Host) : Except Failure PublishStats → Host → Prop
  | cannotCreate {e : ChannelError} {h' : Host}
      (hc : Producer.create (Segment.remove h s.name) s.name s.requestedCapacity =
        (.error e, h')) :
      Outcome s stopAfter elapsed h (.error (.error (.cannotCreate s.name e))) h'
  | cannotHold {p : Producer} {h' : Host}
      (hc : Producer.create (Segment.remove h s.name) s.name s.requestedCapacity = (.ok p, h'))
      (hsmall : p.capacity < s.geometry.messageSize) :
      Outcome s stopAfter elapsed h (.error (.error (.cannotHoldFrame p.capacity s.frameSize)))
        (p.leave h')
  -- the mapping goes, the name stays
  | breaksOff {p : Producer} {h' : Host} {e : PeriodError}
      (hc : Producer.create (Segment.remove h s.name) s.name s.requestedCapacity = (.ok p, h'))
      (hfits : s.geometry.messageSize ≤ p.capacity) (hrate : Pacer.ofRate s.rate = .error e) :
      Outcome s stopAfter elapsed h (.error (.breaksOff e)) (p.drop (h'.report (ready p s)))
  | done {p : Producer} {h' : Host} {pacer : Pacer}
      (hc : Producer.create (Segment.remove h s.name) s.name s.requestedCapacity = (.ok p, h'))
      (hfits : s.geometry.messageSize ≤ p.capacity) (hrate : Pacer.ofRate s.rate = .ok pacer) :
      Outcome s stopAfter elapsed h (.ok (last p s pacer stopAfter elapsed h').stats)
        (p.leave (last p s pacer stopAfter elapsed h').reported)

end Publish

open Publish in
theorem publish_outcome {s : ProducerSettings} (hvalid : s.validate = .ok ())
    (stopAfter : Option Nat) (elapsed : Nat → Duration) (h : Host) :
    Outcome s stopAfter elapsed h (publish s stopAfter elapsed h).1
      (publish s stopAfter elapsed h).2 := by
  rw [publish, hvalid]
  dsimp only
  cases hc : Producer.create (Segment.remove h s.name) s.name s.requestedCapacity with
  | mk made h' =>
      cases made with
      | error e => exact .cannotCreate hc
      | ok p =>
          by_cases hsmall : p.capacity < s.geometry.messageSize
          · have hrun : onChannel p s stopAfter elapsed h' =
                (.error (.error (.cannotHoldFrame p.capacity s.frameSize)), h') := by
              rw [onChannel]
              exact if_pos hsmall
            simp only [hrun]
            exact .cannotHold hc hsmall
          · have hfits := Nat.le_of_not_lt hsmall
            cases hrate : Pacer.ofRate s.rate with
            | error e =>
                have hrun : onChannel p s stopAfter elapsed h' =
                    (.error (.breaksOff e), h'.report (ready p s)) := by
                  simp only [onChannel, hrate]
                  exact if_neg hsmall
                simp only [hrun]
                exact .breaksOff hc hfits hrate
            | ok pacer =>
                have hrun : onChannel p s stopAfter elapsed h' =
                    (.ok (last p s pacer stopAfter elapsed h').stats,
                      (last p s pacer stopAfter elapsed h').reported) := by
                  simp only [onChannel, hrate]
                  exact if_neg hsmall
                simp only [hrun]
                exact .done hc hfits hrate

namespace Publish

/-- What a run of `count` attempts counts, on a channel of that many bytes which nobody reads. -/
structure Balance (capacity frameSize count : Nat) (period : Duration) (stats : PublishStats) :
    Prop where
  written : stats.written = min count (room capacity frameSize)
  dropped : stats.dropped = count - stats.written
  overruns_le : stats.overruns ≤ count
  overruns_eq : period = .zero → stats.overruns = count

def log (p : Producer) (s : ProducerSettings) (count : Nat) (stats : PublishStats) :
    List Notice :=
  [.producerCreated p.name s.requestedCapacity p.capacity, ready p s] ++
    statuses p.capacity s.frameSize count ++
    [.publishedAll stats.written stats.dropped stats.overruns, .segmentDestroyed p.name]

variable {elapsed : Nat → Duration} {period : Duration}

theorem After.balance (ha : After b id frameSize elapsed h period k s) :
    Balance b.ring.capacity.size frameSize k period s.stats where
  written := ha.written
  dropped := by
    rw [State.stats, ha.dropped, ha.written]
  overruns_le := by
    have hle := List.countP_le_length (l := List.range k)
      (p := fun i => decide (period.nanos ≤ (elapsed i).nanos))
    rw [List.length_range, ← ha.overruns] at hle
    exact hle
  overruns_eq hzero := by
    have hall : (List.range k).countP (fun i => decide (period.nanos ≤ (elapsed i).nanos)) =
        (List.range k).length := by
      rw [List.countP_eq_length]
      intro i _
      rw [hzero]
      exact decide_eq_true (Nat.zero_le _)
    rw [List.length_range, ← ha.overruns] at hall
    exact hall

section Last

variable {s : ProducerSettings} {pacer : Pacer} {requested : Nat}
  (hc : Producer.create h name requested = (.ok p, h'))

include hc

theorem after_last (hrate : Pacer.ofRate s.rate = .ok pacer) (hsize : 0 < s.frameSize)
    (stopAfter : Option Nat) (elapsed : Nat → Duration) :
    ∃ b, p.binding = some b ∧ b.object? = some h.objects.size ∧
      b.ring.capacity.size = p.capacity ∧
      After b h.objects.size s.frameSize elapsed (h'.report (ready p s)) pacer.period
        (attempts s.maxFrames stopAfter) (last p s pacer stopAfter elapsed h') := by
  obtain ⟨b, hp, hb, hcapacity, hholds, hid⟩ := Producer.exists_binding_of_create hc
  have hstart : After b h.objects.size s.frameSize elapsed (h'.report (ready p s)) pacer.period 0
      ⟨h'.report (ready p s), pacer, 0, 0, 0⟩ :=
    After.start hid hholds (Pacer.overruns_ofRate hrate)
  have hlast := hstart.steps hp hb hsize (attempts s.maxFrames stopAfter)
  rw [Nat.zero_add] at hlast
  exact ⟨b, hp, hb, hcapacity, hlast⟩

variable (s pacer)

theorem preserves_last (stopAfter : Option Nat) (elapsed : Nat → Duration) :
    h.Preserves (last p s pacer stopAfter elapsed h').reported := by
  obtain ⟨b, hp, hb, -⟩ := Producer.exists_binding_of_create hc
  obtain ⟨_, -, -, -, -, -, hadds⟩ := Producer.of_create_ok hc
  have hstart := hadds.preserves.trans (Host.keeps_report h' (ready p s)).preserves
  have hsteps := preserves_steps hp hb (Nat.le_refl _) s.frameSize elapsed
    (attempts s.maxFrames stopAfter) (s := ⟨h'.report (ready p s), pacer, 0, 0, 0⟩) hstart
  exact hsteps.trans (Host.keeps_report _ _).preserves

/-- The name still stands for the new object after all attempts. -/
theorem find?_last (stopAfter : Option Nat) (elapsed : Nat → Duration) :
    (last p s pacer stopAfter elapsed h').reported.find? p.name = some h.objects.size := by
  obtain ⟨_, -, -, -, -, -, hadds⟩ := Producer.of_create_ok hc
  have hsteps := confined_steps p s.frameSize elapsed (attempts s.maxFrames stopAfter)
    ⟨h'.report (ready p s), pacer, 0, 0, 0⟩
  exact (hsteps.lookup (objectName p.name) (by simp)).trans hadds.find?_eq

end Last

end Publish

/-! ### All runs -/

/-- The run that made all its attempts has reported them, and that its name is gone. -/
theorem Publish.notices_leave {s : ProducerSettings} {pacer : Pacer} {stopAfter : Option Nat}
    {elapsed : Nat → Duration} {count : Nat}
    (hc : Producer.create (Segment.remove h s.name) s.name s.requestedCapacity = (.ok p, h'))
    (hlines : (last p s pacer stopAfter elapsed h').host.notices.toList =
      (h'.report (ready p s)).notices.toList ++ statuses p.capacity s.frameSize count) :
    (p.leave (last p s pacer stopAfter elapsed h').reported).notices.toList =
      h.notices.toList ++ log p s count (last p s pacer stopAfter elapsed h').stats := by
  obtain ⟨_, -, hname, -, -, -, hadds⟩ := Producer.of_create_ok hc
  have hdots := Host.isDots_of_admitted hadds.admitted
  have hcreated := Producer.notices_create hc
  rw [Segment.notices_remove hname hdots] at hcreated
  rw [Producer.notices_leave hc (find?_last s pacer hc stopAfter elapsed), State.reported]
  -- each report is one more line at the end
  simp only [Host.report, Array.toList_push] at hlines ⊢
  rw [hlines, hcreated]
  simp [log, State.stats]

/-- However a run ends, unless it breaks off, it leaves nothing under its name. -/
theorem Publish.Outcome.vacates {s : ProducerSettings} {stopAfter : Option Nat}
    {elapsed : Nat → Duration} {res : Except Failure PublishStats}
    (ho : Outcome s stopAfter elapsed h res h') (hreturns : ∀ e, res ≠ .error (.breaksOff e))
    (hnames : h.NamesExist) (hconfined : h.Confined h' (objectName? s.name)) :
    Vacates h h' s.name := by
  have hremove := (Segment.keeps_remove h s.name).preserves
  have hgone {p : Producer} {h₁ : Host} (h₂ : Host)
      (hc : Producer.create (Segment.remove h s.name) s.name s.requestedCapacity = (.ok p, h₁))
      (n : String) (hname : Name.normalize s.name = .ok n) :
      ∃ e, (p.leave h₂).openExisting n = .error e := by
    obtain ⟨_, -, hvalid, -⟩ := Producer.of_create_ok hc
    rw [hname] at hvalid
    cases hvalid
    exact Producer.openExisting_leave hc h₂
  cases ho with
  | cannotCreate hc =>
      have hfails := Producer.of_create_error hc
      exact (hremove.trans hfails.keeps.preserves).vacates hnames hconfined
        fun n => openExisting_of_fails hfails
  | @cannotHold p h₁ hc hsmall =>
      obtain ⟨_, -, -, -, -, -, hadds⟩ := Producer.of_create_ok hc
      have hleft := (p.keeps_leave h₁).preserves
      exact ((hremove.trans hadds.preserves).trans hleft).vacates hnames hconfined (hgone _ hc)
  | breaksOff hc hfits hrate => exact absurd rfl (hreturns _)
  | @done p h₁ pacer hc hfits hrate =>
      have hkept := hremove.trans (preserves_last s pacer hc stopAfter elapsed)
      have hleft := (p.keeps_leave (last p s pacer stopAfter elapsed h₁).reported).preserves
      exact (hkept.trans hleft).vacates hnames hconfined (hgone _ hc)

open Publish in
theorem of_publish_ok {s : ProducerSettings} (hvalid : s.validate = .ok ())
    {stopAfter : Option Nat} {elapsed : Nat → Duration} {stats : PublishStats}
    (hrun : publish s stopAfter elapsed h = (.ok stats, h')) :
    ∃ p h₁ pacer,
      Producer.create (Segment.remove h s.name) s.name s.requestedCapacity = (.ok p, h₁) ∧
      Pacer.ofRate s.rate = .ok pacer ∧ stats = (last p s pacer stopAfter elapsed h₁).stats ∧
      h' = p.leave (last p s pacer stopAfter elapsed h₁).reported := by
  have ho := publish_outcome hvalid stopAfter elapsed h
  rw [hrun] at ho
  dsimp only at ho
  cases ho with
  | done hc hfits hrate => exact ⟨_, _, _, hc, hrate, rfl, rfl⟩

open Publish in
/-- What a run with valid settings that returns has done, whatever its name stood for. If it was to
attempt `count` frames and did so, it wrote the first, as many as the ring has room for, dropped the
rest, and reported the state of both after each hundred. Whether it succeeded or failed, its name is
gone, and all other names and all bytes of older objects are as they were. -/
theorem publish_accounts {h : Host} (hnames : h.NamesExist) {s : ProducerSettings}
    (hvalid : s.validate = .ok ()) {stopAfter : Option Nat} {elapsed : Nat → Duration}
    {res : Except Failure PublishStats} {h' : Host}
    (hrun : publish s stopAfter elapsed h = (res, h'))
    (hreturns : ∀ e, res ≠ .error (.breaksOff e)) :
    (∀ count stats, stopAfter = none → s.maxFrames = some count → res = .ok stats →
      ∃ p h₁ pacer,
        Producer.create (Segment.remove h s.name) s.name s.requestedCapacity = (.ok p, h₁) ∧
        Pacer.ofRate s.rate = .ok pacer ∧
        Balance p.capacity s.frameSize count pacer.period stats ∧
        h'.notices.toList = h.notices.toList ++ log p s count stats) ∧
      Vacates h h' s.name := by
  refine ⟨?_, ?_⟩
  · rintro count stats rfl hcount rfl
    obtain ⟨p, h₁, pacer, hc, hrate, rfl, rfl⟩ := of_publish_ok hvalid hrun
    have hsize := Geometry.frameSize_pos (ProducerSettings.of_validate hvalid).1
    have hattempts : attempts s.maxFrames none = count := by
      rw [hcount]
      rfl
    obtain ⟨b, -, -, hcapacity, hlast⟩ := after_last hc hrate hsize none elapsed
    have hbalance := hlast.balance
    have hlines := hlast.notices
    rw [hcapacity, hattempts] at hbalance hlines
    exact ⟨p, h₁, pacer, hc, hrate, hbalance, notices_leave hc hlines⟩
  · have ho := publish_outcome hvalid stopAfter elapsed h
    have hconfined := confined_publish s stopAfter elapsed h
    rw [hrun] at ho hconfined
    exact ho.vacates hreturns hnames hconfined

/-- Frames of six bytes in a ring of 16, which has room for one, at a rate of so many frames that
none has any time. The name of the channel stood for an object that has another name as well. -/
theorem publish_accounts_full :
    let h : Host := ⟨#[⟨32, .zeroed⟩], [("v", 0), ("u", 0)], #[], .none, []⟩
    let s : ProducerSettings :=
      ⟨"v", ⟨2, 1⟩, .ofRatio false 1000000000000 1, 2, some 200⟩
    h.NamesExist ∧ s.validate = .ok () ∧
      ∃ h', publish s none (fun _ => .zero) h = (.ok ⟨1, 199, 200⟩, h') ∧
        h'.notices.toList =
          [.producerCreated "/v" 20 16, .publishing "/v" 2 1 s.rate 6 16 1,
            .publishStatus 1 99 6, .publishStatus 1 199 6, .publishedAll 1 199 200,
            .segmentDestroyed "/v"] ∧
        Vacates h h' "v" := by
  intro h s
  have hnames : h.NamesExist := by
    show ∀ e ∈ h.names, e.2 < h.objects.size
    decide
  have hvalid : s.validate = .ok () := by decide +kernel
  have hrate : Pacer.ofRate s.rate = .ok ⟨.zero, 0⟩ := by decide +kernel
  have hmade : (Producer.create (Segment.remove h s.name) s.name s.requestedCapacity).1.toOption.map
      (fun p => (p.name, p.capacity)) = some ("/v", 16) := by decide +kernel
  obtain ⟨p, h₁, hc, hp⟩ := exists_ok_of_map_eq hmade
  obtain ⟨hname, hcapacity⟩ := Prod.mk.inj hp
  have ho := publish_outcome hvalid none (fun _ => .zero) h
  cases hrun : publish s none (fun _ => .zero) h with
  | mk res h' =>
      rw [hrun] at ho
      dsimp only at ho
      cases ho with
      | cannotCreate hc' =>
          rw [hc] at hc'
          cases hc'
      | cannotHold hc' hsmall =>
          rw [hc] at hc'
          cases hc'
          rw [hcapacity] at hsmall
          exact absurd hsmall (by decide)
      | breaksOff hc' hfits hfails =>
          rw [hrate] at hfails
          cases hfails
      | done hc' hfits hok =>
          obtain ⟨hcounts, hvacates⟩ := publish_accounts hnames hvalid hrun (by rintro _ ⟨⟩)
          obtain ⟨p, h₁, pacer, hmade, hpacer, hbalance, hlines⟩ := hcounts 200 _ rfl rfl rfl
          rw [hc] at hmade
          cases hmade
          rw [hrate] at hpacer
          cases hpacer
          rw [hcapacity] at hbalance
          generalize (Publish.last _ _ _ _ _ _).stats = stats at hrun hbalance hlines
          obtain ⟨written, dropped, overruns⟩ := stats
          obtain ⟨hwritten, hdropped, -, hoverruns⟩ := hbalance
          obtain rfl : written = 1 := hwritten.trans (by decide +kernel)
          obtain rfl : dropped = 199 := hdropped
          obtain rfl : overruns = 200 := hoverruns rfl
          refine ⟨hnames, hvalid, _, rfl, ?_, hvacates⟩
          rw [hlines, Publish.log, Publish.ready, hname, hcapacity]
          decide +kernel

end Video

end SharedRing
