import SharedRing.Proofs.Ring.Bind
import SharedRing.Proofs.Video.Frame
import SharedRing.Proofs.Video.Sequence
import SharedRing.Video.Receive

/-!
Frames from one end of a ring to the other. Attempts to write the next frame and polls for one
take turns in any order. No frame is lost that was written, none comes twice or damaged, and the
gaps that the receiver counts are the attempts that were refused between its first frame and its
last (`Pipeline.Conserves`).

The attempts are numbered without bound. Those that were written are kept in their order, and the
receiver has had the first `received` of them, while the ring holds the others
(`Pipeline.Sound`).
-/

namespace SharedRing.Video

/-! ### Numbers and their outcomes -/

/-- One more number, with its outcome. -/
theorem filter_range_succ (ok : Nat → Bool) (n : Nat) (b : Bool) :
    (List.range (n + 1)).filter (fun k => if k = n then b else ok k) =
      if b then (List.range n).filter ok ++ [n] else (List.range n).filter ok := by
  have hsame : (List.range n).filter (fun k => if k = n then b else ok k) =
      (List.range n).filter ok := by
    apply List.filter_congr
    intro k hk
    rw [List.mem_range] at hk
    rw [if_neg (Nat.ne_of_lt hk)]
  rw [List.range_succ, List.filter_append, hsame, List.filter_singleton, if_pos rfl]
  cases b <;> simp

theorem countP_range_succ (ok : Nat → Bool) (n : Nat) :
    (List.range (n + 1)).countP ok = (List.range n).countP ok + if ok n then 1 else 0 := by
  rw [List.range_succ, List.countP_append, List.countP_singleton]

/-- Below the `i`th number that passes a test there are `i` others that do. -/
theorem countP_range_of_getElem? {ok : Nat → Bool} {n i k : Nat}
    (h : ((List.range n).filter ok)[i]? = some k) : (List.range k).countP ok = i := by
  induction n with
  | zero => simp at h
  | succ n ih =>
      rw [List.range_succ, List.filter_append, List.getElem?_append] at h
      split at h
      · exact ih h
      · -- a number behind all others that passed is the last one itself
        rename_i hi
        rw [List.filter_singleton, List.getElem?_eq_some_iff] at h
        obtain ⟨hlt, hk⟩ := h
        cases hn : ok n with
        | false => simp [hn] at hlt
        | true =>
            simp only [hn, cond_true, List.length_singleton, List.getElem_singleton] at hlt hk
            rw [← hk, List.countP_eq_length_filter]
            omega

/-- Counting between two bounds is the difference of counting below each. -/
theorem countP_range_between (ok : Nat → Bool) {a b : Nat} (hab : a ≤ b) (n : Nat) :
    (List.range n).countP (fun k => (a ≤ k && k < b) && ok k) +
        (List.range (min n a)).countP ok = (List.range (min n b)).countP ok := by
  induction n with
  | zero => simp
  | succ n ih =>
      rw [countP_range_succ]
      by_cases hna : n < a
      · rw [Nat.min_eq_left (by omega), Nat.min_eq_left (by omega)] at ih ⊢
        have hbelow : ¬ a ≤ n := Nat.not_le_of_lt hna
        simp only [countP_range_succ, hbelow, decide_false, Bool.false_and, Bool.false_eq_true,
          if_false]
        omega
      · by_cases hnb : n < b
        · rw [Nat.min_eq_right (by omega), Nat.min_eq_left (by omega)] at ih ⊢
          simp only [countP_range_succ, Nat.le_of_not_lt hna, hnb, decide_true, Bool.true_and]
          omega
        · rw [Nat.min_eq_right (by omega), Nat.min_eq_right (by omega)] at ih ⊢
          simp only [hnb, decide_false, Bool.and_false, Bool.false_and, Bool.false_eq_true,
            if_false]
          omega

/-- Between two of the numbers that pass a test, all but those that pass it too fail it. -/
theorem length_between {ok : Nat → Bool} {n i j a b : Nat} (hij : i ≤ j)
    (ha : ((List.range n).filter ok)[i]? = some a) (hb : ((List.range n).filter ok)[j]? = some b) :
    (((List.range n).filter fun k => !ok k).filter fun k => a < k && k < b).length + (j - i) + a =
      b := by
  have hi := countP_range_of_getElem? ha
  have hj := countP_range_of_getElem? hb
  obtain ⟨han, hok⟩ := List.mem_filter.1 (List.mem_of_getElem? ha)
  obtain ⟨hbn, -⟩ := List.mem_filter.1 (List.mem_of_getElem? hb)
  rw [List.mem_range] at han hbn
  have hab : a ≤ b := by
    apply Nat.le_of_not_lt
    intro hba
    have hle : (List.range b).countP ok ≤ (List.range a).countP ok :=
      (List.range_sublist.2 (Nat.le_of_lt hba)).countP_le
    have hsame : i = j := by omega
    rw [hsame, hb] at ha
    cases ha
    exact Nat.lt_irrefl _ hba
  have hsplit (x : Nat) :
      (List.range x).countP ok + (List.range x).countP (fun k => !ok k) = x := by
    have hlength := List.length_eq_countP_add_countP ok (l := List.range x)
    simpa using hlength.symm
  -- the first of them passes, so it makes no difference that it is left out
  have hclosed : (List.range n).countP (fun k => (a < k && k < b) && !ok k) =
      (List.range n).countP (fun k => (a ≤ k && k < b) && !ok k) := by
    apply List.countP_congr
    intro k _
    by_cases hka : k = a
    · simp [hka, hok]
    · have hiff : a < k ↔ a ≤ k := by omega
      simp only [hiff]
  have hbetween := countP_range_between (fun k => !ok k) hab n
  rw [Nat.min_eq_right (Nat.le_of_lt han), Nat.min_eq_right (Nat.le_of_lt hbn)] at hbetween
  have hsplitA := hsplit a
  have hsplitB := hsplit b
  rw [← List.countP_eq_length_filter, List.countP_filter]
  omega

/-! ### Turns -/

inductive Turn where
  | attempt
  | poll

/-- A ring between two turns, the counts of its two ends, and what became of each attempt. -/
structure Pipeline where
  memory : Memory
  /-- The number of the next attempt. -/
  attempts : Nat
  written : Nat
  dropped : Nat
  tally : Receive.Tally
  /-- Attempts whose frame was written, the oldest first. -/
  accepted : List Nat
  /-- Attempts whose frame was dropped, the oldest first. -/
  refused : List Nat
  /-- What the polls delivered, the oldest first. -/
  delivered : List Bytes

namespace Pipeline

def start (m : Memory) : Pipeline := ⟨m, 0, 0, 0, .start, [], [], []⟩

/-- The frame of an attempt, which carries the low 32 bits of its number. -/
def frameOf (frameSize number : Nat) : Bytes := Frame.fill frameSize (UInt32.ofNat number)

def attempt (p : Ring) (frameSize : Nat) (s : Pipeline) : Pipeline :=
  let (ok, m) := p.write s.memory (frameOf frameSize s.attempts)
  { s with
    memory := m
    attempts := s.attempts + 1
    written := if ok then s.written + 1 else s.written
    dropped := if ok then s.dropped else s.dropped + 1
    accepted := if ok then s.accepted ++ [s.attempts] else s.accepted
    refused := if ok then s.refused else s.refused ++ [s.attempts] }

def poll (c : Ring) (frameSize : Nat) (s : Pipeline) : Pipeline :=
  let res := c.read s.memory (Array.replicate frameSize 0)
  if res.length = 0 then { s with memory := res.memory }
  else
    { s with
      memory := res.memory
      tally := s.tally.add frameSize (res.out.extract 0 res.length)
      delivered := s.delivered ++ [res.out.extract 0 res.length] }

def turn (p c : Ring) (frameSize : Nat) (s : Pipeline) : Turn → Pipeline
  | .attempt => s.attempt p frameSize
  | .poll => s.poll c frameSize

def run (p c : Ring) (frameSize : Nat) (s : Pipeline) (turns : List Turn) : Pipeline :=
  turns.foldl (turn p c frameSize) s

def numbers (s : Pipeline) : List Nat := s.accepted.take s.tally.received

/-- The refused attempts between the first frame delivered and the last. -/
def missed (s : Pipeline) : List Nat :=
  s.refused.filter fun k => s.numbers.headD 0 < k && k < s.numbers.getLastD 0

/-! ### The invariant -/

/-- The receiver has had the oldest frames that were accepted, and the ring holds the rest. -/
structure Sound (r : Ring) (frameSize : Nat) (s : Pipeline) : Prop where
  /-- Every attempt so far was either accepted or refused. -/
  outcomes : ∃ ok : Nat → Bool, s.accepted = (List.range s.attempts).filter ok ∧
    s.refused = (List.range s.attempts).filter (fun k => !ok k)
  written : s.written = s.accepted.length
  dropped : s.dropped = s.refused.length
  received_le : s.tally.received ≤ s.accepted.length
  delivered : s.delivered = s.numbers.map (frameOf frameSize)
  bad : s.tally.bad = 0
  sequence : s.tally.sequence = Sequence.start.observeAll s.numbers
  holds : r.Holds s.memory ((s.accepted.drop s.tally.received).map (frameOf frameSize))

variable {r : Ring} {frameSize : Nat} {s : Pipeline}

@[simp] theorem size_frameOf (frameSize number : Nat) :
    (frameOf frameSize number).size = frameSize :=
  Frame.size_fill ..

theorem used_frames (frameSize : Nat) (numbers : List Nat) :
    Ring.used (numbers.map (frameOf frameSize)) =
      numbers.length * (frameSize + Ring.lengthSize) := by
  induction numbers with
  | nil => simp
  | cons k numbers ih =>
      rw [List.map_cons, Ring.used_cons, ih, size_frameOf, List.length_cons, Nat.succ_mul,
        Nat.add_comm]

/-- A frame that comes as it was filled is a good one. -/
theorem add_frameOf (h : Frame.indexSize ≤ frameSize) (t : Receive.Tally) (number : Nat) :
    t.add frameSize (frameOf frameSize number) =
      ⟨t.received + 1, t.bad, (t.sequence.observe (UInt32.ofNat number)).2⟩ := by
  have hindex := Frame.readIndex?_fill (UInt32.ofNat number) h
  have hintact := Frame.isIntact_fill (UInt32.ofNat number) h
  simp only [Receive.Tally.add, frameOf, hindex, hintact, Frame.size_fill, decide_true,
    Bool.and_true, if_true]

namespace Sound

theorem outcomes_succ (h : s.Sound r frameSize) (b : Bool) : ∃ ok : Nat → Bool,
    (if b then s.accepted ++ [s.attempts] else s.accepted) =
        (List.range (s.attempts + 1)).filter ok ∧
      (if b then s.refused else s.refused ++ [s.attempts]) =
        (List.range (s.attempts + 1)).filter (fun k => !ok k) := by
  obtain ⟨ok, haccepted, hrefused⟩ := h.outcomes
  refine ⟨fun k => if k = s.attempts then b else ok k, ?_, ?_⟩
  · rw [filter_range_succ, haccepted]
  · have hnot : (fun k => !if k = s.attempts then b else ok k) =
        fun k => if k = s.attempts then !b else !ok k := by
      funext k
      split <;> rfl
    rw [hnot, filter_range_succ, hrefused]
    cases b <;> rfl

theorem attempt (h : s.Sound r frameSize) : (s.attempt r frameSize).Sound r frameSize := by
  simp only [Pipeline.attempt, h.holds.write_eq]
  split
  · rename_i hfits
    have htake : (s.accepted ++ [s.attempts]).take s.tally.received = s.numbers :=
      List.take_append_of_le_length h.received_le
    refine ⟨h.outcomes_succ true, ?_, h.dropped, ?_, ?_, h.bad, ?_, ?_⟩
    · simp [h.written]
    · have hle := h.received_le
      simp
      omega
    · simp only [numbers, if_true, htake]
      exact h.delivered
    · simp only [numbers, if_true, htake]
      exact h.sequence
    · simp only [if_true]
      rw [List.drop_append_of_le_length h.received_le, List.map_append]
      exact h.holds.appendMessage hfits.1 hfits.2
  · refine ⟨h.outcomes_succ false, h.written, ?_, h.received_le, h.delivered, h.bad, h.sequence,
      h.holds⟩
    simp [h.dropped]

theorem poll (h : s.Sound r frameSize) (hsize : Frame.indexSize < frameSize) :
    (s.poll r frameSize).Sound r frameSize := by
  have hholds := h.holds
  cases hrest : s.accepted.drop s.tally.received with
  | nil =>
      rw [hrest] at hholds
      simp only [Pipeline.poll, hholds.read_nil, if_true]
      exact h
  | cons k rest =>
      rw [hrest, List.map_cons] at hholds
      have hnext : s.accepted[s.tally.received]? = some k := by
        rw [← List.head?_drop, hrest]
        rfl
      have hdrop : s.accepted.drop (s.tally.received + 1) = rest := by
        rw [← List.tail_drop, hrest]
        rfl
      have htake : s.accepted.take (s.tally.received + 1) = s.numbers ++ [k] := by
        rw [List.take_add_one, hnext]
        rfl
      have hpos : frameSize ≠ 0 := by omega
      have hout : (frameOf frameSize k ++
          (Array.replicate frameSize (0 : UInt8)).extract frameSize frameSize).extract 0 frameSize =
          frameOf frameSize k := by
        rw [Array.extract_append, size_frameOf]
        simp
      simp only [Pipeline.poll, hholds.read_cons, size_frameOf, Array.size_replicate,
        Nat.le_refl, if_true, if_neg hpos, hout, add_frameOf (Nat.le_of_lt hsize)]
      refine ⟨h.outcomes, h.written, h.dropped, ?_, ?_, h.bad, ?_, ?_⟩
      · exact (List.getElem?_eq_some_iff.1 hnext).1
      · simp only [numbers, htake, h.delivered, List.map_append]
        rfl
      · simp only [numbers, htake, Sequence.observeAll_append_singleton, h.sequence]
      · dsimp only
        rw [hdrop]
        have hdropped := hholds.dropMessage
        rwa [size_frameOf] at hdropped

theorem turn (h : s.Sound r frameSize) {c : Ring} (hc : c = { r with role := .consumer })
    (hsize : Frame.indexSize < frameSize) (t : Turn) :
    (s.turn r c frameSize t).Sound r frameSize := by
  cases t with
  | attempt => exact h.attempt
  | poll =>
      subst hc
      exact h.poll hsize

theorem run (h : s.Sound r frameSize) {c : Ring} (hc : c = { r with role := .consumer })
    (hsize : Frame.indexSize < frameSize) (turns : List Turn) :
    (s.run r c frameSize turns).Sound r frameSize := by
  induction turns generalizing s with
  | nil => exact h
  | cons t turns ih => exact ih (h.turn hc hsize t)

theorem start {m : Memory} (h : r.Holds m []) : (Pipeline.start m).Sound r frameSize :=
  ⟨⟨fun _ => true, rfl, rfl⟩, rfl, rfl, Nat.le_refl _, rfl, rfl, rfl, h⟩

/-- The accepted attempts come in the order of their numbers. -/
theorem increasing (h : s.Sound r frameSize) : s.accepted.Pairwise (· < ·) := by
  obtain ⟨ok, haccepted, -⟩ := h.outcomes
  rw [haccepted]
  exact List.pairwise_lt_range.filter ok

theorem attempts_eq (h : s.Sound r frameSize) : s.attempts = s.written + s.dropped := by
  obtain ⟨ok, haccepted, hrefused⟩ := h.outcomes
  have hlength := List.length_eq_countP_add_countP ok (l := List.range s.attempts)
  rw [h.written, h.dropped, haccepted, hrefused, ← List.countP_eq_length_filter,
    ← List.countP_eq_length_filter]
  simpa using hlength

/-- The frames that are still in the ring. -/
theorem written_eq (h : s.Sound r frameSize) :
    s.written = s.tally.received + r.readable s.memory / (frameSize + Ring.lengthSize) := by
  have hle := h.received_le
  have hpos : 0 < frameSize + Ring.lengthSize := Nat.add_pos_right _ (by decide)
  rw [h.written, h.holds.readable, used_frames, Nat.mul_div_cancel _ hpos, List.length_drop]
  omega

theorem numbers_isChain (h : s.Sound r frameSize)
    (hnear : s.numbers.IsChain fun a b => b ≤ a + 2 ^ 32) :
    s.numbers.IsChain Sequence.Follows := by
  have hincreasing : s.numbers.IsChain (· < ·) :=
    (h.increasing.sublist (List.take_sublist _ _)).isChain
  rw [List.isChain_iff_getElem] at hnear hincreasing ⊢
  intro i hi
  exact ⟨hincreasing i hi, hnear i hi⟩

/-- Together with the frames delivered, the missed ones are all from the first one to the last. -/
theorem length_missed (h : s.Sound r frameSize) {first : Nat} {rest : List Nat}
    (hnumbers : s.numbers = first :: rest) :
    s.missed.length + rest.length + first = rest.getLastD first := by
  obtain ⟨ok, haccepted, hrefused⟩ := h.outcomes
  have hlength : rest.length < s.tally.received := by
    have hcount := congrArg List.length hnumbers
    rw [numbers, List.length_take, List.length_cons] at hcount
    omega
  have hat (i : Nat) (hi : i ≤ rest.length) :
      ((List.range s.attempts).filter ok)[i]? = (first :: rest)[i]? := by
    rw [← haccepted, ← hnumbers, numbers, List.getElem?_take_of_lt (by omega)]
  have hlast : (first :: rest)[rest.length]? = some (rest.getLastD first) := by
    rw [List.getLastD_eq_getLast?, ← List.getLast?_cons, List.getLast?_eq_getElem?]
    rfl
  have hbetween := length_between (Nat.zero_le rest.length)
    (hat 0 (Nat.zero_le _)) ((hat rest.length (Nat.le_refl _)).trans hlast)
  rwa [missed, hrefused, hnumbers, List.headD_cons, List.getLastD_cons]

theorem gaps (h : s.Sound r frameSize)
    (hnear : s.numbers.IsChain fun a b => b ≤ a + 2 ^ 32) :
    s.tally.sequence.gaps = s.missed.length % 2 ^ 64 := by
  have hchain := h.numbers_isChain hnear
  rw [h.sequence, ← Sequence.after_map_ofNat, Sequence.gaps_after_start]
  cases hnumbers : s.numbers with
  | nil => simp [missed, hnumbers, Sequence.totalSkipped]
  | cons first rest =>
      rw [hnumbers] at hchain
      have htotal := Sequence.totalSkipped_start hchain
      have hmissed := h.length_missed hnumbers
      congr 1
      omega

theorem length_missed_le (h : s.Sound r frameSize) : s.missed.length ≤ s.attempts - 1 := by
  cases hnumbers : s.numbers with
  | nil => simp [missed, hnumbers]
  | cons first rest =>
      -- the first frame delivered was attempted and not refused
      have hle : s.missed.length ≤ s.refused.length := List.length_filter_le ..
      have hpos : 0 < s.accepted.length := by
        have hcount := congrArg List.length hnumbers
        rw [numbers, List.length_take, List.length_cons] at hcount
        omega
      have hattempts := h.attempts_eq
      rw [h.written, h.dropped] at hattempts
      omega

end Sound

structure Conserves (r : Ring) (frameSize : Nat) (s : Pipeline) : Prop where
  attempts : s.attempts = s.written + s.dropped
  counted : s.written = s.accepted.length ∧ s.dropped = s.refused.length
  /-- What was written was received, or is still in the ring. -/
  written : s.written = s.tally.received + r.readable s.memory / (frameSize + Ring.lengthSize)
  increasing : s.accepted.Pairwise (· < ·)
  received : s.tally.received = s.delivered.length
  /-- The frames delivered are those of the oldest attempts that were written, one for one. -/
  delivered : ∀ (i : Nat) (frame : Bytes), s.delivered[i]? = some frame →
    ∃ k, s.accepted[i]? = some k ∧ frame = frameOf frameSize k ∧ frame.size = frameSize ∧
      Frame.readIndex? frame = some (UInt32.ofNat k) ∧
      Frame.isIntact frame (UInt32.ofNat k) = true
  bad : s.tally.bad = 0
  /-- The gaps are the refused attempts between the first frame delivered and the last. -/
  gaps : s.numbers.IsChain (fun a b => b ≤ a + 2 ^ 32) →
    s.tally.sequence.gaps = s.missed.length % 2 ^ 64
  /-- As long as 64 bits can number the attempts, none of them is lost. -/
  gaps_eq : s.numbers.IsChain (fun a b => b ≤ a + 2 ^ 32) → s.attempts ≤ 2 ^ 64 →
    s.tally.sequence.gaps = s.missed.length

theorem Sound.conserves (h : s.Sound r frameSize) (hsize : Frame.indexSize ≤ frameSize) :
    s.Conserves r frameSize where
  attempts := h.attempts_eq
  counted := ⟨h.written, h.dropped⟩
  written := h.written_eq
  increasing := h.increasing
  received := by
    have hle := h.received_le
    rw [h.delivered, List.length_map, numbers, List.length_take]
    omega
  delivered i frame hframe := by
    rw [h.delivered, List.getElem?_map, Option.map_eq_some_iff] at hframe
    obtain ⟨k, hk, rfl⟩ := hframe
    refine ⟨k, ?_, rfl, size_frameOf _ _, Frame.readIndex?_fill _ hsize,
      Frame.isIntact_fill _ hsize⟩
    rw [numbers, List.getElem?_take] at hk
    split at hk
    · exact hk
    · cases hk
  bad := h.bad
  gaps := h.gaps
  gaps_eq hnear hattempts := by
    have hle := h.length_missed_le
    rw [h.gaps hnear, Nat.mod_eq_of_lt (by omega)]

end Pipeline

/-- Whatever turns the two ends of a freshly bound ring take, the frames, the counts and the gaps
are in order after each of them. -/
theorem conserves_run {m m₁ m₂ : Memory} {base len len' frameSize : Nat} {p c : Ring}
    (hp : Ring.bind m (some base) len .producer = .ok (p, m₁))
    (hc : Ring.bind m₁ (some base) len' .consumer = .ok (c, m₂))
    (hsize : Frame.indexSize < frameSize) (turns : List Turn) :
    ((Pipeline.start m₂).run p c frameSize turns).Conserves p frameSize := by
  obtain ⟨-, hcons, hbase, hm₂, hm₁⟩ := Ring.eq_of_bind hp hc
  have hholds : p.Holds m₂ [] := by
    rw [hm₂, hm₁, ← hbase]
    exact Ring.holds_publish p m p.capacity.word
  exact ((Pipeline.Sound.start hholds).run hcons hsize turns).conserves (Nat.le_of_lt hsize)

/-- A ring of 32 bytes has room for three frames of five bytes. Of seven attempts the fourth, the
fifth and the last are refused, and the receiver misses two of them when it has had all the rest. -/
theorem conserves_run_full :
    let p : Ring := ⟨64, ⟨5, by decide, by decide⟩, .producer⟩
    let c : Ring := ⟨64, ⟨5, by decide, by decide⟩, .consumer⟩
    let m := Header.publish .zeroed 64 32
    let s := (Pipeline.start m).run p c 5
      [.attempt, .attempt, .attempt, .attempt, .attempt, .poll, .attempt, .attempt, .poll, .poll,
        .poll, .poll]
    Ring.bind .zeroed (some 64) 48 .producer = .ok (p, m) ∧
      Ring.bind m (some 64) 48 .consumer = .ok (c, m) ∧ Frame.indexSize < 5 ∧
      s.accepted = [0, 1, 2, 5] ∧ s.refused = [3, 4, 6] ∧ s.tally.sequence.gaps = 2 ∧
      s.Conserves p 5 := by
  intro p c m s
  have hp : Ring.bind .zeroed (some 64) 48 .producer = .ok (p, m) := rfl
  have hc : Ring.bind m (some 64) 48 .consumer = .ok (c, m) :=
    Ring.bind_consumer (c := c.capacity) rfl (Ring.word_publish .zeroed 64 32).2.2.1
  exact ⟨hp, hc, by decide, by decide +kernel, by decide +kernel, by decide +kernel,
    conserves_run hp hc (by decide) _⟩

end SharedRing.Video
