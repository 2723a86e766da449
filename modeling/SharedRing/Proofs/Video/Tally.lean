import SharedRing.Proofs.Video.Sequence
import SharedRing.Video.Receive

/-!
What a receiver counts. Every message that arrives is received; it is good if it has the size of a
frame and its last byte is the one that its index asks for (`Frame.IsGood`), and bad otherwise. The
gaps are those of the good frames, one after another (`Sequence.after`).

Frames are taken to be longer than their index, as those of valid settings are, so the check for
frames without any byte behind the index plays no part.
-/

namespace SharedRing.Video

/-! ### Frames -/

namespace Frame

def stampedIndex (msg : Bytes) : UInt32 :=
  wordOfBytes (msg.getD 0 0) (msg.getD 1 0) (msg.getD 2 0) (msg.getD 3 0)

/-- A message of exactly `size` bytes, the last of which is the low byte of its index. -/
def IsGood (size : Nat) (msg : Bytes) : Prop :=
  msg.size = size ∧ msg.back? = some (lowByte (stampedIndex msg))

instance (size : Nat) (msg : Bytes) : Decidable (IsGood size msg) :=
  inferInstanceAs (Decidable (_ ∧ _))

variable {size : Nat} {msg : Bytes}

theorem readIndex?_eq (h : indexSize ≤ msg.size) : readIndex? msg = some (stampedIndex msg) := by
  have hbyte (i : Nat) (hi : i < msg.size) : msg.getD i 0 = msg[i] := by
    rw [Array.getD_eq_getD_getElem?, Array.getElem?_eq_getElem hi, Option.getD_some]
  have hsize : 4 ≤ msg.size := h
  rw [readIndex?, dif_pos hsize, stampedIndex, hbyte 0, hbyte 1, hbyte 2, hbyte 3]

theorem isIntact_iff (h : indexSize < msg.size) (index : UInt32) :
    isIntact msg index = true ↔ msg.back? = some (lowByte index) := by
  rw [isIntact, if_neg (Nat.not_le_of_lt h), decide_eq_true_iff]

end Frame

/-! ### Counting -/

namespace Receive.Tally

def addAll (t : Tally) (frameSize : Nat) (msgs : List Bytes) : Tally :=
  msgs.foldl (fun t msg => t.add frameSize msg) t

variable {t : Tally} {frameSize : Nat} {msg : Bytes} {msgs : List Bytes}

@[simp] theorem addAll_cons (t : Tally) (frameSize : Nat) (msg : Bytes) (msgs : List Bytes) :
    t.addAll frameSize (msg :: msgs) = (t.add frameSize msg).addAll frameSize msgs := rfl

theorem add_of_good (hsize : Frame.indexSize < frameSize) (h : Frame.IsGood frameSize msg) :
    t.add frameSize msg =
      ⟨t.received + 1, t.bad, (t.sequence.observe (Frame.stampedIndex msg)).2⟩ := by
  obtain ⟨rfl, hlast⟩ := h
  have hintact := (Frame.isIntact_iff hsize _).2 hlast
  simp only [add, Frame.readIndex?_eq (Nat.le_of_lt hsize), hintact, decide_true, Bool.and_true,
    if_true]

theorem add_of_bad (hsize : Frame.indexSize < frameSize) (h : ¬Frame.IsGood frameSize msg) :
    t.add frameSize msg = ⟨t.received + 1, t.bad + 1, t.sequence⟩ := by
  rw [add]
  split
  · rename_i index hindex
    rw [if_neg]
    rw [Bool.and_eq_true, decide_eq_true_iff]
    rintro ⟨rfl, hintact⟩
    rw [Frame.readIndex?_eq (Nat.le_of_lt hsize), Option.some.injEq] at hindex
    rw [← hindex] at hintact
    exact h ⟨rfl, (Frame.isIntact_iff hsize _).1 hintact⟩
  · rfl

@[simp] theorem received_add : (t.add frameSize msg).received = t.received + 1 := by
  rw [add]
  split
  · split <;> rfl
  · rfl

theorem received_addAll : (t.addAll frameSize msgs).received = t.received + msgs.length := by
  induction msgs generalizing t with
  | nil => rfl
  | cons msg msgs ih =>
      rw [addAll_cons, ih, received_add, List.length_cons]
      omega

theorem bad_addAll (hsize : Frame.indexSize < frameSize) :
    (t.addAll frameSize msgs).bad =
      t.bad + msgs.countP (fun msg => ¬Frame.IsGood frameSize msg) := by
  induction msgs generalizing t with
  | nil => rfl
  | cons msg msgs ih =>
      rw [addAll_cons, ih]
      by_cases h : Frame.IsGood frameSize msg
      · rw [add_of_good hsize h, List.countP_cons_of_neg (by simpa using h)]
      · rw [add_of_bad hsize h, List.countP_cons_of_pos (by simpa using h)]
        dsimp only
        omega

/-- The good frames are taken note of; bad ones are passed over. -/
theorem sequence_addAll (hsize : Frame.indexSize < frameSize) :
    (t.addAll frameSize msgs).sequence =
      t.sequence.after
        ((msgs.filter fun msg => Frame.IsGood frameSize msg).map Frame.stampedIndex) := by
  induction msgs generalizing t with
  | nil => rfl
  | cons msg msgs ih =>
      rw [addAll_cons, ih]
      by_cases h : Frame.IsGood frameSize msg
      · rw [add_of_good hsize h, List.filter_cons_of_pos (by simpa using h), List.map_cons]
        rfl
      · rw [add_of_bad hsize h, List.filter_cons_of_neg (by simpa using h)]

/-! ### Messages that are too long -/

/-- Counts a message that is no longer than a frame; a longer one is not delivered. -/
def offer (t : Tally) (frameSize : Nat) (msg : Bytes) : Tally :=
  if msg.size ≤ frameSize then t.add frameSize msg else t

theorem offer_of_lt (h : frameSize < msg.size) : t.offer frameSize msg = t :=
  if_neg (Nat.not_le_of_lt h)

theorem received_offer_le (t : Tally) (frameSize : Nat) (msg : Bytes) :
    (t.offer frameSize msg).received ≤ t.received + 1 := by
  rw [offer]
  split
  · exact Nat.le_of_eq received_add
  · exact Nat.le_succ _

/-- A message is counted now or with those behind it. -/
theorem received_offer_add (t : Tally) (frameSize : Nat) (msg : Bytes) (msgs : List Bytes) :
    (t.offer frameSize msg).received + msgs.countP (fun msg => msg.size ≤ frameSize) =
      t.received + (msg :: msgs).countP (fun msg => msg.size ≤ frameSize) := by
  rw [offer, List.countP_cons]
  by_cases h : msg.size ≤ frameSize
  · simp only [h, if_true, decide_true, received_add]
    omega
  · simp only [h, if_false, decide_false, Bool.false_eq_true, Nat.add_zero]

theorem addAll_filter_cons (t : Tally) (frameSize : Nat) (msg : Bytes) (msgs : List Bytes) :
    t.addAll frameSize ((msg :: msgs).filter fun msg => msg.size ≤ frameSize) =
      (t.offer frameSize msg).addAll frameSize
        (msgs.filter fun msg => msg.size ≤ frameSize) := by
  rw [offer]
  by_cases h : msg.size ≤ frameSize
  · rw [if_pos h, List.filter_cons_of_pos (by simpa using h), addAll_cons]
  · rw [if_neg h, List.filter_cons_of_neg (by simpa using h)]

end Receive.Tally

end SharedRing.Video
