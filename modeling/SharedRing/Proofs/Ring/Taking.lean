import SharedRing.Proofs.Ring.Locality

/-!
What is taken from a memory that may hold anything. The two cursors and the four bytes at the tail
decide whether there is a message (`Deliverable`). If there is none, nothing happens. If there is
one, the tail moves behind it and no other byte changes (`Passes`), whether the message is copied
into a buffer, dropped because the buffer is too short for it, or handed over as a byte string of
its own. The two ways of reading differ in their answers only (`Agree`).
-/

namespace SharedRing

namespace Ring

variable {r : Ring} {m m' : Memory} {out msg : Bytes} {n : Nat}

/-! ### The message at the tail -/

theorem getElem?_copyOut {pos : UInt32} {i : Nat} (hn : n ≤ r.capacity.size) (hi : i < n) :
    (r.copyOut m pos n)[i]? = some (r.byteAt m (pos.toNat + i)) := by
  rw [← Array.getElem?_toList, toList_copyOut hn, List.getElem?_eq_getElem (by simpa using hi),
    stream_getElem]

/-- The word in the four places of the data area from the tail on, which may go round its end. -/
def lengthWord (r : Ring) (m : Memory) : UInt32 :=
  let tail := (r.tail m).toNat
  wordOfBytes (r.byteAt m tail) (r.byteAt m (tail + 1)) (r.byteAt m (tail + 2))
    (r.byteAt m (tail + 3))

theorem lengthAtTail_eq_toNat (r : Ring) (m : Memory) :
    r.lengthAtTail m = (r.lengthWord m).toNat := by
  have hfield : lengthSize ≤ r.capacity.size := Nat.le_trans (by decide) r.capacity.eight_le_size
  have hbyte (i : Nat) (hi : i < lengthSize) :
      (r.copyOut m (r.tail m) lengthSize).getD i 0 = r.byteAt m ((r.tail m).toNat + i) := by
    rw [Array.getD_eq_getD_getElem?, getElem?_copyOut hfield hi, Option.getD_some]
  simp only [lengthAtTail, lengthWord]
  rw [hbyte 0 (by decide), hbyte 1 (by decide), hbyte 2 (by decide), hbyte 3 (by decide)]
  rfl

/-- The length at the tail is that of a message which is all there. It is not zero, and with its
own four bytes it is no more than what is unread and than what the data area can hold. -/
structure Deliverable (r : Ring) (m : Memory) : Prop where
  field : lengthSize ≤ r.readable m
  pos : 0 < (r.lengthWord m).toNat
  complete : (r.lengthWord m).toNat + lengthSize ≤ r.readable m
  fits : (r.lengthWord m).toNat + lengthSize ≤ r.capacity.size

instance (r : Ring) (m : Memory) : Decidable (r.Deliverable m) :=
  decidable_of_iff
    (lengthSize ≤ r.readable m ∧ 0 < (r.lengthWord m).toNat ∧
      (r.lengthWord m).toNat + lengthSize ≤ r.readable m ∧
      (r.lengthWord m).toNat + lengthSize ≤ r.capacity.size)
    ⟨fun ⟨h₁, h₂, h₃, h₄⟩ => ⟨h₁, h₂, h₃, h₄⟩, fun ⟨h₁, h₂, h₃, h₄⟩ => ⟨h₁, h₂, h₃, h₄⟩⟩

theorem Deliverable.nextLength? (h : r.Deliverable m) :
    r.nextLength? m = some (r.lengthWord m).toNat := by
  obtain ⟨hfield, hpos, hcomplete, hfits⟩ := h
  simp only [Ring.nextLength?, lengthAtTail_eq_toNat]
  rw [if_neg (by omega), if_neg]
  simp only [Bool.or_eq_true, decide_eq_true_eq]
  omega

theorem nextLength?_of_not_deliverable (h : ¬r.Deliverable m) : r.nextLength? m = none := by
  simp only [Ring.nextLength?, lengthAtTail_eq_toNat]
  split
  · rfl
  · rename_i hfield
    rw [if_pos]
    simp only [Bool.or_eq_true, decide_eq_true_eq]
    apply Decidable.byContradiction
    intro hchecks
    exact h ⟨by omega, by omega, by omega, by omega⟩

/-! ### Moving the tail -/

structure Passes (r : Ring) (m m' : Memory) (n : Nat) : Prop where
  tail : (r.tail m').toNat = ((r.tail m).toNat + lengthSize + n) % UInt32.size
  others : ∀ a, a < Header.tailAt r.base ∨ Header.tailAt r.base + 4 ≤ a → m'.byte a = m.byte a

theorem passes_dropMessage (r : Ring) (m : Memory) (n : Nat) :
    r.Passes m (r.dropMessage m n) n where
  tail := by
    rw [dropMessage, tail_setTail, toNat_skip, Nat.add_right_comm]
    rfl
  others _ ha := byte_setTail_of_outside ha

/-- A tail that has passed a message of the data area is not where it was. -/
theorem Passes.tail_ne (h : r.Passes m m' n) (hn : n + lengthSize ≤ r.capacity.size) :
    r.tail m' ≠ r.tail m := by
  intro hsame
  have htail := h.tail
  have hlt := (r.tail m).toNat_lt
  have hcap := r.capacity.size_le
  rw [hsame] at htail
  simp only [lengthSize, UInt32.size] at htail hn
  omega

/-! ### The two ways of reading -/

theorem read_of_not_deliverable (h : ¬r.Deliverable m) (out : Bytes) :
    r.read m out = ⟨0, out, m⟩ := by
  simp only [read, nextLength?_of_not_deliverable h]

theorem readMessage_of_not_deliverable (h : ¬r.Deliverable m) : r.readMessage m = (none, m) := by
  simp only [readMessage, nextLength?_of_not_deliverable h]

namespace Deliverable

theorem readMessage (h : r.Deliverable m) :
    r.readMessage m =
      (some (r.messageAtTail m (r.lengthWord m).toNat),
        r.dropMessage m (r.lengthWord m).toNat) := by
  simp only [Ring.readMessage, h.nextLength?]

theorem read_of_le (h : r.Deliverable m) (hout : (r.lengthWord m).toNat ≤ out.size) :
    r.read m out =
      ⟨(r.lengthWord m).toNat,
        r.messageAtTail m (r.lengthWord m).toNat ++
          out.extract (r.lengthWord m).toNat out.size,
        r.dropMessage m (r.lengthWord m).toNat⟩ := by
  simp only [Ring.read, h.nextLength?]
  rw [if_neg (Nat.not_lt_of_le hout)]

theorem read_of_lt (h : r.Deliverable m) (hout : out.size < (r.lengthWord m).toNat) :
    r.read m out = ⟨0, out, r.dropMessage m (r.lengthWord m).toNat⟩ := by
  simp only [Ring.read, h.nextLength?]
  rw [if_pos hout]

end Deliverable

@[simp] theorem size_messageAtTail : (r.messageAtTail m n).size = n := size_copyOut ..

/-- What is copied to the front of a buffer is the stream behind the length; the rest stays. -/
theorem getElem?_messageAtTail_append (hn : n ≤ r.capacity.size) (i : Nat) :
    (r.messageAtTail m n ++ out.extract n out.size)[i]? =
      if i < n then some (r.byteAt m ((r.tail m).toNat + lengthSize + i)) else out[i]? := by
  rw [Array.getElem?_append, size_messageAtTail]
  split
  · rename_i hi
    rw [messageAtTail, getElem?_copyOut hn hi, byteAt_add_ofNat]
  · rw [Array.getElem?_extract]
    split
    · rw [Nat.add_sub_cancel' (by omega)]
    · rw [Array.getElem?_eq_none (by omega)]

structure Agree (r : Ring) (m : Memory) (out : Bytes) : Prop where
  memory : (r.readMessage m).2 = (r.read m out).memory
  /-- At most the tail has changed. -/
  others : ∀ a, a < Header.tailAt r.base ∨ Header.tailAt r.base + 4 ≤ a →
    (r.read m out).memory.byte a = m.byte a
  /-- There was no message if and only if the tail is where it was. -/
  none_iff : (r.readMessage m).1 = none ↔ r.tail (r.read m out).memory = r.tail m
  none : (r.readMessage m).1 = none → (r.read m out).length = 0 ∧ (r.read m out).out = out
  /-- A message is delivered into every buffer that is long enough for it, and into no other. -/
  some_iff : ∀ msg, (r.readMessage m).1 = some msg →
    (msg.size ≤ out.size ↔
      (r.read m out).length = msg.size ∧ (r.read m out).out.extract 0 msg.size = msg)
  dropped : ∀ msg, (r.readMessage m).1 = some msg → out.size < msg.size →
    (r.read m out).length = 0 ∧ (r.read m out).out = out

theorem agree_of_not_deliverable (h : ¬r.Deliverable m) (out : Bytes) : r.Agree m out := by
  have hread := read_of_not_deliverable h out
  have hmessage := readMessage_of_not_deliverable h
  constructor <;> simp [hread, hmessage]

theorem Deliverable.agree (h : r.Deliverable m) (out : Bytes) : r.Agree m out := by
  have hmemory : (r.read m out).memory = r.dropMessage m (r.lengthWord m).toNat := by
    rw [read_memory, h.nextLength?]
  have hmessage := h.readMessage
  have hpasses := r.passes_dropMessage m (r.lengthWord m).toNat
  refine ⟨?_, ?_, ?_, ?_, ?_, ?_⟩
  · rw [hmemory, hmessage]
  · rw [hmemory]
    exact hpasses.others
  · rw [hmemory, hmessage]
    exact iff_of_false (Option.some_ne_none _) (hpasses.tail_ne h.fits)
  · rw [hmessage]
    rintro ⟨⟩
  · rw [hmessage]
    rintro _ ⟨⟩
    rw [size_messageAtTail]
    constructor
    · intro hout
      rw [h.read_of_le hout]
      refine ⟨rfl, ?_⟩
      have hfront (xs ys : Bytes) : (xs ++ ys).extract 0 xs.size = xs := by
        rw [Array.extract_append_left, Array.extract_size]
      have hmsg := hfront (r.messageAtTail m (r.lengthWord m).toNat)
        (out.extract (r.lengthWord m).toNat out.size)
      rwa [size_messageAtTail] at hmsg
    · rintro ⟨hlength, -⟩
      apply Nat.le_of_not_lt
      intro hout
      rw [h.read_of_lt hout] at hlength
      exact Nat.ne_of_lt h.pos hlength
  · rw [hmessage]
    rintro _ ⟨⟩ hout
    rw [size_messageAtTail] at hout
    rw [h.read_of_lt hout]
    exact ⟨rfl, rfl⟩

theorem agree (r : Ring) (m : Memory) (out : Bytes) : r.Agree m out := by
  by_cases h : r.Deliverable m
  · exact h.agree out
  · exact agree_of_not_deliverable h out

end Ring

/-- A read from any memory. The unread bytes are counted modulo `2 ^ 32`. Without a message that
can be delivered, neither the buffer nor any byte of the memory changes. One that fits the buffer is
copied to its front, byte by byte from behind its length and around the data area, and one that does
not leaves the buffer as it was; in both cases the tail moves behind it, and nothing else does. -/
theorem read_outcome (r : Ring) (m : Memory) (out : Bytes) :
    let n := (r.lengthWord m).toNat
    let res := r.read m out
    r.readable m = ((r.head m).toNat + UInt32.size - (r.tail m).toNat) % UInt32.size ∧
      (¬r.Deliverable m → res.length = 0 ∧ res.out = out ∧ res.memory = m) ∧
      (r.Deliverable m → n ≤ out.size →
        res.length = n ∧
          (∀ i, res.out[i]? =
            if i < n then some (r.byteAt m ((r.tail m).toNat + Ring.lengthSize + i))
            else out[i]?) ∧
          r.Passes m res.memory n) ∧
      (r.Deliverable m → out.size < n →
        res.length = 0 ∧ res.out = out ∧ r.Passes m res.memory n) := by
  intro n res
  refine ⟨?_, ?_, ?_, ?_⟩
  · have htail := (r.tail m).toNat_lt
    rw [Ring.readable, UInt32.toNat_sub]
    simp only [UInt32.size]
    omega
  · intro h
    dsimp only [res]
    rw [Ring.read_of_not_deliverable h]
    exact ⟨rfl, rfl, rfl⟩
  · intro h hout
    have hfits := h.fits
    dsimp only [res]
    rw [h.read_of_le hout]
    exact ⟨rfl, Ring.getElem?_messageAtTail_append (by omega), Ring.passes_dropMessage ..⟩
  · intro h hout
    dsimp only [res]
    rw [h.read_of_lt hout]
    exact ⟨rfl, rfl, Ring.passes_dropMessage ..⟩

/-- The end of the data area cuts the length of a message, and the tail is about to pass `2 ^ 32`.
A buffer of four bytes takes the message, which one of two bytes is too short for. A length of
`2 ^ 32 - 1` would be three if its own four bytes were added to it modulo `2 ^ 32`; nothing is
delivered. -/
theorem read_outcome_straddling :
    let r : Ring := ⟨64, ⟨3, by decide, by decide⟩, .consumer⟩
    let fresh := r.setTail (r.setHead (Header.publish .zeroed 64 8) 6) 4294967294
    let m := (fresh.store 80 #[0, 0, 7, 8, 9]).store 86 #[3, 0]
    let m' := (fresh.store 80 #[255, 255]).store 86 #[255, 255]
    r.readable m = 8 ∧ r.Deliverable m ∧
      (r.read m #[1, 1, 1, 1]).length = 3 ∧ (r.read m #[1, 1, 1, 1]).out = #[7, 8, 9, 1] ∧
      r.Passes m (r.read m #[1, 1, 1, 1]).memory 3 ∧
      (r.read m #[1, 1]).out = #[1, 1] ∧ r.Passes m (r.read m #[1, 1]).memory 3 ∧
      ¬r.Deliverable m' ∧ (r.read m' #[1, 1, 1, 1]).memory = m' := by
  intro r fresh m m'
  have hn : (r.lengthWord m).toNat = 3 := by decide +kernel
  have hm : r.Deliverable m := by decide +kernel
  have hm' : ¬r.Deliverable m' := by decide +kernel
  obtain ⟨-, -, hfits, -⟩ := read_outcome r m #[1, 1, 1, 1]
  obtain ⟨-, -, -, hlong⟩ := read_outcome r m #[1, 1]
  obtain ⟨-, hnone, -⟩ := read_outcome r m' #[1, 1, 1, 1]
  rw [hn] at hfits hlong
  obtain ⟨hlength, -, hpasses⟩ := hfits hm (by decide)
  obtain ⟨-, hout, hpasses'⟩ := hlong hm (by decide)
  obtain ⟨-, -, hmemory⟩ := hnone hm'
  exact ⟨by decide +kernel, hm, hlength, by decide +kernel, hpasses, hout, hpasses', hm', hmemory⟩

end SharedRing
