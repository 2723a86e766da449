import SharedRing.Proofs.Ring.Bind

/-!
The bytes that a peer finds in a span. `decode` reads frames off a stream of bytes, knowing
nothing of bindings or of what was written: a length of four bytes, then as many bytes as it says,
until it stands at the end. `WireFormat` states what the header's words say and what the decoder
finds between the cursors, and it holds after every run of transfers.

A run keeps the messages that were accepted and those that were taken out again, and the cursors
are their total sizes, counted from where both cursors stood at first.
-/

namespace SharedRing

open SharedRing.Ring

/-- Reads frames off a stream from one cursor on, and ends where the other one stands. -/
def decode (bytes : Nat → UInt8) (pos stop : Nat) : Option (List Bytes) :=
  if pos = stop then some []
  else
    let n := (wordOfBytes (bytes pos) (bytes (pos + 1)) (bytes (pos + 2)) (bytes (pos + 3))).toNat
    if stop < pos + (4 + n) then none
    else
      (decode bytes (pos + (4 + n)) stop).map (((List.range' (pos + 4) n).map bytes).toArray :: ·)
termination_by stop - pos

theorem decode_self (bytes : Nat → UInt8) (pos : Nat) : decode bytes pos pos = some [] := by
  rw [decode, if_pos rfl]

/-- One frame in front of what the rest decodes to. -/
theorem decode_frame {bytes : Nat → UInt8} {pos stop : Nat} {msg : Bytes}
    (hmsg : msg.size < 2 ^ 32) (hstop : pos + (4 + msg.size) ≤ stop)
    (hframe : (List.range' pos (4 + msg.size)).map bytes = (frame msg).toList) :
    decode bytes pos stop = (decode bytes (pos + (4 + msg.size)) stop).map (msg :: ·) := by
  rw [← List.range'_append_1, List.map_append, frame, Array.toList_append] at hframe
  obtain ⟨hfield, hbody⟩ := List.append_inj hframe (by simp)
  have hword : (wordOfBytes (bytes pos) (bytes (pos + 1)) (bytes (pos + 2))
      (bytes (pos + 3))).toNat = msg.size := by
    simp only [List.range'_succ, List.range'_zero, List.map_cons, List.map_nil, bytesOfWord,
      List.cons.injEq, and_true, Nat.add_assoc, Nat.reduceAdd] at hfield
    obtain ⟨h₀, h₁, h₂, h₃⟩ := hfield
    rw [h₀, h₁, h₂, h₃]
    refine (congrArg UInt32.toNat (wordOfBytes_bytesOfWord (UInt32.ofNat msg.size))).trans ?_
    rw [UInt32.toNat_ofNat', Nat.mod_eq_of_lt hmsg]
  rw [decode, if_neg (by omega)]
  simp only [hword, hbody]
  rw [if_neg (by omega)]

/-- The frames of a list of messages decode to the list. -/
theorem decode_frames {bytes : Nat → UInt8} {pos : Nat} {q : List Bytes}
    (hmsg : ∀ msg ∈ q, msg.size < 2 ^ 32)
    (hbytes : (List.range' pos (used q)).map bytes = frames q) :
    decode bytes pos (pos + used q) = some q := by
  induction q generalizing pos with
  | nil => exact decode_self bytes pos
  | cons msg q ih =>
      have hused : used (msg :: q) = 4 + msg.size + used q := by
        rw [used_cons, lengthSize, Nat.add_comm 4]
      rw [hused, ← List.range'_append_1, List.map_append, frames_cons] at hbytes
      obtain ⟨hframe, hrest⟩ := List.append_inj hbytes (by simp [lengthSize, Nat.add_comm])
      have hstop : pos + used (msg :: q) = pos + (4 + msg.size) + used q := by omega
      rw [hstop, decode_frame (hmsg msg (by simp)) (by omega) hframe,
        ih (fun x hx => hmsg x (List.mem_cons_of_mem _ hx)) hrest]
      rfl

/-! ### Runs -/

inductive Transfer where
  | write (msg : Bytes)
  | read (out : Bytes)
  | readMessage

structure Traffic where
  memory : Memory
  /-- What the producer's writes accepted, the oldest first. -/
  accepted : List Bytes
  /-- What the consumer's reads took out, delivered or dropped, the oldest first. -/
  consumed : List Bytes

namespace Traffic

def step (p c : Ring) (t : Traffic) : Transfer → Traffic
  | .write msg =>
      let (ok, m) := p.write t.memory msg
      { t with memory := m, accepted := if ok then t.accepted ++ [msg] else t.accepted }
  | .read out =>
      { t with
        memory := (c.read t.memory out).memory
        consumed := t.consumed ++ c.taken t.memory out }
  | .readMessage =>
      let (msg?, m) := c.readMessage t.memory
      { t with memory := m, consumed := t.consumed ++ msg?.toList }

def run (p c : Ring) (t : Traffic) (transfers : List Transfer) : Traffic :=
  transfers.foldl (step p c) t

end Traffic

/-- What a peer that knows nothing but the layout finds in the span at `base`: the header's words,
and the messages that were accepted and not yet consumed. -/
structure WireFormat (base size start : Nat) (t : Traffic) : Prop where
  head : (t.memory.word base).toNat = (start + used t.accepted) % 2 ^ 32
  tail : (t.memory.word (base + 4)).toNat = (start + used t.consumed) % 2 ^ 32
  capacity : (t.memory.word (base + 8)).toNat = size
  reserved : t.memory.word (base + 12) = 0
  distance : (t.memory.word base - t.memory.word (base + 4)).toNat ≤ size
  decoded : ∃ pending, t.accepted = t.consumed ++ pending ∧
    decode (fun k => t.memory.byte (base + 16 + k % size))
      (t.memory.word (base + 4)).toNat
      ((t.memory.word (base + 4)).toNat +
        (t.memory.word base - t.memory.word (base + 4)).toNat) = some pending

structure Traffic.Sound (r : Ring) (start : Nat) (t : Traffic) : Prop where
  head : (r.head t.memory).toNat = (start + used t.accepted) % 2 ^ 32
  tail : (r.tail t.memory).toNat = (start + used t.consumed) % 2 ^ 32
  capacity : t.memory.word (Header.capacityAt r.base) = r.capacity.word
  reserved : t.memory.word (Header.reservedAt r.base) = 0
  pending : ∃ q, t.accepted = t.consumed ++ q ∧ r.Holds t.memory q

namespace Traffic.Sound

variable {p : Ring} {start : Nat} {t : Traffic}

theorem wireFormat (h : t.Sound p start) : WireFormat p.base p.capacity.size start t where
  head := h.head
  tail := h.tail
  capacity := by rw [← p.capacity.word_toNat, ← h.capacity]; rfl
  reserved := h.reserved
  distance := by
    obtain ⟨q, -, hholds⟩ := h.pending
    exact Nat.le_trans (Nat.le_of_eq hholds.readable) hholds.used_le
  decoded := by
    obtain ⟨q, haccepted, hholds⟩ := h.pending
    have hsize (msg : Bytes) (hmsg : msg ∈ q) : msg.size < 2 ^ 32 := by
      have hle := le_used hmsg
      have hused := hholds.used_le
      have hcap := p.capacity.size_le
      omega
    have hbytes := hholds.unread
    rw [unread, hholds.readable] at hbytes
    refine ⟨q, haccepted, ?_⟩
    have hdecode := decode_frames hsize hbytes
    rw [← hholds.readable] at hdecode
    exact hdecode

theorem write (h : t.Sound p start) (c : Ring) (msg : Bytes) :
    (t.step p c (.write msg)).Sound p start := by
  obtain ⟨q, haccepted, hholds⟩ := h.pending
  simp only [step, hholds.write_eq]
  split
  · rename_i hfits
    have hsize : msg.size + lengthSize ≤ p.capacity.size := by omega
    exact {
      head := by
        rw [head_appendMessage, toNat_skip, h.head]
        simp only [if_true, used_append, used_cons, used_nil]
        omega
      tail := by rw [tail_appendMessage hsize]; exact h.tail
      capacity := by
        rw [word_appendMessage hsize (by simp [Header.capacityAt])
          (by simp [Header.capacityAt, data, Header.size])]
        exact h.capacity
      reserved := by
        rw [word_appendMessage hsize (by simp [Header.reservedAt])
          (by simp [Header.reservedAt, data, Header.size])]
        exact h.reserved
      pending := ⟨q ++ [msg], by simp [haccepted], hholds.appendMessage hfits.1 hfits.2⟩ }
  · exact ⟨h.head, h.tail, h.capacity, h.reserved, q, haccepted, hholds⟩

/-- Taking the next message out, in either way of reading. -/
theorem consume (h : t.Sound p start) {msg : Bytes} {q : List Bytes}
    (haccepted : t.accepted = t.consumed ++ msg :: q) (hholds : p.Holds t.memory (msg :: q)) :
    ({ t with memory := p.dropMessage t.memory msg.size, consumed := t.consumed ++ [msg] } :
      Traffic).Sound p start where
  head := by rw [Ring.dropMessage, head_setTail]; exact h.head
  tail := by
    simp only [Ring.dropMessage, tail_setTail, toNat_skip, h.tail, used_append, used_cons, used_nil]
    omega
  capacity := by
    rw [Ring.dropMessage, word_setTail (by simp [Header.capacityAt])]
    exact h.capacity
  reserved := by
    rw [Ring.dropMessage, word_setTail (by simp [Header.reservedAt])]
    exact h.reserved
  pending := ⟨q, by simp [haccepted], hholds.dropMessage⟩

theorem read (h : t.Sound p start) {c : Ring} (hc : c = { p with role := .consumer })
    (out : Bytes) : (t.step p c (.read out)).Sound p start := by
  obtain ⟨q, haccepted, hholds⟩ := h.pending
  have hview : c.Holds t.memory q := hholds.of_eq (by rw [hc]) (by rw [hc])
  cases q with
  | nil =>
      simp only [step, hview.read_nil, hview.taken_nil, List.append_nil]
      exact h
  | cons msg q =>
      simp only [step, hview.read_cons, hview.taken_cons]
      have hrest := h.consume haccepted hholds
      subst hc
      split <;> exact hrest

theorem readMessage (h : t.Sound p start) {c : Ring} (hc : c = { p with role := .consumer }) :
    (t.step p c .readMessage).Sound p start := by
  obtain ⟨q, haccepted, hholds⟩ := h.pending
  have hview : c.Holds t.memory q := hholds.of_eq (by rw [hc]) (by rw [hc])
  cases q with
  | nil =>
      simp only [step, hview.readMessage_nil, Option.toList_none, List.append_nil]
      exact h
  | cons msg q =>
      simp only [step, hview.readMessage_cons, Option.toList_some]
      subst hc
      exact h.consume haccepted hholds

theorem run (h : t.Sound p start) {c : Ring} (hc : c = { p with role := .consumer })
    (transfers : List Transfer) : (t.run p c transfers).Sound p start := by
  induction transfers generalizing t with
  | nil => exact h
  | cons transfer transfers ih =>
      apply ih
      cases transfer with
      | write msg => exact h.write c msg
      | read out => exact h.read hc out
      | readMessage => exact h.readMessage hc

/-- Nothing went in or out of a ring that was just bound. -/
theorem of_bound {m : Memory} {base : Nat} (hbase : p.base = base) (start? : Option UInt32) :
    (⟨p.setCursors (Header.publish m base p.capacity.word) start?, [], []⟩ : Traffic).Sound p
      (start?.getD 0).toNat := by
  subst hbase
  obtain ⟨hhead, htail, hcapacity, hreserved⟩ := word_publish m p.base p.capacity.word
  have hstart : (start?.getD 0).toNat = ((start?.getD 0).toNat + used []) % 2 ^ 32 := by
    rw [used_nil, Nat.add_zero, Nat.mod_eq_of_lt (start?.getD 0).toNat_lt]
  refine ⟨?_, ?_, ?_, ?_, [], rfl, holds_setCursors (holds_publish ..) start?⟩
  · exact (congrArg UInt32.toNat (head_setCursors hhead start?)).trans hstart
  · exact (congrArg UInt32.toNat (tail_setCursors htail start?)).trans hstart
  · exact (word_setCursors (Nat.le_refl (p.base + 8)) start?).trans hcapacity
  · exact (word_setCursors (Nat.add_le_add_left (by decide) p.base) start?).trans hreserved

end Traffic.Sound

/-- After every run of transfers over a freshly bound ring, wherever its cursors were moved at
first, its span can be read by the layout alone. The capacity is the one given by `bind`. -/
theorem wireFormat_transfers {m m₁ m₂ : Memory} {base len len' : Nat} {p c : Ring}
    (hp : Ring.bind m (some base) len .producer = .ok (p, m₁))
    (hc : Ring.bind m₁ (some base) len' .consumer = .ok (c, m₂)) (start? : Option UInt32)
    (transfers : List Transfer) :
    (∃ k, 3 ≤ k ∧ k ≤ 31 ∧ p.capacity.size = 2 ^ k) ∧
      WireFormat base p.capacity.size (start?.getD 0).toNat
        (Traffic.run p c ⟨p.setCursors m₂ start?, [], []⟩ transfers) := by
  obtain ⟨-, hcons, hbase, rfl, rfl⟩ := eq_of_bind hp hc
  have hsound := (Traffic.Sound.of_bound (m := m) hbase start?).run hcons transfers
  refine ⟨⟨p.capacity.log, p.capacity.three_le_log, Nat.le_of_lt_succ p.capacity.log_lt, rfl⟩, ?_⟩
  rw [← hbase] at hsound ⊢
  exact hsound.wireFormat

/-- The last of three messages is still there, cut by the end of an area of 16 bytes, and the head
has passed `2 ^ 32`. -/
theorem wireFormat_transfers_cut :
    let p : Ring := ⟨64, ⟨4, by decide, by decide⟩, .producer⟩
    let c : Ring := ⟨64, ⟨4, by decide, by decide⟩, .consumer⟩
    let m := Header.publish .zeroed 64 16
    let transfers : List Transfer :=
      [.write #[1, 2, 3], .write #[4], .read #[0], .readMessage, .write #[5, 6, 7, 8, 9, 10]]
    let t := Traffic.run p c ⟨p.setCursors m (some 4294967280), [], []⟩ transfers
    Ring.bind .zeroed (some 64) 40 .producer = .ok (p, m) ∧
      Ring.bind m (some 64) 40 .consumer = .ok (c, m) ∧
      t.accepted = [#[1, 2, 3], #[4], #[5, 6, 7, 8, 9, 10]] ∧
      t.consumed = [#[1, 2, 3], #[4]] ∧ WireFormat 64 16 4294967280 t := by
  intro p c m transfers t
  have hp : Ring.bind .zeroed (some 64) 40 .producer = .ok (p, m) := rfl
  have hc : Ring.bind m (some 64) 40 .consumer = .ok (c, m) :=
    bind_consumer (c := c.capacity) rfl (word_publish .zeroed 64 16).2.2.1
  obtain ⟨-, hformat⟩ := wireFormat_transfers hp hc (some 4294967280) transfers
  exact ⟨hp, hc, by decide, by decide, hformat⟩

end SharedRing
