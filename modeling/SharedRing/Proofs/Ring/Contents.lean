import SharedRing.Proofs.Ring.Stream

/-!
What a ring holds. The unread bytes are the stream from the tail on, up to the head (`unread`);
a write appends a frame to them and a read drops one from their front, whatever the memory holds.

`Holds` says that the unread bytes are the frames of a list of messages. On such a memory the
operations act on the list: a message is appended at its end, and the next message is its head.
-/

namespace SharedRing.Ring

variable {r : Ring} {m : Memory} {msg : Bytes} {q : List Bytes} {n : Nat}

def unread (r : Ring) (m : Memory) : List UInt8 := r.stream m (r.tail m).toNat (r.readable m)

@[simp] theorem length_unread : (r.unread m).length = r.readable m := by
  simp [unread]

theorem head_eq (r : Ring) (m : Memory) :
    r.head m = r.tail m + UInt32.ofNat (r.readable m) := by
  rw [readable, UInt32.ofNat_toNat]
  simp only [UInt32.sub_eq_add_neg, UInt32.add_comm (r.head m), ← UInt32.add_assoc,
    UInt32.add_right_neg, UInt32.zero_add]

theorem take_stream {k a : Nat} (h : a ≤ n) : (r.stream m k n).take a = r.stream m k a := by
  rw [show n = a + (n - a) by omega, stream_add, List.take_left' (by simp)]

theorem drop_stream {k a : Nat} (h : a ≤ n) :
    (r.stream m k n).drop a = r.stream m (k + a) (n - a) := by
  conv => lhs; rw [show n = a + (n - a) by omega, stream_add]
  rw [List.drop_left' (by simp)]

/-! ### Any memory -/

/-- The field at the tail is the first four of the unread bytes. -/
theorem toList_field (h : lengthSize ≤ r.readable m) :
    (r.copyOut m (r.tail m) lengthSize).toList = (r.unread m).take lengthSize := by
  have hsize : lengthSize ≤ r.capacity.size :=
    Nat.le_trans (by decide) r.capacity.eight_le_size
  rw [toList_copyOut hsize, unread, take_stream h]

/-- The message at the tail is what follows the field. -/
theorem toList_messageAtTail (h : n + lengthSize ≤ r.readable m) (hn : n ≤ r.capacity.size) :
    (r.messageAtTail m n).toList = ((r.unread m).drop lengthSize).take n := by
  rw [messageAtTail, toList_copyOut hn, stream_add_ofNat, unread, drop_stream (by omega),
    take_stream (by omega)]

/-- Dropping a message drops its frame from the unread bytes. -/
theorem unread_dropMessage (h : n + lengthSize ≤ r.readable m) :
    r.unread (r.dropMessage m n) = (r.unread m).drop (n + lengthSize) := by
  rw [unread, unread, drop_stream h, readable_dropMessage h]
  apply stream_congr
  intro i _
  rw [dropMessage, byteAt_setTail, tail_setTail, skip, byteAt_add_ofNat]

theorem writable_add_readable (h : n ≤ r.writable m) (hn : 0 < n) :
    r.readable m + n ≤ r.capacity.size := by
  rw [writable] at h
  omega

theorem readable_appendMessage (h : msg.size + lengthSize ≤ r.writable m) :
    r.readable (r.appendMessage m msg) = r.readable m + (msg.size + lengthSize) := by
  have hfits := writable_add_readable h (by simp [lengthSize])
  have hcap := r.capacity.size_le
  have hadd (a b c : UInt32) : a + b - c = a - c + b := by
    simp only [UInt32.sub_eq_add_neg, UInt32.add_assoc, UInt32.add_comm b]
  rw [readable, head_appendMessage, tail_appendMessage (by omega), skip, hadd, UInt32.toNat_add,
    UInt32.toNat_ofNat', Nat.add_mod_mod, ← readable, Nat.mod_eq_of_lt (by omega)]

/-- Writing a message appends its frame to the unread bytes. -/
theorem unread_appendMessage (h : msg.size + lengthSize ≤ r.writable m) :
    r.unread (r.appendMessage m msg) = r.unread m ++ (frame msg).toList := by
  have hfits := writable_add_readable h (by simp [lengthSize])
  rw [unread, unread, readable_appendMessage h, tail_appendMessage (by omega), stream_add]
  congr 1
  · -- seen from the head, an unread byte lies at the end of the lap, behind the new frame
    apply stream_congr
    intro i hi
    have hlap : (r.tail m).toNat + i + r.capacity.size =
        (r.tail m).toNat + r.readable m + (r.capacity.size - r.readable m + i) := by omega
    rw [← byteAt_add_size, hlap, ← byteAt_add_ofNat, ← head_eq, byteAt_appendMessage (by omega)
      (by omega), dif_neg (by rw [size_frame]; omega), head_eq, byteAt_add_ofNat, ← hlap,
      byteAt_add_size]
  · apply List.ext_getElem
    · simp
    · intro i hi _
      have hi' : i < (frame msg).size := by simpa using hi
      rw [stream_getElem, ← byteAt_add_ofNat, ← head_eq, byteAt_appendMessage (by omega)
        (by rw [size_frame] at hi'; omega), dif_pos hi', Array.getElem_toList]

/-- A message whose frame stands in front of the unread bytes is the next one. -/
theorem lengthAtTail_eq {rest : List UInt8} (h : r.unread m = (frame msg).toList ++ rest)
    (hmsg : msg.size < 2 ^ 32) : r.lengthAtTail m = msg.size := by
  have hlen : lengthSize ≤ r.readable m := by
    rw [← length_unread, h, List.length_append, Array.length_toList, size_frame]
    omega
  have hfield : r.copyOut m (r.tail m) lengthSize = bytesOfWord (UInt32.ofNat msg.size) := by
    apply Array.toList_inj.1
    rw [toList_field hlen, h, frame, Array.toList_append, List.append_assoc, List.take_left']
    rfl
  have hword (w : UInt32) : wordOfBytes ((bytesOfWord w).getD 0 0) ((bytesOfWord w).getD 1 0)
      ((bytesOfWord w).getD 2 0) ((bytesOfWord w).getD 3 0) = w := wordOfBytes_bytesOfWord w
  simp only [lengthAtTail, hfield, hword, UInt32.toNat_ofNat', Nat.mod_eq_of_lt hmsg]

/-- What a read takes out of the ring: the message that it put into the buffer, or, when it
delivered none, the one that was there to be read. -/
def taken (r : Ring) (m : Memory) (out : Bytes) : List Bytes :=
  let res := r.read m out
  if res.length = 0 then (r.readMessage m).1.toList else [res.out.extract 0 res.length]

theorem readable_readMessage_lt {m' : Memory} (h : r.readMessage m = (some msg, m')) :
    r.readable m' < r.readable m := by
  rw [readMessage] at h
  split at h
  · cases h
  · rename_i hn
    cases h
    have hle := le_readable_of_nextLength? hn
    rw [readable_dropMessage hle]
    simp only [lengthSize] at hle ⊢
    omega

def drain (r : Ring) (m : Memory) : List Bytes :=
  match _h : r.readMessage m with
  | (none, _) => []
  | (some msg, m') => msg :: r.drain m'
termination_by r.readable m
decreasing_by exact readable_readMessage_lt _h

/-! ### A list of messages -/

def frames (q : List Bytes) : List UInt8 := q.flatMap fun msg => (frame msg).toList

def used (q : List Bytes) : Nat := (q.map fun msg => msg.size + lengthSize).sum

@[simp] theorem used_nil : used [] = 0 := rfl

@[simp] theorem used_cons : used (msg :: q) = msg.size + lengthSize + used q := by
  simp [used]

@[simp] theorem used_append {q' : List Bytes} : used (q ++ q') = used q + used q' := by
  simp [used]

theorem le_used (h : msg ∈ q) : msg.size + lengthSize ≤ used q := by
  obtain ⟨front, back, rfl⟩ := List.append_of_mem h
  rw [used_append, used_cons]
  omega

theorem frames_cons : frames (msg :: q) = (frame msg).toList ++ frames q := rfl

theorem frames_append_singleton : frames (q ++ [msg]) = frames q ++ (frame msg).toList := by
  simp [frames]

@[simp] theorem length_frames : (frames q).length = used q := by
  induction q with
  | nil => rfl
  | cons msg q ih => rw [frames_cons, List.length_append, ih, used_cons]; simp

/-- The unread bytes are the frames of `q`, the oldest message first. -/
structure Holds (r : Ring) (m : Memory) (q : List Bytes) : Prop where
  unread : r.unread m = frames q
  used_le : used q ≤ r.capacity.size
  pos : ∀ msg ∈ q, 0 < msg.size

namespace Holds

theorem readable (h : r.Holds m q) : r.readable m = used q := by
  rw [← length_unread, h.unread, length_frames]

theorem writable (h : r.Holds m q) : r.writable m = r.capacity.size - used q := by
  rw [Ring.writable, h.readable]

/-- Cursors at one place leave nothing to read. -/
theorem of_head_eq_tail (h : r.head m = r.tail m) : r.Holds m [] := by
  have hread : r.readable m = 0 := by
    rw [Ring.readable, h, UInt32.sub_self]
    rfl
  refine ⟨?_, Nat.zero_le _, by simp⟩
  rw [Ring.unread, hread, stream_zero]
  rfl

theorem size_lt (h : r.Holds m (msg :: q)) : msg.size + lengthSize ≤ r.capacity.size := by
  have hused := h.used_le
  rw [used_cons] at hused
  omega

theorem nextLength?_nil (h : r.Holds m []) : r.nextLength? m = none := by
  rw [nextLength?, if_pos]
  rw [h.readable]
  decide

theorem nextLength?_cons (h : r.Holds m (msg :: q)) : r.nextLength? m = some msg.size := by
  have hsize := h.size_lt
  have hcap := r.capacity.size_le
  have hpos := h.pos msg (by simp)
  have hread := h.readable
  rw [used_cons] at hread
  have hlen : r.lengthAtTail m = msg.size :=
    lengthAtTail_eq (h.unread.trans frames_cons) (by omega)
  rw [nextLength?]
  rw [if_neg (by omega)]
  simp only [hlen]
  rw [if_neg]
  simp only [Bool.or_eq_true, decide_eq_true_eq]
  omega

theorem messageAtTail (h : r.Holds m (msg :: q)) : r.messageAtTail m msg.size = msg := by
  have hsize := h.size_lt
  have hread := h.readable
  rw [used_cons] at hread
  apply Array.toList_inj.1
  rw [toList_messageAtTail (by omega) (by omega), h.unread, frames_cons, frame,
    Array.toList_append, List.append_assoc, List.drop_left', List.take_left']
  · rfl
  · rfl

theorem dropMessage (h : r.Holds m (msg :: q)) : r.Holds (r.dropMessage m msg.size) q where
  unread := by
    have hread := h.readable
    rw [used_cons] at hread
    rw [unread_dropMessage (by omega), h.unread, frames_cons, List.drop_left' (by simp)]
  used_le := by
    have hused := h.used_le
    rw [used_cons] at hused
    omega
  pos x hx := h.pos x (List.mem_cons_of_mem _ hx)

theorem appendMessage (h : r.Holds m q) (hpos : 0 < msg.size)
    (hfits : msg.size + lengthSize ≤ r.capacity.size - used q) :
    r.Holds (r.appendMessage m msg) (q ++ [msg]) where
  unread := by
    rw [unread_appendMessage (by rwa [h.writable]), h.unread, frames_append_singleton]
  used_le := by
    rw [used_append, used_cons, used_nil]
    omega
  pos x hx := by
    rcases List.mem_append.1 hx with hx | hx
    · exact h.pos x hx
    · rwa [List.mem_singleton.1 hx]

/-! The operations on a ring that holds `q`. -/

theorem write_eq (h : r.Holds m q) :
    r.write m msg =
      if 0 < msg.size ∧ msg.size + lengthSize ≤ r.capacity.size - used q then
        (true, r.appendMessage m msg)
      else (false, m) := by
  rw [write, h.writable]
  by_cases hfits : 0 < msg.size ∧ msg.size + lengthSize ≤ r.capacity.size - used q
  · rw [if_pos hfits, if_neg]
    simp only [Array.isEmpty, Bool.or_eq_true, decide_eq_true_eq]
    omega
  · rw [if_neg hfits, if_pos]
    simp only [Array.isEmpty, Bool.or_eq_true, decide_eq_true_eq]
    omega

theorem read_nil (h : r.Holds m []) (out : Bytes) : r.read m out = ⟨0, out, m⟩ := by
  simp only [read, h.nextLength?_nil]

theorem read_cons (h : r.Holds m (msg :: q)) (out : Bytes) :
    r.read m out =
      if msg.size ≤ out.size then
        ⟨msg.size, msg ++ out.extract msg.size out.size, r.dropMessage m msg.size⟩
      else ⟨0, out, r.dropMessage m msg.size⟩ := by
  simp only [read, h.nextLength?_cons, h.messageAtTail]
  split
  · rw [if_neg (by omega)]
  · rw [if_pos (by omega)]

theorem readMessage_nil (h : r.Holds m []) : r.readMessage m = (none, m) := by
  simp only [readMessage, h.nextLength?_nil]

theorem readMessage_cons (h : r.Holds m (msg :: q)) :
    r.readMessage m = (some msg, r.dropMessage m msg.size) := by
  simp only [readMessage, h.nextLength?_cons, h.messageAtTail]

theorem drain (h : r.Holds m q) : r.drain m = q := by
  induction q generalizing m with
  | nil =>
      rw [Ring.drain]
      split
      · rfl
      · rename_i hread
        rw [h.readMessage_nil] at hread
        cases hread
  | cons msg q ih =>
      rw [Ring.drain]
      split
      · rename_i hread
        rw [h.readMessage_cons] at hread
        cases hread
      · rename_i hread
        rw [h.readMessage_cons] at hread
        cases hread
        rw [ih h.dropMessage]

theorem readMessage_eq_head? (h : r.Holds m q) : (r.readMessage m).1 = q.head? := by
  cases q with
  | nil => rw [h.readMessage_nil]; rfl
  | cons msg q => rw [h.readMessage_cons]; rfl

theorem taken_nil (h : r.Holds m []) (out : Bytes) : r.taken m out = [] := by
  simp only [taken, h.read_nil, h.readMessage_nil]
  rfl

/-- A message is taken whole, put into the buffer or not. -/
theorem taken_cons (h : r.Holds m (msg :: q)) (out : Bytes) : r.taken m out = [msg] := by
  have hpos := h.pos msg (by simp)
  simp only [taken, h.read_cons, h.readMessage_cons]
  split
  · simp only [if_neg (Nat.ne_of_gt hpos)]
    simp
  · rfl

theorem hasData_eq (h : r.Holds m q) : r.hasData m = !q.isEmpty := by
  rw [hasData, h.readable]
  cases q with
  | nil => rfl
  | cons msg q =>
      simp only [used_cons, List.isEmpty_cons, Bool.not_false, decide_eq_true_eq]
      omega

/-- The side that a binding is for makes no difference to what the ring holds. -/
theorem of_eq {r' : Ring} (h : r.Holds m q) (hbase : r'.base = r.base)
    (hcapacity : r'.capacity = r.capacity) : r'.Holds m q := by
  obtain ⟨base, capacity, side⟩ := r
  obtain ⟨base', capacity', side'⟩ := r'
  cases hbase
  cases hcapacity
  exact ⟨h.unread, h.used_le, h.pos⟩

end Holds

end SharedRing.Ring
