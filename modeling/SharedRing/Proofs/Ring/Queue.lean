import SharedRing.Proofs.Ring.Bind

/-!
A ring is a bounded queue of messages. `Ends` are a producer's and a consumer's binding of one
ring with the memory that it lies in, and `Queue` is a list of messages with room for so many
bytes. Both answer the same calls, and they give the same replies, whatever the calls are, in
whatever order, and wherever the cursors stood at first.

The relation between the two is `Ends.Shows`; one call keeps it and gives one reply on both sides
(`Ends.Shows.call`), and a run is an induction on the calls.
-/

namespace SharedRing

inductive Call where
  | write (msg : Bytes)
  | read (out : Bytes)
  | readMessage
  | writable (side : Role)
  | readable (side : Role)
  | hasData (side : Role)
  | bindConsumer (len : Nat)
  | bindProducer

inductive Reply where
  | accepted (ok : Bool)
  /-- The length delivered and the buffer. -/
  | delivered (length : Nat) (out : Bytes)
  | message (msg? : Option Bytes)
  | size (n : Nat)
  | flag (b : Bool)
  /-- The capacity of the new binding. -/
  | bound (result : Except RingError Nat)

def replies {σ : Type} (call : σ → Call → Reply × σ) : σ → List Call → List Reply × σ
  | s, [] => ([], s)
  | s, c :: cs =>
      let (reply, s) := call s c
      let (rest, s) := replies call s cs
      (reply :: rest, s)

/-! ### The ring -/

structure Ends where
  memory : Memory
  producer : Ring
  consumer : Ring

namespace Ends

def side (e : Ends) : Role → Ring
  | .producer => e.producer
  | .consumer => e.consumer

/-- A new binding takes the place of the old one, which a failure leaves as it was. The producer
is always bound to as many bytes as at first, `len` of them. -/
def call (len : Nat) (e : Ends) : Call → Reply × Ends
  | .write msg =>
      let (ok, m) := e.producer.write e.memory msg
      (.accepted ok, { e with memory := m })
  | .read out =>
      let res := e.consumer.read e.memory out
      (.delivered res.length res.out, { e with memory := res.memory })
  | .readMessage =>
      let (msg?, m) := e.consumer.readMessage e.memory
      (.message msg?, { e with memory := m })
  | .writable side => (.size ((e.side side).writable e.memory), e)
  | .readable side => (.size ((e.side side).readable e.memory), e)
  | .hasData side => (.flag ((e.side side).hasData e.memory), e)
  | .bindConsumer len' =>
      match Ring.bind e.memory (some e.consumer.base) len' .consumer with
      | .error err => (.bound (.error err), e)
      | .ok (r, m) => (.bound (.ok r.capacity.size), { e with memory := m, consumer := r })
  | .bindProducer =>
      match Ring.bind e.memory (some e.producer.base) len .producer with
      | .error err => (.bound (.error err), e)
      | .ok (r, m) => (.bound (.ok r.capacity.size), { e with memory := m, producer := r })

end Ends

/-! ### The queue -/

/-- Messages, the oldest first, and the room there is for them and their lengths. -/
structure Queue where
  capacity : Nat
  messages : List Bytes

namespace Queue

def call (q : Queue) : Call → Reply × Queue
  | .write msg =>
      if 0 < msg.size ∧ msg.size + Ring.lengthSize ≤ q.capacity - Ring.used q.messages then
        (.accepted true, { q with messages := q.messages ++ [msg] })
      else (.accepted false, q)
  | .read out =>
      match q.messages with
      | [] => (.delivered 0 out, q)
      | msg :: rest =>
          (if msg.size ≤ out.size then
            .delivered msg.size (msg ++ out.extract msg.size out.size)
          else .delivered 0 out, { q with messages := rest })
  | .readMessage =>
      match q.messages with
      | [] => (.message none, q)
      | msg :: rest => (.message (some msg), { q with messages := rest })
  | .writable _ => (.size (q.capacity - Ring.used q.messages), q)
  | .readable _ => (.size (Ring.used q.messages), q)
  | .hasData _ => (.flag !q.messages.isEmpty, q)
  | .bindConsumer len => (.bound (Ring.attachable q.capacity len), q)
  | .bindProducer => (.bound (.ok q.capacity), { q with messages := [] })

structure Valid (q : Queue) : Prop where
  pos : ∀ msg ∈ q.messages, 0 < msg.size
  used_le : Ring.used q.messages ≤ q.capacity

end Queue

/-! ### The two agree -/

/-- Two bindings of one ring, which holds the messages of the queue. -/
structure Ends.Shows (len : Nat) (e : Ends) (q : Queue) : Prop where
  bound : e.producer.BoundProducer len
  consumer : e.consumer = { e.producer with role := .consumer }
  published : e.memory.word (Header.capacityAt e.producer.base) = e.producer.capacity.word
  capacity : q.capacity = e.producer.capacity.size
  holds : e.producer.Holds e.memory q.messages

namespace Ends.Shows

variable {len : Nat} {e : Ends} {q : Queue}

theorem valid (h : e.Shows len q) : q.Valid :=
  ⟨h.holds.pos, h.capacity ▸ h.holds.used_le⟩

theorem holds_consumer (h : e.Shows len q) : e.consumer.Holds e.memory q.messages := by
  rw [h.consumer]
  exact h.holds.of_eq rfl rfl

theorem holds_side (h : e.Shows len q) (side : Role) :
    (e.side side).Holds e.memory q.messages ∧ (e.side side).capacity.size = q.capacity := by
  cases side with
  | producer => exact ⟨h.holds, h.capacity.symm⟩
  | consumer => exact ⟨h.holds_consumer, by rw [Ends.side, h.consumer, h.capacity]⟩

/-- What moves the tail leaves the bindings and the published capacity. -/
theorem setTail (h : e.Shows len q) {m : Memory} {pos : UInt32} {messages : List Bytes}
    (hm : m = e.consumer.setTail e.memory pos) (hholds : e.consumer.Holds m messages) :
    ({ e with memory := m } : Ends).Shows len { q with messages } where
  bound := h.bound
  consumer := h.consumer
  published := by
    rw [hm, ← h.published, h.consumer]
    exact Ring.word_setTail (Or.inr (Nat.le_refl _))
  capacity := h.capacity
  holds := hholds.of_eq (by rw [h.consumer]) (by rw [h.consumer])

theorem call_write (h : e.Shows len q) (msg : Bytes) :
    (e.call len (.write msg)).1 = (q.call (.write msg)).1 ∧
      (e.call len (.write msg)).2.Shows len (q.call (.write msg)).2 := by
  simp only [Ends.call, Queue.call, h.holds.write_eq, ← h.capacity]
  split
  · rename_i hfits
    rw [h.capacity] at hfits
    refine ⟨rfl, h.bound, h.consumer, ?_, h.capacity, h.holds.appendMessage hfits.1 hfits.2⟩
    rw [← h.published]
    exact Ring.word_appendMessage (by omega) (by simp [Header.capacityAt])
      (by simp [Header.capacityAt, Ring.data, Header.size])
  · exact ⟨rfl, h⟩

theorem call_read (h : e.Shows len q) (out : Bytes) :
    (e.call len (.read out)).1 = (q.call (.read out)).1 ∧
      (e.call len (.read out)).2.Shows len (q.call (.read out)).2 := by
  have hholds := h.holds_consumer
  obtain ⟨capacity, messages⟩ := q
  cases messages with
  | nil =>
      simp only [Ends.call, Queue.call, hholds.read_nil]
      exact ⟨trivial, h⟩
  | cons msg rest =>
      simp only [Ends.call, Queue.call, hholds.read_cons]
      -- delivered or not, the message is gone
      split <;> exact ⟨rfl, h.setTail rfl hholds.dropMessage⟩

theorem call_readMessage (h : e.Shows len q) :
    (e.call len .readMessage).1 = (q.call .readMessage).1 ∧
      (e.call len .readMessage).2.Shows len (q.call .readMessage).2 := by
  have hholds := h.holds_consumer
  obtain ⟨capacity, messages⟩ := q
  cases messages with
  | nil =>
      simp only [Ends.call, Queue.call, hholds.readMessage_nil]
      exact ⟨trivial, h⟩
  | cons msg rest =>
      simp only [Ends.call, Queue.call, hholds.readMessage_cons]
      exact ⟨trivial, h.setTail rfl hholds.dropMessage⟩

theorem call_bindConsumer (h : e.Shows len q) (len' : Nat) :
    (e.call len (.bindConsumer len')).1 = (q.call (.bindConsumer len')).1 ∧
      (e.call len (.bindConsumer len')).2.Shows len (q.call (.bindConsumer len')).2 := by
  have hbase : e.consumer.base = e.producer.base := by rw [h.consumer]
  simp only [Ends.call, Queue.call, hbase, Ring.bind_consumer h.bound.aligned h.published,
    ← h.capacity]
  by_cases hshort : len' < Header.size
  · simp only [Ring.attachable, if_pos hshort, Except.map]
    exact ⟨trivial, h⟩
  · by_cases hfits : q.capacity ≤ len' - Header.size
    · simp only [Ring.attachable, if_neg hshort, if_pos hfits, Except.map]
      exact ⟨by rw [h.capacity], h.bound, rfl, h.published, h.capacity, h.holds⟩
    · simp only [Ring.attachable, if_neg hshort, if_neg hfits, Except.map]
      exact ⟨trivial, h⟩

theorem call_bindProducer (h : e.Shows len q) :
    (e.call len .bindProducer).1 = (q.call .bindProducer).1 ∧
      (e.call len .bindProducer).2.Shows len (q.call .bindProducer).2 := by
  obtain ⟨-, -, hcapacity, -⟩ := Ring.word_publish e.memory e.producer.base
    e.producer.capacity.word
  simp only [Ends.call, Queue.call, h.bound.bind, ← h.capacity]
  exact ⟨trivial, h.bound, h.consumer, hcapacity, h.capacity, Ring.holds_publish ..⟩

/-- One call has the same reply on both sides, and the queue is still shown after it. -/
theorem call (h : e.Shows len q) (c : Call) :
    (e.call len c).1 = (q.call c).1 ∧ (e.call len c).2.Shows len (q.call c).2 := by
  cases c with
  | write msg => exact h.call_write msg
  | read out => exact h.call_read out
  | readMessage => exact h.call_readMessage
  | writable side =>
      obtain ⟨hholds, hcapacity⟩ := h.holds_side side
      exact ⟨by simp only [Ends.call, Queue.call, hholds.writable, hcapacity], h⟩
  | readable side =>
      obtain ⟨hholds, -⟩ := h.holds_side side
      exact ⟨by simp only [Ends.call, Queue.call, hholds.readable], h⟩
  | hasData side =>
      obtain ⟨hholds, -⟩ := h.holds_side side
      exact ⟨by simp only [Ends.call, Queue.call, hholds.hasData_eq], h⟩
  | bindConsumer len' => exact h.call_bindConsumer len'
  | bindProducer => exact h.call_bindProducer

theorem replies (h : e.Shows len q) (calls : List Call) :
    (replies (Ends.call len) e calls).1 = (SharedRing.replies Queue.call q calls).1 ∧
      (SharedRing.replies (Ends.call len) e calls).2.Shows len
        (SharedRing.replies Queue.call q calls).2 := by
  induction calls generalizing e q with
  | nil => exact ⟨rfl, h⟩
  | cons c calls ih =>
      obtain ⟨hreply, hnext⟩ := h.call c
      obtain ⟨hrest, hlast⟩ := ih hnext
      simp only [SharedRing.replies]
      exact ⟨by rw [hreply, hrest], hlast⟩

end Ends.Shows

/-- Ends that were just bound show the empty queue, wherever their cursors are moved. -/
theorem Ends.shows_of_bind {m m₁ m₂ : Memory} {base len len' : Nat} {p c : Ring}
    (hp : Ring.bind m (some base) len .producer = .ok (p, m₁))
    (hc : Ring.bind m₁ (some base) len' .consumer = .ok (c, m₂)) (start : Option UInt32) :
    (⟨p.setCursors m₂ start, p, c⟩ : Ends).Shows len ⟨p.capacity.size, []⟩ := by
  obtain ⟨hbound, hcons, hbase, rfl, rfl⟩ := Ring.eq_of_bind hp hc
  subst hbase
  obtain ⟨-, -, hcapacity, -⟩ := Ring.word_publish m p.base p.capacity.word
  exact ⟨hbound, hcons, (Ring.word_setCursors (Nat.le_refl (p.base + 8)) start).trans hcapacity,
    rfl, Ring.holds_setCursors (Ring.holds_publish ..) start⟩

/-- A ring is a bounded queue: its ends reply to all calls as the queue of its capacity does, and
that queue never holds an empty message or more than there is room for. -/
theorem replies_eq_queue {m m₁ m₂ : Memory} {base len len' : Nat} {p c : Ring}
    (hp : Ring.bind m (some base) len .producer = .ok (p, m₁))
    (hc : Ring.bind m₁ (some base) len' .consumer = .ok (c, m₂)) (start : Option UInt32)
    (calls : List Call) :
    (replies (Ends.call len) ⟨p.setCursors m₂ start, p, c⟩ calls).1 =
        (replies Queue.call ⟨p.capacity.size, []⟩ calls).1 ∧
      (replies Queue.call ⟨p.capacity.size, []⟩ calls).2.Valid := by
  obtain ⟨hreplies, hshows⟩ := (Ends.shows_of_bind hp hc start).replies calls
  exact ⟨hreplies, hshows.valid⟩

/-- Two messages that fill a ring of 16 bytes, the length of the first cut by the end of the area
and the cursors passing `2 ^ 32`. -/
theorem replies_eq_queue_full :
    let p : Ring := ⟨64, ⟨4, by decide, by decide⟩, .producer⟩
    let c : Ring := ⟨64, ⟨4, by decide, by decide⟩, .consumer⟩
    let m := Header.publish .zeroed 64 16
    let calls : List Call :=
      [.write #[1, 2, 3], .write #[4, 5, 6, 7, 8], .write #[9], .read #[0], .readMessage]
    Ring.bind .zeroed (some 64) 40 .producer = .ok (p, m) ∧
      Ring.bind m (some 64) 40 .consumer = .ok (c, m) ∧
      (replies (Ends.call 40) ⟨p.setCursors m (some 4294967294), p, c⟩ calls).1 =
        [.accepted true, .accepted true, .accepted false, .delivered 0 #[0],
          .message (some #[4, 5, 6, 7, 8])] ∧
      (replies Queue.call ⟨16, []⟩ calls).2.Valid := by
  intro p c m calls
  have hp : Ring.bind .zeroed (some 64) 40 .producer = .ok (p, m) := rfl
  have hc : Ring.bind m (some 64) 40 .consumer = .ok (c, m) :=
    Ring.bind_consumer (c := c.capacity) rfl (Ring.word_publish .zeroed 64 16).2.2.1
  obtain ⟨hreplies, hvalid⟩ := replies_eq_queue hp hc (some 4294967294) calls
  exact ⟨hp, hc, hreplies.trans rfl, hvalid⟩

end SharedRing
