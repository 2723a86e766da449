import SharedRing.Channel.Consumer
import SharedRing.Channel.Producer
import SharedRing.Proofs.Host
import SharedRing.Proofs.Ring.Bind

/-!
How the two ends of a channel come and go. Creating one adds an object with a fresh ring in it,
attaching binds the ring that the object publishes, and all else keeps the objects and brings in no
name, failures included.
-/

namespace SharedRing

open Host

variable {h h' : Host} {name : String} {id : ObjectId} {size : Nat} {s : Segment}

/-! ### Bindings -/

namespace Binding

def object? (b : Binding) : Option ObjectId := b.segment.mapping.map Mapping.object

/-- The binding is of the ring that the object publishes. -/
structure On (b : Binding) (h : Host) (id : ObjectId) : Prop where
  object : b.object? = some id
  base : b.ring.base = 0
  published : (h.memory id).word (Header.capacityAt 0) = b.ring.capacity.word

variable {b : Binding}

theorem exists_mapping (hb : b.object? = some id) :
    ∃ size, b.segment.mapping = some ⟨id, size⟩ := by
  obtain ⟨⟨object, size⟩, hmapping, rfl⟩ := Option.map_eq_some_iff.1 hb
  exact ⟨size, hmapping⟩

theorem memory_eq (hb : b.object? = some id) (h : Host) : b.memory h = h.memory id := by
  obtain ⟨size, hmapping⟩ := exists_mapping hb
  rw [memory, hmapping]
  rfl

theorem setMemory_eq (hb : b.object? = some id) (h : Host) (m : Memory) :
    b.setMemory h m = h.setMemory id m := by
  obtain ⟨size, hmapping⟩ := exists_mapping hb
  rw [setMemory, hmapping]

/-- A binding stores in its object, if it has one, and nowhere else. -/
theorem setMemory_cases (b : Binding) (h : Host) (m : Memory) :
    b.setMemory h m = h ∨ ∃ id, b.object? = some id ∧ b.setMemory h m = h.setMemory id m := by
  cases hobject : b.object? with
  | none =>
      have hmapping : b.segment.mapping = none := Option.map_eq_none_iff.1 hobject
      refine Or.inl ?_
      rw [setMemory, hmapping]
  | some id => exact Or.inr ⟨id, rfl, setMemory_eq hobject h m⟩

theorem memory_setMemory_of_ne (hb : b.object? ≠ some id) (h : Host) (m : Memory) :
    (b.setMemory h m).memory id = h.memory id := by
  rcases b.setMemory_cases h m with heq | ⟨i, hi, heq⟩
  · rw [heq]
  · rw [heq]
    apply Host.memory_setMemory_of_ne
    rintro rfl
    exact hb hi

@[simp] theorem size_setMemory (b : Binding) (h : Host) (m : Memory) :
    (b.setMemory h m).objects.size = h.objects.size := by
  rcases b.setMemory_cases h m with heq | ⟨i, -, heq⟩
  · rw [heq]
  · rw [heq, Host.size_setMemory]

@[simp] theorem held_setMemory (b : Binding) (h : Host) (m : Memory) (i : ObjectId) :
    (b.setMemory h m).held i = h.held i := by
  rcases b.setMemory_cases h m with heq | ⟨i, -, heq⟩
  · rw [heq]
  · rw [heq, Host.held_setMemory]

@[simp] theorem names_setMemory (b : Binding) (h : Host) (m : Memory) :
    (b.setMemory h m).names = h.names := by
  rcases b.setMemory_cases h m with heq | ⟨i, -, heq⟩
  · rw [heq]
  · rw [heq]
    rfl

theorem setMemory_memory (b : Binding) (h : Host) : b.setMemory h (b.memory h) = h := by
  rw [setMemory, memory]
  split
  · rfl
  · rename_i p hp
    rw [hp]
    exact h.setMemory_memory p.object

/-- An object of zeros publishes no ring. -/
theorem On.ne_zeroed (hb : b.On h id) : h.memory id ≠ .zeroed := by
  intro hzeroed
  have hpublished := hb.published
  rw [hzeroed] at hpublished
  have hzero : (0 : UInt32).toNat = b.ring.capacity.size := by
    rw [← b.ring.capacity.word_toNat, ← hpublished]
    rfl
  have hpos := b.ring.capacity.size_pos
  rw [← hzero] at hpos
  exact absurd hpos (by decide)

theorem new_eq (hs : s.mapping = some ⟨id, size⟩) (role : Role) (h : Host) :
    Binding.new s role h =
      match Ring.bind (h.memory id) (some 0) size role with
      | .error e => (.error e, s.drop h)
      | .ok (r, m) => (.ok ⟨r, s⟩, h.setMemory id m) := by
  simp only [new, Segment.base?, Segment.size, hs, Option.map_some, Option.getD_some]
  cases Ring.bind (h.memory id) (some 0) size role with
  | error e => rfl
  | ok found => exact congrArg _ (setMemory_eq (b := ⟨found.1, s⟩) (by simp [object?, hs]) h _)

theorem new_producer_cases (hs : s.mapping = some ⟨id, size⟩) (hsize : Header.size ≤ size)
    (h : Host) :
    (∃ c, c < Ring.minCapacity ∧
        Binding.new s .producer h = (.error (.invalidCapacity c size), s.drop h)) ∨
      ∃ r : Ring, r.BoundProducer size ∧ r.base = 0 ∧ Binding.new s .producer h =
        (.ok ⟨r, s⟩, h.setMemory id (Header.publish (h.memory id) 0 r.capacity.word)) := by
  rw [new_eq hs]
  cases hbind : Ring.bind (h.memory id) (some 0) size .producer with
  | error e =>
      obtain ⟨c, hc, rfl⟩ := Ring.of_bind_producer_error hsize rfl hbind
      exact Or.inl ⟨c, hc, rfl⟩
  | ok found =>
      obtain ⟨hbound, hbase, hm⟩ := Ring.of_bind_producer hbind
      refine Or.inr ⟨found.1, hbound, hbase, ?_⟩
      rw [← hm]

theorem new_consumer_cases (hs : s.mapping = some ⟨id, size⟩) (h : Host) :
    (∃ e, Binding.new s .consumer h = (.error e, s.drop h)) ∨
      ∃ c : Capacity, (h.memory id).word (Header.capacityAt 0) = c.word ∧
        Binding.new s .consumer h =
          (.ok ⟨⟨0, c, .consumer⟩, s⟩, h.setMemory id (h.memory id)) := by
  rw [new_eq hs]
  cases hbind : Ring.bind (h.memory id) (some 0) size .consumer with
  | error e => exact Or.inl ⟨e, rfl⟩
  | ok found =>
      obtain ⟨hr, hword, -, hm⟩ := Ring.of_bind_consumer hbind
      refine Or.inr ⟨found.1.capacity, hword.symm, ?_⟩
      rw [← hr, ← hm]

/-- A consumer's ring on a segment of an object with a ring in it, or why its span is refused. -/
theorem new_consumer_eq {c : Capacity} (hs : s.mapping = some ⟨id, size⟩)
    (hword : (h.memory id).word (Header.capacityAt 0) = c.word) :
    Binding.new s .consumer h =
      match Ring.attachable c.size size with
      | .error e => (.error e, s.drop h)
      | .ok _ => (.ok ⟨⟨0, c, .consumer⟩, s⟩, h.setMemory id (h.memory id)) := by
  rw [new_eq hs, Ring.bind_consumer rfl hword]
  cases Ring.attachable c.size size <;> rfl

/-- A span of the whole ring is all that a consumer needs. -/
theorem new_consumer {c : Capacity} (hs : s.mapping = some ⟨id, size⟩)
    (hword : (h.memory id).word (Header.capacityAt 0) = c.word)
    (hfits : Header.size + c.size ≤ size) :
    Binding.new s .consumer h =
      (.ok ⟨⟨0, c, .consumer⟩, s⟩, h.setMemory id (h.memory id)) := by
  rw [new_consumer_eq hs hword, Ring.attachable, if_neg (by omega), if_pos (by omega)]

end Binding

/-! ### The writing end -/

namespace Producer

def object? (p : Producer) : Option ObjectId := p.binding.bind Binding.object?

/-- How a creation fails: in that of the segment, or because the segment is too small for a ring. -/
inductive Fails (h : Host) (name : String) (requested : Nat) : ChannelError → Host → Prop
  | segment {e : ChannelError} {h' : Host}
      (hf : Segment.Fails h name (min (requested + Header.size) maxSpan) e h') :
      Fails h name requested e h'
  | ring {n : String} {c : Nat} {h' : Host} (hname : Name.normalize name = .ok n)
      (hc : c < Ring.minCapacity) (hclears : h.Clears h' n) :
      Fails h name requested (.invalidRing (.invalidCapacity c (requested + Header.size))) h'

theorem Fails.keeps {requested : Nat} {e : ChannelError} (hf : Fails h name requested e h') :
    h.Keeps h' := by
  cases hf with
  | segment hf => exact hf.keeps
  | ring hname hc hclears => exact hclears.keeps

theorem Fails.confined {requested : Nat} {e : ChannelError} (hf : Fails h name requested e h') :
    h.Confined h' (Host.objectName? name) := by
  cases hf with
  | segment hf => exact hf.confined
  | ring hname hc hclears =>
      rw [Host.objectName?, hname]
      exact hclears.confined

def created (n : String) (id : ObjectId) (requested : Nat) : Segment :=
  ⟨n, some ⟨id, requested + Header.size⟩, true, false, false⟩

/-- A creation adds an object with a fresh ring, or fails. -/
theorem create_cases (h : Host) (name : String) (requested : Nat) :
    (∃ e h', create h name requested = (.error e, h') ∧ Fails h name requested e h') ∨
      ∃ n r h', create h name requested =
          (.ok ⟨n, some ⟨r, created n h.objects.size requested⟩, false⟩, h') ∧
        Name.normalize name = .ok n ∧ r.BoundProducer (requested + Header.size) ∧ r.base = 0 ∧
        requested + Header.size < mapLimit ∧
        h.Adds h' n ⟨requested + Header.size, Header.publish .zeroed 0 r.capacity.word⟩ := by
  rcases Segment.create_cases h name (min (requested + Header.size) maxSpan) with
    ⟨e, h₁, hc, hfails⟩ | ⟨n, h₁, hc, hname, hsize, hadds⟩
  · exact Or.inl ⟨e, h₁, by simp only [create, hc], .segment hfails⟩
  · have hspan : min (requested + Header.size) maxSpan = requested + Header.size := by
      simp only [maxSpan, mapLimit] at hsize ⊢
      omega
    rw [hspan] at hc hsize hadds
    rcases Binding.new_producer_cases (s := created n h.objects.size requested) rfl
      (Nat.le_add_left _ _) h₁ with ⟨c, hcap, hnew⟩ | ⟨r, hbound, hbase, hnew⟩
    · -- the handle that could not be used asks for nothing when it goes
      have hdrop : Segment.drop (created n h.objects.size requested) h₁ = h₁ := rfl
      rw [hdrop] at hnew
      have hreported := hadds.report (.cannotHost n requested
        (.invalidRing (.invalidCapacity c (requested + Header.size))))
      refine Or.inl ⟨_, _, ?_, .ring hname hcap (Segment.clears_remove_created hname hreported)⟩
      simp only [created] at hnew
      simp only [create, hspan, hc, hnew]
    · rw [hadds.memory_new] at hnew
      have hring := hadds.modify fun o =>
        { o with memory := Header.publish .zeroed 0 r.capacity.word }
      refine Or.inr ⟨n, r, _, ?_, hname, hbound, hbase, hsize,
        hring.report (.producerCreated n requested r.capacity.size)⟩
      simp only [created] at hnew
      simp only [create, hspan, hc, hnew]
      rfl

theorem of_create_error {requested : Nat} {e : ChannelError}
    (hc : create h name requested = (.error e, h')) : Fails h name requested e h' := by
  rcases create_cases h name requested with ⟨e, h₁, heq, hf⟩ | ⟨n, r, h₁, heq, -⟩
  · rw [heq] at hc
    cases hc
    exact hf
  · rw [heq] at hc
    cases hc

theorem of_create_ok {requested : Nat} {p : Producer} (hc : create h name requested = (.ok p, h')) :
    ∃ r : Ring, p = ⟨p.name, some ⟨r, created p.name h.objects.size requested⟩, false⟩ ∧
      Name.normalize name = .ok p.name ∧ r.BoundProducer (requested + Header.size) ∧
      r.base = 0 ∧ requested + Header.size < mapLimit ∧
      h.Adds h' p.name
        ⟨requested + Header.size, Header.publish .zeroed 0 r.capacity.word⟩ := by
  rcases create_cases h name requested with
    ⟨e, h₁, heq, -⟩ | ⟨n, r, h₁, heq, hname, hbound, hbase, hsize, hadds⟩
  · rw [heq] at hc
    cases hc
  · rw [heq] at hc
    cases hc
    exact ⟨r, rfl, hname, hbound, hbase, hsize, hadds⟩

theorem keeps_close (p : Producer) (h : Host) : h.Keeps (p.close h).2 := by
  rw [close]
  split
  · exact .refl h
  · exact Segment.keeps_drop _ _

theorem keeps_destroy (p : Producer) (h : Host) : h.Keeps (p.destroy h).2 := by
  rw [destroy]
  split
  · exact .refl h
  · split
    · exact Segment.keeps_remove _ _
    · exact Segment.keeps_destroy _ _

theorem binding_close (p : Producer) (h : Host) : (p.close h).1.binding = none := by
  rw [close]
  split
  · assumption
  · rfl

/-- Destroying a channel leaves its producer bound to the same ring. -/
theorem binding_destroy (p : Producer) (h : Host) {b : Binding}
    (hb : (p.destroy h).1.binding = some b) :
    ∃ b', p.binding = some b' ∧ b.ring = b'.ring ∧ b.object? = b'.object? := by
  rw [destroy] at hb
  split at hb
  · exact ⟨b, hb, rfl, rfl⟩
  · split at hb
    · rename_i hnone
      rw [hnone] at hb
      cases hb
    · rename_i b' hsome
      cases hb
      exact ⟨b', hsome, rfl, congrArg (Option.map Mapping.object) (Segment.mapping_destroy _ h)⟩

end Producer

/-! ### The reading end -/

namespace Consumer

def object? (c : Consumer) : Option ObjectId := c.binding.bind Binding.object?

/-- Attaching binds the ring that the object publishes, or fails. Either way it keeps the host. -/
theorem attach_cases (h : Host) (name : String) (hint : Nat) :
    (∃ e h', attach h name hint = (.error e, h') ∧ h.Keeps h') ∨
      ∃ n b id h', attach h name hint = (.ok ⟨n, some b⟩, h') ∧ b.On h id ∧
        b.ring.role = .consumer ∧ h.Keeps h' := by
  cases hs : Segment.attach h name hint with
  | error e => exact Or.inl ⟨e, h, by simp only [attach, hs], .refl h⟩
  | ok s =>
      obtain ⟨id, size, hmapping, -⟩ := Segment.of_attach hs
      rcases Binding.new_consumer_cases hmapping h with ⟨e, hnew⟩ | ⟨c, hword, hnew⟩
      · refine Or.inl ⟨.invalidRing e, _, ?_, Segment.keeps_drop s h⟩
        simp only [attach, hs, hnew]
      · refine Or.inr ⟨s.name, ⟨⟨0, c, .consumer⟩, s⟩, id, _, ?_, ?_, rfl,
          (keeps_setMemory h id).trans (keeps_report _ (.consumerOpened s.name c.size))⟩
        · simp only [attach, hs, hnew]
        · exact ⟨by simp [Binding.object?, hmapping], rfl, hword⟩

/-- A name that refers to an object with a ring in it can be attached to. -/
theorem attach_of_find? {n : String} {c : Capacity} (hname : Name.normalize name = .ok n)
    (hadmitted : isRefused (objectName n) = false) (hfind : h.find? n = some id)
    (hword : (h.memory id).word (Header.capacityAt 0) = c.word)
    (hfits : Header.size + c.size ≤ h.held id) (hmap : h.held id < mapLimit) :
    ∃ b h', attach h name 0 = (.ok ⟨n, some b⟩, h') ∧ b.On h id ∧ b.ring.role = .consumer ∧
      h.Keeps h' := by
  have hs : Segment.attach h name 0 = .ok ⟨n, some ⟨id, h.held id⟩, false, false, false⟩ := by
    simp only [Segment.attach, hname, Host.attach_of_find? hadmitted hfind hmap]
  have hnew := Binding.new_consumer (s := ⟨n, some ⟨id, h.held id⟩, false, false, false⟩) rfl hword
    hfits
  refine ⟨⟨⟨0, c, .consumer⟩, ⟨n, some ⟨id, h.held id⟩, false, false, false⟩⟩, _, ?_,
    ⟨rfl, rfl, hword⟩, rfl,
    (keeps_setMemory h id).trans (keeps_report _ (.consumerOpened n c.size))⟩
  simp only [attach, hs, hnew]

theorem keeps_close (c : Consumer) (h : Host) : h.Keeps (c.close h).2 := by
  rw [close]
  split
  · exact .refl h
  · exact Segment.keeps_drop _ _

theorem binding_close (c : Consumer) (h : Host) : (c.close h).1.binding = none := by
  rw [close]
  split
  · assumption
  · rfl

end Consumer

end SharedRing
