import SharedRing.Proofs.Channel.Opening
import SharedRing.Proofs.Ring.Wire

/-!
Objects with rings in them. A `Ledger` is a host with, for every object, what was accepted for it
and what was taken out of it. An object carries a ring when the traffic of that ring is in order
(`Ledger.Carries`), and then what was accepted is what was taken out and what can still be read.

`Ledger.Follows` is what all calls have in common: rings stay, and a new name refers to a ring.
There is a lemma for each kind of call, those that keep the host, those that add an object and
those that transfer messages.
-/

namespace SharedRing

open Host

structure Ledger where
  host : Host
  /-- What was accepted for an object, the oldest message first. -/
  accepted : ObjectId → List Bytes
  /-- What was taken out of an object, delivered or discarded, in this order. -/
  consumed : ObjectId → List Bytes

/-- The messages that an object holds, taken out one after another by a reader of all its bytes. -/
def Host.unread (h : Host) (id : ObjectId) : List Bytes :=
  match Ring.bind (h.memory id) (some 0) (h.held id) .consumer with
  | .error _ => []
  | .ok (r, m) => r.drain m

namespace Ledger

def traffic (l : Ledger) (id : ObjectId) : Traffic :=
  ⟨l.host.memory id, l.accepted id, l.consumed id⟩

structure Carries (l : Ledger) (id : ObjectId) (c : Capacity) : Prop where
  fits : Header.size + c.size ≤ l.host.held id
  rounded : c.word = Ring.roundedCapacity (l.host.held id - Header.size)
  held_lt : l.host.held id < mapLimit
  sound : (l.traffic id).Sound ⟨0, c, .producer⟩ 0

structure Serves (l : Ledger) (b : Binding) (id : ObjectId) (side : Role) : Prop where
  object : b.object? = some id
  ring : ∃ c, b.ring = ⟨0, c, side⟩ ∧ l.Carries id c

/-- From one ledger to the next, objects keep their rings, those whose traffic changes have one,
and so have those that get a name. -/
structure Follows (first : Nat) (l l' : Ledger) : Prop where
  size_le : l.host.objects.size ≤ l'.host.objects.size
  objects : ∀ id, first ≤ id → l'.traffic id = l.traffic id ∨ ∃ c, l'.Carries id c
  carries : ∀ id c, first ≤ id → l.Carries id c → l'.Carries id c
  names : ∀ e ∈ l'.host.names, e ∈ l.host.names ∨
    first ≤ e.2 ∧ isRefused e.1 = false ∧ ∃ c, l'.Carries e.2 c

variable {l l' : Ledger} {first : Nat} {id : ObjectId} {c : Capacity} {h' : Host}

theorem Carries.lt_size (hc : l.Carries id c) : id < l.host.objects.size := by
  apply Nat.lt_of_not_le
  intro hle
  have hfits := hc.fits
  have hnone : l.host.held id = 0 := by simp [held, object?, hle]
  rw [hnone] at hfits
  have hheader : 0 < Header.size := by decide
  omega

/-- Carrying depends on the size and the traffic of the object alone. -/
theorem Carries.congr (hc : l.Carries id c) (hheld : l'.host.held id = l.host.held id)
    (htraffic : l'.traffic id = l.traffic id) : l'.Carries id c where
  fits := by rw [hheld]; exact hc.fits
  rounded := by rw [hheld]; exact hc.rounded
  held_lt := by rw [hheld]; exact hc.held_lt
  sound := by rw [htraffic]; exact hc.sound

/-- An object carries one ring. -/
theorem Carries.eq {c' : Capacity} (hc : l.Carries id c) (hc' : l.Carries id c') : c = c' :=
  Capacity.word_inj (hc.sound.capacity.symm.trans hc'.sound.capacity)

/-- What was accepted and not consumed is what can still be read. -/
theorem Carries.unread (hc : l.Carries id c) :
    l.accepted id = l.consumed id ++ l.host.unread id ∧
      (⟨0, c, .consumer⟩ : Ring).Holds (l.host.memory id) (l.host.unread id) := by
  obtain ⟨q, haccepted, hholds⟩ := hc.sound.pending
  have hview : (⟨0, c, .consumer⟩ : Ring).Holds (l.host.memory id) q := hholds.of_eq rfl rfl
  have hfits := hc.fits
  have hword : (l.host.memory id).word (Header.capacityAt 0) = c.word := hc.sound.capacity
  have hunread : l.host.unread id = q := by
    rw [Host.unread, Ring.bind_consumer rfl hword, Ring.attachable, if_neg (by omega),
      if_pos (by omega)]
    exact hview.drain
  rw [hunread]
  exact ⟨haccepted, hview⟩

/-- The ring that is bound is the one in the object. -/
theorem Carries.serves {b : Binding} (hc : l.Carries id c) (hb : b.On l.host id) :
    l.Serves b id b.ring.role := by
  have hcapacity : b.ring.capacity = c :=
    Capacity.word_inj (hb.published.symm.trans hc.sound.capacity)
  refine ⟨hb.object, c, ?_, hc⟩
  rw [← hcapacity, ← hb.base]

/-- An object of zeros has nothing to read. -/
theorem unread_of_zeroed {h : Host} (hzeroed : h.memory id = .zeroed) : h.unread id = [] := by
  rw [Host.unread]
  split
  · rfl
  · rename_i r m hbind
    obtain ⟨-, hword, -, -⟩ := Ring.of_bind_consumer hbind
    have hsize : r.capacity.size = 0 := by
      rw [← r.capacity.word_toNat, hword, hzeroed]
      rfl
    exact absurd hsize (Nat.ne_of_gt r.capacity.size_pos)

theorem Serves.holds {b : Binding} {side : Role} (hb : l.Serves b id side) :
    b.ring.Holds (l.host.memory id) (l.host.unread id) := by
  obtain ⟨c, hring, hc⟩ := hb.ring
  obtain ⟨-, hholds⟩ := hc.unread
  rw [hring]
  exact hholds.of_eq rfl rfl

theorem Serves.follows {b : Binding} {side : Role} (hb : l.Serves b id side)
    (hf : l.Follows first l') (hfirst : first ≤ id) : l'.Serves b id side := by
  obtain ⟨c, hring, hc⟩ := hb.ring
  exact ⟨hb.object, c, hring, hf.carries id c hfirst hc⟩

/-- What keeps the host keeps the rings. -/
theorem Follows.of_keeps (hk : l.host.Keeps h') : l.Follows first { l with host := h' } := by
  have htraffic (id : ObjectId) : ({ l with host := h' } : Ledger).traffic id = l.traffic id := by
    simp only [traffic, hk.memory]
  refine ⟨hk.size_le, fun id _ => Or.inl (htraffic id), ?_, fun e he => Or.inl (hk.names he)⟩
  intro id c _ hc
  exact hc.congr (hk.held id hc.lt_size) (htraffic id)

/-- A new object comes with a fresh ring, and with no messages. -/
theorem Follows.of_adds {name : String} {size : Nat}
    (ha : l.host.Adds h' name ⟨size, Header.publish .zeroed 0 c.word⟩)
    (hfirst : first ≤ l.host.objects.size) (haccepted : l.accepted l.host.objects.size = [])
    (hconsumed : l.consumed l.host.objects.size = []) (hfits : Header.size + c.size ≤ size)
    (hrounded : c.word = Ring.roundedCapacity (size - Header.size)) (hsize : size < mapLimit) :
    l.Follows first { l with host := h' } ∧
      ({ l with host := h' } : Ledger).Carries l.host.objects.size c := by
  have hnew : ({ l with host := h' } : Ledger).Carries l.host.objects.size c := by
    refine ⟨by rw [ha.held_new]; exact hfits, by rw [ha.held_new]; exact hrounded,
      by rw [ha.held_new]; exact hsize, ?_⟩
    simp only [traffic, ha.memory_new, haccepted, hconsumed]
    exact Traffic.Sound.of_bound (p := ⟨0, c, .producer⟩) rfl none
  have htraffic (id : ObjectId) (hid : id ≠ l.host.objects.size) :
      ({ l with host := h' } : Ledger).traffic id = l.traffic id := by
    simp only [traffic, ha.memory_old hid]
  refine ⟨⟨?_, ?_, ?_, ?_⟩, hnew⟩
  · show l.host.objects.size ≤ h'.objects.size
    rw [ha.objects, Array.size_push]
    omega
  · intro id _
    by_cases hid : id = l.host.objects.size
    · exact Or.inr ⟨c, hid ▸ hnew⟩
    · exact Or.inl (htraffic id hid)
  · intro id c' _ hc
    have hid := Nat.ne_of_lt hc.lt_size
    exact hc.congr (ha.held_old hid) (htraffic id hid)
  · intro e he
    rcases ha.mem_names he with rfl | he
    · exact Or.inr ⟨hfirst, ha.admitted, c, hnew⟩
    · exact Or.inl he

/-- A handle takes part in a transfer: the traffic of its object makes a step that keeps it in
order, and the other objects see nothing of it. -/
theorem Follows.of_transfer {b : Binding} (side : Role) {m : Memory}
    {accepted consumed : ObjectId → List Bytes}
    (hb : ∀ id, b.object? = some id → first ≤ id → l.Serves b id side)
    (hnew : ∀ id c, b.object? = some id → b.ring = ⟨0, c, side⟩ →
      (l.traffic id).Sound ⟨0, c, .producer⟩ 0 →
      (⟨m, accepted id, consumed id⟩ : Traffic).Sound ⟨0, c, .producer⟩ 0)
    (hother : ∀ id, b.object? ≠ some id →
      accepted id = l.accepted id ∧ consumed id = l.consumed id) :
    l.Follows first ⟨b.setMemory l.host m, accepted, consumed⟩ := by
  have hsame (i : ObjectId) (hi : b.object? ≠ some i) :
      (⟨b.setMemory l.host m, accepted, consumed⟩ : Ledger).traffic i = l.traffic i := by
    obtain ⟨haccepted, hconsumed⟩ := hother i hi
    simp only [traffic, b.memory_setMemory_of_ne hi, haccepted, hconsumed]
  have hcarries (i : ObjectId) (c : Capacity) (hfirst : first ≤ i) (hc : l.Carries i c) :
      (⟨b.setMemory l.host m, accepted, consumed⟩ : Ledger).Carries i c := by
    by_cases hi : b.object? = some i
    · obtain ⟨c', hring, hc'⟩ := (hb i hi hfirst).ring
      rw [← hc.eq hc'] at hring
      refine ⟨by rw [b.held_setMemory]; exact hc.fits, by rw [b.held_setMemory]; exact hc.rounded,
        by rw [b.held_setMemory]; exact hc.held_lt, ?_⟩
      simp only [traffic, b.setMemory_eq hi, memory_setMemory hc.lt_size]
      exact hnew i c hi hring hc.sound
    · exact hc.congr (b.held_setMemory _ _ i) (hsame i hi)
  refine ⟨Nat.le_of_eq (b.size_setMemory _ _).symm, ?_, hcarries, ?_⟩
  · intro i hfirst
    by_cases hi : b.object? = some i
    · obtain ⟨c, -, hc⟩ := (hb i hi hfirst).ring
      exact Or.inr ⟨c, hcarries i c hfirst hc⟩
    · exact Or.inl (hsame i hi)
  · intro e he
    rw [b.names_setMemory] at he
    exact Or.inl he

end Ledger

end SharedRing
