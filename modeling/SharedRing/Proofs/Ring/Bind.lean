import SharedRing.Proofs.Capacity
import SharedRing.Proofs.Ring.Contents

/-!
What a successful `bind` says. The producer's publishes a fresh header for a capacity that only
the length decides, so binding again gives the same ring on any memory. The consumer's finds the
published capacity and changes nothing; whether it succeeds is decided by that word and the length.
-/

namespace SharedRing

theorem Capacity.word_of_ofWord? {w : UInt32} {c : Capacity} (h : Capacity.ofWord? w = some c) :
    c.word = w := by
  rw [Capacity.ofWord?] at h
  split at h
  · rename_i hw
    cases h
    rw [Capacity.word, Capacity.size, hw.2, UInt32.ofNat_toNat]
  · cases h

@[simp] theorem Capacity.ofWord?_word (c : Capacity) : Capacity.ofWord? c.word = some c := by
  have hlog : c.word.toNat.log2 = c.log := by rw [c.word_toNat, Capacity.size, Nat.log2_two_pow]
  rw [Capacity.ofWord?]
  rw [dif_pos (by rw [hlog, c.word_toNat]; exact ⟨c.three_le_log, rfl⟩)]
  cases c
  simp_all

theorem Capacity.word_inj {c c' : Capacity} (h : c.word = c'.word) : c = c' := by
  have hsome : some c = some c' := by rw [← c.ofWord?_word, h, c'.ofWord?_word]
  exact Option.some.inj hsome

namespace Ring

variable {r : Ring} {m m' : Memory} {base len : Nat}

/-- A producer's ring. Its capacity is what the length leaves, rounded, whatever the memory. -/
structure BoundProducer (r : Ring) (len : Nat) : Prop where
  role : r.role = .producer
  size_le : Header.size ≤ len
  aligned : r.base % Header.align = 0
  rounded : r.capacity.word = roundedCapacity (len - Header.size)

theorem BoundProducer.fits (h : r.BoundProducer len) : Header.size + r.capacity.size ≤ len := by
  have hle := toNat_roundedCapacity_le (len - Header.size)
  rw [← h.rounded, r.capacity.word_toNat] at hle
  have hlen := h.size_le
  omega

/-- The only capacities that a producer is refused are those that are too small. -/
theorem roundedCapacity_lt_of_eq_none (h : Capacity.ofWord? (roundedCapacity len) = none) :
    (roundedCapacity len).toNat < minCapacity := by
  apply Nat.lt_of_not_le
  intro hle
  obtain ⟨c, hc⟩ := exists_word_eq_roundedCapacity hle
  rw [← hc, c.ofWord?_word] at h
  cases h

theorem of_bind_producer_error {e : RingError} (hlen : Header.size ≤ len)
    (halign : base % Header.align = 0) (h : bind m (some base) len .producer = .error e) :
    ∃ c, c < minCapacity ∧ e = .invalidCapacity c len := by
  simp only [bind] at h
  rw [if_neg (by omega), if_neg (Decidable.not_not.2 halign)] at h
  split at h
  · rename_i hnone
    cases h
    exact ⟨_, roundedCapacity_lt_of_eq_none hnone, rfl⟩
  · cases h

theorem of_bind_producer (h : bind m (some base) len .producer = .ok (r, m')) :
    r.BoundProducer len ∧ r.base = base ∧ m' = Header.publish m base r.capacity.word := by
  simp only [bind] at h
  split at h
  · cases h
  · split at h
    · cases h
    · split at h
      · cases h
      · rename_i hlen halign _ c hc
        cases h
        have hword := Capacity.word_of_ofWord? hc
        exact ⟨⟨rfl, by omega, Decidable.not_not.1 halign, hword⟩, rfl, by rw [hword]⟩

/-- Binding a producer again to as many bytes gives the same ring and empties it. -/
theorem BoundProducer.bind (h : r.BoundProducer len) (m : Memory) :
    Ring.bind m (some r.base) len .producer =
      .ok (r, Header.publish m r.base r.capacity.word) := by
  obtain ⟨hrole, hlen, halign, hword⟩ := h
  obtain ⟨base, capacity, role⟩ := r
  cases hrole
  simp only [Ring.bind]
  rw [if_neg (by omega), if_neg (Decidable.not_not.2 halign), ← hword]
  simp only [Capacity.ofWord?_word]

/-- What a consumer finds: the capacity, or why the length or the published word is refused. -/
def attachable (capacity len : Nat) : Except RingError Nat :=
  if len < Header.size then .error (.spanTooSmall len)
  else if capacity ≤ len - Header.size then .ok capacity
  else .error (.invalidCapacity capacity len)

/-- Binding a consumer to a header that publishes a capacity, at an aligned base. -/
theorem bind_consumer {c : Capacity} (halign : base % Header.align = 0)
    (hword : m.word (Header.capacityAt base) = c.word) :
    bind m (some base) len .consumer =
      (attachable c.size len).map fun _ => (⟨base, c, .consumer⟩, m) := by
  simp only [bind, attachable]
  split
  · rfl
  · rw [if_neg (by omega)]
    simp only [hword, Capacity.ofWord?_word, c.word_toNat]
    split <;> rfl

theorem of_bind_consumer (h : bind m (some base) len .consumer = .ok (r, m')) :
    r = ⟨base, r.capacity, .consumer⟩ ∧ r.capacity.word = m.word (Header.capacityAt base) ∧
      Header.size + r.capacity.size ≤ len ∧ m' = m := by
  simp only [bind] at h
  split at h
  · cases h
  · split at h
    · cases h
    · split at h
      · cases h
      · rename_i c hc
        split at h
        · rename_i hfits
          cases h
          exact ⟨rfl, Capacity.word_of_ofWord? hc, by dsimp only; omega, rfl⟩
        · cases h

/-- The two ends of one span see the same ring. -/
theorem eq_of_bind {p c : Ring} {m₁ m₂ : Memory} {len' : Nat}
    (hp : bind m (some base) len .producer = .ok (p, m₁))
    (hc : bind m₁ (some base) len' .consumer = .ok (c, m₂)) :
    p.BoundProducer len ∧ c = { p with role := .consumer } ∧ p.base = base ∧ m₂ = m₁ ∧
      m₁ = Header.publish m base p.capacity.word := by
  obtain ⟨hbound, hbase, hm₁⟩ := of_bind_producer hp
  obtain ⟨hcons, hword, -, hm₂⟩ := of_bind_consumer hc
  have hcapacity : c.capacity = p.capacity := by
    apply Capacity.word_inj
    have hload := congrArg Header.capacity (Header.load_publish m base p.capacity.word)
    rw [hword, hm₁]
    exact hload
  refine ⟨hbound, ?_, hbase, hm₂, hm₁⟩
  rw [hcons, hcapacity, ← hbase]

/-- A fresh header publishes the capacity, with both cursors at zero. -/
theorem word_publish (m : Memory) (base : Nat) (w : UInt32) :
    (Header.publish m base w).word (Header.headAt base) = 0 ∧
      (Header.publish m base w).word (Header.tailAt base) = 0 ∧
      (Header.publish m base w).word (Header.capacityAt base) = w ∧
      (Header.publish m base w).word (Header.reservedAt base) = 0 := by
  have h := Header.load_publish m base w
  simp only [Header.load, Header.mk.injEq] at h
  exact h

theorem holds_publish (r : Ring) (m : Memory) (w : UInt32) :
    r.Holds (Header.publish m r.base w) [] := by
  obtain ⟨hhead, htail, -, -⟩ := word_publish m r.base w
  exact Holds.of_head_eq_tail (hhead.trans htail.symm)

def setCursors (r : Ring) (m : Memory) : Option UInt32 → Memory
  | none => m
  | some pos => r.setTail (r.setHead m pos) pos

/-- Wherever the cursors of a fresh ring are moved, it holds nothing. -/
theorem holds_setCursors (h : r.Holds m []) (pos? : Option UInt32) :
    r.Holds (r.setCursors m pos?) [] := by
  cases pos? with
  | none => exact h
  | some pos => exact Holds.of_head_eq_tail (by simp [setCursors])

theorem head_setCursors (h : r.head m = 0) (pos? : Option UInt32) :
    r.head (r.setCursors m pos?) = pos?.getD 0 := by
  cases pos? with
  | none => exact h
  | some pos => simp [setCursors]

theorem tail_setCursors (h : r.tail m = 0) (pos? : Option UInt32) :
    r.tail (r.setCursors m pos?) = pos?.getD 0 := by
  cases pos? with
  | none => exact h
  | some pos => simp [setCursors]

theorem word_setCursors {a : Nat} (h : r.base + 8 ≤ a) (pos? : Option UInt32) :
    (r.setCursors m pos?).word a = m.word a := by
  cases pos? with
  | none => rfl
  | some pos => rw [setCursors, word_setTail (Or.inr h), word_setHead (Or.inr (by omega))]

end Ring

end SharedRing
