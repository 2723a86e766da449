import SharedRing.Proofs.Ring.Stream

/-!
The data area as a circle of slots. The byte that lies `i` bytes behind a cursor is in the slot
`slot pos i`, where cursors are counted modulo `2 ^ 32` and slots modulo the size of the area; from
any cursor on, one lap goes through all slots (`exists_slot`).

The copies, made in one part or in two, are the copies of single bytes from slot to slot
(`copies_by_slot`).
-/

namespace SharedRing.Ring

variable {r : Ring} {m : Memory} {pos : UInt32} {src : Bytes}

/-- The position in the data area of the byte that lies `i` bytes behind a cursor. -/
def slot (r : Ring) (pos : UInt32) (i : Nat) : Nat := (pos.toNat + i) % 2 ^ 32 % r.capacity.size

theorem slot_eq (r : Ring) (pos : UInt32) (i : Nat) :
    r.slot pos i = (pos.toNat + i) % r.capacity.size :=
  Nat.mod_mod_of_dvd _ r.capacity.size_dvd

theorem byte_slot (m : Memory) (pos : UInt32) (i : Nat) :
    m.byte (r.data + r.slot pos i) = r.byteAt m (pos.toNat + i) := by
  rw [slot_eq, byteAt]

/-- Every position is a slot, less than a lap behind the cursor. -/
theorem exists_slot (pos : UInt32) {p : Nat} (hp : p < r.capacity.size) :
    ∃ i < r.capacity.size, r.slot pos i = p := by
  have hpos := r.capacity.offset_lt pos
  by_cases hbehind : r.capacity.offset pos ≤ p
  · refine ⟨p - r.capacity.offset pos, by omega, ?_⟩
    rw [slot_eq, r.capacity.add_mod_size pos (by omega), if_pos (by omega)]
    omega
  · refine ⟨p + r.capacity.size - r.capacity.offset pos, by omega, ?_⟩
    rw [slot_eq, r.capacity.add_mod_size pos (by omega), if_neg (by omega)]
    omega

theorem byte_copyIn_slot (hsrc : src.size ≤ r.capacity.size) {i : Nat} (hi : i < src.size) :
    (r.copyIn m pos src).byte (r.data + r.slot pos i) = src[i] := by
  rw [byte_slot, byteAt_copyIn hsrc (by omega), dif_pos hi]

theorem byte_copyIn_of_ne_slot (hsrc : src.size ≤ r.capacity.size) {a : Nat}
    (ha : ∀ i < src.size, a ≠ r.data + r.slot pos i) :
    (r.copyIn m pos src).byte a = m.byte a := by
  by_cases hdata : a < r.data ∨ r.data + r.capacity.size ≤ a
  · exact byte_copyIn_of_outside hsrc hdata
  · obtain ⟨i, hi, hslot⟩ := exists_slot pos (r := r) (p := a - r.data) (by omega)
    have haddr : a = r.data + r.slot pos i := by omega
    have hcopied : ¬i < src.size := fun hlt => ha i hlt haddr
    rw [haddr, byte_slot, byte_slot, byteAt_copyIn hsrc hi, dif_neg hcopied]

theorem toList_copyOut_slots {n : Nat} (hn : n ≤ r.capacity.size) :
    (r.copyOut m pos n).toList =
      (List.range n).map fun i => m.byte (r.data + r.slot pos i) := by
  rw [toList_copyOut hn, stream, List.range'_eq_map_range, List.map_map]
  exact List.map_congr_left fun i _ => (byte_slot m pos i).symm

/-- What was copied in comes out again at the same cursor. -/
theorem copyOut_copyIn (hsrc : src.size ≤ r.capacity.size) :
    r.copyOut (r.copyIn m pos src) pos src.size = src := by
  apply Array.toList_inj.1
  rw [toList_copyOut_slots hsrc]
  apply List.ext_getElem
  · simp
  · intro i hi _
    have hsize : i < src.size := by simpa using hi
    rw [List.getElem_map, List.getElem_range, byte_copyIn_slot hsrc hsize, Array.getElem_toList]

/-- At every cursor, for as many bytes as the area has or fewer: copying in puts each byte into its
slot and changes no other address; copying out takes each byte from its slot, whatever lies there;
so it takes what was copied in, also when the cursor goes round in between. -/
theorem copies_by_slot (r : Ring) (m : Memory) (pos : UInt32) {src : Bytes}
    (hsrc : src.size ≤ r.capacity.size) :
    (∀ (i : Nat) (hi : i < src.size),
        (r.copyIn m pos src).byte (r.data + r.slot pos i) = src[i]) ∧
      (∀ a, (∀ i < src.size, a ≠ r.data + r.slot pos i) →
        (r.copyIn m pos src).byte a = m.byte a) ∧
      (∀ (m' : Memory) (n : Nat), n ≤ r.capacity.size →
        (r.copyOut m' pos n).toList =
          (List.range n).map fun i => m'.byte (r.data + r.slot pos i)) ∧
      r.copyOut (r.copyIn m pos src) pos src.size = src :=
  ⟨fun _ hi => byte_copyIn_slot hsrc hi, fun _ => byte_copyIn_of_ne_slot hsrc,
    fun _ _ => toList_copyOut_slots, copyOut_copyIn hsrc⟩

/-- Eight bytes fill the smallest area; the cursor is zero again at the fourth of them, which lies
in the first slot. -/
theorem copies_by_slot_lap :
    (#[1, 2, 3, 4, 5, 6, 7, 8] : Bytes).size ≤ Capacity.size ⟨3, by decide, by decide⟩ ∧
      (copyIn ⟨0, ⟨3, by decide, by decide⟩, .producer⟩ .zeroed 4294967293
        #[1, 2, 3, 4, 5, 6, 7, 8]).byte 16 = 4 ∧
      copyOut ⟨0, ⟨3, by decide, by decide⟩, .producer⟩
        (copyIn ⟨0, ⟨3, by decide, by decide⟩, .producer⟩ .zeroed 4294967293
          #[1, 2, 3, 4, 5, 6, 7, 8]) 4294967293 8 = #[1, 2, 3, 4, 5, 6, 7, 8] := by
  have hsize : (#[1, 2, 3, 4, 5, 6, 7, 8] : Bytes).size ≤
      Capacity.size ⟨3, by decide, by decide⟩ := by decide
  obtain ⟨hin, -, -, hout⟩ :=
    copies_by_slot ⟨0, ⟨3, by decide, by decide⟩, .producer⟩ .zeroed 4294967293 hsize
  exact ⟨hsize, hin 3 (by decide), hout⟩

end SharedRing.Ring
