import SharedRing.Proofs.Ring.Tampering

/-!
What a write changes. The memory may hold anything, cursors that no producer would leave included.
A message that is refused changes nothing. One that is accepted lays its frame behind the head, as
far around the data area as it takes, and moves the head past it; every other byte stays, those
between tail and head among them (`Ring.Appended`).

A ring's calls change its own bytes and depend on no others, so rings that were bound to spans which
do not overlap share a memory without noticing: in any interleaving of their calls each gives the
replies that it gives alone (`Ring.replies_shared`).
-/

namespace SharedRing

/-- A call on a ring, and not bytes that someone rewrites. -/
def Event.IsCall : Event → Prop
  | .rewrite _ _ => False
  | _ => True

theorem Event.IsCall.reply_ne_none {e : Event} (he : e.IsCall) (r : Ring) (m : Memory) :
    (r.event m e).1 ≠ none := by
  cases e with
  | rewrite a src => exact he.elim
  | _ => simp [Ring.event]

namespace Ring

variable {r r' : Ring} {m m' m₁ m₂ : Memory} {msg : Bytes} {base base' len len' : Nat}

/-! ### One write -/

/-- From any cursor on, a lap of the data area comes by every place of it. -/
theorem exists_lap (c : Capacity) (k : Nat) {j : Nat} (hj : j < c.size) :
    ∃ i, i < c.size ∧ (k + i) % c.size = j := by
  have hk := Nat.mod_lt k c.size_pos
  refine ⟨(j + (c.size - k % c.size)) % c.size, Nat.mod_lt _ c.size_pos, ?_⟩
  calc (k + (j + (c.size - k % c.size)) % c.size) % c.size
    _ = (k % c.size + (j + (c.size - k % c.size))) % c.size := by
        rw [Nat.add_mod_mod, Nat.mod_add_mod]
    _ = (j + c.size) % c.size := by
        congr 1
        omega
    _ = j := by rw [Nat.add_mod_right, Nat.mod_eq_of_lt hj]

structure Appended (r : Ring) (m m' : Memory) (msg : Bytes) : Prop where
  /-- The length and the bytes of the message lie around the data area, from the head on. -/
  frame : ∀ i (hi : i < (frame msg).size), r.byteAt m' ((r.head m).toNat + i) = (frame msg)[i]
  head : (r.head m').toNat = ((r.head m).toNat + msg.size + lengthSize) % UInt32.size
  /-- No byte is changed but those of the head and of the frame. -/
  others : ∀ a, a < r.base ∨ r.base + 4 ≤ a →
    (∀ i, i < (Ring.frame msg).size →
      a ≠ r.data + ((r.head m).toNat + i) % r.capacity.size) → m'.byte a = m.byte a
  tail : r.tail m' = r.tail m
  capacity : m'.word (Header.capacityAt r.base) = m.word (Header.capacityAt r.base)
  reserved : m'.word (Header.reservedAt r.base) = m.word (Header.reservedAt r.base)
  /-- The bytes that were unread stay, and are still in front of the frame. -/
  unread : ∀ j, j < r.readable m →
    r.byteAt m' ((r.tail m).toNat + j) = r.byteAt m ((r.tail m).toNat + j)
  /-- So do those in front of the header and behind the data area. -/
  outside : ∀ a, ¬r.Covers a → m'.byte a = m.byte a

/-- A byte of the data area changes only when a byte of the frame is laid there. -/
theorem byte_appendMessage_of_ne {a : Nat} (hmsg : msg.size + lengthSize ≤ r.capacity.size)
    (hhead : a < r.base ∨ r.base + 4 ≤ a)
    (hframe : ∀ i, i < (frame msg).size → a ≠ r.data + ((r.head m).toNat + i) % r.capacity.size) :
    (r.appendMessage m msg).byte a = m.byte a := by
  by_cases hdata : r.data ≤ a ∧ a < r.data + r.capacity.size
  · obtain ⟨i, hi, hlap⟩ := exists_lap r.capacity (r.head m).toNat
      (show a - r.data < r.capacity.size by omega)
    have ha : a = r.data + ((r.head m).toNat + i) % r.capacity.size := by omega
    have hbyte := byteAt_appendMessage (m := m) hmsg hi
    rw [dif_neg fun hin => hframe i hin ha] at hbyte
    simp only [byteAt, ← ha] at hbyte
    exact hbyte
  · exact byte_appendMessage_of_outside hmsg hhead (by omega)

/-- The unread bytes do not lie where there is room for the frame. -/
theorem byteAt_appendMessage_of_lt_readable (h : msg.size + lengthSize ≤ r.writable m) {j : Nat}
    (hj : j < r.readable m) :
    r.byteAt (r.appendMessage m msg) ((r.tail m).toNat + j) =
      r.byteAt m ((r.tail m).toNat + j) := by
  have hfits := writable_add_readable h (by simp [lengthSize])
  have hunread := unread_appendMessage h
  rw [unread, tail_appendMessage (by omega)] at hunread
  have hlen : j < (r.unread m ++ (Ring.frame msg).toList).length := by
    rw [List.length_append, length_unread]
    omega
  have hbyte := List.getElem_of_eq hunread.symm hlen
  rw [List.getElem_append_left (by simpa using hj), stream_getElem] at hbyte
  simp only [unread, stream_getElem] at hbyte
  exact hbyte.symm

theorem appended_appendMessage (h : msg.size + lengthSize ≤ r.writable m) :
    r.Appended m (r.appendMessage m msg) msg := by
  have hfits : msg.size + lengthSize ≤ r.capacity.size :=
    le_size_of_le_writable (Nat.not_lt_of_le h)
  have hword (a : Nat) (hlo : r.base + 4 ≤ a) (hhi : a + 4 ≤ r.data) :
      (r.appendMessage m msg).word a = m.word a := word_appendMessage hfits hlo hhi
  refine ⟨?_, ?_, ?_, tail_appendMessage hfits, ?_, ?_, ?_, ?_⟩
  · intro i hi
    rw [byteAt_appendMessage hfits (by rw [size_frame] at hi; omega), dif_pos hi]
  · exact (congrArg UInt32.toNat head_appendMessage).trans (toNat_skip ..)
  · intro a hhead hframe
    exact byte_appendMessage_of_ne hfits hhead hframe
  · exact hword _ (by simp [Header.capacityAt]) (by simp [Header.capacityAt, data, Header.size])
  · exact hword _ (by simp [Header.reservedAt]) (by simp [Header.reservedAt, data, Header.size])
  · intro j hj
    exact byteAt_appendMessage_of_lt_readable h hj
  · intro a ha
    simp only [Covers, Header.size] at ha
    exact byte_appendMessage_of_outside hfits (by omega) (by simp only [data, Header.size]; omega)

/-- A message is accepted when it is not empty and the room that the cursors leave is enough. -/
theorem write_eq_ite (r : Ring) (m : Memory) (msg : Bytes) :
    r.write m msg =
      if 0 < msg.size ∧ msg.size + lengthSize ≤ r.writable m then (true, r.appendMessage m msg)
      else (false, m) := by
  rw [write]
  by_cases hfits : 0 < msg.size ∧ msg.size + lengthSize ≤ r.writable m
  · rw [if_pos hfits, if_neg]
    simp only [Array.isEmpty, Bool.or_eq_true, decide_eq_true_eq]
    omega
  · rw [if_neg hfits, if_pos]
    simp only [Array.isEmpty, Bool.or_eq_true, decide_eq_true_eq]
    omega

/-! ### Rings that share a memory -/

variable {ι : Type}

def BoundTo (r : Ring) (base len : Nat) : Prop :=
  ∃ (m m' : Memory) (role : Role), bind m (some base) len role = .ok (r, m')

def Apart (r r' : Ring) : Prop := ∀ a, r.Covers a → ¬r'.Covers a

theorem apart_of_boundTo (hr : r.BoundTo base len) (hr' : r'.BoundTo base' len')
    (hspans : base + len ≤ base' ∨ base' + len' ≤ base) : r.Apart r' := by
  obtain ⟨_, _, _, hbind⟩ := hr
  obtain ⟨_, _, _, hbind'⟩ := hr'
  obtain ⟨hbase, hfits⟩ := of_bind hbind
  obtain ⟨hbase', hfits'⟩ := of_bind hbind'
  intro a ha ha'
  simp only [Covers] at ha ha'
  omega

/-- A call on one ring is not noticed by another. -/
theorem Apart.alike_event (h : r.Apart r') {e : Event} (he : e.IsCall) (hm : r'.Alike m₁ m) :
    r'.Alike m₁ (r.event m e).2 := by
  intro a ha
  rw [byte_event_of_not_covers (he.reply_ne_none r m) fun hr => h a hr ha]
  exact hm a ha

/-- What happens to rings in one memory, in the order in which it happens, and their replies in the
same order. -/
def shared (rings : ι → Ring) (m : Memory) : List (ι × Event) → List (ι × Reply) × Memory
  | [] => ([], m)
  | (i, e) :: es =>
      let (reply?, m) := (rings i).event m e
      let (rest, m) := shared rings m es
      (reply?.toList.map (i, ·) ++ rest, m)

variable [DecidableEq ι]

def only {α : Type} (i : ι) (xs : List (ι × α)) : List α :=
  xs.filterMap fun x => if x.1 = i then some x.2 else none

section Only

variable {α : Type} {i j : ι}

@[simp] theorem only_append (xs ys : List (ι × α)) :
    only i (xs ++ ys) = only i xs ++ only i ys :=
  List.filterMap_append

@[simp] theorem only_cons_self (x : α) (xs : List (ι × α)) :
    only i ((i, x) :: xs) = x :: only i xs := by
  simp [only]

theorem only_cons_of_ne (hj : j ≠ i) (x : α) (xs : List (ι × α)) :
    only i ((j, x) :: xs) = only i xs := by
  simp [only, hj]

@[simp] theorem only_map_self (xs : List α) : only i (xs.map (i, ·)) = xs := by
  induction xs with
  | nil => rfl
  | cons x xs ih => rw [List.map_cons, only_cons_self, ih]

theorem only_map_of_ne (hj : j ≠ i) (xs : List α) : only i (xs.map (j, ·)) = [] := by
  simp [only, List.filterMap_map, hj]

end Only

/-- In any interleaving of their calls rings reply as each does alone, on a memory that need only be
alike in its own part. -/
theorem replies_shared {rings : ι → Ring} (happart : ∀ i j, i ≠ j → (rings i).Apart (rings j))
    {es : List (ι × Event)} (hcalls : ∀ x ∈ es, x.2.IsCall) {i : ι}
    (hm : (rings i).Alike m₁ m) :
    only i (shared rings m es).1 = ((rings i).events m₁ (only i es)).1 := by
  induction es generalizing m m₁ with
  | nil => rfl
  | cons x es ih =>
      obtain ⟨j, e⟩ := x
      have hrest : ∀ x ∈ es, x.2.IsCall := fun x hx => hcalls x (List.mem_cons_of_mem _ hx)
      have he : e.IsCall := hcalls (j, e) (by simp)
      by_cases hj : j = i
      · subst hj
        obtain ⟨hreply, hnext⟩ := hm.event e
        rw [only_cons_self]
        simp only [shared, events, only_append, only_map_self, hreply, ih hrest hnext]
      · rw [only_cons_of_ne hj]
        simp only [shared, only_append, only_map_of_ne hj, List.nil_append]
        exact ih hrest ((happart j i hj).alike_event he hm)

end Ring

/-- A write on any memory. It is accepted if the message is not empty and fits into the room that
the cursors leave, which is none when they are further apart than the data area is long. When it is
refused the memory stays as it is; when it is accepted its frame is laid behind the head and the
head is moved, and no other byte changes. So rings in spans that do not overlap never notice each
other: neither this write, nor, in any order, the calls on any number of them. -/
theorem write_footprint {m₀ m₁ : Memory} {base len : Nat} {r : Ring}
    (hbind : Ring.bind m₀ (some base) len .producer = .ok (r, m₁)) (m : Memory) (msg : Bytes) :
    r.base = base ∧ Header.size + r.capacity.size ≤ len ∧
      ((r.write m msg).1 = true ↔ 0 < msg.size ∧
        msg.size + Ring.lengthSize ≤ r.capacity.size - (r.head m - r.tail m).toNat) ∧
      ((r.write m msg).1 = false → (r.write m msg).2 = m) ∧
      ((r.write m msg).1 = true → r.Appended m (r.write m msg).2 msg) ∧
      (∀ (r' : Ring) (base' len' : Nat), r'.BoundTo base' len' →
        base + len ≤ base' ∨ base' + len' ≤ base → r'.Alike m (r.write m msg).2) ∧
      ∀ (ι : Type) [DecidableEq ι] (rings : ι → Ring) (base len : ι → Nat),
        (∀ i, (rings i).BoundTo (base i) (len i)) →
        (∀ i j, i ≠ j → base i + len i ≤ base j ∨ base j + len j ≤ base i) →
        ∀ es : List (ι × Event), (∀ x ∈ es, x.2.IsCall) →
          ∀ i, Ring.only i (Ring.shared rings m es).1 =
            ((rings i).events m (Ring.only i es)).1 := by
  obtain ⟨hbase, hfits⟩ := Ring.of_bind hbind
  have hbound : r.BoundTo base len := ⟨m₀, m₁, .producer, hbind⟩
  refine ⟨hbase, hfits, ?_, ?_, ?_, ?_, ?_⟩
  · rw [Ring.write_eq_ite, ← Ring.readable, ← Ring.writable]
    split
    · exact iff_of_true rfl ‹_›
    · exact iff_of_false Bool.false_ne_true ‹_›
  · rw [Ring.write_eq_ite]
    split
    · rintro ⟨⟩
    · exact fun _ => rfl
  · rw [Ring.write_eq_ite]
    split
    · rename_i hroom
      exact fun _ => Ring.appended_appendMessage hroom.2
    · rintro ⟨⟩
  · intro r' base' len' hbound' hspans
    have happart := Ring.apart_of_boundTo hbound hbound' hspans
    exact happart.alike_event (e := .write msg) trivial fun _ _ => rfl
  · intro ι _ rings base len hbound hspans es hcalls i
    refine Ring.replies_shared ?_ hcalls fun _ _ => rfl
    exact fun i j hij => Ring.apart_of_boundTo (hbound i) (hbound j) (hspans i j hij)

/-- A message takes all the room that is left, in a ring whose head is about to pass `2 ^ 32`: its
length is cut by the end of the data area, and its bytes go round to the unread ones. One more byte
is refused. A second ring starts where the span of the first one ends. -/
theorem write_footprint_exact :
    let r : Ring := ⟨64, ⟨4, by decide, by decide⟩, .producer⟩
    let next : Ring := ⟨104, ⟨3, by decide, by decide⟩, .producer⟩
    let m := r.setTail (r.setHead (Header.publish .zeroed 64 16) 4294967294) 4294967290
    let msg : Bytes := #[1, 2, 3, 4, 5, 6, 7, 8]
    let m' := (r.write m msg).2
    Ring.bind .zeroed (some 64) 40 .producer = .ok (r, Header.publish .zeroed 64 16) ∧
      r.Appended m m' msg ∧ (r.write m' #[9]).2 = m' ∧ next.Alike m m' ∧
      Ring.only false (Ring.shared (fun b : Bool => if b then next else r) m
        [(true, .hasData), (false, .write #[9]), (true, .write #[7]), (false, .readable)]).1 =
          [.accepted true, .size 9] := by
  intro r next m msg m'
  have hbind : Ring.bind .zeroed (some 64) 40 .producer =
      .ok (r, Header.publish .zeroed 64 16) := rfl
  have hnext : next.BoundTo 104 24 := ⟨.zeroed, Header.publish .zeroed 104 8, .producer, rfl⟩
  obtain ⟨-, -, hiff, -, happended, hothers, hshared⟩ := write_footprint hbind m msg
  obtain ⟨-, -, -, hrefused, -⟩ := write_footprint hbind m' #[9]
  have hwrite : (r.write m #[9]).1 = true := by decide +kernel
  have hreadable : r.readable (r.write m #[9]).2 = 9 := by decide +kernel
  have hreplies : (r.events m [.write #[9], .readable]).1 = [.accepted true, .size 9] := by
    simp only [Ring.events, Ring.event, hwrite, hreadable]
    rfl
  refine ⟨hbind, happended (hiff.2 (by decide +kernel)), hrefused (by decide +kernel),
    hothers next 104 24 hnext (Or.inl (by decide)), ?_⟩
  rw [hshared Bool _ (fun b => if b then 104 else 64) (fun b => if b then 24 else 40)]
  · exact hreplies
  · intro b
    cases b
    · exact ⟨_, _, _, hbind⟩
    · exact hnext
  · decide
  · simp [Event.IsCall]

end SharedRing
