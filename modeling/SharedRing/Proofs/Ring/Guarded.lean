import SharedRing.Proofs.Ring.Locality

/-!
`Guarded` has the transfers of a ring once more, with every access to memory, every length of a copy
and every sum or difference under a guard. An access must stay inside the header and the data area,
a copy must not be longer than the data area, sums and differences must fit their words, and a
buffer must be no larger than the longest message. A guard that does not hold ends the transfer with
a `Violation`.

No guard ever fails: on any memory at all the guarded transfers are the plain ones (`write_eq`,
`read_eq`, `readMessage_eq`). That rests on the capacity kept in the binding and on the checks of
`writable` and `nextLength?`, never on what the ring holds.
-/

namespace SharedRing

open SharedRing.Ring

inductive Violation where
  /-- An access to `n` bytes that are not all the ring's own. -/
  | outside (start n : Nat)
  /-- A copy that is longer than the data area. -/
  | copyTooLong (n : Nat)
  /-- A part of a byte string that reaches beyond its end. -/
  | beyondEnd (stop size : Nat)
  /-- A buffer that is larger than any message. -/
  | bufferTooLarge (n : Nat)
  | overflow
  | underflow

namespace Guarded

abbrev Result (α : Type) : Type := Except Violation α

def demand (p : Prop) [Decidable p] (v : Violation) : Result Unit :=
  if p then .ok () else .error v

/-! ### Guards -/

/-- The sum of two words, which must be a word. -/
def addWord (a b : UInt32) : Result UInt32 := do
  demand (a.toNat + b.toNat < 2 ^ 32) .overflow
  return a + b

def addLong (a b : UInt32) : Result Nat := do
  demand (a.toNat + b.toNat < 2 ^ 64) .overflow
  return a.toNat + b.toNat

def subWord (a b : UInt32) : Result UInt32 := do
  demand (b.toNat ≤ a.toNat) .underflow
  return a - b

def subSize (a b : Nat) : Result Nat := do
  demand (b ≤ a) .underflow
  return a - b

def part (src : Bytes) (start n : Nat) : Result Bytes := do
  demand (start + n ≤ src.size) (.beyondEnd (start + n) src.size)
  return src.extract start (start + n)

section

variable (r : Ring) (m : Memory)

def touch (a n : Nat) : Result Unit :=
  demand (r.base ≤ a ∧ a + n ≤ r.base + (Header.size + r.capacity.size)) (.outside a n)

def load (a n : Nat) : Result Bytes := do
  touch r a n
  return m.load a n

def store (a : Nat) (src : Bytes) : Result Memory := do
  touch r a src.size
  return m.store a src

def loadWord (a : Nat) : Result UInt32 := do
  touch r a 4
  return m.word a

def storeWord (a : Nat) (w : UInt32) : Result Memory := do
  touch r a 4
  return m.storeWord a w

def loadHead : Result UInt32 := loadWord r m (Header.headAt r.base)

def loadTail : Result UInt32 := loadWord r m (Header.tailAt r.base)

/-! ### Transfers -/

def copyIn (pos : UInt32) (src : Bytes) : Result Memory := do
  let offset := r.capacity.offset pos
  let first ← subSize r.capacity.size offset
  demand (src.size ≤ r.capacity.size) (.copyTooLong src.size)
  if src.size ≤ first then store r m (r.data + offset) src
  else
    let front ← part src 0 first
    let m ← store r m (r.data + offset) front
    let n ← subSize src.size first
    let back ← part src first n
    store r m r.data back

def copyOut (pos : UInt32) (n : Nat) : Result Bytes := do
  let offset := r.capacity.offset pos
  let first ← subSize r.capacity.size offset
  demand (n ≤ r.capacity.size) (.copyTooLong n)
  if n ≤ first then load r m (r.data + offset) n
  else
    let front ← load r m (r.data + offset) first
    let rest ← subSize n first
    let back ← load r m r.data rest
    return front ++ back

/-- Free bytes as a word; a distance of the cursors beyond the capacity leaves none. -/
def free (head tail : UInt32) : UInt32 :=
  if head - tail ≤ r.capacity.word then r.capacity.word - (head - tail) else 0

def write (msg : Bytes) : Result (Bool × Memory) := do
  -- a message whose frame has no length of 32 bits is refused before anything is read
  if msg.isEmpty || 2 ^ 32 ≤ msg.size + lengthSize then return (false, m)
  else
    let total := UInt32.ofNat (msg.size + lengthSize)
    let head ← loadHead r m
    let tail ← loadTail r m
    if free r head tail < total then return (false, m)
    else
      let len ← subWord total 4
      let m ← copyIn r m head (bytesOfWord len)
      let m ← copyIn r m (head + 4) msg
      let m ← storeWord r m (Header.headAt r.base) (head + total)
      return (true, m)

def checkLength (available len : UInt32) : Result (Option UInt32) := do
  let total ← addLong len 4
  if len = 0 ∨ available.toNat < total ∨ r.capacity.size < total then return none
  else return some len

def nextLength? (head tail : UInt32) : Result (Option UInt32) := do
  if head - tail < 4 then return none
  else
    let field ← copyOut r m tail lengthSize
    checkLength r (head - tail)
      (wordOfBytes (field.getD 0 0) (field.getD 1 0) (field.getD 2 0) (field.getD 3 0))

def read (out : Bytes) : Result Reading := do
  let tail ← loadTail r m
  let head ← loadHead r m
  match ← nextLength? r m head tail with
  | none => return ⟨0, out, m⟩
  | some len =>
      let total ← addWord len 4
      if out.size < len.toNat then
        let m ← storeWord r m (Header.tailAt r.base) (tail + total)
        return ⟨0, out, m⟩
      else
        let dst ← part out 0 len.toNat
        let msg ← copyOut r m (tail + 4) dst.size
        let m ← storeWord r m (Header.tailAt r.base) (tail + total)
        return ⟨len.toNat, msg ++ out.extract len.toNat out.size, m⟩

def readMessage : Result (Option Bytes × Memory) := do
  let tail ← loadTail r m
  let head ← loadHead r m
  match ← nextLength? r m head tail with
  | none => return (none, m)
  | some len =>
      demand (len.toNat ≤ r.capacity.size - lengthSize) (.bufferTooLarge len.toNat)
      let msg ← copyOut r m (tail + 4) len.toNat
      let total ← addWord len 4
      let m ← storeWord r m (Header.tailAt r.base) (tail + total)
      return (some msg, m)

def writable : Result Nat := do
  let head ← loadHead r m
  let tail ← loadTail r m
  return (free r head tail).toNat

def readable : Result Nat := do
  let tail ← loadTail r m
  let head ← loadHead r m
  return (head - tail).toNat

def hasData : Result Bool := do
  let n ← readable r m
  return lengthSize ≤ n

end

/-! ### No guard fails -/

theorem ok_bind {α β : Type} (a : α) (f : α → Result β) : Except.ok a >>= f = f a := rfl

theorem demand_of {p : Prop} [Decidable p] (h : p) (v : Violation) : demand p v = .ok () :=
  if_pos h

theorem addWord_eq {a b : UInt32} (h : a.toNat + b.toNat < 2 ^ 32) : addWord a b = .ok (a + b) := by
  rw [addWord, demand_of h]
  rfl

theorem addLong_eq (a b : UInt32) : addLong a b = .ok (a.toNat + b.toNat) := by
  have ha := a.toNat_lt
  have hb := b.toNat_lt
  rw [addLong, demand_of (by omega)]
  rfl

theorem subWord_eq {a b : UInt32} (h : b.toNat ≤ a.toNat) : subWord a b = .ok (a - b) := by
  rw [subWord, demand_of h]
  rfl

theorem subSize_eq {a b : Nat} (h : b ≤ a) : subSize a b = .ok (a - b) := by
  rw [subSize, demand_of h]
  rfl

theorem part_eq {src : Bytes} {start n : Nat} (h : start + n ≤ src.size) :
    part src start n = .ok (src.extract start (start + n)) := by
  rw [part, demand_of h]
  rfl

variable {r : Ring} {m : Memory}

theorem touch_eq {a n : Nat} (ha : r.base ≤ a)
    (hn : a + n ≤ r.base + (Header.size + r.capacity.size)) : touch r a n = .ok () :=
  demand_of ⟨ha, hn⟩ _

/-- Bytes of the data area, by their place in it. -/
theorem touch_data {i n : Nat} (h : i + n ≤ r.capacity.size) : touch r (r.data + i) n = .ok () :=
  touch_eq (by simp only [data]; omega) (by simp only [data]; omega)

theorem load_eq {i n : Nat} (h : i + n ≤ r.capacity.size) :
    load r m (r.data + i) n = .ok (m.load (r.data + i) n) := by
  rw [load, touch_data h]
  rfl

theorem store_eq {i : Nat} {src : Bytes} (h : i + src.size ≤ r.capacity.size) :
    store r m (r.data + i) src = .ok (m.store (r.data + i) src) := by
  rw [store, touch_data h]
  rfl

theorem loadHead_eq : loadHead r m = .ok (r.head m) := by
  rw [loadHead, loadWord, touch_eq (by simp [Header.headAt])
    (by simp only [Header.headAt, Header.size]; omega)]
  rfl

theorem loadTail_eq : loadTail r m = .ok (r.tail m) := by
  rw [loadTail, loadWord, touch_eq (by simp [Header.tailAt])
    (by simp only [Header.tailAt, Header.size]; omega)]
  rfl

theorem storeHead_eq (pos : UInt32) :
    storeWord r m (Header.headAt r.base) pos = .ok (r.setHead m pos) := by
  rw [storeWord, touch_eq (by simp [Header.headAt])
    (by simp only [Header.headAt, Header.size]; omega)]
  rfl

theorem storeTail_eq (pos : UInt32) :
    storeWord r m (Header.tailAt r.base) pos = .ok (r.setTail m pos) := by
  rw [storeWord, touch_eq (by simp [Header.tailAt])
    (by simp only [Header.tailAt, Header.size]; omega)]
  rfl

theorem copyIn_eq {pos : UInt32} {src : Bytes} (h : src.size ≤ r.capacity.size) :
    copyIn r m pos src = .ok (r.copyIn m pos src) := by
  have hpos := r.capacity.offset_lt pos
  simp only [copyIn, Ring.copyIn, subSize_eq (Nat.le_of_lt hpos), demand_of h, ok_bind]
  generalize hfirst : r.capacity.size - r.capacity.offset pos = first
  split
  · exact store_eq (by omega)
  · have hback : first + (src.size - first) = src.size := by omega
    rw [part_eq (by omega), ok_bind, store_eq (by simp; omega), ok_bind, subSize_eq (by omega),
      ok_bind, part_eq (by omega), ok_bind, Nat.zero_add, hback]
    exact store_eq (i := 0) (by simp; omega)

theorem copyOut_eq {pos : UInt32} {n : Nat} (h : n ≤ r.capacity.size) :
    copyOut r m pos n = .ok (r.copyOut m pos n) := by
  have hpos := r.capacity.offset_lt pos
  simp only [copyOut, Ring.copyOut, subSize_eq (Nat.le_of_lt hpos), demand_of h, ok_bind]
  generalize hfirst : r.capacity.size - r.capacity.offset pos = first
  split
  · exact load_eq (by omega)
  · have hback : load r m r.data (n - first) = .ok (m.load r.data (n - first)) :=
      load_eq (i := 0) (by omega)
    rw [load_eq (by omega), ok_bind, subSize_eq (by omega), ok_bind, hback]
    rfl

theorem toNat_free : (free r (r.head m) (r.tail m)).toNat = r.writable m := by
  rw [free, Ring.writable, Ring.readable]
  split
  · rename_i hle
    rw [UInt32.toNat_sub_of_le _ _ hle, r.capacity.word_toNat]
  · rename_i hlt
    rw [UInt32.le_iff_toNat_le, r.capacity.word_toNat] at hlt
    simp only [UInt32.toNat_zero]
    omega

theorem write_eq (msg : Bytes) : write r m msg = .ok (r.write m msg) := by
  have hfree := toNat_free (r := r) (m := m)
  have hcap := r.capacity.size_le
  have hwritable : r.writable m ≤ r.capacity.size := Nat.sub_le _ _
  rw [write, Ring.write]
  by_cases hempty : msg.isEmpty = true
  · simp only [hempty, Bool.true_or, if_true]
    rfl
  · by_cases hlong : 2 ^ 32 ≤ msg.size + lengthSize
    · simp only [hempty, hlong, decide_true, Bool.or_true, if_true]
      rw [if_pos (by simp; omega)]
      rfl
    · have htotal : (UInt32.ofNat (msg.size + lengthSize)).toNat = msg.size + lengthSize := by
        rw [UInt32.toNat_ofNat', Nat.mod_eq_of_lt (by omega)]
      simp only [hempty, hlong, decide_false, Bool.or_self, Bool.false_eq_true, if_false, loadHead_eq,
        loadTail_eq, ok_bind, UInt32.lt_iff_toNat_lt, hfree, htotal, Bool.false_or,
        decide_eq_true_eq]
      split
      · rfl
      · have hlen : UInt32.ofNat (msg.size + lengthSize) - 4 = UInt32.ofNat msg.size := by
          rw [UInt32.ofNat_add]
          exact UInt32.add_sub_cancel _ _
        rw [subWord_eq (by rw [htotal]; simp [lengthSize]), ok_bind, hlen,
          copyIn_eq (r.size_bytesOfWord_le _), ok_bind, copyIn_eq (by omega), ok_bind, storeHead_eq]
        rfl

theorem checkLength_eq (available len : UInt32) :
    checkLength r available len = .ok (Option.map UInt32.ofNat
      (if len.toNat = 0 || available.toNat < len.toNat + lengthSize ||
          r.capacity.size < len.toNat + lengthSize then none else some len.toNat)) := by
  have hzero : len = 0 ↔ len.toNat = 0 := UInt32.toNat_inj.symm
  have hfour : (4 : UInt32).toNat = lengthSize := rfl
  simp only [checkLength, addLong_eq, ok_bind, hzero, hfour, Bool.or_eq_true, decide_eq_true_eq,
    or_assoc]
  split
  · rfl
  · rw [Option.map_some, UInt32.ofNat_toNat]
    rfl

theorem nextLength?_eq :
    nextLength? r m (r.head m) (r.tail m) = .ok ((r.nextLength? m).map UInt32.ofNat) := by
  have hfield : lengthSize ≤ r.capacity.size := Nat.le_trans (by decide) r.capacity.eight_le_size
  by_cases hshort : r.head m - r.tail m < 4
  · have hshort' : r.readable m < lengthSize := UInt32.lt_iff_toNat_lt.1 hshort
    rw [nextLength?, Ring.nextLength?, if_pos hshort, if_pos hshort']
    rfl
  · have hshort' : ¬r.readable m < lengthSize := fun h => hshort (UInt32.lt_iff_toNat_lt.2 h)
    rw [nextLength?, Ring.nextLength?, if_neg hshort, if_neg hshort', copyOut_eq hfield, ok_bind,
      checkLength_eq]
    rfl

/-- A length that is delivered, as the word it was read from. -/
theorem toNat_ofNat_of_nextLength? {n : Nat} (h : r.nextLength? m = some n) :
    (UInt32.ofNat n).toNat = n := by
  have hn := le_size_of_nextLength? h
  have hcap := r.capacity.size_le
  rw [UInt32.toNat_ofNat', Nat.mod_eq_of_lt (by omega)]

/-- Stepping over a message: its length and its bytes together are still a word. -/
theorem addWord_of_nextLength? {n : Nat} (h : r.nextLength? m = some n) :
    addWord (UInt32.ofNat n) 4 = .ok (UInt32.ofNat (n + lengthSize)) := by
  have hn := le_size_of_nextLength? h
  have hcap := r.capacity.size_le
  rw [addWord_eq (by rw [toNat_ofNat_of_nextLength? h]; simp [lengthSize] at hn ⊢; omega),
    UInt32.ofNat_add]
  rfl

theorem read_eq (out : Bytes) : read r m out = .ok (r.read m out) := by
  simp only [read, Ring.read, loadTail_eq, loadHead_eq, nextLength?_eq, ok_bind]
  cases h : r.nextLength? m with
  | none => rfl
  | some n =>
      have hn := le_size_of_nextLength? h
      simp only [Option.map_some, addWord_of_nextLength? h, toNat_ofNat_of_nextLength? h, ok_bind]
      by_cases hlong : out.size < n
      · rw [if_pos hlong, if_pos hlong, storeTail_eq]
        rfl
      · have hdst : (out.extract 0 (0 + n)).size = n := by simp; omega
        rw [if_neg hlong, if_neg hlong, part_eq (by omega), ok_bind, hdst, copyOut_eq (by omega),
          ok_bind, storeTail_eq]
        rfl

theorem readMessage_eq : readMessage r m = .ok (r.readMessage m) := by
  simp only [readMessage, Ring.readMessage, loadTail_eq, loadHead_eq, nextLength?_eq, ok_bind]
  cases h : r.nextLength? m with
  | none => rfl
  | some n =>
      have hn := le_size_of_nextLength? h
      simp only [Option.map_some, addWord_of_nextLength? h, toNat_ofNat_of_nextLength? h, ok_bind]
      rw [demand_of (by omega), ok_bind, copyOut_eq (by omega), ok_bind, storeTail_eq]
      rfl

theorem writable_eq : writable r m = .ok (r.writable m) := by
  rw [writable, loadHead_eq, ok_bind, loadTail_eq, ok_bind, toNat_free]
  rfl

theorem readable_eq : readable r m = .ok (r.readable m) := by
  rw [readable, loadTail_eq, ok_bind, loadHead_eq]
  rfl

theorem hasData_eq : hasData r m = .ok (r.hasData m) := by
  rw [hasData, readable_eq]
  rfl

end Guarded

end SharedRing
