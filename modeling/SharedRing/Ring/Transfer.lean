import SharedRing.Ring.Basic

/-!
Messages in and out of a ring. A message is four bytes of length, least significant first, and
then its bytes; both wrap at the end of the data area. Writing refuses what does not fit and
empty messages. Both ways of reading take the same message (`nextLength?`) and move the tail past
it; one that is not complete, or whose length no producer would write, stays where it is.
-/

namespace SharedRing.Ring

/-- Copies `src` into the data area from the cursor `pos` on, in two parts when it wraps. -/
def copyIn (r : Ring) (m : Memory) (pos : UInt32) (src : Bytes) : Memory :=
  let offset := r.capacity.offset pos
  let first := r.capacity.size - offset
  if src.size ≤ first then m.store (r.data + offset) src
  else (m.store (r.data + offset) (src.extract 0 first)).store r.data (src.extract first src.size)

def copyOut (r : Ring) (m : Memory) (pos : UInt32) (n : Nat) : Bytes :=
  let offset := r.capacity.offset pos
  let first := r.capacity.size - offset
  if n ≤ first then m.load (r.data + offset) n
  else m.load (r.data + offset) first ++ m.load r.data (n - first)

def skip (pos : UInt32) (n : Nat) : UInt32 := pos + UInt32.ofNat (n + lengthSize)

/-- Lays a message behind the unread bytes and moves the head past it. -/
def appendMessage (r : Ring) (m : Memory) (msg : Bytes) : Memory :=
  let head := r.head m
  -- the head moves last, when the whole message is there to be read
  let m' := r.copyIn m head (bytesOfWord (UInt32.ofNat msg.size))
  let m' := r.copyIn m' (head + UInt32.ofNat lengthSize) msg
  r.setHead m' (skip head msg.size)

def write (r : Ring) (m : Memory) (msg : Bytes) : Bool × Memory :=
  if msg.isEmpty || r.writable m < msg.size + lengthSize then (false, m)
  else (true, r.appendMessage m msg)

def lengthAtTail (r : Ring) (m : Memory) : Nat :=
  let field := r.copyOut m (r.tail m) lengthSize
  (wordOfBytes (field.getD 0 0) (field.getD 1 0) (field.getD 2 0) (field.getD 3 0)).toNat

/-- The length of the message at the tail, if it is complete and could fit the data area. -/
def nextLength? (r : Ring) (m : Memory) : Option Nat :=
  if r.readable m < lengthSize then none
  else
    let n := r.lengthAtTail m
    if n = 0 || r.readable m < n + lengthSize || r.capacity.size < n + lengthSize then none
    else some n

/-- Memory in which nothing was stored holds no message. -/
theorem nextLength?_zeroed (r : Ring) : r.nextLength? .zeroed = none := by
  have h : r.readable .zeroed = 0 := by
    have hw (a : Nat) : Memory.zeroed.word a = 0 := rfl
    simp [readable, head, tail, hw]
  simp [nextLength?, h, lengthSize]

def messageAtTail (r : Ring) (m : Memory) (n : Nat) : Bytes :=
  r.copyOut m (r.tail m + UInt32.ofNat lengthSize) n

def dropMessage (r : Ring) (m : Memory) (n : Nat) : Memory :=
  r.setTail m (skip (r.tail m) n)

theorem le_readable_of_nextLength? {r : Ring} {m : Memory} {n : Nat}
    (h : r.nextLength? m = some n) : n + lengthSize ≤ r.readable m := by
  unfold nextLength? at h
  split at h
  · simp at h
  · dsimp only at h
    split at h
    · simp at h
    · rename_i hn
      simp only [Bool.or_eq_true, decide_eq_true_eq, not_or, Nat.not_lt] at hn
      simp only [Option.some.injEq] at h
      omega

/-- Dropping a message gives up exactly the bytes that it takes. -/
theorem readable_dropMessage {r : Ring} {m : Memory} {n : Nat}
    (h : n + lengthSize ≤ r.readable m) :
    r.readable (r.dropMessage m n) = r.readable m - (n + lengthSize) := by
  have hlt := (r.head m - r.tail m).toNat_lt
  have hk : (UInt32.ofNat (n + lengthSize)).toNat = n + lengthSize := by
    simp only [readable] at h
    simp only [UInt32.toNat_ofNat']
    omega
  simp only [readable, dropMessage, head_setTail, tail_setTail, skip]
  rw [show r.head m - (r.tail m + UInt32.ofNat (n + lengthSize)) =
      (r.head m - r.tail m) - UInt32.ofNat (n + lengthSize) by
    simp only [UInt32.sub_eq_add_neg, UInt32.neg_add, UInt32.add_assoc]]
  rw [UInt32.toNat_sub_of_le, hk]
  rw [UInt32.le_iff_toNat_le, hk]
  exact h

structure Reading where
  length : Nat
  out : Bytes
  memory : Memory

/-- Takes the next message into the front of `out`. A message longer than `out` is dropped, and
like no message at all it delivers nothing. -/
def read (r : Ring) (m : Memory) (out : Bytes) : Reading :=
  match r.nextLength? m with
  | none => ⟨0, out, m⟩
  | some n =>
      -- keeping what does not fit would block all messages behind it
      if out.size < n then ⟨0, out, r.dropMessage m n⟩
      else ⟨n, r.messageAtTail m n ++ out.extract n out.size, r.dropMessage m n⟩

/-- A read changes the memory as dropping the next message does, if there is one. -/
theorem read_memory (r : Ring) (m : Memory) (out : Bytes) :
    (r.read m out).memory =
      match r.nextLength? m with
      | none => m
      | some n => r.dropMessage m n := by
  unfold read
  cases r.nextLength? m with
  | none => rfl
  | some n =>
      dsimp only
      split <;> rfl

def readMessage (r : Ring) (m : Memory) : Option Bytes × Memory :=
  match r.nextLength? m with
  | none => (none, m)
  | some n => (some (r.messageAtTail m n), r.dropMessage m n)

end SharedRing.Ring
