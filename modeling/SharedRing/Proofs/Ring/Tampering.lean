import SharedRing.Proofs.Ring.Guarded
import SharedRing.Proofs.Ring.Queue

/-!
Rings over memory that anyone may write to. Once a ring is bound nothing in its span can be relied
on: the cursors, the published capacity and the lengths of messages may be anything, and may change
between any two calls. `Event` are the calls and the rewriting of bytes in between, and a run of
them never leaves the span (`events_guarded`).
-/

namespace SharedRing

open SharedRing.Ring

/-- What happens to a bound ring. Bytes are rewritten by anyone who has them mapped. -/
inductive Event where
  | write (msg : Bytes)
  | read (out : Bytes)
  | readMessage
  | writable
  | readable
  | hasData
  | rewrite (a : Nat) (src : Bytes)

def Ring.event (r : Ring) (m : Memory) : Event → Option Reply × Memory
  | .write msg =>
      let (ok, m) := r.write m msg
      (some (.accepted ok), m)
  | .read out =>
      let res := r.read m out
      (some (.delivered res.length res.out), res.memory)
  | .readMessage =>
      let (msg?, m) := r.readMessage m
      (some (.message msg?), m)
  | .writable => (some (.size (r.writable m)), m)
  | .readable => (some (.size (r.readable m)), m)
  | .hasData => (some (.flag (r.hasData m)), m)
  | .rewrite a src => (none, m.store a src)

def Ring.events (r : Ring) (m : Memory) : List Event → List Reply × Memory
  | [] => ([], m)
  | e :: es =>
      let (reply?, m) := r.event m e
      let (rest, m) := r.events m es
      (reply?.toList ++ rest, m)

namespace Guarded

def event (r : Ring) (m : Memory) : Event → Result (Option Reply × Memory)
  | .write msg => do
      let (ok, m) ← write r m msg
      return (some (.accepted ok), m)
  | .read out => do
      let res ← read r m out
      return (some (.delivered res.length res.out), res.memory)
  | .readMessage => do
      let (msg?, m) ← readMessage r m
      return (some (.message msg?), m)
  | .writable => do return (some (.size (← writable r m)), m)
  | .readable => do return (some (.size (← readable r m)), m)
  | .hasData => do return (some (.flag (← hasData r m)), m)
  -- whoever rewrites is not bound to the span of the ring
  | .rewrite a src => return (none, m.store a src)

def events (r : Ring) (m : Memory) : List Event → Result (List Reply × Memory)
  | [] => return ([], m)
  | e :: es => do
      let (reply?, m) ← event r m e
      let (rest, m) ← events r m es
      return (reply?.toList ++ rest, m)

variable {r : Ring} {m : Memory}

theorem event_eq (e : Event) : event r m e = .ok (r.event m e) := by
  cases e with
  | write msg => rw [event, write_eq]; rfl
  | read out => rw [event, read_eq]; rfl
  | readMessage => rw [event, readMessage_eq]; rfl
  | writable => rw [event, writable_eq]; rfl
  | readable => rw [event, readable_eq]; rfl
  | hasData => rw [event, hasData_eq]; rfl
  | rewrite a src => rfl

/-- Nothing is asked of the memory, so what was rewritten does not matter for the rest. -/
theorem events_eq (es : List Event) : events r m es = .ok (r.events m es) := by
  induction es generalizing m with
  | nil => rfl
  | cons e es ih =>
      rw [events, event_eq, ok_bind]
      dsimp only
      rw [ih]
      rfl

end Guarded

namespace Ring

variable {r : Ring} {m m' m₁ : Memory} {base len : Nat} {role : Role}

/-- A call changes no byte that is not the ring's own. -/
theorem byte_event_of_not_covers {e : Event} {a : Nat} (he : (r.event m e).1 ≠ none)
    (ha : ¬r.Covers a) : (r.event m e).2.byte a = m.byte a := by
  cases e with
  | write msg => exact byte_write_of_not_covers ha msg
  | read out => exact byte_read_of_not_covers ha out
  | readMessage => exact byte_readMessage_of_not_covers ha
  | rewrite a src => exact absurd rfl he
  | _ => rfl

/-- The bytes that are not the ring's own do not matter for what happens to it. -/
theorem Alike.event (h : r.Alike m m') (e : Event) :
    (r.event m' e).1 = (r.event m e).1 ∧ r.Alike (r.event m e).2 (r.event m' e).2 := by
  cases e with
  | write msg =>
      obtain ⟨hok, hnext⟩ := h.write msg
      exact ⟨by simp only [Ring.event, hok], hnext⟩
  | read out =>
      obtain ⟨hlength, hout, hnext⟩ := h.read out
      exact ⟨by simp only [Ring.event, hlength, hout], hnext⟩
  | readMessage =>
      obtain ⟨hmsg, hnext⟩ := h.readMessage
      exact ⟨by simp only [Ring.event, hmsg], hnext⟩
  | writable => exact ⟨by simp only [Ring.event, h.writable], h⟩
  | readable => exact ⟨by simp only [Ring.event, h.readable], h⟩
  | hasData => exact ⟨by simp only [Ring.event, h.hasData], h⟩
  | rewrite a src => exact ⟨rfl, h.store a src⟩

theorem Alike.events (h : r.Alike m m') (es : List Event) :
    (r.events m' es).1 = (r.events m es).1 ∧ r.Alike (r.events m es).2 (r.events m' es).2 := by
  induction es generalizing m m' with
  | nil => exact ⟨rfl, h⟩
  | cons e es ih =>
      obtain ⟨hreply, hnext⟩ := h.event e
      obtain ⟨hrest, hlast⟩ := ih hnext
      simp only [Ring.events]
      exact ⟨by rw [hreply, hrest], hlast⟩

/-- Either side's ring lies in the bytes that it was bound to. -/
theorem of_bind (h : bind m (some base) len role = .ok (r, m₁)) :
    r.base = base ∧ Header.size + r.capacity.size ≤ len := by
  cases role with
  | producer =>
      obtain ⟨hbound, hbase, -⟩ := of_bind_producer h
      exact ⟨hbase, hbound.fits⟩
  | consumer =>
      obtain ⟨hcons, -, hfits, -⟩ := of_bind_consumer h
      exact ⟨by rw [hcons], hfits⟩

theorem length_read_le (r : Ring) (m : Memory) (out : Bytes) :
    (r.read m out).length ≤ min out.size (r.capacity.size - lengthSize) := by
  rw [read]
  split
  · exact Nat.zero_le _
  · rename_i n h
    have hn := le_size_of_nextLength? h
    split
    · exact Nat.zero_le _
    · exact Nat.le_min.2 ⟨Nat.le_of_not_lt ‹_›, Nat.le_sub_of_add_le hn⟩

theorem size_readMessage_le {m' : Memory} {msg : Bytes} (h : r.readMessage m = (some msg, m')) :
    msg.size ≤ r.capacity.size - lengthSize := by
  rw [readMessage] at h
  split at h
  · cases h
  · rename_i n hnext
    have hn := le_size_of_nextLength? hnext
    cases h
    rw [messageAtTail, size_copyOut]
    omega

end Ring

/-- A ring that was bound stays in its span, whatever becomes of the bytes there: on any memory,
and in any run of calls between which bytes are rewritten, no guard of `Guarded` fails. Bytes that
are not in the span are not changed by calls, and runs do not depend on them. What is delivered
never exceeds the longest message that the capacity allows. -/
theorem events_guarded {m m₁ : Memory} {base len : Nat} {role : Role} {r : Ring}
    (hbind : Ring.bind m (some base) len role = .ok (r, m₁)) :
    r.base = base ∧ Header.size + r.capacity.size ≤ len ∧
      (∀ (m' : Memory) (es : List Event), Guarded.events r m' es = .ok (r.events m' es)) ∧
      (∀ (m' : Memory) (e : Event) (a : Nat), (r.event m' e).1 ≠ none → ¬r.Covers a →
        (r.event m' e).2.byte a = m'.byte a) ∧
      (∀ (m' m'' : Memory) (es : List Event), r.Alike m' m'' →
        (r.events m'' es).1 = (r.events m' es).1) ∧
      (∀ (m' : Memory) (out : Bytes),
        (r.read m' out).length ≤ min out.size (r.capacity.size - Ring.lengthSize)) ∧
      ∀ (m' m'' : Memory) (msg : Bytes), r.readMessage m' = (some msg, m'') →
        msg.size ≤ r.capacity.size - Ring.lengthSize := by
  obtain ⟨hbase, hfits⟩ := Ring.of_bind hbind
  exact ⟨hbase, hfits, fun _ es => Guarded.events_eq es,
    fun _ _ _ he ha => Ring.byte_event_of_not_covers he ha, fun _ _ es h => (h.events es).1,
    fun m' out => r.length_read_le m' out, fun _ _ _ h => Ring.size_readMessage_le h⟩

/-- The head of an empty ring is moved back by one and a length is made as large as it can be: no
room is left, almost `2 ^ 32` bytes are there to be read, and none of them are a message. -/
theorem events_guarded_rewritten :
    let r : Ring := ⟨64, ⟨4, by decide, by decide⟩, .producer⟩
    let m := Header.publish .zeroed 64 16
    let es : List Event :=
      [.rewrite 64 #[255, 255, 255, 255], .rewrite 80 #[255, 255, 255, 255], .writable,
        .write #[4], .readable, .read #[0, 0]]
    Ring.bind .zeroed (some 64) 40 .producer = .ok (r, m) ∧
      (Guarded.events r m es).map Prod.fst =
        .ok [.size 0, .accepted false, .size 4294967295, .delivered 0 #[0, 0]] := by
  intro r m es
  have hbind : Ring.bind .zeroed (some 64) 40 .producer = .ok (r, m) := rfl
  let m₁ := (m.store 64 #[255, 255, 255, 255]).store 80 #[255, 255, 255, 255]
  let m₂ := (r.write m₁ #[4]).2
  have hwritable : r.writable m₁ = 0 := by decide +kernel
  have hwrite : (r.write m₁ #[4]).1 = false := by decide +kernel
  have hreadable : r.readable m₂ = 4294967295 := by decide +kernel
  have hlength : (r.read m₂ #[0, 0]).length = 0 := by decide +kernel
  have hout : (r.read m₂ #[0, 0]).out = #[0, 0] := by decide +kernel
  have hreplies : (r.events m es).1 =
      [.size 0, .accepted false, .size 4294967295, .delivered 0 #[0, 0]] := by
    simp only [es, Ring.events, Ring.event, Option.toList, List.cons_append, List.nil_append]
    rw [hwritable, hwrite, hreadable, hlength, hout]
  obtain ⟨-, -, hevents, -⟩ := events_guarded hbind
  exact ⟨hbind, (congrArg (Except.map Prod.fst) (hevents m es)).trans (congrArg Except.ok hreplies)⟩

end SharedRing
