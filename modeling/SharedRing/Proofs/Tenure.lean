import SharedRing.Proofs.Persistence

/-!
A handle's time in its slot. It begins with the operation that obtains the handle
(`Operation.obtains?`) and ends when the handle is dropped or another one is put into the slot.
Three calls change a handle meanwhile (`Handle.Call`); whatever else is done on the host leaves it
as it is (`Holdings.handles_step`). So a segment that stays in its slot throughout a run is told by
the calls on it alone (`Holdings.segment_run`).
-/

namespace SharedRing

inductive Handle.Call where
  | destroy
  | close
  | setUnlinkOnDrop (enabled : Bool)
  deriving DecidableEq, Repr

def Operation.call? (slot : Nat) : Operation → Option Handle.Call
  | .destroy i => if i = slot then some .destroy else none
  | .close i => if i = slot then some .close else none
  | .setUnlinkOnDrop i enabled => if i = slot then some (.setUnlinkOnDrop enabled) else none
  | _ => none

def Held.after (x : Held) (h : Host) : Handle.Call → Held
  | .destroy => { x with handle := (x.handle.destroy h).1 }
  | .close => { x with handle := (x.handle.close h).1 }
  | .setUnlinkOnDrop enabled => x.setUnlinkOnDrop enabled

/-- The slot that an operation puts a handle into; none when it obtains none. -/
def Operation.obtains? (w : Holdings) : Operation → Option Nat
  | .createSegment slot name size =>
      (Segment.create w.host name size).1.toOption.map fun _ => slot
  | .attachSegment slot name hint =>
      (Segment.attach w.host name hint).toOption.map fun _ => slot
  | .createProducer slot name requested =>
      (Producer.create w.host name requested).1.toOption.map fun _ => slot
  | .attachConsumer slot name hint =>
      (Consumer.attach w.host name hint).1.toOption.map fun _ => slot
  | _ => none

namespace Holdings

variable {w : Holdings} {slot : Nat} {op : Operation}

def Leaves (slot : Nat) : Holdings → List Operation → Prop
  | _, [] => True
  | w, op :: ops => op.obtains? w ≠ some slot ∧ Leaves slot (w.step op) ops

@[simp] theorem host_put (w : Holdings) (slot : Nat) (x? : Option Held) (h : Host) :
    (w.put slot x? h).host = h := by
  cases x? <;> rfl

theorem handles_put_map (w : Holdings) (i : Nat) (f : Held → Held) (h : Host) (slot : Nat) :
    (w.put i ((w.handles i).map f) h).handles slot =
      (w.handles slot).map fun x => if i = slot then f x else x := by
  by_cases hslot : i = slot
  · subst hslot
    cases hx : w.handles i <;> simp [put, hx]
  · cases w.handles i <;> simp [put, hslot, Function.update_of_ne (Ne.symm hslot)]

theorem handles_act (w : Holdings) (i : Nat) (f : Handle → Host → Handle × Host) (slot : Nat) :
    (w.act i f).handles slot = (w.handles slot).map fun x =>
      if i = slot then { x with handle := (f x.handle w.host).1 } else x := by
  have hput : (w.act i f).handles = (w.put i
      ((w.handles i).map fun x => { x with handle := (f x.handle w.host).1 }) w.host).handles := by
    rw [act]
    cases w.handles i <;> rfl
  rw [hput, handles_put_map]

theorem handles_obtained {α : Type} {i : Nat} {res : Except ChannelError α} {f : α → Held}
    (hop : (res.toOption.map fun _ => i) = some slot) (h : Host) :
    ∃ a, res = .ok a ∧ (w.put i (res.toOption.map f) h).handles slot = some (f a) := by
  cases res with
  | error e => cases hop
  | ok a =>
      obtain rfl : i = slot := Option.some.inj hop
      exact ⟨a, rfl, Function.update_self _ _ _⟩

/-- A call that may give a handle for one slot leaves all other slots alone, and that one too when
it gives none. -/
theorem handles_obtain {α : Type} {i : Nat} {res : Except ChannelError α} {f : α → Held}
    (hop : (res.toOption.map fun _ => i) ≠ some slot) (h : Host) :
    (w.put i (res.toOption.map f) h).handles slot = w.handles slot := by
  cases res with
  | error e => rfl
  | ok a =>
      have hi : i ≠ slot := fun heq => hop (congrArg some heq)
      exact Function.update_of_ne (Ne.symm hi) _ _

/-- What one operation does to the handle in a slot, while it stays there. -/
theorem handles_step (hop : op.obtains? w ≠ some slot) (hdrop : op ≠ .drop slot) :
    (w.step op).handles slot =
      (w.handles slot).map fun x => (op.call? slot).elim x (x.after w.host) := by
  have hself : w.handles slot = (w.handles slot).map fun x => x := by rw [Option.map_id']
  cases op with
  | createSegment i name size => exact (handles_obtain hop _).trans hself
  | attachSegment i name hint => exact (handles_obtain hop _).trans hself
  | createProducer i name requested => exact (handles_obtain hop _).trans hself
  | attachConsumer i name hint => exact (handles_obtain hop _).trans hself
  | setUnlinkOnDrop i enabled =>
      simp only [step, handles_put_map, Operation.call?]
      split <;> rfl
  | access i a =>
      have hact := w.handles_act i (fun x h => (x, x.access a h)) slot
      simp only [ite_self] at hact
      exact hact
  | destroy i =>
      simp only [step, handles_act, Operation.call?]
      split <;> rfl
  | close i =>
      simp only [step, handles_act, Operation.call?]
      split <;> rfl
  | drop i =>
      have hi : i ≠ slot := fun heq => hdrop (congrArg Operation.drop heq)
      simp only [step, Function.update_of_ne (Ne.symm hi), handles_act, if_neg hi]
      rfl
  | remove name => exact hself
  | publish s stopAfter elapsed => exact hself
  | receive s stopped => exact hself
  | refuse refusals => exact hself

@[simp] theorem handles_drop (w : Holdings) (slot : Nat) :
    (w.step (.drop slot)).handles slot = none := by
  simp only [step, Function.update_self]

end Holdings

/-! ### Segments -/

/-- A segment after a call. On which host the call is made does not matter to it. -/
def Segment.after (s : Segment) : Handle.Call → Segment
  | .destroy => { s with unlinked := true }
  | .close =>
      { s with
        mapping := none
        unlinked := s.unlinked || s.mapping.isSome && s.owner && s.unlinkOnDrop }
  | .setUnlinkOnDrop enabled => { s with unlinkOnDrop := enabled }

theorem Segment.close_fst (s : Segment) (h : Host) : (s.close h).1 = s.after .close := by
  obtain ⟨name, mapping, owner, unlinkOnDrop, unlinked⟩ := s
  cases mapping with
  | none => simp [close, after]
  | some p => cases owner <;> cases unlinkOnDrop <;> cases unlinked <;> rfl

@[simp] theorem Segment.name_after (s : Segment) (c : Handle.Call) :
    (s.after c).name = s.name := by
  cases c <;> rfl

@[simp] theorem Segment.owner_after (s : Segment) (c : Handle.Call) :
    (s.after c).owner = s.owner := by
  cases c <;> rfl

theorem Segment.foldl_after (s : Segment) (calls : List Handle.Call) :
    (calls.foldl after s).name = s.name ∧ (calls.foldl after s).owner = s.owner := by
  induction calls generalizing s with
  | nil => exact ⟨rfl, rfl⟩
  | cons c calls ih => simpa using ih (s.after c)

theorem Held.after_segment {x : Held} {s : Segment} (hx : x.handle = .segment s) (h : Host)
    (c : Handle.Call) : (x.after h c).handle = .segment (s.after c) := by
  obtain ⟨handle, name, created, unlinks⟩ := x
  subst hx
  cases c with
  | destroy => exact congrArg Handle.segment (s.destroy_fst h)
  | close => exact congrArg Handle.segment (s.close_fst h)
  | setUnlinkOnDrop enabled => rfl

namespace Holdings

variable {w : Holdings} {slot : Nat}

def handle? (w : Holdings) (slot : Nat) : Option Handle := (w.handles slot).map Held.handle

/-- The handle stays in the slot throughout a run: none is put there and it is not dropped. -/
def Stays (slot : Nat) : Holdings → List Operation → Prop
  | _, [] => True
  | w, op :: ops => op.obtains? w ≠ some slot ∧ op ≠ .drop slot ∧ Stays slot (w.step op) ops

theorem segment_step {s : Segment} {op : Operation} (hs : w.handle? slot = some (.segment s))
    (hop : op.obtains? w ≠ some slot) (hdrop : op ≠ .drop slot) :
    (w.step op).handle? slot = some (.segment ((op.call? slot).elim s s.after)) := by
  obtain ⟨x, hx, hhandle⟩ := Option.map_eq_some_iff.1 hs
  rw [handle?, handles_step hop hdrop, hx, Option.map_some, Option.map_some]
  cases op.call? slot with
  | none => exact congrArg some hhandle
  | some c => exact congrArg some (Held.after_segment hhandle w.host c)

/-- After a run a segment is what the calls on it make of it, in their order. -/
theorem segment_run {s : Segment} (hs : w.handle? slot = some (.segment s)) {ops : List Operation}
    (hops : w.Stays slot ops) :
    (w.run ops).handle? slot =
      some (.segment ((ops.filterMap (Operation.call? slot)).foldl Segment.after s)) := by
  induction ops generalizing w s with
  | nil => exact hs
  | cons op ops ih =>
      obtain ⟨hop, hdrop, hops⟩ := hops
      have hnext := segment_step hs hop hdrop
      rw [List.filterMap_cons]
      cases hcall : op.call? slot with
      | none =>
          rw [hcall] at hnext
          exact ih hnext hops
      | some c =>
          rw [hcall] at hnext
          exact ih hnext hops

structure Creates (w w₁ : Holdings) (slot : Nat) (name : String) (size : Nat) (s : Segment) :
    Prop where
  handle : w₁.handle? slot = some (.segment s)
  segment : s = ⟨s.name, some ⟨w.host.objects.size, size⟩, true, false, false⟩
  normalized : Name.normalize name = .ok s.name
  adds : w.host.Adds w₁.host s.name ⟨size, .zeroed⟩

theorem creates_of_ok {name : String} {size : Nat} {s : Segment}
    (hs : (Segment.create w.host name size).1 = .ok s) :
    w.Creates (w.step (.createSegment slot name size)) slot name size s := by
  obtain ⟨hsegment, hname, -, hadds⟩ := Segment.of_create_ok (Prod.ext hs rfl)
  have hslot : (w.step (.createSegment slot name size)).handles slot =
      some ⟨.segment s, name, true, false⟩ := by
    simp only [step, hs]
    exact Function.update_self ..
  refine ⟨?_, hsegment, hname, ?_⟩
  · rw [handle?, hslot]
    rfl
  · simp only [step, host_put]
    exact hadds

end Holdings

end SharedRing
