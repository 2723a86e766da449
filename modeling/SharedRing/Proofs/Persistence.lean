import Mathlib.Logic.Function.Basic
import SharedRing.Proofs.Confinement

/-!
Who may change what a name stands for. `Holdings` are a host and the handles on it: segments and
both ends of channels, each with a note of how it was obtained. `Operation` is all that is done with
them, and `Operation.rebinds?` is the one name of the host that an operation may remove or give to
another object. It goes by the notes and never looks at what is in a handle.

Every operation is confined to that name, which needs the notes to be right, and keeps them right
(`Holdings.Noted.step`). So a name that a run spares keeps its object and the object keeps its size
(`persists_run`).
-/

namespace SharedRing

open Host

variable {h : Host} {n : String} {n? : Option String}

/-! ### Holdings -/

inductive Handle where
  | segment (s : Segment)
  | producer (p : Producer)
  | consumer (c : Consumer)

inductive Access where
  | poke (start : Nat) (src : Bytes)
  | write (msg : Bytes)
  | read (out : Bytes)
  | readMessage

namespace Handle

/-- Each kind of handle has accesses of its own; others do nothing. -/
def access : Handle → Access → Host → Host
  | .segment s, .poke start src, h => (s.store? h start src).getD h
  | .producer p, .write msg, h => (p.write h msg).2
  | .consumer c, .read out, h => (c.read h out).2
  | .consumer c, .readMessage, h => (c.readMessage h).2
  | _, _, h => h

def destroy : Handle → Host → Handle × Host
  | .segment s, h =>
      let (s, h) := s.destroy h
      (.segment s, h)
  | .producer p, h =>
      let (p, h) := p.destroy h
      (.producer p, h)
  | .consumer c, h => (.consumer c, h)

def close : Handle → Host → Handle × Host
  | .segment s, h =>
      let (s, h) := s.close h
      (.segment s, h)
  | .producer p, h =>
      let (p, h) := p.close h
      (.producer p, h)
  | .consumer c, h =>
      let (c, h) := c.close h
      (.consumer c, h)

end Handle

structure Held where
  handle : Handle
  /-- The name as it was given. -/
  name : String
  /-- It was obtained by a creation, not by attaching. -/
  created : Bool
  /-- It was last told to remove the name when it goes away. -/
  unlinks : Bool

def Held.setUnlinkOnDrop (x : Held) (enabled : Bool) : Held :=
  match x.handle with
  | .segment s => { x with handle := .segment (s.setUnlinkOnDrop enabled), unlinks := enabled }
  | _ => x

structure Holdings where
  host : Host
  handles : Nat → Option Held

/-- What is done on a host. What is only asked of a handle leaves the host as it is by its type, and
is not among them. -/
inductive Operation where
  | createSegment (slot : Nat) (name : String) (size : Nat)
  | attachSegment (slot : Nat) (name : String) (hint : Nat)
  | createProducer (slot : Nat) (name : String) (requested : Nat)
  | attachConsumer (slot : Nat) (name : String) (hint : Nat)
  | setUnlinkOnDrop (slot : Nat) (enabled : Bool)
  | access (slot : Nat) (a : Access)
  | destroy (slot : Nat)
  | close (slot : Nat)
  | drop (slot : Nat)
  | remove (name : String)
  | publish (s : Video.ProducerSettings) (stopAfter : Option Nat) (elapsed : Nat → Duration)
  | receive (s : Video.ConsumerSettings) (stopped : Bool)
  /-- The system turns down other calls from now on. -/
  | refuse (refusals : Refusals)

namespace Holdings

def start (h : Host) : Holdings := ⟨h, fun _ => none⟩

/-- Puts a handle into a slot. One that was there before is put out of sight and stays as it is;
nothing is done to it. -/
def put (w : Holdings) (slot : Nat) (x? : Option Held) (h : Host) : Holdings :=
  match x? with
  | none => { w with host := h }
  | some x => ⟨h, Function.update w.handles slot (some x)⟩

def act (w : Holdings) (slot : Nat) (f : Handle → Host → Handle × Host) : Holdings :=
  match w.handles slot with
  | none => w
  | some x =>
      let (handle, h) := f x.handle w.host
      w.put slot (some { x with handle }) h

def step (w : Holdings) : Operation → Holdings
  | .createSegment slot name size =>
      let (res, h) := Segment.create w.host name size
      w.put slot (res.toOption.map fun s => ⟨.segment s, name, true, false⟩) h
  | .attachSegment slot name hint =>
      let res := Segment.attach w.host name hint
      w.put slot (res.toOption.map fun s => ⟨.segment s, name, false, false⟩) w.host
  | .createProducer slot name requested =>
      let (res, h) := Producer.create w.host name requested
      w.put slot (res.toOption.map fun p => ⟨.producer p, name, true, false⟩) h
  | .attachConsumer slot name hint =>
      let (res, h) := Consumer.attach w.host name hint
      w.put slot (res.toOption.map fun c => ⟨.consumer c, name, false, false⟩) h
  | .setUnlinkOnDrop slot enabled =>
      w.put slot ((w.handles slot).map fun x => x.setUnlinkOnDrop enabled) w.host
  | .access slot a => w.act slot fun x h => (x, x.access a h)
  | .destroy slot => w.act slot Handle.destroy
  | .close slot => w.act slot Handle.close
  | .drop slot =>
      let w := w.act slot Handle.close
      { w with handles := Function.update w.handles slot none }
  | .remove name => { w with host := Segment.remove w.host name }
  | .publish s stopAfter elapsed =>
      { w with host := (Video.publish s stopAfter elapsed w.host).2 }
  | .receive s stopped => { w with host := (Video.receive s stopped w.host).2 }
  | .refuse refusals => { w with host := { w.host with refusals } }

def run (w : Holdings) (ops : List Operation) : Holdings := ops.foldl step w

end Holdings

def Held.destroys? (x : Held) : Option String :=
  match x.handle with
  | .segment _ => objectName? x.name
  | .producer _ => objectName? x.name
  | .consumer _ => none

/-- The name that goes with a handle: that of a segment which created it and was told to remove
it. -/
def Held.takesAlong? (x : Held) : Option String :=
  match x.handle with
  | .segment _ => if x.created && x.unlinks then objectName? x.name else none
  | .producer _ => none
  | .consumer _ => none

/-- The name of the host that an operation may remove or give to another object. -/
def Operation.rebinds? (w : Holdings) : Operation → Option String
  | .createSegment _ name _ => objectName? name
  | .createProducer _ name _ => objectName? name
  | .remove name => objectName? name
  | .publish s _ _ => objectName? s.name
  | .destroy slot => (w.handles slot).bind Held.destroys?
  | .close slot => (w.handles slot).bind Held.takesAlong?
  | .drop slot => (w.handles slot).bind Held.takesAlong?
  | _ => none

/-! ### Notes are right -/

/-- Bytes do not matter to names. -/
theorem Handle.confined_access (x : Handle) (a : Access) (h : Host) (n? : Option String) :
    h.Confined (x.access a h) n? := by
  unfold access
  split
  · rename_i s start src
    cases hs : s.store? h start src with
    | none => exact .refl h n?
    | some h' => exact Segment.confined_store? hs n?
  · exact Producer.confined_write ..
  · exact Consumer.confined_read ..
  · exact Consumer.confined_readMessage ..
  · exact .refl h n?

def Held.Noted (x : Held) : Prop :=
  match x.handle with
  | .segment s => s.Noted x.name x.created x.unlinks
  | .producer p => p.Noted x.name
  | .consumer c => c.Noted x.name

namespace Held

variable {x : Held}

theorem Noted.destroy (hx : x.Noted) (h : Host) :
    h.Confined (x.handle.destroy h).2 x.destroys? ∧
      Held.Noted { x with handle := (x.handle.destroy h).1 } := by
  obtain ⟨handle, name, created, unlinks⟩ := x
  cases handle with
  | segment s =>
      have hs : s.Noted name created unlinks := hx
      exact ⟨hs.confined_destroy h, hs.destroy h⟩
  | producer p =>
      have hp : p.Noted name := hx
      exact ⟨hp.confined_destroy h, hp.destroy h⟩
  | consumer c => exact ⟨.refl h none, hx⟩

theorem Noted.close (hx : x.Noted) (h : Host) :
    h.Confined (x.handle.close h).2 x.takesAlong? ∧
      Held.Noted { x with handle := (x.handle.close h).1 } := by
  obtain ⟨handle, name, created, unlinks⟩ := x
  cases handle with
  | segment s =>
      have hs : s.Noted name created unlinks := hx
      exact ⟨hs.confined_close h, hs.close h⟩
  | producer p =>
      have hp : p.Noted name := hx
      exact ⟨hp.confined_close h none, hp.close h⟩
  | consumer c =>
      have hc : c.Noted name := hx
      exact ⟨hc.confined_close h none, hc.close h⟩

theorem Noted.setUnlinkOnDrop (hx : x.Noted) (enabled : Bool) :
    (x.setUnlinkOnDrop enabled).Noted := by
  obtain ⟨handle, name, created, unlinks⟩ := x
  cases handle with
  | segment s =>
      have hs : s.Noted name created unlinks := hx
      exact (⟨hs.normalized, hs.owner, rfl⟩ : (s.setUnlinkOnDrop enabled).Noted name created enabled)
  | producer p => exact hx
  | consumer c => exact hx

end Held

namespace Holdings

structure Noted (w : Holdings) : Prop where
  exist : w.host.NamesExist
  handles : ∀ slot x, w.handles slot = some x → x.Noted

variable {w : Holdings}

theorem noted_start (hnames : h.NamesExist) : (start h).Noted :=
  ⟨hnames, by rintro _ _ ⟨⟩⟩

theorem Noted.put (hw : w.Noted) (hc : w.host.Confined h n?) (slot : Nat) {x? : Option Held}
    (hx : ∀ x, x? = some x → x.Noted) : (w.put slot x? h).Noted := by
  cases x? with
  | none => exact ⟨hc.exist hw.exist, hw.handles⟩
  | some x =>
      refine ⟨hc.exist hw.exist, ?_⟩
      intro i y hy
      by_cases hi : i = slot
      · subst hi
        simp only [Holdings.put, Function.update_self] at hy
        exact hx y hy
      · simp only [Holdings.put, Function.update_of_ne hi] at hy
        exact hw.handles i y hy

/-- A handle that acts on the host, confined to a name and with its note still right. -/
theorem Noted.act (hw : w.Noted) (slot : Nat) {f : Handle → Host → Handle × Host}
    (hf : ∀ x : Held, w.handles slot = some x → x.Noted →
      w.host.Confined (f x.handle w.host).2 n? ∧
        Held.Noted { x with handle := (f x.handle w.host).1 }) :
    w.host.Confined (w.act slot f).host n? ∧ (w.act slot f).Noted := by
  cases hslot : w.handles slot with
  | none =>
      simp only [Holdings.act, hslot]
      exact ⟨.refl _ _, hw⟩
  | some x =>
      obtain ⟨hconfined, hnoted⟩ := hf x hslot (hw.handles slot x hslot)
      simp only [Holdings.act, hslot]
      exact ⟨hconfined, hw.put hconfined slot (by rintro _ ⟨⟩; exact hnoted)⟩

theorem Noted.close (hw : w.Noted) (slot : Nat) :
    w.host.Confined (w.step (.close slot)).host ((w.handles slot).bind Held.takesAlong?) ∧
      (w.step (.close slot)).Noted := by
  apply hw.act slot
  intro x hslot hx
  rw [hslot]
  exact hx.close w.host

theorem Noted.destroy (hw : w.Noted) (slot : Nat) :
    w.host.Confined (w.step (.destroy slot)).host ((w.handles slot).bind Held.destroys?) ∧
      (w.step (.destroy slot)).Noted := by
  apply hw.act slot
  intro x hslot hx
  rw [hslot]
  exact hx.destroy w.host

theorem Noted.drop (hw : w.Noted) (slot : Nat) :
    w.host.Confined (w.step (.drop slot)).host ((w.handles slot).bind Held.takesAlong?) ∧
      (w.step (.drop slot)).Noted := by
  obtain ⟨hconfined, hclosed⟩ := hw.close slot
  refine ⟨hconfined, hclosed.exist, ?_⟩
  intro i x hx
  by_cases hi : i = slot
  · subst hi
    simp only [Holdings.step, Function.update_self] at hx
    cases hx
  · simp only [Holdings.step, Function.update_of_ne hi] at hx
    exact hclosed.handles i x hx

theorem Noted.setUnlinkOnDrop (hw : w.Noted) (slot : Nat) (enabled : Bool) :
    w.host.Confined (w.step (.setUnlinkOnDrop slot enabled)).host none ∧
      (w.step (.setUnlinkOnDrop slot enabled)).Noted := by
  have hrefl := Confined.refl w.host none
  simp only [Holdings.step]
  cases hslot : w.handles slot with
  | none => exact ⟨hrefl, hw⟩
  | some x =>
      have hx := hw.handles slot x hslot
      exact ⟨hrefl, hw.put hrefl slot (by rintro _ ⟨⟩; exact hx.setUnlinkOnDrop enabled)⟩

/-- A call that may give a handle, and is confined to a name. -/
theorem Noted.obtain {α : Type} (hw : w.Noted) {h : Host} (hc : w.host.Confined h n?)
    (slot : Nat) {res : Except ChannelError α} {f : α → Held}
    (hf : ∀ a, res = .ok a → (f a).Noted) :
    w.host.Confined (w.put slot (res.toOption.map f) h).host n? ∧
      (w.put slot (res.toOption.map f) h).Noted := by
  cases res with
  | error e => exact ⟨hc, hw.put hc slot (by rintro _ ⟨⟩)⟩
  | ok a => exact ⟨hc, hw.put hc slot (by rintro _ ⟨⟩; exact hf a rfl)⟩

/-- One operation is confined to the name that it may rebind, and the notes stay right. -/
theorem Noted.step (hw : w.Noted) (op : Operation) :
    w.host.Confined (w.step op).host (op.rebinds? w) ∧ (w.step op).Noted := by
  cases op with
  | createSegment slot name size =>
      exact hw.obtain (Segment.confined_create ..) slot fun s hs =>
        Segment.noted_create (Prod.ext hs rfl)
  | createProducer slot name requested =>
      exact hw.obtain (Producer.confined_create ..) slot fun p hp =>
        Producer.noted_create (Prod.ext hp rfl)
  | attachSegment slot name hint =>
      exact hw.obtain (.refl ..) slot fun s hs => Segment.noted_attach hs
  | attachConsumer slot name hint =>
      exact hw.obtain (Consumer.confined_attach ..) slot fun c hc =>
        Consumer.noted_attach (Prod.ext hc rfl)
  | setUnlinkOnDrop slot enabled => exact hw.setUnlinkOnDrop slot enabled
  | access slot a =>
      exact hw.act slot fun x _ hx => ⟨x.handle.confined_access a w.host none, hx⟩
  | destroy slot => exact hw.destroy slot
  | close slot => exact hw.close slot
  | drop slot => exact hw.drop slot
  | remove name =>
      have hremove := Segment.confined_remove w.host name
      exact ⟨hremove, hremove.exist hw.exist, hw.handles⟩
  | publish s stopAfter elapsed =>
      have hpublish := Video.confined_publish s stopAfter elapsed w.host
      exact ⟨hpublish, hpublish.exist hw.exist, hw.handles⟩
  | receive s stopped =>
      have hreceive := Video.confined_receive s stopped w.host none
      exact ⟨hreceive, hreceive.exist hw.exist, hw.handles⟩
  | refuse refusals =>
      have hrefuse : w.host.Confined { w.host with refusals } none :=
        .of_keeps (.of_objects rfl (List.Subset.refl _)) fun _ _ => rfl
      exact ⟨hrefuse, hrefuse.exist hw.exist, hw.handles⟩

theorem Noted.run (hw : w.Noted) (ops : List Operation) : (w.run ops).Noted := by
  induction ops generalizing w with
  | nil => exact hw
  | cons op ops ih =>
      obtain ⟨-, hnext⟩ := hw.step op
      exact ih hnext

def Spares (n : String) : Holdings → List Operation → Prop
  | _, [] => True
  | w, op :: ops => op.rebinds? w ≠ some n ∧ Spares n (w.step op) ops

theorem Noted.binding_eq (hw : w.Noted) {ops : List Operation} (hops : w.Spares n ops) :
    (w.run ops).host.binding n = w.host.binding n := by
  induction ops generalizing w with
  | nil => rfl
  | cons op ops ih =>
      obtain ⟨hop, hops⟩ := hops
      obtain ⟨hconfined, hnext⟩ := hw.step op
      calc ((w.step op).run ops).host.binding n
        _ = (w.step op).host.binding n := ih hnext hops
        _ = w.host.binding n := hconfined.binding_eq hw.exist hop

end Holdings

/-- Names persist. Whatever was done on a host before, an operation changes what a name stands for
only when that is the name it may rebind; so in a run that spares the name it keeps its object and
the object its size, and opening it finds at the end what it would have found at first. -/
theorem persists_run {h : Host} (hnames : h.NamesExist) (before : List Operation) :
    let w := (Holdings.start h).run before
    (∀ op n, (w.step op).host.binding n ≠ w.host.binding n → op.rebinds? w = some n) ∧
      ∀ n ops, w.Spares n ops → (w.run ops).host.binding n = w.host.binding n ∧
        ∀ name hint, objectName? name = some n →
          Segment.attach (w.run ops).host name hint = Segment.attach w.host name hint := by
  intro w
  have hw : w.Noted := (Holdings.noted_start hnames).run before
  refine ⟨?_, ?_⟩
  · intro op n hchanged
    obtain ⟨hconfined, -⟩ := hw.step op
    by_contra hother
    exact hchanged (hconfined.binding_eq hw.exist hother)
  · intro n ops hops
    have hbinding := hw.binding_eq hops
    exact ⟨hbinding, fun name hint hname => Segment.attach_eq_of_binding hname hbinding hint⟩

/-- A channel outlives its producer and a segment on it that asks for its removal without having
created it. A size is refused on the way, and another name comes and goes. -/
theorem persists_run_opener :
    let w := (Holdings.start .empty).run [.createProducer 0 "v" 64, .attachSegment 1 "/v" 0]
    let ops : List Operation :=
      [.setUnlinkOnDrop 1 true, .attachConsumer 2 "v" 24, .access 0 (.write #[7]), .close 0, .drop 0, .drop 1,
        .createSegment 3 "u" 8, .setUnlinkOnDrop 3 true, .drop 3]
    Host.empty.NamesExist ∧ w.Spares "v" ops ∧
      Segment.attach (w.run ops).host "v" 0 = .ok ⟨"/v", some ⟨0, 80⟩, false, false, false⟩ := by
  intro w ops
  have hnames : Host.empty.NamesExist := by
    rintro _ ⟨⟩
  have hspares : w.Spares "v" ops := by
    simp only [ops, Holdings.Spares, and_true]
    decide +kernel
  obtain ⟨-, hrun⟩ := persists_run hnames [.createProducer 0 "v" 64, .attachSegment 1 "/v" 0]
  obtain ⟨-, hattach⟩ := hrun "v" ops hspares
  exact ⟨hnames, hspares, (hattach "v" 0 (by decide)).trans rfl⟩

end SharedRing
