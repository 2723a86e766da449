import Mathlib.Data.List.Forall2
import SharedRing.Proofs.Channel.Delivery
import SharedRing.Proofs.Ring.Footprint
import SharedRing.Proofs.Ring.Taking

/-!
Runs in which messages are taken in one way or the other. Both ways leave a memory as the other
one does, whatever it holds (`Ring.Agree`), so any of the readings in a run may be replaced. What
comes after them does not change: not for rings in one memory whose bytes anyone rewrites
(`Ring.shared_swaps`), and not for channels on a host, with what is noted as taken out of them
(`World.run_swaps`).
-/

namespace SharedRing

deriving instance DecidableEq for Reply

/-- The same event, or the other way to take a message. -/
inductive Event.Swaps : Event → Event → Prop
  | refl (e : Event) : Swaps e e
  | toMessage (out : Bytes) : Swaps (.read out) .readMessage
  | toBuffer (out : Bytes) : Swaps .readMessage (.read out)

inductive Action.Swaps : Action → Action → Prop
  | refl (a : Action) : Swaps a a
  | toMessage (slot : Nat) (out : Bytes) : Swaps (.read slot out) (.readMessage slot)
  | toBuffer (slot : Nat) (out : Bytes) : Swaps (.readMessage slot) (.read slot out)

/-- The bytes that a buffer was filled with are the message that was taken. -/
def Reply.Shows (length : Nat) (out : Bytes) (msg? : Option Bytes) : Prop :=
  length ≠ 0 → msg? = some (out.extract 0 length)

inductive Reply.Matches : Reply → Reply → Prop
  | refl (a : Reply) : Matches a a
  | toMessage {length : Nat} {out : Bytes} {msg? : Option Bytes} (h : Shows length out msg?) :
      Matches (.delivered length out) (.message msg?)
  | toBuffer {length : Nat} {out : Bytes} {msg? : Option Bytes} (h : Shows length out msg?) :
      Matches (.message msg?) (.delivered length out)

namespace Ring

variable {r : Ring} {m : Memory} {out : Bytes}

def OfOne {ι α : Type} (rel : α → α → Prop) (x y : ι × α) : Prop := x.1 = y.1 ∧ rel x.2 y.2

theorem Agree.shows (h : r.Agree m out) :
    Reply.Shows (r.read m out).length (r.read m out).out (r.readMessage m).1 := by
  intro hlength
  cases hmsg : (r.readMessage m).1 with
  | none => exact absurd (h.none hmsg).1 hlength
  | some msg =>
      by_cases hout : msg.size ≤ out.size
      · obtain ⟨hsize, hfront⟩ := (h.some_iff msg hmsg).1 hout
        rw [hsize, hfront]
      · exact absurd (h.dropped msg hmsg (Nat.lt_of_not_le hout)).1 hlength

/-- A read takes out the message that the other way would hand over. -/
theorem taken_eq (r : Ring) (m : Memory) (out : Bytes) :
    r.taken m out = (r.readMessage m).1.toList := by
  have hshows := (r.agree m out).shows
  simp only [taken]
  split
  · rfl
  · rename_i hlength
    rw [hshows hlength]
    rfl

theorem event_swaps (r : Ring) (m : Memory) {e e' : Event} (h : e.Swaps e') :
    (r.event m e).2 = (r.event m e').2 ∧
      List.Forall₂ Reply.Matches (r.event m e).1.toList (r.event m e').1.toList := by
  cases h with
  | refl => exact ⟨rfl, List.forall₂_same.2 fun a _ => .refl a⟩
  | toMessage out =>
      have hagree := r.agree m out
      exact ⟨hagree.memory.symm, .cons (.toMessage hagree.shows) .nil⟩
  | toBuffer out =>
      have hagree := r.agree m out
      exact ⟨hagree.memory, .cons (.toBuffer hagree.shows) .nil⟩

/-- Rings in one memory end with the same bytes and give replies that match, whichever of their
readings are replaced. -/
theorem shared_swaps {ι : Type} (rings : ι → Ring) (m : Memory) {es es' : List (ι × Event)}
    (h : List.Forall₂ (OfOne Event.Swaps) es es') :
    (shared rings m es).2 = (shared rings m es').2 ∧
      List.Forall₂ (OfOne Reply.Matches) (shared rings m es).1 (shared rings m es').1 := by
  induction h generalizing m with
  | nil => exact ⟨rfl, .nil⟩
  | @cons x y es es' hxy _ ih =>
      obtain ⟨i, e⟩ := x
      obtain ⟨j, e'⟩ := y
      obtain ⟨hij, hswaps⟩ := hxy
      dsimp only at hij hswaps
      subst hij
      obtain ⟨hmemory, hreply⟩ := (rings i).event_swaps m hswaps
      obtain ⟨hlast, hrest⟩ := ih ((rings i).event m e').2
      simp only [shared]
      rw [hmemory]
      refine ⟨hlast, List.rel_append ?_ hrest⟩
      rw [List.forall₂_map_left_iff, List.forall₂_map_right_iff]
      exact hreply.imp fun _ _ ha => ⟨rfl, ha⟩

end Ring

/-! ### Channels -/

theorem Consumer.taken_eq (c : Consumer) (h : Host) (out : Bytes) :
    c.taken h out = (c.readMessage h).1.toList := by
  cases hb : c.binding with
  | none => simp [taken, read, readMessage, hb]
  | some b =>
      have htaken := b.ring.taken_eq (b.memory h) out
      simp only [Ring.taken] at htaken
      simp only [taken, read, readMessage, hb]
      exact htaken

theorem Consumer.host_read (c : Consumer) (h : Host) (out : Bytes) :
    (c.read h out).2 = (c.readMessage h).2 := by
  cases hb : c.binding with
  | none => simp only [read, readMessage, hb]
  | some b => simp only [read, readMessage, hb, (b.ring.agree (b.memory h) out).memory]

namespace World

theorem step_read (w : World) (slot : Nat) (out : Bytes) :
    w.step (.read slot out) = w.step (.readMessage slot) := by
  simp only [step]
  congr 1
  funext c h
  rw [c.taken_eq, c.host_read]

theorem step_swaps (w : World) {a a' : Action} (h : a.Swaps a') : w.step a = w.step a' := by
  cases h with
  | refl => rfl
  | toMessage slot out => exact w.step_read slot out
  | toBuffer slot out => exact (w.step_read slot out).symm

theorem run_swaps (w : World) {actions actions' : List Action}
    (h : List.Forall₂ Action.Swaps actions actions') : w.run actions = w.run actions' := by
  induction h generalizing w with
  | nil => rfl
  | cons ha _ ih =>
      simp only [run, List.foldl_cons, w.step_swaps ha]
      exact ih _

end World

/-- On any memory the two ways of reading leave the same memory, with no byte changed but the
tail's, and they find no message if and only if the tail stays. A message that one of them hands
over is delivered by the other if the buffer is long enough, and is dropped otherwise. So the
readings in a run may be replaced, any number of them by the other way: rings that share a
memory which anyone rewrites end with the same bytes, hence with the same messages left, and the
other calls get the same replies. A whole host ends as the same host, with the same messages noted
as accepted and as taken out. -/
theorem readings_interchange :
    (∀ (r : Ring) (m : Memory) (out : Bytes), r.Agree m out) ∧
      (∀ (ι : Type) (rings : ι → Ring) (m : Memory) (es es' : List (ι × Event)),
        List.Forall₂ (Ring.OfOne Event.Swaps) es es' →
          (Ring.shared rings m es).2 = (Ring.shared rings m es').2 ∧
          (∀ i, (rings i).drain (Ring.shared rings m es).2 =
            (rings i).drain (Ring.shared rings m es').2) ∧
          List.Forall₂ (Ring.OfOne Reply.Matches) (Ring.shared rings m es).1
            (Ring.shared rings m es').1) ∧
      ∀ (w : World) (actions actions' : List Action),
        List.Forall₂ Action.Swaps actions actions' → w.run actions = w.run actions' := by
  refine ⟨Ring.agree, ?_, ?_⟩
  · intro ι rings m es es' h
    obtain ⟨hmemory, hreplies⟩ := Ring.shared_swaps rings m h
    exact ⟨hmemory, fun i => by rw [hmemory], hreplies⟩
  · intro w actions actions' h
    exact w.run_swaps h

/-- Three messages are asked for: one for which the buffer is too short, one whose length was
rewritten to more than the ring can hold, and that one again when its length is back. Each of them
is asked for in the other way in a second run. -/
theorem readings_interchange_rewritten :
    let rings (sends : Bool) : Ring :=
      ⟨64, ⟨4, by decide, by decide⟩, if sends then .producer else .consumer⟩
    let m := Header.publish .zeroed 64 16
    let es (first second third : Event) : List (Bool × Event) :=
      [(true, .write #[1, 2]), (false, first), (true, .write #[3]),
        (false, .rewrite 86 #[255, 255, 255, 255]), (false, second),
        (false, .rewrite 86 #[1, 0, 0, 0]), (false, third)]
    let run := Ring.shared rings m (es (.read #[]) .readMessage (.read #[0, 9]))
    let run' := Ring.shared rings m (es .readMessage (.read #[7]) .readMessage)
    run.1 = [(true, .accepted true), (false, .delivered 0 #[]), (true, .accepted true),
        (false, .message none), (false, .delivered 1 #[3, 9])] ∧
      run'.1 = [(true, .accepted true), (false, .message (some #[1, 2])), (true, .accepted true),
        (false, .delivered 0 #[7]), (false, .message (some #[3]))] ∧
      run.2 = run'.2 := by
  intro rings m es run run'
  obtain ⟨-, hshared, -⟩ := readings_interchange
  have hswaps : List.Forall₂ (Ring.OfOne Event.Swaps)
      (es (.read #[]) .readMessage (.read #[0, 9])) (es .readMessage (.read #[7]) .readMessage) :=
    .cons ⟨rfl, .refl _⟩ <| .cons ⟨rfl, .toMessage _⟩ <| .cons ⟨rfl, .refl _⟩ <|
      .cons ⟨rfl, .refl _⟩ <| .cons ⟨rfl, .toBuffer _⟩ <| .cons ⟨rfl, .refl _⟩ <|
      .cons ⟨rfl, .toMessage _⟩ .nil
  exact ⟨by decide +kernel, by decide +kernel, (hshared Bool rings m _ _ hswaps).1⟩

end SharedRing
