import SharedRing.Proofs.Tenure

/-!
What a handle asks of the host. The host keeps on record which names it was asked to remove, and a
call on a handle changes the names of the host by these requests alone (`Host.Removes`).

What a handle has asked for can be read off it (`Handle.Tells`): its own name when it is marked as
having removed it, and nothing before. Producers have a mark of their own and one in the segment
under them, and the two go together (`Producer.Marked`).
-/

namespace SharedRing

open Host

/-! ### Requests -/

/-- The names in `new`, the latest first, are what the host was asked to remove on the way from one
to the other, and its names have changed by these removals and by nothing else. -/
structure Host.Removes (h h' : Host) (new : List String) : Prop where
  removals : h'.removals = new ++ h.removals
  names : h'.names = (new.foldr (fun name h => (h.unlink name).2) h).names

def Host.removalsSince (h' h : Host) : List String :=
  h'.removals.take (h'.removals.length - h.removals.length)

namespace Host

variable {h h' : Host} {new : List String}

theorem removals_unlink (h : Host) (name : String) :
    (h.unlink name).2.removals = name :: h.removals := by
  rw [unlink]
  split <;> rfl

theorem removes_refl (h : Host) : h.Removes h [] := ⟨rfl, rfl⟩

theorem removes_unlink (h : Host) (name : String) : h.Removes (h.unlink name).2 [name] :=
  ⟨removals_unlink h name, rfl⟩

theorem Removes.report (hr : h.Removes h' new) (n : Notice) : h.Removes (h'.report n) new :=
  ⟨hr.removals, hr.names⟩

theorem Removes.since (hr : h.Removes h' new) : h'.removalsSince h = new := by
  rw [removalsSince, hr.removals, List.length_append, Nat.add_sub_cancel, List.take_left]

theorem removalsSince_self (h : Host) : h.removalsSince h = [] := (removes_refl h).since

end Host

namespace Segment

theorem removes_destroy (s : Segment) (h : Host) :
    h.Removes (s.destroy h).2 (if s.unlinked then [] else [s.name]) := by
  have hunlink := removes_unlink h s.name
  rw [destroy]
  cases s.unlinked with
  | true => exact removes_refl h
  | false =>
      simp only [Bool.false_eq_true, if_false]
      split
      · exact hunlink.report _
      · exact hunlink

theorem removes_close (s : Segment) (h : Host) :
    h.Removes (s.close h).2
      (if s.mapping.isSome && s.owner && s.unlinkOnDrop && !s.unlinked then [s.name] else []) := by
  obtain ⟨name, mapping, owner, unlinkOnDrop, unlinked⟩ := s
  cases mapping with
  | none => exact removes_refl h
  | some p =>
      cases owner with
      | false => exact removes_refl h
      | true =>
          cases unlinkOnDrop with
          | false => exact removes_refl h
          | true =>
              have hdestroy := removes_destroy ⟨name, none, true, true, unlinked⟩ h
              cases unlinked <;> exact hdestroy

/-- A segment that is not to remove its name leaves the host as it is. -/
theorem close_snd {s : Segment} (hs : s.unlinkOnDrop = false) (h : Host) : (s.close h).2 = h := by
  rw [close]
  split
  · rfl
  · simp only [hs, Bool.and_false, Bool.false_eq_true, if_false]

end Segment

/-- Nothing is asked for by going at bytes. -/
theorem Handle.removes_access (x : Handle) (a : Access) (h : Host) :
    h.Removes (x.access a h) [] := by
  have hset (b : Binding) (m : Memory) : h.Removes (b.setMemory h m) [] := by
    rw [Binding.setMemory]
    cases b.segment.mapping <;> exact ⟨rfl, rfl⟩
  unfold access
  split
  · rename_i s start src
    rw [Segment.store?]
    split
    · exact removes_refl h
    · cases s.mapping <;> exact ⟨rfl, rfl⟩
  · rename_i p msg
    rw [Producer.write]
    cases p.binding with
    | none => exact removes_refl h
    | some b => exact hset b _
  · rename_i c out
    rw [Consumer.read]
    cases c.binding with
    | none => exact removes_refl h
    | some b => exact hset b _
  · rename_i c
    rw [Consumer.readMessage]
    cases c.binding with
    | none => exact removes_refl h
    | some b => exact hset b _
  · exact removes_refl h

/-! ### What a handle has asked for -/

def Handle.name : Handle → String
  | .segment s => s.name
  | .producer p => p.name
  | .consumer c => c.name

/-- The marks of a producer: its segment has removed the name when the producer has, and is not to
remove it for any other reason. -/
structure Producer.Marked (p : Producer) : Prop where
  normalized : Name.normalize p.name = .ok p.name
  name : ∀ b, p.binding = some b → b.segment.name = p.name
  unlinkOnDrop : ∀ b, p.binding = some b → b.segment.unlinkOnDrop = false
  unlinked : ∀ b, p.binding = some b → b.segment.unlinked = p.destroyed

theorem Producer.Marked.destroy {p : Producer} (hp : p.Marked) (h : Host) :
    h.Removes (p.destroy h).2 (if p.destroyed then [] else [p.name]) ∧
      (p.destroy h).1.Marked ∧ (p.destroy h).1.name = p.name ∧
      (p.destroy h).1.destroyed = true := by
  obtain ⟨name, binding, destroyed⟩ := p
  cases destroyed with
  | true => exact ⟨removes_refl h, hp, rfl, rfl⟩
  | false =>
      cases binding with
      | none =>
          have hname : Name.normalize name = .ok name := hp.normalized
          simp only [Producer.destroy, Segment.remove, hname, Bool.false_eq_true, if_false, and_self,
            and_true]
          exact ⟨removes_unlink h name, hname, by rintro _ ⟨⟩, by rintro _ ⟨⟩, by rintro _ ⟨⟩⟩
      | some b =>
          have hname : b.segment.name = name := hp.name b rfl
          have hflag := hp.unlinkOnDrop b rfl
          have hmark : b.segment.unlinked = false := hp.unlinked b rfl
          have hsegment := b.segment.removes_destroy h
          rw [hmark, hname] at hsegment
          simp only [Producer.destroy, Segment.destroy_fst, Bool.false_eq_true, if_false, and_self,
            and_true]
          exact ⟨hsegment, hp.normalized, by rintro _ ⟨⟩; exact hname,
            by rintro _ ⟨⟩; exact hflag, by rintro _ ⟨⟩; rfl⟩

theorem Producer.Marked.close {p : Producer} (hp : p.Marked) (h : Host) :
    (p.close h).2 = h ∧ (p.close h).1.Marked ∧ (p.close h).1.name = p.name ∧
      (p.close h).1.destroyed = p.destroyed := by
  obtain ⟨name, binding, destroyed⟩ := p
  cases binding with
  | none => exact ⟨rfl, hp, rfl, rfl⟩
  | some b =>
      exact ⟨Segment.close_snd (hp.unlinkOnDrop b rfl) h,
        ⟨hp.normalized, by rintro _ ⟨⟩, by rintro _ ⟨⟩, by rintro _ ⟨⟩⟩, rfl, rfl⟩

def Consumer.Marked (c : Consumer) : Prop :=
  ∀ b, c.binding = some b → b.segment.unlinkOnDrop = false

theorem Consumer.Marked.close {c : Consumer} (hc : c.Marked) (h : Host) :
    (c.close h).2 = h ∧ (c.close h).1.Marked := by
  obtain ⟨name, binding⟩ := c
  cases binding with
  | none => exact ⟨rfl, hc⟩
  | some b => exact ⟨Segment.close_snd (hc b rfl) h, by rintro _ ⟨⟩⟩

/-- What the handle has asked for by now is told by its marks: its name, or nothing yet. -/
def Handle.Tells : Handle → List String → Prop
  | .segment s, asked => asked = if s.unlinked then [s.name] else []
  | .producer p, asked => p.Marked ∧ asked = if p.destroyed then [p.name] else []
  | .consumer c, asked => c.Marked ∧ asked = []

/-- The handle has removed its name, or is of a kind that never does. -/
def Handle.Spent : Handle → Prop
  | .segment s => s.unlinked = true
  | .producer p => p.destroyed = true
  | .consumer _ => True

namespace Handle.Tells

variable {x : Handle} {asked : List String}

theorem eq (hx : x.Tells asked) : asked = [] ∨ asked = [x.name] ∧ x.Spent := by
  cases x with
  | segment s =>
      have hs : asked = if s.unlinked then [s.name] else [] := hx
      cases hmark : s.unlinked with
      | false => exact Or.inl (by rw [hs, hmark]; rfl)
      | true => exact Or.inr ⟨by rw [hs, hmark]; rfl, hmark⟩
  | producer p =>
      obtain ⟨-, hp⟩ : p.Marked ∧ asked = if p.destroyed then [p.name] else [] := hx
      cases hmark : p.destroyed with
      | false => exact Or.inl (by rw [hp, hmark]; rfl)
      | true => exact Or.inr ⟨by rw [hp, hmark]; rfl, hmark⟩
  | consumer c => exact Or.inl hx.2

theorem length_le (hx : x.Tells asked) : asked.length ≤ 1 := by
  rcases hx.eq with hasked | ⟨hasked, -⟩ <;> simp [hasked]

theorem destroy (hx : x.Tells asked) (h : Host) :
    ∃ new, h.Removes (x.destroy h).2 new ∧ (x.destroy h).1.Tells (new ++ asked) := by
  cases x with
  | segment s =>
      have hs : asked = if s.unlinked then [s.name] else [] := hx
      refine ⟨_, s.removes_destroy h, ?_⟩
      simp only [Handle.destroy, Segment.destroy_fst, Tells, hs]
      cases s.unlinked <;> rfl
  | producer p =>
      obtain ⟨hmarked, hp⟩ : p.Marked ∧ asked = if p.destroyed then [p.name] else [] := hx
      obtain ⟨hremoves, hafter, hname, hdestroyed⟩ := hmarked.destroy h
      refine ⟨_, hremoves, ?_⟩
      simp only [Handle.destroy, Tells, hname, hdestroyed, hp, if_true]
      exact ⟨hafter, by cases p.destroyed <;> rfl⟩
  | consumer c => exact ⟨[], removes_refl h, hx⟩

theorem close (hx : x.Tells asked) (h : Host) :
    ∃ new, h.Removes (x.close h).2 new ∧ (x.close h).1.Tells (new ++ asked) := by
  cases x with
  | segment s =>
      have hs : asked = if s.unlinked then [s.name] else [] := hx
      refine ⟨_, s.removes_close h, ?_⟩
      simp only [Handle.close, Segment.close_fst, Segment.after, Tells, hs]
      cases s.mapping.isSome <;> cases s.owner <;> cases s.unlinkOnDrop <;> cases s.unlinked <;> rfl
  | producer p =>
      obtain ⟨hmarked, hp⟩ : p.Marked ∧ asked = if p.destroyed then [p.name] else [] := hx
      obtain ⟨hhost, hafter, hname, hdestroyed⟩ := hmarked.close h
      simp only [Handle.close, Tells, hhost, hname, hdestroyed]
      exact ⟨[], removes_refl h, hafter, hp⟩
  | consumer c =>
      obtain ⟨hmarked, hc⟩ : c.Marked ∧ asked = [] := hx
      obtain ⟨hhost, hafter⟩ := hmarked.close h
      simp only [Handle.close, Tells, hhost]
      exact ⟨[], removes_refl h, hafter, hc⟩

theorem setUnlinkOnDrop {x : Held} (hx : x.handle.Tells asked) (enabled : Bool) :
    (x.setUnlinkOnDrop enabled).handle.Tells asked := by
  obtain ⟨handle, name, created, unlinks⟩ := x
  cases handle <;> exact hx

end Handle.Tells

/-! ### New handles -/

theorem Segment.unlinked_attach {h : Host} {name : String} {hint : Nat} {s : Segment}
    (ha : attach h name hint = .ok s) : s.unlinked = false := by
  rw [attach] at ha
  cases hname : Name.normalize name with
  | error e => simp [hname] at ha
  | ok n =>
      simp only [hname] at ha
      split at ha
      · cases ha
      · cases ha
        rfl

/-- A handle that was just obtained has asked for nothing. -/
theorem Operation.tells_of_obtains {op : Operation} {w : Holdings} {slot : Nat}
    (hop : op.obtains? w = some slot) :
    ∃ x, (w.step op).handles slot = some x ∧ x.handle.Tells [] := by
  cases op with
  | createSegment i name size =>
      obtain ⟨s, hs, hslot⟩ := Holdings.handles_obtained hop _
      obtain ⟨hs, -, -, -⟩ := Segment.of_create_ok (Prod.ext hs rfl)
      refine ⟨_, hslot, ?_⟩
      rw [hs]
      rfl
  | attachSegment i name hint =>
      obtain ⟨s, hs, hslot⟩ := Holdings.handles_obtained hop _
      refine ⟨_, hslot, ?_⟩
      simp only [Handle.Tells, Segment.unlinked_attach hs, Bool.false_eq_true, if_false]
  | createProducer i name requested =>
      obtain ⟨p, hp, hslot⟩ := Holdings.handles_obtained hop _
      obtain ⟨r, hp, hname, -⟩ := Producer.of_create_ok (Prod.ext hp rfl)
      refine ⟨_, hslot, ?_⟩
      rw [hp]
      exact ⟨⟨Name.normalize_normalize hname, by rintro _ ⟨⟩; rfl, by rintro _ ⟨⟩; rfl,
        by rintro _ ⟨⟩; rfl⟩, rfl⟩
  | attachConsumer i name hint =>
      obtain ⟨c, hc, hslot⟩ := Holdings.handles_obtained hop _
      have hnoted := Consumer.noted_attach (Prod.ext hc rfl)
      exact ⟨_, hslot, fun b hb => (hnoted b hb).unlinkOnDrop, rfl⟩
  | _ => cases hop

/-! ### A handle that has removed its name -/

namespace Handle

variable {x : Handle} {asked : List String}

theorem spent_destroy (x : Handle) (h : Host) : (x.destroy h).1.Spent := by
  cases x with
  | segment s =>
      show (s.destroy h).1.unlinked = true
      rw [Segment.destroy_fst]
  | producer p =>
      obtain ⟨name, binding, destroyed⟩ := p
      cases destroyed with
      | true => rfl
      | false => cases binding <;> rfl
  | consumer c => trivial

/-- It has nothing left to do on a host. -/
theorem Spent.destroy (hx : x.Spent) (h : Host) : x.destroy h = (x, h) := by
  cases x with
  | segment s =>
      have hs : s.unlinked = true := hx
      simp only [Handle.destroy, Segment.destroy, hs, if_true]
  | producer p =>
      have hp : p.destroyed = true := hx
      simp only [Handle.destroy, Producer.destroy, hp, if_true]
  | consumer c => rfl

theorem Spent.close (hx : x.Spent) (h : Host) : (x.close h).1.Spent := by
  cases x with
  | segment s =>
      have hs : s.unlinked = true := hx
      show (s.close h).1.unlinked = true
      simp only [Segment.close_fst, Segment.after, hs, Bool.true_or]
  | producer p =>
      obtain ⟨name, binding, destroyed⟩ := p
      cases binding <;> exact hx
  | consumer c => trivial

theorem Spent.setUnlinkOnDrop {x : Held} (hx : x.handle.Spent) (enabled : Bool) :
    (x.setUnlinkOnDrop enabled).handle.Spent := by
  obtain ⟨handle, name, created, unlinks⟩ := x
  cases handle <;> exact hx

theorem Spent.after {x : Held} (hx : x.handle.Spent) (h : Host) (c : Handle.Call) :
    (x.after h c).handle.Spent := by
  cases c with
  | destroy => exact x.handle.spent_destroy h
  | close => exact hx.close h
  | setUnlinkOnDrop enabled => exact hx.setUnlinkOnDrop enabled

/-- Closing does not remove a name that the handle has removed, though the flags of its segment
have to be right for this. -/
theorem Spent.close_snd (hx : x.Spent) (ht : x.Tells asked) (h : Host) : (x.close h).2 = h := by
  cases x with
  | segment s =>
      obtain ⟨name, mapping, owner, unlinkOnDrop, unlinked⟩ := s
      obtain rfl : unlinked = true := hx
      cases mapping with
      | none => rfl
      | some p => cases owner <;> cases unlinkOnDrop <;> rfl
  | producer p => exact (ht.1.close h).1
  | consumer c => exact (ht.1.close h).1

end Handle

end SharedRing
