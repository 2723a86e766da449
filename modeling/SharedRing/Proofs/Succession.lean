import SharedRing.Proofs.Channel.Creation
import SharedRing.Proofs.Tenure

/-!
What a name comes to stand for. One operation leaves it to its object, to nothing, or to a new
object, and the last only when it creates something under the name (`Holdings.Noted.passes_step`).
So what a name stands for after a run it stood for before, or an operation of the run gave it that
object (`Holdings.Noted.lookup_run`).

A segment that is to remove its name when it goes does so by name: the object that loses the name is
the segment's own until another is created under it, and that other one afterwards
(`close_removes_name`).
-/

namespace SharedRing

open Host

variable {h h' h'' : Host} {name n : String} {n? : Option String} {id : ObjectId}

namespace Host

/-! ### Names that are lost -/

structure Forgets (h h' : Host) : Prop where
  lookup : ∀ n, h'.names.lookup n = h.names.lookup n ∨ h'.names.lookup n = none

theorem Forgets.refl (h : Host) : h.Forgets h := ⟨fun _ => Or.inl rfl⟩

theorem Forgets.trans (hf : h.Forgets h') (hf' : h'.Forgets h'') : h.Forgets h'' := by
  refine ⟨fun n => ?_⟩
  rcases hf'.lookup n with heq | hnone
  · rw [heq]
    exact hf.lookup n
  · exact Or.inr hnone

theorem Confined.forgets (hc : h.Confined h' none) : h.Forgets h' :=
  ⟨fun n => Or.inl (hc.lookup n (by simp))⟩

theorem forgets_unlink (h : Host) (name : String) : h.Forgets (h.unlink name).2 := by
  refine ⟨fun n => ?_⟩
  by_cases hn : n = objectName name
  · rw [unlink]
    split
    · exact Or.inl rfl
    · exact Or.inr ((lookup_unbind h name n).trans (if_pos hn))
  · exact Or.inl ((confined_unlink h name).lookup n fun heq => hn (Option.some.inj heq).symm)

end Host

theorem Segment.forgets_remove (h : Host) (name : String) : h.Forgets (remove h name) := by
  rw [remove]
  split
  · exact .refl h
  · exact Host.forgets_unlink ..

theorem Segment.forgets_destroy (s : Segment) (h : Host) : h.Forgets (s.destroy h).2 := by
  rw [destroy]
  split
  · exact .refl h
  · dsimp only
    split
    · exact (Host.forgets_unlink h s.name).trans (confined_report ..).forgets
    · exact Host.forgets_unlink ..

theorem Segment.forgets_close (s : Segment) (h : Host) : h.Forgets (s.close h).2 := by
  rw [close]
  split
  · exact .refl h
  · dsimp only
    split
    · exact forgets_destroy ..
    · exact .refl h

theorem Producer.forgets_destroy (p : Producer) (h : Host) : h.Forgets (p.destroy h).2 := by
  rw [destroy]
  split
  · exact .refl h
  · split
    · exact Segment.forgets_remove ..
    · exact Segment.forgets_destroy ..

theorem Handle.forgets_destroy (x : Handle) (h : Host) : h.Forgets (x.destroy h).2 := by
  cases x with
  | segment s => exact s.forgets_destroy h
  | producer p => exact p.forgets_destroy h
  | consumer c => exact .refl h

theorem Handle.forgets_close (x : Handle) (h : Host) : h.Forgets (x.close h).2 := by
  cases x with
  | segment s => exact s.forgets_close h
  | producer p =>
      obtain ⟨name, binding, destroyed⟩ := p
      cases binding with
      | none => exact .refl h
      | some b => exact b.segment.forgets_close h
  | consumer c =>
      obtain ⟨name, binding⟩ := c
      cases binding with
      | none => exact .refl h
      | some b => exact b.segment.forgets_close h

/-! ### Names that are given -/

namespace Host

/-- What becomes of a name when one name, or none, is given to a new object. -/
inductive Passes (h h' : Host) (n? : Option String) (n : String) : Prop
  | kept (hkept : h'.names.lookup n = h.names.lookup n)
  | lost (hlost : h'.names.lookup n = none)
  | taken (hn : n? = some n) (hnew : h'.names.lookup n = some h.objects.size)

theorem Forgets.passes (hf : h.Forgets h') (n? : Option String) (n : String) :
    h.Passes h' n? n := by
  rcases hf.lookup n with hkept | hlost
  · exact .kept hkept
  · exact .lost hlost

theorem Passes.forgets (hp : h.Passes h' n? n) (hf : h'.Forgets h'') : h.Passes h'' n? n := by
  rcases hf.lookup n with hkept | hlost
  · cases hp with
    | kept heq => exact .kept (hkept.trans heq)
    | lost heq => exact .lost (hkept.trans heq)
    | taken hn heq => exact .taken hn (hkept.trans heq)
  · exact .lost hlost

/-- Names may be lost before, if no object is added. -/
theorem Passes.of_forgets (hp : h'.Passes h'' n? n) (hf : h.Forgets h')
    (hsize : h'.objects.size = h.objects.size) : h.Passes h'' n? n := by
  cases hp with
  | kept heq =>
      rcases hf.lookup n with hkept | hlost
      · exact .kept (heq.trans hkept)
      · exact .lost (heq.trans hlost)
  | lost heq => exact .lost heq
  | taken hn heq => exact .taken hn (by rw [heq, hsize])

theorem Clears.lost (hc : h.Clears h' name) (hname : isRefused (objectName name) = false) :
    h'.names.lookup (objectName name) = none := by
  obtain ⟨e, hgone⟩ := hc.gone
  rw [openExisting, hname, find?] at hgone
  cases hfind : h'.names.lookup (objectName name) with
  | none => rfl
  | some id => simp [hfind] at hgone

theorem Clears.passes (hc : h.Clears h' name) (n? : Option String) (hn : isRefused n = false) :
    h.Passes h' n? n := by
  by_cases heq : n = objectName name
  · subst heq
    exact .lost (hc.lost hn)
  · exact .kept (hc.confined.lookup n fun h => heq (Option.some.inj h).symm)

theorem Adds.passes {o : SharedObject} (ha : h.Adds h' name o) (n : String) :
    h.Passes h' (some (objectName name)) n := by
  by_cases heq : n = objectName name
  · subst heq
    exact .taken rfl ha.find?_eq
  · exact .kept (ha.others n heq)

end Host

theorem Segment.Fails.passes {size : Nat} {e : ChannelError} (hf : Fails h name size e h')
    (n? : Option String) (hn : isRefused n = false) : h.Passes h' n? n := by
  cases hf with
  | invalid hname => exact .kept rfl
  | cleared hname he hc => exact hc.passes n? hn

theorem Producer.Fails.passes {requested : Nat} {e : ChannelError}
    (hf : Fails h name requested e h') (n? : Option String) (hn : isRefused n = false) :
    h.Passes h' n? n := by
  cases hf with
  | segment hf => exact hf.passes n? hn
  | ring hname hcap hc => exact hc.passes n? hn

theorem Segment.passes_create (h : Host) (name : String) (size : Nat) (hn : isRefused n = false) :
    h.Passes (create h name size).2 (objectName? name) n := by
  rcases create_cases h name size with ⟨e, h', heq, hf⟩ | ⟨m, h', heq, hname, -, hadds⟩
  · rw [heq]
    exact hf.passes _ hn
  · rw [heq, objectName?_of_normalize hname]
    exact hadds.passes n

theorem Producer.passes_create (h : Host) (name : String) (requested : Nat)
    (hn : isRefused n = false) :
    h.Passes (create h name requested).2 (objectName? name) n := by
  rcases create_cases h name requested with
    ⟨e, h', heq, hf⟩ | ⟨m, r, h', heq, hname, -, -, -, hadds⟩
  · rw [heq]
    exact hf.passes _ hn
  · rw [heq, objectName?_of_normalize hname]
    exact hadds.passes n

theorem Segment.size_remove (h : Host) (name : String) :
    (remove h name).objects.size = h.objects.size := by
  rw [remove]
  split
  · rfl
  · rw [Host.objects_unlink]

/-- The name of a channel that is published to is given to a new object, which it mostly loses at
the end. -/
theorem Video.passes_publish (s : ProducerSettings) (stopAfter : Option Nat)
    (elapsed : Nat → Duration) (h : Host) (hn : isRefused n = false) :
    h.Passes (publish s stopAfter elapsed h).2 (objectName? s.name) n := by
  have hcreate := (Producer.passes_create (Segment.remove h s.name) s.name s.requestedCapacity
    hn).of_forgets (Segment.forgets_remove h s.name) (Segment.size_remove h s.name)
  rw [publish]
  split
  · exact .kept rfl
  · split
    · rename_i heq
      rw [heq] at hcreate
      exact hcreate
    · rename_i p h₁ heq
      rw [heq] at hcreate
      have hrun := hcreate.forgets (Publish.confined_onChannel p s stopAfter elapsed h₁).forgets
      split
      · rename_i h₂ heq
        rw [heq] at hrun
        exact hrun.forgets ((Handle.producer p).forgets_close h₂)
      · rename_i h₂ _ heq
        rw [heq] at hrun
        exact (hrun.forgets (p.forgets_destroy h₂)).forgets
          ((Handle.producer (p.destroy h₂).1).forgets_close _)

/-! ### Runs -/

def Operation.creates? : Operation → Option String
  | .createSegment _ name _ => objectName? name
  | .createProducer _ name _ => objectName? name
  | .publish s _ _ => objectName? s.name
  | _ => none

namespace Holdings

variable {w : Holdings} {op : Operation} {ops : List Operation}

theorem forgets_act (w : Holdings) (slot : Nat) {f : Handle → Host → Handle × Host}
    (hf : ∀ x h, Host.Forgets h (f x h).2) : w.host.Forgets (w.act slot f).host := by
  rw [act]
  split
  · exact .refl _
  · exact hf _ _

/-- What one operation does to a name that an object can have. -/
theorem Noted.passes_step (hw : w.Noted) (op : Operation) (hn : isRefused n = false) :
    w.host.Passes (w.step op).host op.creates? n := by
  cases op with
  | createSegment slot name size =>
      simp only [Holdings.step, host_put]
      exact Segment.passes_create w.host name size hn
  | createProducer slot name requested =>
      simp only [Holdings.step, host_put]
      exact Producer.passes_create w.host name requested hn
  | publish s stopAfter elapsed => exact Video.passes_publish s stopAfter elapsed w.host hn
  | destroy slot => exact (w.forgets_act slot Handle.forgets_destroy).passes none n
  | close slot => exact (w.forgets_act slot Handle.forgets_close).passes none n
  | drop slot => exact (w.forgets_act slot Handle.forgets_close).passes none n
  | remove name => exact (Segment.forgets_remove w.host name).passes none n
  | attachSegment slot name hint => exact (hw.step _).1.forgets.passes none n
  | attachConsumer slot name hint => exact (hw.step _).1.forgets.passes none n
  | setUnlinkOnDrop slot enabled => exact (hw.step _).1.forgets.passes none n
  | access slot a => exact (hw.step _).1.forgets.passes none n
  | receive s stopped => exact (hw.step _).1.forgets.passes none n
  | refuse refusals => exact (hw.step _).1.forgets.passes none n

theorem Noted.size_le_run (hw : w.Noted) (ops : List Operation) :
    w.host.objects.size ≤ (w.run ops).host.objects.size := by
  induction ops generalizing w with
  | nil => exact Nat.le_refl _
  | cons op ops ih =>
      obtain ⟨hconfined, hnext⟩ := hw.step op
      exact Nat.le_trans hconfined.size_le (ih hnext)

def Gives (w : Holdings) (ops : List Operation) (n : String) (id : ObjectId) : Prop :=
  ∃ front op back, ops = front ++ op :: back ∧ op.creates? = some n ∧
    id = (w.run front).host.objects.size ∧
    ((w.run front).step op).host.names.lookup n = some id

/-- What a name stands for after a run it stood for before, or was given by the run. -/
theorem Noted.lookup_run (hw : w.Noted) (hn : isRefused n = false)
    (hfind : (w.run ops).host.names.lookup n = some id) :
    w.host.names.lookup n = some id ∨ w.Gives ops n id := by
  induction ops generalizing w with
  | nil => exact Or.inl hfind
  | cons op ops ih =>
      rcases ih (hw.step op).2 hfind with hnext | ⟨front, last, back, rfl, hlast⟩
      · cases hw.passes_step op hn with
        | kept heq => exact Or.inl (heq.symm.trans hnext)
        | lost hnone =>
            rw [hnone] at hnext
            cases hnext
        | taken hop hnew =>
            refine Or.inr ⟨[], op, ops, rfl, hop, ?_, hnext⟩
            rw [hnew] at hnext
            exact (Option.some.inj hnext).symm
      · exact Or.inr ⟨op :: front, last, back, rfl, hlast⟩

/-- The name of a segment stands for the segment's own object, or for one that was created later. -/
theorem Creates.lookup_run {w₁ : Holdings} {slot size : Nat} {s : Segment}
    (hc : w.Creates w₁ slot name size s) (hw₁ : w₁.Noted)
    (hfind : (w₁.run ops).host.names.lookup (objectName s.name) = some id) :
    id = w.host.objects.size ∨ w.host.objects.size < id ∧ w₁.Gives ops (objectName s.name) id := by
  rcases hw₁.lookup_run hc.adds.admitted hfind with hfirst | hgiven
  · rw [← Host.find?, hc.adds.find?_eq] at hfirst
    exact Or.inl (Option.some.inj hfirst).symm
  · refine Or.inr ⟨?_, hgiven⟩
    obtain ⟨front, -, -, -, -, rfl, -⟩ := hgiven
    have hgrows := hw₁.size_le_run front
    rw [hc.adds.objects, Array.size_push] at hgrows
    exact hgrows

theorem host_act {slot : Nat} {x : Handle} (hslot : w.handle? slot = some x)
    (f : Handle → Host → Handle × Host) : (w.act slot f).host = (f x w.host).2 := by
  obtain ⟨y, hy, rfl⟩ := Option.map_eq_some_iff.1 hslot
  rw [act, hy]
  rfl

end Holdings

/-! ### Removal by name -/

namespace Host

structure Loses (h h' : Host) (n : String) : Prop where
  objects : h'.objects = h.objects
  lost : h'.names.lookup n = none
  others : ∀ k, k ≠ n → h'.names.lookup k = h.names.lookup k

theorem Loses.report (hl : h.Loses h' n) (notice : Notice) : h.Loses (h'.report notice) n :=
  ⟨hl.objects, hl.lost, hl.others⟩

theorem loses_unlink (h : Host) (hname : isRefused (objectName name) = false) :
    h.Loses (h.unlink name).2 (objectName name) where
  objects := objects_unlink h name
  lost := (clears_unlink h name).lost hname
  others k hk := (confined_unlink h name).lookup k fun heq => hk (Option.some.inj heq).symm

end Host

namespace Segment

variable {s : Segment}

theorem loses_destroy (hs : s.unlinked = false) (hname : isRefused (objectName s.name) = false)
    (h : Host) : h.Loses (s.destroy h).2 (objectName s.name) := by
  have hunlink := Host.loses_unlink h hname
  simp only [destroy, hs, Bool.false_eq_true, if_false]
  split
  · exact hunlink.report _
  · exact hunlink

/-- Closing removes the name by destroying what is left of the segment. -/
theorem loses_close (hmapped : s.mapping.isSome = true) (howner : s.owner = true)
    (hflag : s.unlinkOnDrop = true) (hs : s.unlinked = false)
    (hname : isRefused (objectName s.name) = false) (h : Host) :
    h.Loses (s.close h).2 (objectName s.name) := by
  obtain ⟨p, hp⟩ := Option.isSome_iff_exists.1 hmapped
  simp only [close, hp, howner, hflag, Bool.and_self, if_true]
  exact loses_destroy (s := { s with mapping := none, owner := true, unlinkOnDrop := true }) hs
    hname h

theorem close_of_unmapped (hp : s.mapping = none) (h : Host) : s.close h = (s, h) := by
  simp only [close, hp]

/-- Nothing is found under a name that stands for nothing. -/
theorem attach_of_lost (hname : Name.normalize name = .ok n)
    (hadmitted : isRefused (objectName n) = false)
    (hlost : h.names.lookup (objectName n) = none) (hint : Nat) :
    attach h name hint = .error (.openFailed n (.os .notFound)) := by
  have hopen : h.openExisting n = .error .notFound := by
    rw [openExisting, hadmitted, find?, hlost]
    rfl
  simp only [attach, hname, Host.attach, hopen]

end Segment

/-- A segment that is to remove its name when it goes removes it by name. In whatever state it is
closed or dropped, not having been destroyed: while it is mapped the name is removed, and no object
is touched. Until then the name stood for the segment's own object, or for one that was created
later and is not found any more. A segment that is closed by then removes nothing. -/
theorem close_removes_name {h : Host} (hnames : h.NamesExist) (before ops : List Operation)
    (slot : Nat) (name : String) (size : Nat) {s₀ : Segment} :
    let w := (Holdings.start h).run before
    let own := w.host.objects.size
    let w₁ := w.step (.createSegment slot name size)
    let v := w₁.run ops
    let closed := (v.step (.close slot)).host
    (Segment.create w.host name size).1 = .ok s₀ → w₁.Stays slot ops →
    ∃ s n, v.handle? slot = some (.segment s) ∧ objectName? name = some n ∧
      (∀ id, v.host.names.lookup n = some id → id = own ∨ own < id ∧ w₁.Gives ops n id) ∧
      (v.step (.drop slot)).host = closed ∧
      (s.unlinkOnDrop = true → s.unlinked = false →
        (s.mapping.isSome = true → v.host.Loses closed n ∧
          ∀ hint, Segment.attach closed name hint = .error (.openFailed s.name (.os .notFound))) ∧
        (s.mapping = none → closed = v.host)) := by
  intro w own w₁ v closed hs₀ hops
  have hw : w.Noted := (Holdings.noted_start hnames).run before
  have hw₁ : w₁.Noted := (hw.step _).2
  have hc : w.Creates w₁ slot name size s₀ := Holdings.creates_of_ok hs₀
  have hslot := Holdings.segment_run hc.handle hops
  obtain ⟨hsame, howner⟩ := s₀.foldl_after (ops.filterMap (Operation.call? slot))
  generalize (ops.filterMap (Operation.call? slot)).foldl Segment.after s₀ = s at hslot hsame howner
  have howner : s.owner = true := by rw [howner, hc.segment]
  have hadmitted : isRefused (objectName s.name) = false := by
    rw [hsame]
    exact hc.adds.admitted
  have hclosed : closed = (s.close v.host).2 := Holdings.host_act hslot Handle.close
  refine ⟨s, objectName s₀.name, hslot, objectName?_of_normalize hc.normalized, ?_, rfl, ?_⟩
  · exact fun id hfind => hc.lookup_run hw₁ hfind
  · intro hflag hmark
    rw [hclosed]
    refine ⟨?_, ?_⟩
    · intro hmapped
      have hloses := Segment.loses_close hmapped howner hflag hmark hadmitted v.host
      rw [hsame] at hloses ⊢
      exact ⟨hloses, Segment.attach_of_lost hc.normalized hc.adds.admitted hloses.lost⟩
    · intro hunmapped
      rw [Segment.close_of_unmapped hunmapped]

/-- A name goes from a segment to a channel, and the segment is dropped. -/
theorem close_removes_name_of_channel :
    let w := (Holdings.start .empty).run
      [.createSegment 0 "v" 64, .createProducer 1 "v" 16, .setUnlinkOnDrop 0 true]
    w.host.names.lookup "v" = some 1 ∧
      ((Holdings.start .empty).step (.createSegment 0 "v" 64)).Gives
        [.createProducer 1 "v" 16, .setUnlinkOnDrop 0 true] "v" 1 ∧
      w.host.Loses (w.step (.drop 0)).host "v" ∧
      ∀ hint, Segment.attach (w.step (.drop 0)).host "v" hint =
        .error (.openFailed "/v" (.os .notFound)) := by
  intro w
  have hnames : Host.empty.NamesExist := by
    rintro _ ⟨⟩
  have hcreate : (Segment.create .empty "v" 64).1 =
      .ok ⟨"/v", some ⟨0, 64⟩, true, false, false⟩ := rfl
  have hstays : ((Holdings.start .empty).step (.createSegment 0 "v" 64)).Stays 0
      [.createProducer 1 "v" 16, .setUnlinkOnDrop 0 true] := by
    simp only [Holdings.Stays, and_true]
    refine ⟨by decide +kernel, by simp, by decide +kernel, by simp⟩
  have hfind : w.host.names.lookup "v" = some 1 := by decide +kernel
  obtain ⟨s, n, hs, hn, hgiven, hdrop, hclose⟩ := close_removes_name hnames []
    [.createProducer 1 "v" 16, .setUnlinkOnDrop 0 true] 0 "v" 64 hcreate hstays
  cases hs
  obtain rfl : n = "v" := (Option.some.inj hn).symm
  obtain ⟨hloses, hattach⟩ := (hclose rfl rfl).1 rfl
  refine ⟨hfind, ?_, hdrop ▸ hloses, fun hint => hdrop ▸ hattach hint⟩
  rcases hgiven 1 hfind with hown | ⟨-, hgives⟩
  · exact absurd hown (by decide)
  · exact hgives

/-- What a segment removes when it is dropped need not be its own: it was asked to remove the name,
and by then another segment was created under it. -/
theorem drop_removes_successor :
    let w := (Holdings.start .empty).run
      [.createSegment 0 "v" 64, .setUnlinkOnDrop 0 true, .createSegment 1 "v" 32]
    w.handle? 0 = some (.segment ⟨"/v", some ⟨0, 64⟩, true, true, false⟩) ∧
      Segment.attach w.host "v" 0 = .ok ⟨"/v", some ⟨1, 32⟩, false, false, false⟩ ∧
      Segment.attach (w.step (.drop 0)).host "v" 0 =
        .error (.openFailed "/v" (.os .notFound)) :=
  ⟨rfl, rfl, rfl⟩

end SharedRing
