import SharedRing.Proofs.Removal
import SharedRing.Proofs.Succession

/-!
Whether a segment that was created has removed its name by the time it is dropped. The calls on it
settle this, whatever else is done on the host. Destroying it removes the name at any time. Whether
it is to remove the name when it goes is looked at once, when it is closed while it is mapped
(`Handle.Call.Removes`). So telling a closed segment to remove its name has no effect, and the name
outlives it (`drop_removes_iff`).
-/

namespace SharedRing

open Host

/-! ### Calls on a segment -/

namespace Handle.Call

def flag (enabled : Bool) : Handle.Call → Bool
  | .setUnlinkOnDrop enabled => enabled
  | _ => enabled

def enabled (calls : List Handle.Call) : Bool := calls.foldl flag false

/-- Calls on a new segment that have removed its name when it is dropped after them: it was
destroyed, or was to remove the name when it was first closed, be it by the drop. -/
def Removes (calls : List Handle.Call) : Prop :=
  .destroy ∈ calls ∨ enabled (calls.takeWhile (· ≠ .close)) = true

instance (calls : List Handle.Call) : Decidable (Removes calls) :=
  inferInstanceAs (Decidable (_ ∨ _))

end Handle.Call

namespace Segment

variable {s : Segment}

/-- A closed segment removes its name only by being destroyed. -/
theorem unlinked_foldl_of_unmapped (hs : s.mapping = none) (calls : List Handle.Call) :
    (calls.foldl after s).unlinked = true ↔ s.unlinked = true ∨ .destroy ∈ calls := by
  induction calls generalizing s with
  | nil => simp
  | cons c calls ih =>
      rw [List.foldl_cons]
      cases c with
      | destroy =>
          rw [ih (s := s.after .destroy) hs]
          simp [after]
      | close =>
          rw [ih (s := s.after .close) rfl]
          simp [after, hs]
      | setUnlinkOnDrop enabled =>
          rw [ih (s := s.after (.setUnlinkOnDrop enabled)) hs]
          simp [after]

/-- Closed after some calls, an open segment of a creator has removed its name when it was destroyed
among them, or was to remove it when it was closed first. -/
theorem unlinked_foldl_close (hmapped : s.mapping.isSome = true) (howner : s.owner = true)
    (calls : List Handle.Call) :
    ((calls ++ [Handle.Call.close]).foldl after s).unlinked = true ↔
      s.unlinked = true ∨ .destroy ∈ calls ∨
        (calls.takeWhile (· ≠ .close)).foldl Handle.Call.flag s.unlinkOnDrop = true := by
  induction calls generalizing s with
  | nil => simp [after, hmapped, howner]
  | cons c calls ih =>
      rw [List.cons_append, List.foldl_cons]
      cases c with
      | destroy =>
          rw [ih (s := s.after .destroy) hmapped howner]
          simp [after]
      | close =>
          -- from here on the flag is not looked at
          have hmark : (s.after .close).unlinked = (s.unlinked || s.unlinkOnDrop) := by
            simp [after, hmapped, howner]
          have hfront : (Handle.Call.close :: calls).takeWhile (· ≠ .close) = [] := by simp
          have hlast : Handle.Call.destroy ∈ calls ++ [.close] ↔ .destroy ∈ calls := by simp
          have hfirst : Handle.Call.destroy ∈ .close :: calls ↔ .destroy ∈ calls := by simp
          rw [unlinked_foldl_of_unmapped (s := s.after .close) rfl, hmark, hfront, hlast, hfirst,
            Bool.or_eq_true]
          exact or_assoc.trans (or_congr_right or_comm)
      | setUnlinkOnDrop enabled =>
          rw [ih (s := s.after (.setUnlinkOnDrop enabled)) hmapped howner]
          simp [after, Handle.Call.flag]

/-- A segment that has not removed its name when it is closed leaves the host as it is. -/
theorem close_snd_of_not_unlinked (hs : (s.after .close).unlinked = false) (h : Host) :
    (s.close h).2 = h := by
  have hmark : (s.unlinked || s.mapping.isSome && s.owner && s.unlinkOnDrop) = false := hs
  rw [close]
  split
  · rfl
  · rename_i p hp
    simp only [hp, Option.isSome_some, Bool.true_and, Bool.or_eq_false_iff] at hmark
    obtain ⟨-, hflags⟩ := hmark
    simp only [hflags, Bool.false_eq_true, if_false]

end Segment

/-! ### The name of a segment -/

namespace Operation

variable {slot : Nat} {op : Operation}

theorem eq_destroy_of_call? (hop : op.call? slot = some .destroy) : op = .destroy slot := by
  cases op with
  | destroy i => simpa [call?] using hop
  | _ => simp [call?] at hop

theorem eq_close_of_call? (hop : op.call? slot = some .close) : op = .close slot := by
  cases op with
  | close i => simpa [call?] using hop
  | _ => simp [call?] at hop

end Operation

namespace Holdings

variable {w : Holdings} {slot : Nat} {s : Segment} {op : Operation} {ops : List Operation}

/-- A segment in the slot that was created. Once it has removed its name, that stands for
nothing. -/
structure Owns (w : Holdings) (slot : Nat) (s : Segment) : Prop where
  noted : w.Noted
  handle : w.handle? slot = some (.segment s)
  owner : s.owner = true
  admitted : isRefused (objectName s.name) = false
  lost : s.unlinked = true → w.host.names.lookup (objectName s.name) = none

/-- The name is lost when the segment removes it, and for good while nobody creates it again. -/
theorem Owns.lost_step (ho : w.Owns slot s) (hop : op.creates? ≠ some (objectName s.name))
    (hmark : ((op.call? slot).elim s s.after).unlinked = true) :
    (w.step op).host.names.lookup (objectName s.name) = none := by
  cases hunlinked : s.unlinked with
  | true =>
      cases ho.noted.passes_step op ho.admitted with
      | kept heq => exact heq.trans (ho.lost hunlinked)
      | lost hnone => exact hnone
      | taken htaken _ => exact absurd htaken hop
  | false =>
      -- the mark is new, so the name is removed by this operation
      cases hcall : op.call? slot with
      | none =>
          rw [hcall, Option.elim_none, hunlinked] at hmark
          cases hmark
      | some c =>
          rw [hcall, Option.elim_some] at hmark
          cases c with
          | destroy =>
              rw [Operation.eq_destroy_of_call? hcall]
              simp only [Holdings.step, host_act ho.handle]
              exact (Segment.loses_destroy hunlinked ho.admitted w.host).lost
          | close =>
              rw [Operation.eq_close_of_call? hcall]
              simp only [Holdings.step, host_act ho.handle]
              simp only [Segment.after, hunlinked, ho.owner, Bool.false_or, Bool.and_true,
                Bool.and_eq_true] at hmark
              obtain ⟨hmapped, hflag⟩ := hmark
              exact (Segment.loses_close hmapped ho.owner hflag hunlinked ho.admitted w.host).lost
          | setUnlinkOnDrop enabled =>
              simp only [Segment.after, hunlinked] at hmark
              cases hmark

theorem Owns.step (ho : w.Owns slot s) (hobtains : op.obtains? w ≠ some slot)
    (hdrop : op ≠ .drop slot) (hop : op.creates? ≠ some (objectName s.name)) :
    (w.step op).Owns slot ((op.call? slot).elim s s.after) := by
  have hname : ((op.call? slot).elim s s.after).name = s.name := by
    cases op.call? slot <;> simp
  have howner : ((op.call? slot).elim s s.after).owner = s.owner := by
    cases op.call? slot <;> simp
  refine ⟨(ho.noted.step op).2, segment_step ho.handle hobtains hdrop, howner.trans ho.owner, ?_,
    ?_⟩
  · rw [hname]
    exact ho.admitted
  · rw [hname]
    exact ho.lost_step hop

theorem Owns.run (ho : w.Owns slot s) (hops : w.Stays slot ops)
    (hcreates : ∀ op ∈ ops, op.creates? ≠ some (objectName s.name)) :
    (w.run ops).Owns slot ((ops.filterMap (Operation.call? slot)).foldl Segment.after s) := by
  induction ops generalizing w s with
  | nil => exact ho
  | cons op ops ih =>
      obtain ⟨hobtains, hdrop, hops⟩ := hops
      obtain ⟨hop, hcreates⟩ := List.forall_mem_cons.1 hcreates
      have hnext := ho.step hobtains hdrop hop
      rw [List.filterMap_cons]
      cases hcall : op.call? slot with
      | none =>
          rw [hcall] at hnext
          exact ih hnext hops hcreates
      | some c =>
          rw [hcall] at hnext
          exact ih hnext hops (by simpa using hcreates)

end Holdings

namespace Holdings.Creates

variable {w w₁ : Holdings} {slot size : Nat} {name : String} {s : Segment} {ops : List Operation}

/-- The mark of a segment that is closed, by the calls on it since it was created. -/
theorem unlinked_close (hc : w.Creates w₁ slot name size s) (calls : List Handle.Call) :
    ((calls.foldl Segment.after s).after .close).unlinked = true ↔ Handle.Call.Removes calls := by
  have hclose := Segment.unlinked_foldl_close (s := s) (by rw [hc.segment]; rfl)
    (by rw [hc.segment]) calls
  rw [List.foldl_append, List.foldl_cons, List.foldl_nil] at hclose
  rw [hclose, hc.segment]
  simp [Handle.Call.Removes, Handle.Call.enabled]

theorem owns (hc : w.Creates w₁ slot name size s) (hw₁ : w₁.Noted) : w₁.Owns slot s := by
  refine ⟨hw₁, hc.handle, by rw [hc.segment], hc.adds.admitted, ?_⟩
  rw [hc.segment]
  rintro ⟨⟩

/-- Nothing is found under the name of a segment that is closed and has removed it, if nobody
created it again. -/
theorem attach_close (hc : w.Creates w₁ slot name size s) (hw₁ : w₁.Noted)
    (hops : w₁.Stays slot ops) (hcreates : ∀ op ∈ ops, op.creates? ≠ objectName? name)
    (hcalls : Handle.Call.Removes (ops.filterMap (Operation.call? slot))) (hint : Nat) :
    Segment.attach ((w₁.run ops).step (.close slot)).host name hint =
      .error (.openFailed s.name (.os .notFound)) := by
  rw [objectName?_of_normalize hc.normalized] at hcreates
  have howns := (hc.owns hw₁).run hops hcreates
  obtain ⟨hsame, -⟩ := s.foldl_after (ops.filterMap (Operation.call? slot))
  have hmark := (hc.unlinked_close _).2 hcalls
  generalize (ops.filterMap (Operation.call? slot)).foldl Segment.after s = t at howns hsame hmark
  have hclose : (Operation.close slot).creates? ≠ some (objectName t.name) := by
    simp [Operation.creates?]
  have hlost := howns.lost_step hclose (by simpa [Operation.call?] using hmark)
  rw [hsame] at hlost
  exact Segment.attach_of_lost hc.normalized hc.adds.admitted hlost hint

/-- Closing a segment that has not removed its name by then does nothing to the host. -/
theorem host_close (hc : w.Creates w₁ slot name size s) (hops : w₁.Stays slot ops)
    (hcalls : ¬Handle.Call.Removes (ops.filterMap (Operation.call? slot))) :
    ((w₁.run ops).step (.close slot)).host = (w₁.run ops).host := by
  have hmark := mt (hc.unlinked_close _).1 hcalls
  rw [Bool.not_eq_true] at hmark
  exact (Holdings.host_act (Holdings.segment_run hc.handle hops) Handle.close).trans
    (Segment.close_snd_of_not_unlinked hmark _)

end Holdings.Creates

/-- What a segment has asked for when it is closed, by the calls on it before. -/
theorem Observed.Sound.asked_close {w : Observed} (hw : w.Sound) {slot : Nat} {s : Segment}
    (hs : w.holdings.handle? slot = some (.segment s)) :
    (w.step (.close slot)).asked slot = if (s.after .close).unlinked then [s.name] else [] := by
  have hobtains : (Operation.close slot).obtains? w.holdings ≠ some slot := by
    simp [Operation.obtains?]
  have hclosed : (w.step (.close slot)).holdings.handle? slot = _ :=
    Holdings.segment_step hs hobtains (by simp)
  obtain ⟨x, hx, hhandle⟩ := Option.map_eq_some_iff.1 hclosed
  have htells := (hw.step (.close slot)).tells hx
  rw [hhandle] at htells
  simpa [Handle.Tells, Operation.call?] using htells

/-- Whether a segment that was created has removed its name by the end of the drop, by the calls on
it before. If so, nothing is found under the name, unless it was created again. If not, the drop
leaves the host as it is, and that the segment was told to remove its name after it was closed makes
no difference. -/
theorem drop_removes_iff {h : Host} (hnames : h.NamesExist) (before ops : List Operation)
    (slot : Nat) (name : String) (size : Nat) {s₀ : Segment} :
    let w := (Observed.start h).run before
    let w₁ := w.step (.createSegment slot name size)
    let u := w₁.run ops
    let v := u.step (.drop slot)
    let calls := ops.filterMap (Operation.call? slot)
    (Segment.create w.holdings.host name size).1 = .ok s₀ → w₁.holdings.Stays slot ops →
      (Handle.Call.Removes calls → v.asked slot = [s₀.name] ∧
        ((∀ op ∈ ops, op.creates? ≠ objectName? name) → ∀ hint,
          Segment.attach v.holdings.host name hint =
            .error (.openFailed s₀.name (.os .notFound)))) ∧
      (¬Handle.Call.Removes calls → v.asked slot = [] ∧ v.holdings.host = u.holdings.host) := by
  intro w w₁ u v calls hs₀ hops
  have hsound : u.Sound := (((Observed.sound_start h).run before).step _).run ops
  have hw : w.holdings.Noted := by
    rw [Observed.holdings_run]
    exact (Holdings.noted_start hnames).run before
  have hc : w.holdings.Creates w₁.holdings slot name size s₀ := Holdings.creates_of_ok hs₀
  have hw₁ : w₁.holdings.Noted := (hw.step (.createSegment slot name size)).2
  have hu : u.holdings = w₁.holdings.run ops := Observed.holdings_run ..
  have hslot : u.holdings.handle? slot = some (.segment (calls.foldl Segment.after s₀)) := by
    rw [hu]
    exact Holdings.segment_run hc.handle hops
  -- for the host a drop is a close
  have hasked : v.asked slot = _ := hsound.asked_close hslot
  have hdrop : v.holdings.host = ((w₁.holdings.run ops).step (.close slot)).host := by
    show (u.holdings.step (.close slot)).host = _
    rw [hu]
  rw [hasked, hdrop]
  refine ⟨?_, ?_⟩
  · intro hcalls
    obtain ⟨hsame, -⟩ := s₀.foldl_after calls
    rw [if_pos ((hc.unlinked_close calls).2 hcalls), hsame]
    exact ⟨rfl, fun hcreates => hc.attach_close hw₁ hops hcreates hcalls⟩
  · intro hcalls
    rw [if_neg (mt (hc.unlinked_close calls).1 hcalls), hu]
    exact ⟨rfl, hc.host_close hops hcalls⟩

/-- A segment is closed while it is to remove its name, and told otherwise and back again after
that. -/
theorem drop_removes_iff_wavering :
    let ops : List Operation := [.setUnlinkOnDrop 0 true, .attachSegment 1 "v" 0, .close 0,
      .setUnlinkOnDrop 0 false, .setUnlinkOnDrop 0 true]
    let v := (((Observed.start .empty).step (.createSegment 0 "v" 64)).run ops).step (.drop 0)
    Handle.Call.enabled (ops.filterMap (Operation.call? 0)) = true ∧ v.asked 0 = ["/v"] ∧
      ∀ hint, Segment.attach v.holdings.host "v" hint =
        .error (.openFailed "/v" (.os .notFound)) := by
  intro ops v
  have hnames : Host.empty.NamesExist := by
    rintro _ ⟨⟩
  have hcreate : (Segment.create .empty "v" 64).1 =
      .ok ⟨"/v", some ⟨0, 64⟩, true, false, false⟩ := rfl
  have hstays : ((Observed.start .empty).step (.createSegment 0 "v" 64)).holdings.Stays 0 ops := by
    simp only [ops, Holdings.Stays, and_true]
    refine ⟨?_, by simp, ?_, by simp, ?_, by simp, ?_, by simp, ?_, by simp⟩ <;> decide +kernel
  have hcreates : ∀ op ∈ ops, op.creates? ≠ objectName? "v" := by
    have hname : objectName? "v" = some "v" := by decide
    simp [ops, Operation.creates?, hname]
  obtain ⟨hremoved, -⟩ := drop_removes_iff hnames [] ops 0 "v" 64 hcreate hstays
  obtain ⟨hasked, hattach⟩ := hremoved (by decide)
  exact ⟨by decide, hasked, hattach hcreates⟩

/-- A name outlives its segment, which was told to remove it after it was closed. -/
theorem drop_keeps_name :
    let w := (Holdings.start .empty).run
      [.createSegment 0 "v" 64, .close 0, .setUnlinkOnDrop 0 true]
    w.handle? 0 = some (.segment ⟨"/v", none, true, true, false⟩) ∧
      Segment.attach (w.step (.drop 0)).host "v" 0 =
        .ok ⟨"/v", some ⟨0, 64⟩, false, false, false⟩ :=
  ⟨rfl, rfl⟩

end SharedRing
