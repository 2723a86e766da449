import SharedRing.Proofs.Requests

/-!
How often a handle asks the host to remove its name. `Observed` are holdings with a record for every
handle of what the host was asked for by the operations on it, from when it was obtained until after
it is gone.

Each handle asks at most once in its life, and after that nothing that is done with it touches the
names of the host, whoever has taken its own by then (`removes_once`).
-/

namespace SharedRing

open Host

def Operation.uses? : Operation → Option Nat
  | .setUnlinkOnDrop slot _ => some slot
  | .access slot _ => some slot
  | .destroy slot => some slot
  | .close slot => some slot
  | .drop slot => some slot
  | _ => none

theorem Operation.obtains?_of_uses? {op : Operation} {slot : Nat} (huses : op.uses? = some slot)
    (w : Holdings) : op.obtains? w = none := by
  cases op <;> first | rfl | cases huses

theorem Operation.call?_of_not_uses? {op : Operation} {slot : Nat} (huses : op.uses? ≠ some slot) :
    op.call? slot = none ∧ op ≠ .drop slot := by
  cases op with
  | setUnlinkOnDrop i enabled => simpa [uses?, call?] using huses
  | destroy i => simpa [uses?, call?] using huses
  | close i => simpa [uses?, call?] using huses
  | drop i => simpa [uses?, call?] using huses
  | _ => simp [call?]

/-- A record tells what the marks of its handle tell, and has no more than one name when the handle
is gone. -/
inductive Records : Option Held → List String → Prop
  | held {x : Held} {asked : List String} (htells : x.handle.Tells asked) : Records (some x) asked
  | gone {asked : List String} (honce : asked.length ≤ 1) : Records none asked

theorem Records.once {x? : Option Held} {asked : List String} (hr : Records x? asked) :
    asked.length ≤ 1 := by
  cases hr with
  | held htells => exact htells.length_le
  | gone honce => exact honce

namespace Holdings

variable {w : Holdings} {slot : Nat} {op : Operation} {asked : List String} {x : Held}

theorem act_of_none (hx : w.handles slot = none) (f : Handle → Host → Handle × Host) :
    w.act slot f = w := by
  rw [act, hx]

theorem act_of_some (hx : w.handles slot = some x) (f : Handle → Host → Handle × Host) :
    w.act slot f = ⟨(f x.handle w.host).2, Function.update w.handles slot
      (some { x with handle := (f x.handle w.host).1 })⟩ := by
  rw [act, hx]
  rfl

/-- An operation on a handle that is not there does nothing. -/
theorem step_of_none (hx : w.handles slot = none) (huses : op.uses? = some slot) :
    (w.step op).host = w.host ∧ (w.step op).handles slot = none := by
  cases op <;> cases huses <;> simp [step, act_of_none hx, hx, put]

theorem records_act (hx : w.handles slot = some x) {f : Handle → Host → Handle × Host}
    {new : List String} (hremoves : w.host.Removes (f x.handle w.host).2 new)
    (htells : (f x.handle w.host).1.Tells (new ++ asked)) :
    w.host.Removes (w.act slot f).host new ∧
      Records ((w.act slot f).handles slot) (new ++ asked) := by
  rw [act_of_some hx]
  refine ⟨hremoves, ?_⟩
  simp only [Function.update_self]
  exact .held htells

/-- An operation on a handle asks for what its marks tell then and did not tell before. -/
theorem records_step (hr : Records (w.handles slot) asked) (huses : op.uses? = some slot) :
    ∃ new, w.host.Removes (w.step op).host new ∧
      Records ((w.step op).handles slot) (new ++ asked) := by
  cases hx : w.handles slot with
  | none =>
      obtain ⟨hhost, hhandles⟩ := step_of_none hx huses
      rw [hx] at hr
      rw [hhost, hhandles]
      exact ⟨[], removes_refl w.host, hr⟩
  | some x =>
      rw [hx] at hr
      obtain @⟨_, _, ht⟩ := hr
      cases op with
      | setUnlinkOnDrop i enabled =>
          obtain rfl : i = slot := Option.some.inj huses
          refine ⟨[], by simpa [step] using removes_refl w.host, ?_⟩
          simp only [step, put, hx, Option.map_some, Function.update_self]
          exact .held (ht.setUnlinkOnDrop enabled)
      | access i a =>
          obtain rfl : i = slot := Option.some.inj huses
          exact ⟨[], records_act hx (x.handle.removes_access a w.host) ht⟩
      | destroy i =>
          obtain rfl : i = slot := Option.some.inj huses
          obtain ⟨new, hremoves, htells⟩ := ht.destroy w.host
          exact ⟨new, records_act hx hremoves htells⟩
      | close i =>
          obtain rfl : i = slot := Option.some.inj huses
          obtain ⟨new, hremoves, htells⟩ := ht.close w.host
          exact ⟨new, records_act hx hremoves htells⟩
      | drop i =>
          obtain rfl : i = slot := Option.some.inj huses
          obtain ⟨new, hremoves, htells⟩ := ht.close w.host
          refine ⟨new, (records_act hx hremoves htells).1, ?_⟩
          rw [handles_drop]
          exact .gone htells.length_le
      | _ => cases huses

/-- Of a handle that has removed its name the host is asked for nothing more. -/
theorem removes_of_spent (hx : w.handles slot = some x) (hs : x.handle.Spent)
    (ht : x.handle.Tells asked) (huses : op.uses? = some slot) :
    w.host.Removes (w.step op).host [] := by
  cases op with
  | access i a =>
      obtain rfl : i = slot := Option.some.inj huses
      rw [step, act_of_some hx]
      exact x.handle.removes_access a w.host
  | setUnlinkOnDrop i enabled =>
      simpa [step] using removes_refl w.host
  | destroy i =>
      obtain rfl : i = slot := Option.some.inj huses
      rw [step, act_of_some hx, hs.destroy]
      exact removes_refl w.host
  | close i =>
      obtain rfl : i = slot := Option.some.inj huses
      rw [step, act_of_some hx, hs.close_snd ht]
      exact removes_refl w.host
  | drop i =>
      obtain rfl : i = slot := Option.some.inj huses
      simp only [step, act_of_some hx, hs.close_snd ht]
      exact removes_refl w.host
  | _ => cases huses

end Holdings

/-- Holdings, and what the handle of each slot has asked the host to remove since it was obtained.
What a handle asked for that has been dropped stays on record. -/
structure Observed where
  holdings : Holdings
  asked : Nat → List String

namespace Observed

def start (h : Host) : Observed := ⟨.start h, fun _ => []⟩

/-- What the host is asked for meanwhile goes on the record of the handle that is used. -/
def step (w : Observed) (op : Operation) : Observed where
  holdings := w.holdings.step op
  asked slot :=
    if op.obtains? w.holdings = some slot then []
    else if op.uses? = some slot then
      (w.holdings.step op).host.removalsSince w.holdings.host ++ w.asked slot
    else w.asked slot

def run (w : Observed) (ops : List Operation) : Observed := ops.foldl step w

variable {w : Observed} {slot : Nat} {op : Operation}

theorem holdings_run (w : Observed) (ops : List Operation) :
    (w.run ops).holdings = w.holdings.run ops := by
  induction ops generalizing w with
  | nil => rfl
  | cons op ops ih => exact ih (w.step op)

theorem asked_of_uses? (huses : op.uses? = some slot) {new : List String}
    (hnew : w.holdings.host.Removes (w.step op).holdings.host new) :
    (w.step op).asked slot = new ++ w.asked slot := by
  have hobtains : op.obtains? w.holdings ≠ some slot := by
    simp [Operation.obtains?_of_uses? huses]
  show (if _ then _ else if _ then _ else _) = _
  rw [if_neg hobtains, if_pos huses]
  exact congrArg (· ++ w.asked slot) hnew.since

theorem asked_of_not_uses? (hobtains : op.obtains? w.holdings ≠ some slot)
    (huses : op.uses? ≠ some slot) : (w.step op).asked slot = w.asked slot := by
  show (if _ then _ else if _ then _ else _) = _
  rw [if_neg hobtains, if_neg huses]

def Sound (w : Observed) : Prop := ∀ slot, Records (w.holdings.handles slot) (w.asked slot)

theorem sound_start (h : Host) : (start h).Sound := fun _ => .gone (Nat.zero_le 1)

theorem Sound.tells (hw : w.Sound) {x : Held} (hx : w.holdings.handles slot = some x) :
    x.handle.Tells (w.asked slot) := by
  have hrecords := hw slot
  rw [hx] at hrecords
  cases hrecords with
  | held htells => exact htells

/-- What an operation on a handle asks for is put on the handle's record. -/
theorem Sound.asked_step (hw : w.Sound) (huses : op.uses? = some slot) :
    ∃ new, w.holdings.host.Removes (w.step op).holdings.host new ∧
      (w.step op).asked slot = new ++ w.asked slot ∧
      Records ((w.step op).holdings.handles slot) ((w.step op).asked slot) := by
  obtain ⟨new, hremoves, hrecords⟩ := Holdings.records_step (hw slot) huses
  have hasked := asked_of_uses? (w := w) huses hremoves
  refine ⟨new, hremoves, hasked, ?_⟩
  rw [hasked]
  exact hrecords

theorem Sound.step (hw : w.Sound) (op : Operation) : (w.step op).Sound := by
  intro slot
  by_cases hobtains : op.obtains? w.holdings = some slot
  · obtain ⟨x, hx, htells⟩ := Operation.tells_of_obtains hobtains
    show Records ((w.holdings.step op).handles slot) (if _ then _ else _)
    rw [if_pos hobtains, hx]
    exact .held htells
  · by_cases huses : op.uses? = some slot
    · obtain ⟨new, -, -, hrecords⟩ := hw.asked_step huses
      exact hrecords
    · obtain ⟨hcall, hdrop⟩ := Operation.call?_of_not_uses? huses
      have hsame := Holdings.handles_step hobtains hdrop
      simp only [hcall, Option.elim_none, Option.map_id'] at hsame
      rw [asked_of_not_uses? hobtains huses]
      exact hsame ▸ hw slot

theorem Sound.run (hw : w.Sound) (ops : List Operation) : (w.run ops).Sound := by
  induction ops generalizing w with
  | nil => exact hw
  | cons op ops ih => exact ih (hw.step op)

def Spent (w : Observed) (slot : Nat) : Prop :=
  ∀ x, w.holdings.handles slot = some x → x.handle.Spent

theorem Sound.spent_of_asked (hw : w.Sound) (hasked : w.asked slot ≠ []) : w.Spent slot := by
  intro x hx
  rcases (hw.tells hx).eq with hnone | ⟨-, hspent⟩
  · exact absurd hnone hasked
  · exact hspent

theorem spent_destroy (w : Observed) (slot : Nat) : (w.step (.destroy slot)).Spent slot := by
  intro y hy
  have hstep : (w.holdings.step (.destroy slot)).handles slot = _ :=
    Holdings.handles_step (by simp [Operation.obtains?]) (by simp)
  rw [Operation.call?, if_pos rfl] at hstep
  obtain ⟨x, -, rfl⟩ := Option.map_eq_some_iff.1 (hstep.symm.trans hy)
  exact x.handle.spent_destroy _

/-- The host is not asked again on behalf of a handle that has removed its name. -/
theorem Sound.removes_of_spent (hw : w.Sound) (hs : w.Spent slot) (huses : op.uses? = some slot) :
    w.holdings.host.Removes (w.step op).holdings.host [] := by
  cases hx : w.holdings.handles slot with
  | none =>
      have hhost : (w.step op).holdings.host = w.holdings.host :=
        (Holdings.step_of_none hx huses).1
      rw [hhost]
      exact removes_refl w.holdings.host
  | some x => exact Holdings.removes_of_spent hx (hs x hx) (hw.tells hx) huses

theorem Sound.spent_step (hw : w.Sound) (hs : w.Spent slot)
    (hop : op.obtains? w.holdings ≠ some slot) :
    (w.step op).Spent slot ∧ (w.step op).asked slot = w.asked slot := by
  refine ⟨?_, ?_⟩
  · intro y hy
    by_cases hdrop : op = .drop slot
    · rw [hdrop] at hy
      cases (w.holdings.handles_drop slot).symm.trans hy
    · obtain ⟨x, hx, rfl⟩ :=
        Option.map_eq_some_iff.1 ((Holdings.handles_step hop hdrop).symm.trans hy)
      cases op.call? slot with
      | none => exact hs x hx
      | some c => exact (hs x hx).after w.holdings.host c
  · by_cases huses : op.uses? = some slot
    · exact asked_of_uses? huses (hw.removes_of_spent hs huses)
    · exact asked_of_not_uses? hop huses

theorem Sound.spent_run (hw : w.Sound) (hs : w.Spent slot) {later : List Operation}
    (hlater : w.holdings.Leaves slot later) :
    (w.run later).Spent slot ∧ (w.run later).asked slot = w.asked slot := by
  induction later generalizing w with
  | nil => exact ⟨hs, rfl⟩
  | cons op later ih =>
      obtain ⟨hop, hlater⟩ := hlater
      obtain ⟨hspent, hasked⟩ := hw.spent_step hs hop
      obtain ⟨hfinal, hsame⟩ := ih (hw.step op) hspent hlater
      exact ⟨hfinal, hsame.trans hasked⟩

/-- Destroying a handle that has removed its name changes nothing at all. -/
theorem Spent.step_destroy (hs : w.Spent slot) : w.step (.destroy slot) = w := by
  have hholdings : w.holdings.step (.destroy slot) = w.holdings := by
    rw [Holdings.step]
    cases hx : w.holdings.handles slot with
    | none => exact Holdings.act_of_none hx _
    | some x => rw [Holdings.act_of_some hx, (hs x hx).destroy, ← hx, Function.update_eq_self]
  have hasked : (w.step (.destroy slot)).asked = w.asked := by
    funext i
    simp [step, hholdings, Operation.obtains?, removalsSince_self]
  exact congr (congrArg Observed.mk hholdings) hasked

/-- Closing or dropping it does not change the host. -/
theorem Sound.host_close (hw : w.Sound) (hs : w.Spent slot) :
    (w.step (.close slot)).holdings.host = w.holdings.host ∧
      (w.step (.drop slot)).holdings.host = w.holdings.host := by
  cases hx : w.holdings.handles slot with
  | none =>
      exact ⟨(Holdings.step_of_none hx rfl).1, (Holdings.step_of_none hx rfl).1⟩
  | some x =>
      have hclose := (hs x hx).close_snd (hw.tells hx) w.holdings.host
      have hact := Holdings.act_of_some hx Handle.close
      simp only [Observed.step, Holdings.step, hact, hclose, and_self]

end Observed

/-- A handle removes its name at most once. What the host is asked for by the operations on the
handle is on the handle's record, and its names change by nothing else; whatever else is done there,
the record is empty or the handle's own name. Once it is the name, the host stays as it is when the
handle is destroyed, closed or dropped, whoever has taken the name by then; and a handle that was
destroyed can be destroyed again without any effect. -/
theorem removes_once (h : Host) (ops : List Operation) (slot : Nat) :
    let w := (Observed.start h).run ops
    w.holdings = (Holdings.start h).run ops ∧
      (∀ op : Operation, op.uses? = some slot → ∃ new,
        w.holdings.host.Removes (w.step op).holdings.host new ∧
          (w.step op).asked slot = new ++ w.asked slot) ∧
      (w.asked slot).length ≤ 1 ∧
      (∀ x, w.holdings.handles slot = some x →
        w.asked slot = [] ∨ w.asked slot = [x.handle.name]) ∧
      (w.asked slot ≠ [] → ∀ later, w.holdings.Leaves slot later →
        let v := w.run later
        v.asked slot = w.asked slot ∧ v.step (.destroy slot) = v ∧
          (v.step (.close slot)).holdings.host = v.holdings.host ∧
          (v.step (.drop slot)).holdings.host = v.holdings.host) ∧
      ∀ later, (w.step (.destroy slot)).holdings.Leaves slot later →
        let v := (w.step (.destroy slot)).run later
        v.step (.destroy slot) = v := by
  intro w
  have hw : w.Sound := (Observed.sound_start h).run ops
  refine ⟨Observed.holdings_run .., ?_, (hw slot).once, ?_, ?_, ?_⟩
  · intro op huses
    obtain ⟨new, hremoves, hasked, -⟩ := hw.asked_step huses
    exact ⟨new, hremoves, hasked⟩
  · intro x hx
    rcases (hw.tells hx).eq with hnone | ⟨hname, -⟩
    · exact Or.inl hnone
    · exact Or.inr hname
  · intro hasked later hlater v
    obtain ⟨hspent, hsame⟩ := hw.spent_run (hw.spent_of_asked hasked) hlater
    exact ⟨hsame, hspent.step_destroy, (hw.run later).host_close hspent⟩
  · intro later hlater v
    obtain ⟨hspent, -⟩ := (hw.step (.destroy slot)).spent_run (w.spent_destroy slot) hlater
    exact hspent.step_destroy

/-- A producer took the name over from a segment, was closed and removed the name. Then another
segment is created under it, which neither a second removal by the producer nor dropping it
affects. -/
theorem removes_once_closed :
    let w := (Observed.start .empty).run
      [.createSegment 0 "v" 64, .createProducer 1 "v" 64, .close 1, .destroy 1]
    let v := w.run [.createSegment 2 "v" 8]
    w.asked 1 = ["/v"] ∧ v.asked 1 = ["/v"] ∧ v.step (.destroy 1) = v ∧
      Segment.attach (v.step (.drop 1)).holdings.host "v" 0 =
        .ok ⟨"/v", some ⟨2, 8⟩, false, false, false⟩ := by
  intro w v
  have hasked : w.asked 1 = ["/v"] := by decide +kernel
  have hleaves : w.holdings.Leaves 1 [.createSegment 2 "v" 8] := by
    simp only [Holdings.Leaves, and_true]
    decide +kernel
  obtain ⟨-, -, -, -, hlater, -⟩ := removes_once .empty
    [.createSegment 0 "v" 64, .createProducer 1 "v" 64, .close 1, .destroy 1] 1
  obtain ⟨hsame, hdestroy, -, hdrop⟩ := hlater (by rw [hasked]; simp) _ hleaves
  refine ⟨hasked, hsame.trans hasked, hdestroy, ?_⟩
  rw [hdrop]
  rfl

end SharedRing
