import SharedRing.Proofs.Channel.Opening
import SharedRing.Video.Publish
import SharedRing.Video.Receive

/-!
Which name a call on a handle may change, for segments, for the ends of channels and for the two
programs. It goes by how the handle was obtained (`Segment.Noted`, `Producer.Noted`,
`Consumer.Noted`), which the calls on a handle leave as it is: a segment that was attached removes
nothing when it goes away, one that was created removes its own name if it was told to, and those
under the ends of channels are never told to. What a name stands for settles what opening it finds
(`Segment.attach_eq_of_binding`).
-/

namespace SharedRing

open Host

variable {h h' : Host} {name n : String} {n? : Option String}

/-! ### Segments -/

/-- A segment under a name as it was given, created or not, that removes it when dropped or not. -/
structure Segment.Noted (s : Segment) (name : String) (created unlinks : Bool) : Prop where
  normalized : Name.normalize name = .ok s.name
  owner : s.owner = created
  unlinkOnDrop : s.unlinkOnDrop = unlinks

theorem Host.objectName?_of_normalize (hname : Name.normalize name = .ok n) :
    objectName? name = some (objectName n) := by
  rw [objectName?, hname]
  rfl

namespace Segment

variable {s : Segment} {created unlinks : Bool} {size hint : Nat}

theorem noted_create (hc : create h name size = (.ok s, h')) : s.Noted name true false := by
  obtain ⟨hs, hname, -, -⟩ := of_create_ok hc
  exact ⟨hname, by rw [hs], by rw [hs]⟩

theorem noted_attach (ha : attach h name hint = .ok s) : s.Noted name false false := by
  rw [attach] at ha
  cases hname : Name.normalize name with
  | error e => simp [hname] at ha
  | ok n =>
      simp only [hname] at ha
      split at ha
      · cases ha
      · cases ha
        exact ⟨hname, rfl, rfl⟩

theorem destroy_fst (s : Segment) (h : Host) : (s.destroy h).1 = { s with unlinked := true } := by
  obtain ⟨name, mapping, owner, unlinkOnDrop, unlinked⟩ := s
  cases unlinked <;> rfl

theorem Noted.destroy (hs : s.Noted name created unlinks) (h : Host) :
    (s.destroy h).1.Noted name created unlinks := by
  rw [destroy_fst]
  exact ⟨hs.normalized, hs.owner, hs.unlinkOnDrop⟩

theorem Noted.close (hs : s.Noted name created unlinks) (h : Host) :
    (s.close h).1.Noted name created unlinks := by
  rw [Segment.close]
  split
  · exact hs
  · have hclosed : Noted { s with mapping := none } name created unlinks :=
      ⟨hs.normalized, hs.owner, hs.unlinkOnDrop⟩
    dsimp only
    split
    · exact hclosed.destroy h
    · exact hclosed

theorem Noted.confined_destroy (hs : s.Noted name created unlinks) (h : Host) :
    h.Confined (s.destroy h).2 (objectName? name) := by
  rw [objectName?_of_normalize hs.normalized]
  exact s.confined_destroy h

theorem Noted.confined_close (hs : s.Noted name created unlinks) (h : Host) :
    h.Confined (s.close h).2 (if created && unlinks then objectName? name else none) := by
  rw [objectName?_of_normalize hs.normalized, ← hs.owner, ← hs.unlinkOnDrop]
  exact s.confined_close h

theorem confined_store? {start : Nat} {src : Bytes} (hs : s.store? h start src = some h')
    (n? : Option String) : h.Confined h' n? := by
  rw [store?] at hs
  split at hs
  · cases hs
  · split at hs
    · cases hs
      exact .refl h n?
    · cases hs
      exact Host.confined_setMemory ..

end Segment

namespace Host

theorem attach_congr (hfind : h'.find? name = h.find? name)
    (hheld : ∀ id, h.find? name = some id → h'.held id = h.held id) (hint : Nat) :
    h'.attach name hint = h.attach name hint := by
  have hopen : h'.openExisting name = h.openExisting name := by
    rw [openExisting, openExisting, hfind]
  rw [attach, attach, hopen]
  cases hid : h.openExisting name with
  | error e => rfl
  | ok id => simp only [hheld id (find?_of_openExisting hid)]

/-- What a name stands for settles what opening it finds. -/
theorem attach_eq_of_binding (hb : h'.binding (objectName name) = h.binding (objectName name))
    (hint : Nat) : h'.attach name hint = h.attach name hint := by
  have hfst (g : Host) : (g.binding (objectName name)).map Prod.fst = g.find? name := by
    rw [binding, find?]
    cases g.names.lookup (objectName name) <;> rfl
  refine attach_congr (by rw [← hfst, ← hfst, hb]) ?_ hint
  intro id hfind
  have hsnd : h'.binding (objectName name) = some (id, h.held id) := by
    rw [hb, binding, ← find?, hfind, Option.map_some]
  obtain ⟨id', -, heq⟩ := Option.map_eq_some_iff.1 hsnd
  simp only [Prod.mk.injEq] at heq
  obtain ⟨rfl, hheld⟩ := heq
  exact hheld

end Host

theorem Segment.attach_eq_of_binding (hname : objectName? name = some n)
    (hb : h'.binding n = h.binding n) (hint : Nat) :
    Segment.attach h' name hint = Segment.attach h name hint := by
  rw [attach, attach]
  cases hn : Name.normalize name with
  | error e => rfl
  | ok m =>
      rw [objectName?_of_normalize hn] at hname
      cases hname
      dsimp only
      rw [Host.attach_eq_of_binding hb]

/-! ### Ends of channels -/

theorem Binding.confined_setMemory (b : Binding) (h : Host) (m : Memory) (n? : Option String) :
    h.Confined (b.setMemory h m) n? := by
  rcases b.setMemory_cases h m with heq | ⟨id, -, heq⟩
  · rw [heq]
    exact .refl h n?
  · rw [heq]
    exact Host.confined_setMemory ..

structure Producer.Noted (p : Producer) (name : String) : Prop where
  normalized : Name.normalize name = .ok p.name
  segment : ∀ b, p.binding = some b → b.segment.Noted name true false

namespace Producer

variable {p : Producer} {requested : Nat}

theorem noted_create (hc : create h name requested = (.ok p, h')) : p.Noted name := by
  obtain ⟨r, hp, hname, -⟩ := of_create_ok hc
  refine ⟨hname, ?_⟩
  intro b hb
  rw [hp] at hb
  cases hb
  exact ⟨hname, rfl, rfl⟩

theorem confined_create (h : Host) (name : String) (requested : Nat) :
    h.Confined (create h name requested).2 (objectName? name) := by
  rcases create_cases h name requested with
    ⟨e, h', heq, hfails⟩ | ⟨n, r, h', heq, hname, -, -, -, hadds⟩
  · rw [heq]
    exact hfails.confined
  · rw [heq, objectName?_of_normalize hname]
    exact hadds.confined

theorem confined_write (p : Producer) (h : Host) (msg : Bytes) (n? : Option String) :
    h.Confined (p.write h msg).2 n? := by
  rw [write]
  split
  · exact .refl h n?
  · exact Binding.confined_setMemory ..

theorem Noted.confined_destroy (hp : p.Noted name) (h : Host) :
    h.Confined (p.destroy h).2 (objectName? name) := by
  rw [destroy]
  split
  · exact .refl h _
  · split
    · have hremove := Segment.confined_remove h p.name
      rw [objectName?_of_normalize (Name.normalize_normalize hp.normalized)] at hremove
      rw [objectName?_of_normalize hp.normalized]
      exact hremove
    · rename_i b hb
      exact (hp.segment b hb).confined_destroy h

theorem Noted.confined_close (hp : p.Noted name) (h : Host) (n? : Option String) :
    h.Confined (p.close h).2 n? := by
  rw [close]
  split
  · exact .refl h n?
  · rename_i b hb
    exact ((hp.segment b hb).confined_close h).of_none n?

theorem Noted.destroy (hp : p.Noted name) (h : Host) : (p.destroy h).1.Noted name := by
  rw [Producer.destroy]
  split
  · exact hp
  · split
    · rename_i hnone
      exact ⟨hp.normalized, by rintro b hb; rw [hnone] at hb; cases hb⟩
    · rename_i b hb
      exact ⟨hp.normalized, by rintro _ ⟨⟩; exact (hp.segment b hb).destroy h⟩

theorem Noted.close (hp : p.Noted name) (h : Host) : (p.close h).1.Noted name := by
  rw [Producer.close]
  split
  · exact hp
  · exact ⟨hp.normalized, by rintro _ ⟨⟩⟩

end Producer

def Consumer.Noted (c : Consumer) (name : String) : Prop :=
  ∀ b, c.binding = some b → b.segment.Noted name false false

namespace Consumer

variable {c : Consumer}

theorem confined_attach (h : Host) (name : String) (hint : Nat) (n? : Option String) :
    h.Confined (attach h name hint).2 n? := by
  cases hs : Segment.attach h name hint with
  | error e =>
      simp only [attach, hs]
      exact .refl h n?
  | ok s =>
      have hnoted := Segment.noted_attach hs
      obtain ⟨id, size, hmapping, -⟩ := Segment.of_attach hs
      rcases Binding.new_consumer_cases hmapping h with ⟨e, hnew⟩ | ⟨c, -, hnew⟩
      · simp only [attach, hs, hnew]
        exact (hnoted.confined_close h).of_none n?
      · simp only [attach, hs, hnew]
        exact (Host.confined_setMemory ..).trans (confined_report ..)

theorem noted_attach {hint : Nat} (ha : attach h name hint = (.ok c, h')) : c.Noted name := by
  cases hs : Segment.attach h name hint with
  | error e =>
      simp only [attach, hs] at ha
      cases ha
  | ok s =>
      have hnoted := Segment.noted_attach hs
      obtain ⟨id, size, hmapping, -⟩ := Segment.of_attach hs
      rcases Binding.new_consumer_cases hmapping h with ⟨e, hnew⟩ | ⟨c, -, hnew⟩
      · simp only [attach, hs, hnew] at ha
        cases ha
      · simp only [attach, hs, hnew] at ha
        cases ha
        rintro _ ⟨⟩
        exact hnoted

theorem confined_read (c : Consumer) (h : Host) (out : Bytes) (n? : Option String) :
    h.Confined (c.read h out).2 n? := by
  rw [read]
  split
  · exact .refl h n?
  · exact Binding.confined_setMemory ..

theorem confined_readMessage (c : Consumer) (h : Host) (n? : Option String) :
    h.Confined (c.readMessage h).2 n? := by
  rw [readMessage]
  split
  · exact .refl h n?
  · exact Binding.confined_setMemory ..

theorem Noted.confined_close (hc : c.Noted name) (h : Host) (n? : Option String) :
    h.Confined (c.close h).2 n? := by
  rw [close]
  split
  · exact .refl h n?
  · rename_i b hb
    exact ((hc b hb).confined_close h).of_none n?

theorem Noted.close (hc : c.Noted name) (h : Host) : (c.close h).1.Noted name := by
  rw [Consumer.close]
  split
  · exact hc
  · rintro _ ⟨⟩

end Consumer

/-! ### Programs -/

namespace Video

theorem Publish.confined_step (p : Producer) (frameSize : Nat) (elapsed : Nat → Duration)
    (s : Publish.State) : s.host.Confined (Publish.step p frameSize elapsed s).host none := by
  have hwrite := p.confined_write s.host (Frame.fill frameSize (UInt32.ofNat s.index)) none
  rw [step, reportStatus]
  dsimp only
  split
  · exact hwrite.trans (confined_report ..)
  · exact hwrite

theorem Publish.confined_steps (p : Producer) (frameSize : Nat) (elapsed : Nat → Duration)
    (count : Nat) (s : Publish.State) :
    s.host.Confined (Publish.steps p frameSize elapsed count s).host none := by
  induction count generalizing s with
  | zero => exact .refl _ _
  | succ count ih => exact (confined_step p frameSize elapsed s).trans (ih _)

theorem Publish.confined_onChannel (p : Producer) (s : ProducerSettings) (stopAfter : Option Nat)
    (elapsed : Nat → Duration) (h : Host) :
    h.Confined (Publish.onChannel p s stopAfter elapsed h).2 none := by
  rw [onChannel]
  dsimp only
  split
  · exact .refl h none
  · split
    · exact confined_report ..
    · rename_i pacer _
      have hsteps := confined_steps p s.frameSize elapsed (attempts s.maxFrames stopAfter)
        ⟨h.report (.publishing p.name s.geometry.width s.geometry.height s.rate s.frameSize
          p.capacity (p.capacity / (s.frameSize + Ring.lengthSize))), pacer, 0, 0, 0⟩
      exact ((confined_report ..).trans hsteps).trans (confined_report ..)

/-- Publishing is confined to the name of its channel. -/
theorem confined_publish (s : ProducerSettings) (stopAfter : Option Nat)
    (elapsed : Nat → Duration) (h : Host) :
    h.Confined (publish s stopAfter elapsed h).2 (objectName? s.name) := by
  have hremove := Segment.confined_remove h s.name
  have hcreate := Producer.confined_create (Segment.remove h s.name) s.name s.requestedCapacity
  rw [publish]
  split
  · exact .refl h _
  · split
    · rename_i heq
      rw [heq] at hcreate
      exact hremove.trans hcreate
    · rename_i p h₁ heq
      rw [heq] at hcreate
      have hp := Producer.noted_create heq
      have hrun := (Publish.confined_onChannel p s stopAfter elapsed h₁).of_none
        (objectName? s.name)
      have hrun := hremove.trans (hcreate.trans hrun)
      split
      · rename_i h₂ heq
        rw [heq] at hrun
        exact hrun.trans (hp.confined_close h₂ _)
      · rename_i h₂ _ heq
        rw [heq] at hrun
        exact (hrun.trans (hp.confined_destroy h₂)).trans ((hp.destroy h₂).confined_close _ _)

theorem Receive.confined_account (frameSize : Nat) (t : Receive.Tally) (h : Host) (size : Nat)
    (out : Bytes) (n? : Option String) :
    h.Confined (Receive.account frameSize t h size out).2 n? := by
  rw [account]
  split
  · exact .refl h n?
  · exact confined_reportAll ..

theorem Receive.confined_loop (c : Consumer) (frameSize : Nat) (limit : Option Nat)
    (t : Receive.Tally) (h : Host) (n? : Option String) :
    h.Confined (Receive.loop c frameSize limit t h).2 n? := by
  fun_induction Receive.loop c frameSize limit t h with
  | case1 t h hreached => exact .refl h n?
  | case2 t h hreached hc res next ih =>
      exact (c.confined_read h _ n?).trans ((confined_account ..).trans ih)
  | case3 t h hreached hc => exact .refl h n?

theorem Receive.confined_onChannel (c : Consumer) (s : ConsumerSettings) (stopped : Bool)
    (h : Host) (n? : Option String) : h.Confined (Receive.onChannel c s stopped h).2 n? := by
  rw [onChannel]
  split
  · exact .refl h n?
  · cases stopped with
    | true => exact confined_report ..
    | false =>
        exact (confined_loop c s.frameSize s.maxFrames .start h n?).trans (confined_report ..)

/-- Receiving changes no name, whatever becomes of it. -/
theorem confined_receive (s : ConsumerSettings) (stopped : Bool) (h : Host) (n? : Option String) :
    h.Confined (receive s stopped h).2 n? := by
  have hattach := Consumer.confined_attach h s.name 0 n?
  rw [receive]
  split
  · exact .refl h n?
  · cases heq : Consumer.attach h s.name 0 with
    | mk opened h₁ =>
        rw [heq] at hattach
        cases opened with
        | error e => exact hattach.trans (confined_reportAll ..)
        | ok c =>
            have hc := Consumer.noted_attach heq
            simp only [waitFor, Wait.run]
            exact ((hattach.trans (confined_reportAll ..)).trans
              (Receive.confined_onChannel ..)).trans (hc.confined_close _ n?)

end Video

end SharedRing
