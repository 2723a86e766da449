import SharedRing.Proofs.Channel.Creation

/-!
What goes when the creator of a channel leaves. A producer that was just created removes the name by
leaving, and reports that it is gone. Objects that were there before keep their bytes in all that
happens to the new one (`Host.Preserves`), so that in the end the name stands for nothing and all
else is as it was (`Vacates`).
-/

namespace SharedRing

open Host

variable {h h' h'' : Host} {name n : String} {id : ObjectId} {m : Memory} {p : Producer}
  {b : Binding}

/-! ### Objects that were there before -/

namespace Host

/-- The objects that are there keep their sizes and their bytes. Others may be added. -/
structure Preserves (h h' : Host) : Prop extends h.Grows h' where
  memory : ∀ id, id < h.objects.size → h'.memory id = h.memory id

theorem Preserves.trans (hp : h.Preserves h') (hp' : h'.Preserves h'') : h.Preserves h'' where
  toGrows := hp.toGrows.trans hp'.toGrows
  memory id hid :=
    (hp'.memory id (Nat.lt_of_lt_of_le hid hp.size_le)).trans (hp.memory id hid)

theorem Keeps.preserves (hk : h.Keeps h') : h.Preserves h' :=
  ⟨hk.toGrows, fun id _ => hk.memory id⟩

theorem Adds.preserves {o : SharedObject} (ha : h.Adds h' name o) : h.Preserves h' :=
  ⟨ha.grows, fun _ hid => ha.memory_old (Nat.ne_of_lt hid)⟩

/-- What is stored in a new object is not seen in the old ones. -/
theorem Preserves.setMemory (hp : h.Preserves h') (hid : h.objects.size ≤ id) (m : Memory) :
    h.Preserves (h'.setMemory id m) where
  toGrows := hp.toGrows.trans (grows_setMemory h' id m)
  memory i hi := by
    rw [memory_setMemory_of_ne (Nat.ne_of_lt (Nat.lt_of_lt_of_le hi hid))]
    exact hp.memory i hi

/-- The same bytes are seen through all segments of objects that were there. -/
theorem Preserves.load? (hp : h.Preserves h') {t : Segment}
    (ht : ∀ p, t.mapping = some p → p.object < h.objects.size) (start count : Nat) :
    t.load? h' start count = t.load? h start count := by
  cases hmapping : t.mapping with
  | none => simp only [Segment.load?, hmapping, Option.map_none]
  | some p =>
      simp only [Segment.load?, hmapping, Option.map_some,
        hp.memory p.object (ht p hmapping)]

/-- And so do the ends of channels. -/
theorem Preserves.bytes (hp : h.Preserves h')
    (hb : ∀ id, b.object? = some id → id < h.objects.size) : b.memory h' = b.memory h := by
  cases hobject : b.object? with
  | none =>
      have hmapping : b.segment.mapping = none := Option.map_eq_none_iff.1 hobject
      rw [Binding.memory, Binding.memory, hmapping]
      rfl
  | some id =>
      rw [Binding.memory_eq hobject, Binding.memory_eq hobject, hp.memory id (hb id hobject)]

/-! ### What is reported -/

theorem notices_unlink (hname : isDots (objectName name) = false) (h : Host) :
    (h.unlink name).2.notices = h.notices := by
  simp [unlink, unbind, hname]

theorem openExisting_report (h : Host) (notice : Notice) (name : String) :
    (h.report notice).openExisting name = h.openExisting name := rfl

theorem notices_openNew (ho : h.openNew name = .ok (id, h')) : h'.notices = h.notices := by
  rw [openNew] at ho
  split at ho
  · cases ho
  · split at ho
    · cases ho
    · cases ho
      rfl

/-- A creation that succeeds reports nothing by itself. -/
theorem notices_create {size : Nat} (hc : h.create name size = (.ok id, h')) :
    h'.notices = h.notices := by
  have hunlink (hname : isRefused (objectName name) = false) :=
    notices_unlink (isDots_of_admitted hname) h
  simp only [create] at hc
  generalize (h.unlink name).2 = h₀ at hc hunlink
  rcases openNew_cases h₀ name with ⟨e, hopen⟩ | ⟨h₁, hopen, hadds⟩
  · simp only [hopen] at hc
    cases hc
  · have hnew := (notices_openNew hopen).trans (hunlink hadds.admitted)
    rcases resize_cases h₁ h₀.objects.size size with ⟨cause, hresize⟩ | hresize
    · simp only [hopen, hresize] at hc
      cases hc
    · simp only [hopen, hresize] at hc
      split at hc
      · cases hc
      · cases hc
        exact hnew

end Host

theorem Segment.notices_create {s : Segment} {size : Nat}
    (hc : Segment.create h name size = (.ok s, h')) : h'.notices = h.notices := by
  cases hname : Name.normalize name with
  | error e =>
      simp only [create, hname] at hc
      cases hc
  | ok n =>
      cases hcreate : h.create n size with
      | mk found h₁ =>
          cases found with
          | error e =>
              simp only [create, hname, hcreate] at hc
              cases hc
          | ok id =>
              simp only [create, hname, hcreate] at hc
              cases hc
              exact Host.notices_create hcreate

theorem Segment.notices_remove (hname : Name.normalize name = .ok n)
    (hdots : isDots (objectName n) = false) (h : Host) :
    (Segment.remove h name).notices = h.notices := by
  rw [remove, hname]
  exact Host.notices_unlink hdots h

namespace Producer

theorem notices_create {requested : Nat} (hc : create h name requested = (.ok p, h')) :
    h'.notices = h.notices.push (.producerCreated p.name requested p.capacity) := by
  cases hs : Segment.create h name (min (requested + Header.size) maxSpan) with
  | mk found h₁ =>
      cases found with
      | error e =>
          simp only [create, hs] at hc
          cases hc
      | ok s =>
          obtain ⟨hsegment, -, -, -⟩ := Segment.of_create_ok hs
          have hnew := Binding.new_eq (s := s) (by rw [hsegment]) .producer h₁
          split at hnew
          · simp only [create, hs, hnew] at hc
            cases hc
          · simp only [create, hs, hnew] at hc
            cases hc
            rw [← Segment.notices_create hs]
            rfl

theorem notices_write (p : Producer) (h : Host) (msg : Bytes) :
    (p.write h msg).2.notices = h.notices := by
  rw [write]
  split
  · rfl
  · rename_i b _
    dsimp only
    rcases b.setMemory_cases h (b.ring.write (b.memory h) msg).2 with heq | ⟨id, -, heq⟩
    · rw [heq]
    · rw [heq]
      rfl

theorem preserves_write (hkept : h.Preserves h') (hp : p.binding = some b)
    (hb : b.object? = some id) (hid : h.objects.size ≤ id) (msg : Bytes) :
    h.Preserves (p.write h' msg).2 := by
  rw [write, hp]
  dsimp only
  rw [Binding.setMemory_eq hb]
  exact hkept.setMemory hid _

/-! ### Leaving -/

def leave (p : Producer) (h : Host) : Host := (p.destroy h).1.drop (p.destroy h).2

theorem keeps_leave (p : Producer) (h : Host) : h.Keeps (p.leave h) :=
  (keeps_destroy p h).trans (keeps_close _ _)

/-- A producer that was just created has an empty ring in a new object. -/
theorem exists_binding_of_create {requested : Nat} (hc : create h name requested = (.ok p, h')) :
    ∃ b, p.binding = some b ∧ b.object? = some h.objects.size ∧
      b.ring.capacity.size = p.capacity ∧ b.ring.Holds (h'.memory h.objects.size) [] ∧
      h.objects.size < h'.objects.size := by
  obtain ⟨r, hp, -, -, hbase, -, hadds⟩ := of_create_ok hc
  have hcapacity : r.capacity.size = p.capacity := by
    rw [hp]
    rfl
  have hholds := Ring.holds_publish r .zeroed r.capacity.word
  rw [hbase] at hholds
  have hgrown : h.objects.size < h'.objects.size := by
    rw [hadds.objects, Array.size_push]
    exact Nat.lt_succ_self _
  have hmemory : h'.memory h.objects.size = Header.publish .zeroed 0 r.capacity.word :=
    hadds.memory_new
  rw [← hmemory] at hholds
  exact ⟨⟨r, created p.name h.objects.size requested⟩, by rw [hp], rfl, hcapacity, hholds, hgrown⟩

theorem destroy_created (n : String) (id : ObjectId) (requested : Nat) (h : Host) :
    (created n id requested).destroy h =
      ({ created n id requested with unlinked := true },
        if (h.unlink n).1 then (h.unlink n).2.report (.segmentDestroyed n)
        else (h.unlink n).2) := by
  simp only [created, Segment.destroy, Bool.false_eq_true, if_false]
  rfl

/-- A producer that was just created removes its name by leaving; closing it does no more. -/
theorem leave_of_create {requested : Nat} (hc : create h name requested = (.ok p, h'))
    (h'' : Host) :
    p.leave h'' =
      if (h''.unlink p.name).1 then (h''.unlink p.name).2.report (.segmentDestroyed p.name)
      else (h''.unlink p.name).2 := by
  obtain ⟨r, hp, -⟩ := of_create_ok hc
  generalize p.name = n at hp ⊢
  subst hp
  simp only [leave, destroy, destroy_created, Bool.false_eq_true, if_false]
  simp only [drop, close, Segment.drop, Segment.close, created, Bool.and_false, Bool.false_eq_true,
    if_false]

theorem openExisting_leave {requested : Nat} (hc : create h name requested = (.ok p, h'))
    (h'' : Host) : ∃ e, (p.leave h'').openExisting p.name = .error e := by
  obtain ⟨e, hgone⟩ := Host.openExisting_unlink h'' p.name
  refine ⟨e, ?_⟩
  rw [leave_of_create hc, ← hgone]
  split
  · rw [Host.openExisting_report]
  · rfl

theorem notices_leave {requested : Nat} (hc : create h name requested = (.ok p, h'))
    (hfind : h''.find? p.name = some id) :
    (p.leave h'').notices = h''.notices.push (.segmentDestroyed p.name) := by
  obtain ⟨_, -, -, -, -, -, hadds⟩ := of_create_ok hc
  have hdots := Host.isDots_of_admitted hadds.admitted
  have hremoved : (h''.unlink p.name).1 = true := by simp [Host.unlink, hdots, hfind]
  rw [leave_of_create hc, if_pos hremoved, ← Host.notices_unlink hdots h'']
  rfl

end Producer

/-! ### What is left behind -/

inductive Unopened : ChannelError → Prop
  | invalid (name : String) (e : NameError) : Unopened (.invalidName name e)
  | absent (name : String) (cause : Cause) : Unopened (.openFailed name cause)

structure Vacates (h h' : Host) (name : String) : Prop where
  /-- Nothing can be opened under the name. -/
  absent : ∃ e, Unopened e ∧ ∀ hint, Segment.attach h' name hint = .error e ∧
    Consumer.attach h' name hint = (.error e, h')
  /-- The other names keep their objects, and these their sizes. -/
  others : ∀ k, objectName? name ≠ some k → h'.binding k = h.binding k
  /-- The same bytes are seen through all segments of objects that were there, -/
  segments : ∀ t : Segment, (∀ p, t.mapping = some p → p.object < h.objects.size) →
    ∀ start count, t.load? h' start count = t.load? h start count
  /-- and by both ends of their channels. -/
  bindings : ∀ b : Binding, (∀ id, b.object? = some id → id < h.objects.size) →
    b.memory h' = b.memory h

theorem Host.Preserves.vacates (hp : h.Preserves h') (hnames : h.NamesExist)
    (hconfined : h.Confined h' (objectName? name))
    (hgone : ∀ n, Name.normalize name = .ok n → ∃ e, h'.openExisting n = .error e) :
    Vacates h h' name where
  absent := by
    cases hname : Name.normalize name with
    | error e =>
        have hsegment (hint : Nat) : Segment.attach h' name hint = .error (.invalidName name e) := by
          simp only [Segment.attach, hname]
        exact ⟨_, .invalid name e, fun hint =>
          ⟨hsegment hint, by simp only [Consumer.attach, hsegment hint]⟩⟩
    | ok n =>
        obtain ⟨cause, hfails⟩ := attach_of_gone (hgone n hname) hname
        exact ⟨_, .absent n cause, hfails⟩
  others _ hk := hconfined.binding_eq hnames hk
  segments _ ht := hp.load? ht
  bindings _ hb := hp.bytes hb

/-- A failed creation of a channel leaves nothing under its name. -/
theorem openExisting_of_fails {requested : Nat} {e : ChannelError}
    (hf : Producer.Fails h name requested e h') (hname : Name.normalize name = .ok n) :
    ∃ os, h'.openExisting n = .error os := by
  cases hf with
  | segment hf =>
      cases hf with
      | invalid hinvalid =>
          rw [hname] at hinvalid
          cases hinvalid
      | cleared hvalid he hclears =>
          rw [hname] at hvalid
          cases hvalid
          exact hclears.gone
  | ring hvalid hc hclears =>
      rw [hname] at hvalid
      cases hvalid
      exact hclears.gone

end SharedRing
