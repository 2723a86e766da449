import SharedRing.Proofs.Channel.Opening

/-!
What creations leave behind. One that fails at an invalid name has done nothing. One that fails
later, wherever that is, has taken the name from whatever it stood for and leaves it to nothing; all
other names and all bytes are as they were (`Host.CleanedUp`). One that succeeds leaves the name to
an object of zeros that shares no bytes with those that were there (`Segment.Fresh`).
-/

namespace SharedRing

open Host

variable {h h' : Host} {name n : String} {size : Nat} {e : ChannelError} {s : Segment}
  {id : ObjectId}

/-! ### Failures -/

inductive Host.Aborts (n : String) : ChannelError → Prop
  | creation (cause : Cause) : Aborts n (.creationFailed n cause)
  | truncate (size : Nat) (cause : Cause) : Aborts n (.truncateFailed n size cause)
  | mapping (cause : Cause) : Aborts n (.mappingFailed n cause)
  | ring {c : Nat} (hc : c < Ring.minCapacity) (len : Nat) :
      Aborts n (.invalidRing (.invalidCapacity c len))

theorem Host.CreationError.aborts (he : CreationError n size e) : Aborts n e := by
  cases he with
  | creation cause => exact .creation cause
  | truncate cause => exact .truncate size cause
  | mapping cause => exact .mapping cause

structure Host.CleanedUp (h h' : Host) (name n : String) (e : ChannelError) : Prop where
  error : Aborts n e
  /-- Nothing can be opened under the name. -/
  gone : ∃ cause, ∀ hint, Segment.attach h' name hint = .error (.openFailed n cause) ∧
    Consumer.attach h' name hint = (.error (.openFailed n cause), h')
  /-- The other names keep their objects, and these their sizes. -/
  others : ∀ k, k ≠ objectName n → h'.binding k = h.binding k
  /-- The same bytes are seen through all segments, -/
  segments : ∀ (s : Segment) (start count : Nat), s.load? h' start count = s.load? h start count
  /-- and by both ends of all channels. -/
  bindings : ∀ b : Binding, b.memory h' = b.memory h

theorem Segment.load?_congr (hm : ∀ id, h'.memory id = h.memory id) (s : Segment)
    (start count : Nat) : s.load? h' start count = s.load? h start count := by
  simp only [load?, hm]

theorem Binding.memory_congr (hm : ∀ id, h'.memory id = h.memory id) (b : Binding) :
    b.memory h' = b.memory h := by
  simp only [memory, hm]

theorem Host.attach_of_gone (hgone : ∃ os, h.openExisting n = .error os)
    (hname : Name.normalize name = .ok n) :
    ∃ cause, ∀ hint, Segment.attach h name hint = .error (.openFailed n cause) ∧
      Consumer.attach h name hint = (.error (.openFailed n cause), h) := by
  obtain ⟨os, hopen⟩ := hgone
  have hsegment (hint : Nat) : Segment.attach h name hint = .error (.openFailed n (.os os)) := by
    simp only [Segment.attach, hname, Host.attach, hopen]
  exact ⟨.os os, fun hint => ⟨hsegment hint, by simp only [Consumer.attach, hsegment hint]⟩⟩

theorem Host.Clears.cleanedUp (hc : h.Clears h' n) (hnames : h.NamesExist)
    (hname : Name.normalize name = .ok n) (he : Aborts n e) : h.CleanedUp h' name n e where
  error := he
  gone := attach_of_gone hc.gone hname
  others _ hk := hc.confined.binding_eq hnames fun heq => hk (Option.some.inj heq).symm
  segments := Segment.load?_congr hc.keeps.memory
  bindings := Binding.memory_congr hc.keeps.memory

/-- How a creation fails: at the name, having done nothing, or cleaning up. -/
inductive Host.Undone (h h' : Host) (name : String) : ChannelError → Prop
  | invalid {reason : NameError} (hname : Name.normalize name = .error reason) (heq : h' = h) :
      Undone h h' name (.invalidName name reason)
  | cleanedUp {n : String} {e : ChannelError} (hname : Name.normalize name = .ok n)
      (hc : h.CleanedUp h' name n e) : Undone h h' name e

theorem Segment.Fails.undone (hf : Segment.Fails h name size e h') (hnames : h.NamesExist) :
    h.Undone h' name e := by
  cases hf with
  | invalid hname => exact .invalid hname rfl
  | cleared hname he hc => exact .cleanedUp hname (hc.cleanedUp hnames hname he.aborts)

theorem Producer.Fails.undone {requested : Nat} (hf : Producer.Fails h name requested e h')
    (hnames : h.NamesExist) : h.Undone h' name e := by
  cases hf with
  | segment hf => exact hf.undone hnames
  | ring hname hcap hc => exact .cleanedUp hname (hc.cleanedUp hnames hname (.ring hcap _))

/-! ### Success -/

structure Segment.Fresh (s : Segment) (h h' : Host) (name : String) (size : Nat) : Prop where
  normalized : Name.normalize name = .ok s.name
  /-- The name is opened to the whole of the new object. -/
  opens : Segment.attach h' name 0 =
    .ok ⟨s.name, some ⟨h.objects.size, size⟩, false, false, false⟩
  mapping : s.mapping = some ⟨h.objects.size, size⟩
  held : h'.held h.objects.size = size
  zero : ∀ start count, start + count ≤ size →
    s.load? h' start count = some (Array.replicate count 0)
  /-- No name stood for the object before, -/
  unnamed : ∀ k, h.names.lookup k ≠ some h.objects.size
  /-- and what is stored through it or through others is not seen on the other side. -/
  apart : ∀ (t : Segment) (p : Mapping), t.mapping = some p → p.object < h.objects.size →
    ∀ (start : Nat) (src : Bytes) (h'' : Host),
      (s.store? h' start src = some h'' → ∀ i count, t.load? h'' i count = t.load? h' i count) ∧
        (t.store? h' start src = some h'' → ∀ i count, s.load? h'' i count = s.load? h' i count)

/-- What is stored through one segment is not seen through one of another object. -/
theorem Segment.load?_store?_of_ne {t : Segment} {p q : Mapping} {start : Nat} {src : Bytes}
    (hs : s.mapping = some p) (ht : t.mapping = some q) (hne : q.object ≠ p.object)
    (hstore : s.store? h start src = some h') (i count : Nat) :
    t.load? h' i count = t.load? h i count := by
  simp only [store?, hs] at hstore
  split at hstore
  · cases hstore
  · cases hstore
    simp only [load?, ht, Option.map_some, memory_setMemory_of_ne hne]

theorem Host.lookup_lt (hnames : h.NamesExist) {k : String} (hfind : h.names.lookup k = some id) :
    id < h.objects.size := by
  obtain ⟨front, back, hsplit, -⟩ := List.lookup_eq_some_iff.1 hfind
  exact hnames (k, id) (by rw [hsplit]; simp)

theorem Segment.fresh_create (hnames : h.NamesExist)
    (hc : Segment.create h name size = (.ok s, h')) : s.Fresh h h' name size := by
  obtain ⟨hs, hname, hsize, hadds⟩ := of_create_ok hc
  have hmapping : s.mapping = some ⟨h.objects.size, size⟩ := by rw [hs]
  have hheld : h'.held h.objects.size = size := hadds.held_new
  refine ⟨hname, ?_, hmapping, hheld, ?_, ?_, ?_⟩
  · have hattach := Host.attach_of_find? hadds.admitted hadds.find?_eq (by rwa [hheld])
    rw [hheld] at hattach
    simp only [attach, hname, hattach]
  · intro start count hfits
    have hzero : Memory.zeroed.load start count = Array.replicate count 0 := by
      apply Array.ext
      · simp
      · intro i _ _
        simp
    simp only [load?, Segment.size, hmapping, Option.map_some, Option.getD_some, hadds.memory_new,
      hzero]
    rw [if_neg (by omega)]
  · intro k hfind
    exact absurd (lookup_lt hnames hfind) (Nat.lt_irrefl _)
  · intro t p ht hp start src h''
    refine ⟨?_, ?_⟩
    · intro hstore
      exact load?_store?_of_ne hmapping ht (Nat.ne_of_lt hp) hstore
    · intro hstore
      exact load?_store?_of_ne ht hmapping (Nat.ne_of_gt hp) hstore

/-- Creations clean up after themselves. When that of a segment or of a channel fails, an invalid
name means that nothing was done, and any other error that the name stands for nothing while all
else is as before; and a segment that was created has an object of its own, of zeros. The system may
turn down any step of a creation. -/
theorem creations_settle {h : Host} (hnames : h.NamesExist) (name : String) (size : Nat) :
    (∀ e h', Segment.create h name size = (.error e, h') → h.Undone h' name e) ∧
      (∀ e h', Producer.create h name size = (.error e, h') → h.Undone h' name e) ∧
      ∀ s h', Segment.create h name size = (.ok s, h') → s.Fresh h h' name size :=
  ⟨fun _ _ hc => (Segment.of_create_error hc).undone hnames,
    fun _ _ hc => (Producer.of_create_error hc).undone hnames,
    fun _ _ hc => Segment.fresh_create hnames hc⟩

/-- A name is in use when the new object cannot be mapped, when a channel under it would be too
small, and when it is given to a new segment. -/
theorem creations_settle_inUse :
    let h : Host := ⟨#[⟨32, .zeroed⟩], [("v", 0), ("u", 0)], #[], .none, []⟩
    let full : Host := { h with refusals := ⟨none, none, some (.os .noMemory)⟩ }
    h.NamesExist ∧ full.NamesExist ∧
      (∃ h', Segment.create full "v" 8 = (.error (.mappingFailed "/v" (.os .noMemory)), h') ∧
        full.Undone h' "v" (.mappingFailed "/v" (.os .noMemory))) ∧
      (∃ h', Producer.create h "v" 7 = (.error (.invalidRing (.invalidCapacity 4 23)), h') ∧
        h.Undone h' "v" (.invalidRing (.invalidCapacity 4 23))) ∧
      ∃ h', Segment.create h "v" 8 = (.ok ⟨"/v", some ⟨1, 8⟩, true, false, false⟩, h') ∧
        Segment.Fresh ⟨"/v", some ⟨1, 8⟩, true, false, false⟩ h h' "v" 8 := by
  have herror : (Producer.create ⟨#[⟨32, .zeroed⟩], [("v", 0), ("u", 0)], #[], .none, []⟩ "v" 7).1 =
      .error (.invalidRing (.invalidCapacity 4 23)) := rfl
  intro h full
  have hnames : h.NamesExist := by
    show ∀ e ∈ h.names, e.2 < h.objects.size
    decide
  have hsegment : Segment.create full "v" 8 =
      (.error (.mappingFailed "/v" (.os .noMemory)), (Segment.create full "v" 8).2) :=
    Prod.ext rfl rfl
  have hproducer : Producer.create h "v" 7 =
      (.error (.invalidRing (.invalidCapacity 4 23)), (Producer.create h "v" 7).2) :=
    Prod.ext herror rfl
  have hsuccess : Segment.create h "v" 8 =
      (.ok ⟨"/v", some ⟨1, 8⟩, true, false, false⟩, (Segment.create h "v" 8).2) :=
    Prod.ext rfl rfl
  exact ⟨hnames, hnames,
    ⟨_, hsegment, (creations_settle (h := full) hnames "v" 8).1 _ _ hsegment⟩,
    ⟨_, hproducer, (creations_settle hnames "v" 7).2.1 _ _ hproducer⟩,
    ⟨_, hsuccess, (creations_settle hnames "v" 8).2.2 _ _ hsuccess⟩⟩

end SharedRing
