import SharedRing.Proofs.Channel.Delivery
import SharedRing.Proofs.Confinement

/-!
Attaching to a channel under a size hint. Whether it succeeds, and if not, how it fails, is settled
by the hint, the capacity of the ring and the size of the object (`Consumer.Attaches`). The last two
never change: objects keep their sizes whatever is done on the host (`World.grows_run`), and the
capacity of a ring is its object's size, rounded (`Ledger.Carries.rounded`).
-/

namespace SharedRing

open Host

variable {h h' : Host} {name n : String} {id : ObjectId} {c : Capacity} {hint : Nat}

/-! ### Objects keep their sizes -/

namespace World

theorem grows_putProducer (w : World) (slot : Nat) (p? : Option Producer) (h : Host) :
    h.Grows (w.putProducer slot p? h).host := by
  rw [putProducer]
  cases w.producers slot with
  | none => exact .refl h
  | some old => exact (Producer.keeps_close old h).toGrows

theorem grows_putConsumer (w : World) (slot : Nat) (c? : Option Consumer) (h : Host) :
    h.Grows (w.putConsumer slot c? h).host := by
  rw [putConsumer]
  cases w.consumers slot with
  | none => exact .refl h
  | some old => exact (Consumer.keeps_close old h).toGrows

theorem grows_withProducer (w : World) (slot : Nat) {act : Producer → Host → Producer × Host}
    (hact : ∀ p, w.host.Keeps (act p w.host).2) : w.host.Grows (w.withProducer slot act).host := by
  rw [withProducer]
  split
  · exact .refl _
  · exact (hact _).toGrows

theorem grows_withConsumer (w : World) (slot : Nat) {act : Consumer → Host → Consumer × Host}
    (hact : ∀ c, w.host.Keeps (act c w.host).2) : w.host.Grows (w.withConsumer slot act).host := by
  rw [withConsumer]
  split
  · exact .refl _
  · exact (hact _).toGrows

theorem grows_taking (w : World) (slot : Nat) {act : Consumer → Host → List Bytes × Host}
    (hact : ∀ c, w.host.Grows (act c w.host).2) : w.host.Grows (w.taking slot act).host := by
  rw [taking]
  split
  · exact .refl _
  · exact hact _

theorem grows_step (w : World) (action : Action) : w.host.Grows (w.step action).host := by
  cases action with
  | create slot name requested =>
      have hcreate := Producer.confined_create w.host name requested
      exact hcreate.toGrows.trans (w.grows_putProducer slot _ _)
  | attach slot name hint =>
      have hattach := Consumer.confined_attach w.host name hint none
      exact hattach.toGrows.trans (w.grows_putConsumer slot _ _)
  | write slot msg =>
      simp only [step]
      cases w.producers slot with
      | none => exact .refl _
      | some p => exact (p.confined_write w.host msg none).toGrows
  | read slot out =>
      exact w.grows_taking slot fun c => (c.confined_read w.host out none).toGrows
  | readMessage slot =>
      exact w.grows_taking slot fun c => (c.confined_readMessage w.host none).toGrows
  | closeProducer slot => exact w.grows_withProducer slot fun p => p.keeps_close w.host
  | closeConsumer slot => exact w.grows_withConsumer slot fun c => c.keeps_close w.host
  | dropProducer slot => exact w.grows_putProducer slot none w.host
  | dropConsumer slot => exact w.grows_putConsumer slot none w.host
  | destroy slot => exact w.grows_withProducer slot fun p => p.keeps_destroy w.host
  | remove name => exact (Segment.keeps_remove w.host name).toGrows

theorem grows_run (w : World) (actions : List Action) : w.host.Grows (w.run actions).host := by
  induction actions generalizing w with
  | nil => exact .refl _
  | cons action actions ih => exact (w.grows_step action).trans (ih _)

end World

/-! ### Attaching -/

def Consumer.unread (x : Consumer) (h : Host) : List Bytes :=
  (x.binding.map fun b => b.ring.drain (b.memory h)).getD []

/-- How attaching under a size hint turns out, when the name stands for an object of `held` bytes
with a ring of `capacity` bytes and these messages in it. -/
structure Consumer.Attaches (h : Host) (name : String) (capacity held : Nat)
    (unread : List Bytes) (hint : Nat) : Prop where
  ok_iff : (∃ x h', attach h name hint = (.ok x, h')) ↔
    hint = 0 ∨ Header.size + capacity ≤ hint ∧ hint ≤ held
  found : ∀ x h', attach h name hint = (.ok x, h') → x.capacity = capacity ∧ x.unread h' = unread
  mapping_iff : (∃ n cause h', attach h name hint = (.error (.mappingFailed n cause), h')) ↔
    held < hint
  tooSmall_iff : (∃ h', attach h name hint = (.error (.invalidRing (.spanTooSmall hint)), h')) ↔
    0 < hint ∧ hint < Header.size
  cut_iff :
    (∃ h', attach h name hint = (.error (.invalidRing (.invalidCapacity capacity hint)), h')) ↔
      Header.size ≤ hint ∧ hint < Header.size + capacity
  /-- A failure leaves the host as it was. -/
  unchanged : ∀ e h', attach h name hint = (.error e, h') → h' = h

namespace Ledger.Carries

variable {l : Ledger}

theorem attach_eq (hc : l.Carries id c) (hname : Name.normalize name = .ok n)
    (hadmitted : isRefused (objectName n) = false) (hfind : l.host.find? n = some id)
    (hint : Nat) :
    Consumer.attach l.host name hint =
      if l.host.held id < hint then
        (.error (.mappingFailed n (.beyondObject hint (l.host.held id))), l.host)
      else
        let size := if hint = 0 then l.host.held id else hint
        match Ring.attachable c.size size with
        | .error e => (.error (.invalidRing e), l.host)
        | .ok _ =>
            (.ok ⟨n, some ⟨⟨0, c, .consumer⟩, ⟨n, some ⟨id, size⟩, false, false, false⟩⟩⟩,
              (l.host.setMemory id (l.host.memory id)).report (.consumerOpened n c.size)) := by
  have hattach := attach_eq_of_find? hadmitted hfind hc.held_lt hint
  split
  · rename_i hlong
    rw [if_pos hlong] at hattach
    simp only [Consumer.attach, Segment.attach, hname, hattach]
  · rename_i hfits
    rw [if_neg hfits] at hattach
    have hnew := Binding.new_consumer_eq (h := l.host)
      (s := ⟨n, some ⟨id, if hint = 0 then l.host.held id else hint⟩, false, false, false⟩) rfl
      hc.sound.capacity
    simp only [Consumer.attach, Segment.attach, hname, hattach, hnew]
    cases Ring.attachable c.size (if hint = 0 then l.host.held id else hint) with
    | error e => rfl
    | ok capacity => rfl

/-- A hint that is admitted gives a consumer of the whole ring. -/
theorem attach_ok (hc : l.Carries id c) (hname : Name.normalize name = .ok n)
    (hadmitted : isRefused (objectName n) = false) (hfind : l.host.find? n = some id)
    (hhint : hint = 0 ∨ Header.size + c.size ≤ hint ∧ hint ≤ l.host.held id) :
    ∃ x h', Consumer.attach l.host name hint = (.ok x, h') ∧ x.capacity = c.size ∧
      x.unread h' = l.host.unread id := by
  have hfits := hc.fits
  have heq := hc.attach_eq hname hadmitted hfind hint
  have hsize : Ring.attachable c.size (if hint = 0 then l.host.held id else hint) = .ok c.size := by
    rw [Ring.attachable]
    split <;> rw [if_neg (by omega), if_pos (by omega)]
  rw [if_neg (by omega)] at heq
  simp only [hsize] at heq
  refine ⟨_, _, heq, rfl, ?_⟩
  have hmemory : (l.host.setMemory id (l.host.memory id)).memory id = l.host.memory id :=
    (keeps_setMemory l.host id).memory id
  obtain ⟨-, hholds⟩ := hc.unread
  rw [← hmemory] at hholds
  exact hholds.drain

/-- Any other hint is refused, with the error that its size calls for. -/
theorem attach_error (hc : l.Carries id c) (hname : Name.normalize name = .ok n)
    (hadmitted : isRefused (objectName n) = false) (hfind : l.host.find? n = some id)
    (hhint : ¬(hint = 0 ∨ Header.size + c.size ≤ hint ∧ hint ≤ l.host.held id)) :
    ∃ e, Consumer.attach l.host name hint = (.error e, l.host) ∧
      ((∃ n cause, e = .mappingFailed n cause) ↔ l.host.held id < hint) ∧
      (e = .invalidRing (.spanTooSmall hint) ↔ 0 < hint ∧ hint < Header.size) ∧
      (e = .invalidRing (.invalidCapacity c.size hint) ↔
        Header.size ≤ hint ∧ hint < Header.size + c.size) := by
  have hfits := hc.fits
  have heq := hc.attach_eq hname hadmitted hfind hint
  have hzero : hint ≠ 0 := fun hzero => hhint (Or.inl hzero)
  by_cases hlong : l.host.held id < hint
  · rw [if_pos hlong] at heq
    refine ⟨_, heq, ?_, ?_, ?_⟩
    · simp [hlong]
    · simp only [reduceCtorEq, false_iff]
      omega
    · simp only [reduceCtorEq, false_iff]
      omega
  · rw [if_neg hlong] at heq
    simp only [if_neg hzero] at heq
    by_cases hshort : hint < Header.size
    · simp only [Ring.attachable, if_pos hshort] at heq
      refine ⟨_, heq, ?_, ?_, ?_⟩
      · simp [Nat.le_of_not_lt hlong]
      · simp only [true_iff]
        omega
      · simp only [ChannelError.invalidRing.injEq, reduceCtorEq, false_iff]
        omega
    · have hcut : ¬c.size ≤ hint - Header.size := by
        intro hle
        exact hhint (Or.inr ⟨by omega, by omega⟩)
      simp only [Ring.attachable, if_neg hshort, if_neg hcut] at heq
      refine ⟨_, heq, ?_, ?_, ?_⟩
      · simp [Nat.le_of_not_lt hlong]
      · simp only [ChannelError.invalidRing.injEq, reduceCtorEq, false_iff]
        omega
      · simp only [true_iff]
        omega

/-- The size hint settles how attaching turns out. -/
theorem attaches (hc : l.Carries id c) (hname : Name.normalize name = .ok n)
    (hadmitted : isRefused (objectName n) = false) (hfind : l.host.find? n = some id)
    (hint : Nat) :
    Consumer.Attaches l.host name c.size (l.host.held id) (l.host.unread id) hint := by
  have hfits := hc.fits
  have hheader : 0 < Header.size := by decide
  by_cases hok : hint = 0 ∨ Header.size + c.size ≤ hint ∧ hint ≤ l.host.held id
  · obtain ⟨x, h', hattach, hcapacity, hunread⟩ := hc.attach_ok hname hadmitted hfind hok
    constructor <;> simp only [hattach, Prod.mk.injEq, Except.ok.injEq, reduceCtorEq, false_and]
    · simp [hok]
    · rintro _ _ ⟨rfl, rfl⟩
      exact ⟨hcapacity, hunread⟩
    · simp only [exists_false, false_iff]
      omega
    · simp only [exists_false, false_iff]
      omega
    · simp only [exists_false, false_iff]
      omega
    · simp
  · obtain ⟨e, hattach, hmapping, hsmall, hcut⟩ :=
      hc.attach_error hname hadmitted hfind hok
    constructor <;> simp only [hattach, Prod.mk.injEq, Except.error.injEq, reduceCtorEq, false_and]
    · simp [hok]
    · simp
    · simpa using hmapping
    · simpa using hsmall
    · simpa using hcut
    · rintro _ _ ⟨-, rfl⟩
      rfl

end Ledger.Carries

/-- No hint at all and the size of the ring's span always work. -/
theorem Consumer.Attaches.ok_of_span {capacity held : Nat} {unread : List Bytes}
    (ha : Consumer.Attaches h name capacity held unread hint)
    (hfits : Header.size + capacity ≤ held) (hhint : hint = 0 ∨ hint = capacity + Header.size) :
    ∃ x h', Consumer.attach h name hint = (.ok x, h') := by
  apply ha.ok_iff.2
  rcases hhint with hzero | rfl
  · exact Or.inl hzero
  · exact Or.inr ⟨Nat.le_of_eq (Nat.add_comm _ _), by omega⟩

/-- The object of a channel keeps the size that it was created with. -/
theorem World.held_run_create {w : World} {requested : Nat} {p : Producer} {h₁ : Host}
    {o : SharedObject} (hcreate : Producer.create w.host name requested = (.ok p, h₁))
    (hadds : w.host.Adds h₁ n o) (slot : Nat) (after : List Action) :
    ((w.step (.create slot name requested)).run after).host.held w.host.objects.size = o.size := by
  have hput : h₁.Grows (w.step (.create slot name requested)).host := by
    simp only [step, hcreate]
    exact w.grows_putProducer slot _ h₁
  have hgrows := hput.trans (World.grows_run _ after)
  have hnew : w.host.objects.size < h₁.objects.size := by
    rw [hadds.objects, Array.size_push]
    omega
  rw [hgrows.held _ hnew, hadds.held_new]

/-- A channel is attached to, or not, by the size hint alone. Whatever was done before a channel was
created and since, as long as a name stands for its object the hints that work are zero and those
from the ring's own size up to the object's, and whoever attaches sees the channel's capacity and
the messages that were accepted and not consumed. -/
theorem attaches_run {h : Host} (hnames : h.NamesExist) (before : List Action) (slot : Nat)
    (name : String) (requested : Nat) {p : Producer} {h₁ : Host}
    (hcreate :
      Producer.create ((World.start h).run before).host name requested = (.ok p, h₁))
    (after : List Action) :
    let w := (((World.start h).run before).step (.create slot name requested)).run after
    ∃ id, p.object? = some id ∧ w.host.held id = requested + Header.size ∧
      ∀ name' n, Name.normalize name' = .ok n → w.host.find? n = some id →
        w.accepted id = w.consumed id ++ w.host.unread id ∧
          (∀ hint, Consumer.Attaches w.host name' p.capacity (requested + Header.size)
            (w.host.unread id) hint) ∧
          ∀ hint, hint = 0 ∨ hint = p.capacity + Header.size →
            ∃ x h', Consumer.attach w.host name' hint = (.ok x, h') := by
  intro w
  have hs₀ := (World.sound_start hnames).run before
  have hs : w.Sound h.objects.size := (hs₀.step (.create slot name requested)).run after
  obtain ⟨r, hp, -, hbound, -, -, hadds⟩ := Producer.of_create_ok hcreate
  have hheld : w.host.held ((World.start h).run before).host.objects.size =
      requested + Header.size := World.held_run_create hcreate hadds slot after
  have hcapacity : p.capacity = r.capacity.size := by rw [hp]; rfl
  refine ⟨_, by rw [hp]; rfl, hheld, ?_⟩
  intro name' n hname hfind
  obtain ⟨-, hring⟩ := hs.names _ (mem_names_of_find? hfind)
  obtain ⟨hadmitted, c, hc⟩ := hring hs₀.first_le
  -- the size of the object has settled the capacity
  have hsettled : c = r.capacity :=
    Capacity.word_inj (by rw [hc.rounded, hbound.rounded, hheld])
  have hattaches := hc.attaches hname hadmitted hfind
  rw [hsettled, ← hcapacity, hheld] at hattaches
  obtain ⟨hmessages, -⟩ := hc.unread
  refine ⟨hmessages, hattaches, ?_⟩
  intro hint hhint
  exact (hattaches hint).ok_of_span (hcapacity ▸ hbound.fits) hhint

/-- A channel for which 24 bytes were asked has a ring of 16. All hints from 32 to 40 work, and the
message that was not consumed is seen under each of them. -/
theorem attaches_run_rounded :
    let p : Producer := ⟨"/v", some ⟨⟨0, ⟨4, by decide, by decide⟩, .producer⟩,
      ⟨"/v", some ⟨0, 40⟩, true, false, false⟩⟩, false⟩
    let w := ((World.start .empty).step (.create 0 "v" 24)).run
      [.write 0 #[1], .write 0 #[2, 3], .attach 0 "v" 33, .readMessage 0]
    Host.empty.NamesExist ∧
      Producer.create .empty "v" 24 = (.ok p, (Producer.create .empty "v" 24).2) ∧
      w.host.find? "/v" = some 0 ∧ ∀ hint, Consumer.Attaches w.host "v" 16 40 [#[2, 3]] hint := by
  intro p w
  have hnames : Host.empty.NamesExist := by
    rintro _ ⟨⟩
  have hcreate : Producer.create .empty "v" 24 = (.ok p, (Producer.create .empty "v" 24).2) :=
    Prod.ext rfl rfl
  have hfind : w.host.find? "/v" = some 0 := rfl
  obtain ⟨id, hid, -, hattaches⟩ := attaches_run hnames [] 0 "v" 24 hcreate
    [.write 0 #[1], .write 0 #[2, 3], .attach 0 "v" 33, .readMessage 0]
  cases hid
  obtain ⟨hmessages, hattaches, -⟩ := hattaches "v" "/v" rfl hfind
  have hunread : w.host.unread 0 = [#[2, 3]] := by
    have haccepted : w.accepted 0 = [#[1]] ++ [#[2, 3]] := rfl
    have hconsumed : w.consumed 0 = [#[1]] := rfl
    have hsplit : w.accepted 0 = w.consumed 0 ++ w.host.unread 0 := hmessages
    rw [haccepted, hconsumed] at hsplit
    exact (List.append_cancel_left hsplit).symm
  refine ⟨hnames, hcreate, hfind, ?_⟩
  intro hint
  rw [← hunread]
  exact hattaches hint

end SharedRing
