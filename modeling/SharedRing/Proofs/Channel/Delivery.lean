import Mathlib.Logic.Function.Basic
import SharedRing.Proofs.Channel.Ledger

/-!
Delivery over a whole host. A `World` is a ledger with the ends of channels that are held. Whatever
is done with the handles and the names, an object's messages are taken out in the order in which
they were accepted, each of them once, and what was not taken out yet is what can still be read
from the object's bytes (`Delivers`).

The invariant is `World.Sound`. It goes over with the ledger (`World.Sound.follows`), so that an
action is left with the handle that it puts into a slot.
-/

namespace SharedRing

open Host

/-- What is done by those who hold ends of channels. Handles are known by their slots; when a
handle is put into a slot, the one that was there before goes away. -/
inductive Action where
  | create (slot : Nat) (name : String) (requested : Nat)
  | attach (slot : Nat) (name : String) (hint : Nat)
  | write (slot : Nat) (msg : Bytes)
  | read (slot : Nat) (out : Bytes)
  | readMessage (slot : Nat)
  | closeProducer (slot : Nat)
  | closeConsumer (slot : Nat)
  | dropProducer (slot : Nat)
  | dropConsumer (slot : Nat)
  | destroy (slot : Nat)
  | remove (name : String)

structure World extends Ledger where
  producers : Nat → Option Producer
  consumers : Nat → Option Consumer

/-- What a read takes out of a channel: the message delivered, or the one discarded. -/
def Consumer.taken (c : Consumer) (h : Host) (out : Bytes) : List Bytes :=
  let ((length, out'), _) := c.read h out
  if length = 0 then (c.readMessage h).1.toList else [out'.extract 0 length]

namespace World

def start (h : Host) : World := ⟨⟨h, fun _ => [], fun _ => []⟩, fun _ => none, fun _ => none⟩

def note (log : ObjectId → List Bytes) (id? : Option ObjectId) (msgs : List Bytes) :
    ObjectId → List Bytes :=
  match id? with
  | none => log
  | some id => Function.update log id (log id ++ msgs)

@[simp] theorem note_self (log : ObjectId → List Bytes) (id : ObjectId) (msgs : List Bytes) :
    note log (some id) msgs id = log id ++ msgs :=
  Function.update_self ..

theorem note_of_ne {log : ObjectId → List Bytes} {id? : Option ObjectId} {msgs : List Bytes}
    {id : ObjectId} (hid : id? ≠ some id) : note log id? msgs id = log id := by
  cases id? with
  | none => rfl
  | some i =>
      apply Function.update_of_ne
      intro heq
      exact hid (congrArg some heq.symm)

def putProducer (w : World) (slot : Nat) (p? : Option Producer) (h : Host) : World :=
  { w with
    host := ((w.producers slot).map (·.drop h)).getD h
    producers := Function.update w.producers slot p? }

def putConsumer (w : World) (slot : Nat) (c? : Option Consumer) (h : Host) : World :=
  { w with
    host := ((w.consumers slot).map (·.drop h)).getD h
    consumers := Function.update w.consumers slot c? }

def withProducer (w : World) (slot : Nat) (act : Producer → Host → Producer × Host) : World :=
  match w.producers slot with
  | none => w
  | some p =>
      let (p, h) := act p w.host
      { w with host := h, producers := Function.update w.producers slot (some p) }

def withConsumer (w : World) (slot : Nat) (act : Consumer → Host → Consumer × Host) : World :=
  match w.consumers slot with
  | none => w
  | some c =>
      let (c, h) := act c w.host
      { w with host := h, consumers := Function.update w.consumers slot (some c) }

def taking (w : World) (slot : Nat) (act : Consumer → Host → List Bytes × Host) : World :=
  match w.consumers slot with
  | none => w
  | some c =>
      let (msgs, h) := act c w.host
      { w with host := h, consumed := note w.consumed c.object? msgs }

def step (w : World) : Action → World
  | .create slot name requested =>
      let (res, h) := Producer.create w.host name requested
      w.putProducer slot res.toOption h
  | .attach slot name hint =>
      let (res, h) := Consumer.attach w.host name hint
      w.putConsumer slot res.toOption h
  | .write slot msg =>
      match w.producers slot with
      | none => w
      | some p =>
          let (ok, h) := p.write w.host msg
          { w with
            host := h
            accepted := if ok then note w.accepted p.object? [msg] else w.accepted }
  | .read slot out => w.taking slot fun c h => (c.taken h out, (c.read h out).2)
  | .readMessage slot =>
      w.taking slot fun c h =>
        let (msg?, h) := c.readMessage h
        (msg?.toList, h)
  | .closeProducer slot => w.withProducer slot Producer.close
  | .closeConsumer slot => w.withConsumer slot Consumer.close
  | .dropProducer slot => w.putProducer slot none w.host
  | .dropConsumer slot => w.putConsumer slot none w.host
  | .destroy slot => w.withProducer slot Producer.destroy
  | .remove name => { w with host := Segment.remove w.host name }

def run (w : World) (actions : List Action) : World := actions.foldl step w

end World

/-! ### The invariant -/

namespace World

/-- The objects behind the first ones are of zeros or have a ring in them, the latter if they have
a name or a handle. -/
structure Sound (first : Nat) (w : World) : Prop where
  first_le : first ≤ w.host.objects.size
  objects : ∀ id, first ≤ id → w.traffic id = ⟨.zeroed, [], []⟩ ∨ ∃ c, w.Carries id c
  names : ∀ e ∈ w.host.names, e.2 < w.host.objects.size ∧
    (first ≤ e.2 → isRefused e.1 = false ∧ ∃ c, w.Carries e.2 c)
  producers : ∀ slot p b, w.producers slot = some p → p.binding = some b →
    ∃ id, first ≤ id ∧ w.Serves b id .producer
  /-- No object has two producers. -/
  single : ∀ i j p q id, w.producers i = some p → w.producers j = some q →
    p.object? = some id → q.object? = some id → i = j
  consumers : ∀ slot c b id, w.consumers slot = some c → c.binding = some b →
    b.object? = some id → first ≤ id → w.Serves b id .consumer

namespace Sound

variable {w : World} {first : Nat}

/-- The invariant goes over with the ledger. -/
theorem follows (hs : w.Sound first) {l' : Ledger} (hf : w.Follows first l') :
    ({ w with toLedger := l' } : World).Sound first where
  first_le := Nat.le_trans hs.first_le hf.size_le
  objects id hfirst := by
    rcases hf.objects id hfirst with hsame | hc
    · rcases hs.objects id hfirst with hblank | ⟨c, hc⟩
      · exact Or.inl (hsame.trans hblank)
      · exact Or.inr ⟨c, hf.carries id c hfirst hc⟩
    · exact Or.inr hc
  names e he := by
    rcases hf.names e he with hold | ⟨-, hadmitted, c, hc⟩
    · obtain ⟨hlt, hring⟩ := hs.names e hold
      refine ⟨Nat.lt_of_lt_of_le hlt hf.size_le, ?_⟩
      intro hfirst
      obtain ⟨hadmitted, c, hc⟩ := hring hfirst
      exact ⟨hadmitted, c, hf.carries _ c hfirst hc⟩
    · exact ⟨hc.lt_size, fun _ => ⟨hadmitted, c, hc⟩⟩
  producers slot p b hp hb := by
    obtain ⟨id, hfirst, hserves⟩ := hs.producers slot p b hp hb
    exact ⟨id, hfirst, hserves.follows hf hfirst⟩
  single := hs.single
  consumers slot c b id hc hb hid hfirst :=
    (hs.consumers slot c b id hc hb hid hfirst).follows hf hfirst

/-- What keeps the host keeps the invariant. -/
theorem keeps (hs : w.Sound first) {h' : Host} (hk : w.host.Keeps h') :
    ({ w with host := h' } : World).Sound first :=
  hs.follows (.of_keeps hk)

theorem setConsumer (hs : w.Sound first) (slot : Nat) (c? : Option Consumer)
    (hc? : ∀ c b id, c? = some c → c.binding = some b → b.object? = some id → first ≤ id →
      w.Serves b id .consumer) :
    ({ w with consumers := Function.update w.consumers slot c? } : World).Sound first := by
  refine ⟨hs.first_le, hs.objects, hs.names, hs.producers, hs.single, ?_⟩
  intro i c b id hc hb hid hfirst
  by_cases hi : i = slot
  · subst hi
    dsimp only at hc
    rw [Function.update_self] at hc
    exact hc? c b id hc hb hid hfirst
  · dsimp only at hc
    rw [Function.update_of_ne hi] at hc
    exact hs.consumers i c b id hc hb hid hfirst

/-- A slot is given a producer of an object that no other slot has one of. -/
theorem setProducer (hs : w.Sound first) (slot : Nat) (p? : Option Producer)
    (hp? : ∀ p b, p? = some p → p.binding = some b → ∃ id, first ≤ id ∧ w.Serves b id .producer ∧
      ∀ i q, i ≠ slot → w.producers i = some q → q.object? ≠ some id) :
    ({ w with producers := Function.update w.producers slot p? } : World).Sound first := by
  have hother {i : Nat} {p q : Producer} {id : ObjectId} (hi : i ≠ slot) (hp : p? = some p)
      (hq : w.producers i = some q) (hpid : p.object? = some id) : q.object? ≠ some id := by
    obtain ⟨b, hb, hobject⟩ := Option.bind_eq_some_iff.1 hpid
    obtain ⟨id', -, hserves, hnone⟩ := hp? p b hp hb
    rw [hserves.object] at hobject
    cases hobject
    exact hnone i q hi hq
  refine ⟨hs.first_le, hs.objects, hs.names, ?_, ?_, hs.consumers⟩
  · intro i p b hp hb
    dsimp only at hp
    by_cases hi : i = slot
    · rw [hi, Function.update_self] at hp
      obtain ⟨id, hfirst, hserves, -⟩ := hp? p b hp hb
      exact ⟨id, hfirst, hserves⟩
    · rw [Function.update_of_ne hi] at hp
      exact hs.producers i p b hp hb
  · intro i j p q id hp hq hpid hqid
    dsimp only at hp hq
    by_cases hi : i = slot <;> by_cases hj : j = slot
    · rw [hi, hj]
    · rw [hi, Function.update_self] at hp
      rw [Function.update_of_ne hj] at hq
      exact absurd hqid (hother hj hp hq hpid)
    · rw [Function.update_of_ne hi] at hp
      rw [hj, Function.update_self] at hq
      exact absurd hpid (hother hi hq hp hqid)
    · rw [Function.update_of_ne hi] at hp
      rw [Function.update_of_ne hj] at hq
      exact hs.single i j p q id hp hq hpid hqid

/-- A producer that was there comes back to its slot, closed or with the same binding. -/
theorem resetProducer (hs : w.Sound first) {slot : Nat} {p p' : Producer}
    (hp : w.producers slot = some p)
    (hp' : ∀ b', p'.binding = some b' →
      ∃ b, p.binding = some b ∧ b'.ring = b.ring ∧ b'.object? = b.object?) :
    ({ w with producers := Function.update w.producers slot (some p') } : World).Sound first := by
  apply hs.setProducer
  intro p₁ b' hp₁ hb'
  cases hp₁
  obtain ⟨b, hb, hring, hobject⟩ := hp' b' hb'
  obtain ⟨id, hfirst, hserves⟩ := hs.producers slot p b hp hb
  refine ⟨id, hfirst, ⟨hobject.trans hserves.object, ?_⟩, ?_⟩
  · rw [hring]
    exact hserves.ring
  · intro i q hi hq hqid
    have hpid : p.object? = some id := Option.bind_eq_some_iff.2 ⟨b, hb, hserves.object⟩
    exact hi (hs.single i slot q p id hq hp hqid hpid)

/-! ### Actions -/

theorem putConsumer (hs : w.Sound first) (slot : Nat) (c? : Option Consumer) {h' : Host}
    (hk : w.host.Keeps h')
    (hc? : ∀ c b id, c? = some c → c.binding = some b → b.object? = some id → first ≤ id →
      w.Serves b id .consumer) : (w.putConsumer slot c? h').Sound first := by
  have hs' := (hs.setConsumer slot c? hc?).keeps hk
  rw [World.putConsumer]
  cases hold : w.consumers slot with
  | none => exact hs'
  | some old => exact hs'.keeps (Consumer.keeps_close old h')

theorem attach (hs : w.Sound first) (slot : Nat) (name : String) (hint : Nat) :
    (w.step (.attach slot name hint)).Sound first := by
  rcases Consumer.attach_cases w.host name hint with
    ⟨e, h', hattach, hk⟩ | ⟨n, b, id, h', hattach, hon, hrole, hk⟩
  · simp only [step, hattach]
    exact hs.putConsumer slot _ hk (by rintro _ _ _ ⟨⟩)
  · simp only [step, hattach]
    apply hs.putConsumer slot _ hk
    rintro _ _ id' ⟨⟩ ⟨⟩ hobject hfirst
    rw [hon.object] at hobject
    cases hobject
    rcases hs.objects id hfirst with hblank | ⟨c, hc⟩
    · exact absurd (congrArg Traffic.memory hblank) hon.ne_zeroed
    · rw [← hrole]
      exact hc.serves hon

theorem putProducer (hs : w.Sound first) (slot : Nat) (p? : Option Producer)
    (hp? : ∀ p b, p? = some p → p.binding = some b → ∃ id, first ≤ id ∧ w.Serves b id .producer ∧
      ∀ i q, i ≠ slot → w.producers i = some q → q.object? ≠ some id) :
    (w.putProducer slot p? w.host).Sound first := by
  have hs' := hs.setProducer slot p? hp?
  rw [World.putProducer]
  cases hold : w.producers slot with
  | none => exact hs'
  | some old => exact hs'.keeps (Producer.keeps_close old w.host)

theorem create (hs : w.Sound first) (slot : Nat) (name : String) (requested : Nat) :
    (w.step (.create slot name requested)).Sound first := by
  rcases Producer.create_cases w.host name requested with
    ⟨e, h', hcreate, hfails⟩ | ⟨n, r, h', hcreate, -, hbound, hbase, hsize, hadds⟩
  · simp only [step, hcreate]
    exact (hs.keeps hfails.keeps).putProducer slot none (by rintro _ _ ⟨⟩)
  · simp only [step, hcreate]
    -- nothing was sent through an object that is not there yet
    have hlog : w.accepted w.host.objects.size = [] ∧ w.consumed w.host.objects.size = [] := by
      rcases hs.objects _ hs.first_le with hblank | ⟨c, hc⟩
      · exact ⟨congrArg Traffic.accepted hblank, congrArg Traffic.consumed hblank⟩
      · exact absurd hc.lt_size (Nat.lt_irrefl _)
    obtain ⟨hfollows, hcarries⟩ := Ledger.Follows.of_adds hadds hs.first_le hlog.1 hlog.2
      hbound.fits hbound.rounded hsize
    apply (hs.follows hfollows).putProducer slot
    rintro _ _ ⟨⟩ ⟨⟩
    refine ⟨_, hs.first_le, ⟨rfl, r.capacity, ?_, hcarries⟩, ?_⟩
    · rw [← hbase, ← hbound.role]
    · -- the other producers are of objects that were there
      intro i q _ hq hqid
      obtain ⟨b', hb', hobject'⟩ := Option.bind_eq_some_iff.1 hqid
      obtain ⟨id, hfirst, hserves⟩ := hs.producers i q b' hq hb'
      obtain ⟨c, -, hc⟩ := hserves.ring
      rw [hserves.object] at hobject'
      cases hobject'
      exact absurd hc.lt_size (Nat.lt_irrefl _)

theorem write (hs : w.Sound first) (slot : Nat) (msg : Bytes) :
    (w.step (.write slot msg)).Sound first := by
  cases hp : w.producers slot with
  | none =>
      simp only [step, hp]
      exact hs
  | some p =>
      cases hb : p.binding with
      | none =>
          simp only [step, hp, Producer.write, hb, Bool.false_eq_true, if_false]
          exact hs
      | some b =>
          obtain ⟨id, hfirst, hserves⟩ := hs.producers slot p b hp hb
          have hobject : p.object? = some id := by rw [Producer.object?, hb]; exact hserves.object
          simp only [step, hp, Producer.write, hb, hobject]
          refine hs.follows (.of_transfer .producer ?_ ?_ ?_)
          · intro i hi _
            rw [hserves.object] at hi
            cases hi
            exact hserves
          · intro i c hi hring hsound
            rw [hserves.object] at hi
            cases hi
            have hstep := hsound.write ⟨0, c, .consumer⟩ msg
            rw [b.memory_eq hserves.object, hring]
            simp only [Traffic.step, Ledger.traffic] at hstep
            cases hok : (Ring.write ⟨0, c, .producer⟩ (w.host.memory id) msg).1 with
            | false => simpa [hok] using hstep
            | true => simpa [hok] using hstep
          · intro i hi
            rw [hserves.object] at hi
            refine ⟨?_, rfl⟩
            split
            · exact note_of_ne hi
            · rfl

/-- What either way of reading takes out is noted for the object that it was taken from. -/
theorem taking (hs : w.Sound first) (slot : Nat) {act : Consumer → Host → List Bytes × Host}
    (hnone : ∀ c, c.binding = none → (act c w.host).2 = w.host)
    (hact : ∀ c b, c.binding = some b → ∃ m, (act c w.host).2 = b.setMemory w.host m ∧
      ∀ id k, b.object? = some id → b.ring = ⟨0, k, .consumer⟩ →
        (w.traffic id).Sound ⟨0, k, .producer⟩ 0 →
        (⟨m, w.accepted id, w.consumed id ++ (act c w.host).1⟩ : Traffic).Sound
          ⟨0, k, .producer⟩ 0) : (w.taking slot act).Sound first := by
  rw [World.taking]
  cases hc : w.consumers slot with
  | none => exact hs
  | some c =>
      dsimp only
      cases hb : c.binding with
      | none =>
          have hobject : c.object? = none := by rw [Consumer.object?, hb]; rfl
          rw [hnone c hb, hobject]
          exact hs
      | some b =>
          have hobject : c.object? = b.object? := by rw [Consumer.object?, hb]; rfl
          obtain ⟨m, hm, hstep⟩ := hact c b hb
          rw [hm, hobject]
          refine hs.follows (.of_transfer .consumer ?_ ?_ ?_)
          · intro id hid hfirst
            exact hs.consumers slot c b id hc hb hid hfirst
          · intro id k hid hring hsound
            rw [hid, note_self]
            exact hstep id k hid hring hsound
          · intro id hid
            exact ⟨rfl, note_of_ne hid⟩

theorem read (hs : w.Sound first) (slot : Nat) (out : Bytes) :
    (w.step (.read slot out)).Sound first := by
  simp only [step]
  apply hs.taking slot
  · intro c hb
    simp only [Consumer.read, hb]
  · intro c b hb
    refine ⟨(b.ring.read (b.memory w.host) out).memory, by simp only [Consumer.read, hb], ?_⟩
    intro id k hid hring hsound
    have hstep := hsound.read rfl out
    simp only [Consumer.taken, Consumer.read, Consumer.readMessage, hb]
    rw [b.memory_eq hid, hring]
    exact hstep

theorem readMessage (hs : w.Sound first) (slot : Nat) :
    (w.step (.readMessage slot)).Sound first := by
  simp only [step]
  apply hs.taking slot
  · intro c hb
    simp only [Consumer.readMessage, hb]
  · intro c b hb
    refine ⟨(b.ring.readMessage (b.memory w.host)).2, by simp only [Consumer.readMessage, hb], ?_⟩
    intro id k hid hring hsound
    have hstep := hsound.readMessage rfl
    simp only [Consumer.readMessage, hb]
    rw [b.memory_eq hid, hring]
    exact hstep

theorem closeProducer (hs : w.Sound first) (slot : Nat) :
    (w.step (.closeProducer slot)).Sound first := by
  simp only [step, withProducer]
  cases hp : w.producers slot with
  | none => exact hs
  | some p =>
      have hclosed : ∀ b', (p.close w.host).1.binding = some b' →
          ∃ b, p.binding = some b ∧ b'.ring = b.ring ∧ b'.object? = b.object? := by
        intro b' hb'
        rw [Producer.binding_close] at hb'
        cases hb'
      exact (hs.resetProducer hp hclosed).keeps (Producer.keeps_close p w.host)

theorem destroy (hs : w.Sound first) (slot : Nat) : (w.step (.destroy slot)).Sound first := by
  simp only [step, withProducer]
  cases hp : w.producers slot with
  | none => exact hs
  | some p =>
      exact (hs.resetProducer hp fun b' hb' => Producer.binding_destroy p w.host hb').keeps
        (Producer.keeps_destroy p w.host)

theorem closeConsumer (hs : w.Sound first) (slot : Nat) :
    (w.step (.closeConsumer slot)).Sound first := by
  simp only [step, withConsumer]
  cases hc : w.consumers slot with
  | none => exact hs
  | some c =>
      have hclosed := hs.setConsumer slot (some (c.close w.host).1) (by
        rintro _ b id ⟨⟩ hb
        rw [Consumer.binding_close] at hb
        cases hb)
      exact hclosed.keeps (Consumer.keeps_close c w.host)

theorem step (hs : w.Sound first) (action : Action) : (w.step action).Sound first := by
  cases action with
  | create slot name requested => exact hs.create slot name requested
  | attach slot name hint => exact hs.attach slot name hint
  | write slot msg => exact hs.write slot msg
  | read slot out => exact hs.read slot out
  | readMessage slot => exact hs.readMessage slot
  | closeProducer slot => exact hs.closeProducer slot
  | closeConsumer slot => exact hs.closeConsumer slot
  | dropProducer slot => exact hs.putProducer slot none (by rintro _ _ ⟨⟩)
  | dropConsumer slot => exact hs.putConsumer slot none (.refl _) (by rintro _ _ _ ⟨⟩)
  | destroy slot => exact hs.destroy slot
  | remove name => exact hs.keeps (Segment.keeps_remove w.host name)

theorem run (hs : w.Sound first) (actions : List Action) : (w.run actions).Sound first := by
  induction actions generalizing w with
  | nil => exact hs
  | cons action actions ih => exact ih (hs.step action)

end Sound

/-- Nothing is known of the objects that were there before. -/
theorem sound_start {h : Host} (hnames : h.NamesExist) : (start h).Sound h.objects.size where
  first_le := Nat.le_refl _
  objects id hfirst := by
    refine Or.inl ?_
    simp only [Ledger.traffic, start, memory_of_size_le hfirst]
  names e he := by
    have hlt := hnames e he
    exact ⟨hlt, fun hfirst => absurd hlt (Nat.not_lt_of_le hfirst)⟩
  producers := by rintro _ _ _ ⟨⟩
  single := by rintro _ _ _ _ _ ⟨⟩
  consumers := by rintro _ _ _ _ ⟨⟩

end World

/-! ### Delivery -/

/-- A consumer of an object is about to take the first of these messages, in either way. -/
def Consumer.IsNext (c : Consumer) (h : Host) (msgs : List Bytes) : Prop :=
  (c.readMessage h).1 = msgs.head? ∧ ∀ out, c.taken h out = msgs.head?.toList

theorem Ring.Holds.isNext {c : Consumer} {b : Binding} {h : Host} {id : ObjectId}
    {msgs : List Bytes} (hb : c.binding = some b) (hid : b.object? = some id)
    (hholds : b.ring.Holds (h.memory id) msgs) : c.IsNext h msgs := by
  have hmemory := b.memory_eq hid h
  constructor
  · simp only [Consumer.readMessage, hb, hmemory]
    exact hholds.readMessage_eq_head?
  · intro out
    have htaken : c.taken h out = b.ring.taken (h.memory id) out := by
      simp only [Consumer.taken, Consumer.read, Consumer.readMessage, hb, hmemory]
      rfl
    rw [htaken]
    cases msgs with
    | nil => exact hholds.taken_nil out
    | cons msg msgs => exact hholds.taken_cons out

structure Delivers (w : World) (id : ObjectId) : Prop where
  /-- What was consumed is the front of what was accepted, and the rest is there to be read. -/
  inOrder : w.accepted id = w.consumed id ++ w.host.unread id
  /-- At most one producer of the object is held. -/
  single : ∀ i j p q, w.producers i = some p → w.producers j = some q →
    p.object? = some id → q.object? = some id → i = j
  /-- Whoever is attached goes on where the last one stopped. -/
  attached : ∀ slot c, w.consumers slot = some c → c.object? = some id →
    c.IsNext w.host (w.host.unread id)
  /-- So does whoever attaches, which is possible as long as the object has a name. -/
  attachable : ∀ name n, Name.normalize name = .ok n → w.host.find? n = some id →
    ∃ c h, Consumer.attach w.host name 0 = (.ok c, h) ∧ c.object? = some id ∧
      c.IsNext h (w.host.unread id)

/-- Whatever is done on a host, each object created by then delivers the messages that its producer
got accepted exactly once, in order and apart from those of all other objects, to however many
consumers are attached to it. -/
theorem delivers_run {h : Host} (hnames : h.NamesExist) (actions : List Action) {id : ObjectId}
    (hid : h.objects.size ≤ id) : Delivers ((World.start h).run actions) id := by
  have hs := (World.sound_start hnames).run actions
  generalize (World.start h).run actions = w at hs
  refine ⟨?_, ?_, ?_, ?_⟩
  · rcases hs.objects id hid with hblank | ⟨c, hc⟩
    · have haccepted := congrArg Traffic.accepted hblank
      have hconsumed := congrArg Traffic.consumed hblank
      have hunread := Ledger.unread_of_zeroed (congrArg Traffic.memory hblank)
      simp only [Ledger.traffic] at haccepted hconsumed
      rw [haccepted, hconsumed, hunread]
      rfl
    · exact hc.unread.1
  · intro i j p q hp hq
    exact hs.single i j p q id hp hq
  · intro slot c hc hobject
    obtain ⟨b, hb, hbid⟩ := Option.bind_eq_some_iff.1 hobject
    exact (hs.consumers slot c b id hc hb hbid hid).holds.isNext hb hbid
  · intro name n hname hfind
    obtain ⟨-, hring⟩ := hs.names _ (mem_names_of_find? hfind)
    obtain ⟨hadmitted, c, hc⟩ := hring hid
    obtain ⟨b, h', hattach, hon, -, hkeeps⟩ := Consumer.attach_of_find? hname hadmitted hfind
      hc.sound.capacity hc.fits hc.held_lt
    have hholds := (hc.serves hon).holds
    rw [← hkeeps.memory id] at hholds
    exact ⟨⟨n, some b⟩, h', hattach, by rw [Consumer.object?]; exact hon.object,
      hholds.isNext rfl hon.object⟩

/-- A name is given to a second channel while both ends of the first one are still attached. The
first channel's reader discards a message for which its buffer is too short, and the second one's
is attached only after a size was refused. -/
theorem delivers_run_replaced :
    let w := (World.start .empty).run
      [.create 0 "v" 64, .attach 0 "/v" 0, .write 0 #[1], .write 0 #[2, 3], .create 1 "v" 64,
        .read 0 #[], .write 0 #[4], .write 1 #[5], .attach 1 "v" 24, .attach 1 "v" 80,
        .readMessage 1]
    Host.empty.NamesExist ∧
      w.accepted 0 = [#[1], #[2, 3], #[4]] ∧ w.consumed 0 = [#[1]] ∧ Delivers w 0 ∧
      w.accepted 1 = [#[5]] ∧ w.consumed 1 = [#[5]] ∧ Delivers w 1 := by
  intro w
  have hnames : Host.empty.NamesExist := by
    rintro _ ⟨⟩
  exact ⟨hnames, rfl, rfl, delivers_run hnames _ (Nat.zero_le _), rfl, rfl,
    delivers_run hnames _ (Nat.zero_le _)⟩

end SharedRing
