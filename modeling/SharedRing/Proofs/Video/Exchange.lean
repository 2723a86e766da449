import SharedRing.Proofs.Video.Publication
import SharedRing.Proofs.Video.Reception

/-!
The two programs on one channel. In its loop each of them does what a turn of a pipeline does, and
besides reports and keeps its pace, which does not touch the ring. So whatever turns they take on a
host, there is a pipeline that agrees with them (`Exchange.Mirrors`), and what it conserves, they do
(`exchange_conserves`).

Each loop is so many turns of its program (`Exchange.run_attempts`, `Exchange.run_polls`), so this
is true of the loops as well (`loops_conserve`).
-/

namespace SharedRing.Video

open Host

/-- The programs between two turns. The sender's state has the host, which the receiver shares. -/
structure Exchange where
  sender : Publish.State
  tally : Receive.Tally

namespace Exchange

def start (h : Host) (pacer : Pacer) : Exchange := ⟨⟨h, pacer, 0, 0, 0⟩, .start⟩

def host (x : Exchange) : Host := x.sender.host

def turn (p : Producer) (c : Consumer) (frameSize : Nat) (elapsed : Nat → Duration)
    (x : Exchange) : Turn → Exchange
  | .attempt => { x with sender := Publish.step p frameSize elapsed x.sender }
  | .poll =>
      let (t, h) := Receive.poll c frameSize x.tally x.host
      ⟨{ x.sender with host := h }, t⟩

def run (p : Producer) (c : Consumer) (frameSize : Nat) (elapsed : Nat → Duration)
    (x : Exchange) (turns : List Turn) : Exchange :=
  turns.foldl (turn p c frameSize elapsed) x

variable {p : Producer} {c : Consumer} {b b' : Binding} {id : ObjectId} {frameSize : Nat}
  {elapsed : Nat → Duration} {s : Pipeline} {x : Exchange}

theorem run_append (x : Exchange) (turns turns' : List Turn) :
    x.run p c frameSize elapsed (turns ++ turns') =
      (x.run p c frameSize elapsed turns).run p c frameSize elapsed turns' :=
  List.foldl_append

/-! ### The loops -/

/-- The loop of the sender is so many attempts. -/
theorem run_attempts (x : Exchange) (count : Nat) :
    x.run p c frameSize elapsed (List.replicate count .attempt) =
      { x with sender := Publish.steps p frameSize elapsed count x.sender } := by
  induction count generalizing x with
  | zero => rfl
  | succ count ih => exact ih _

/-- The loop of the receiver is as many polls as it takes. -/
theorem run_polls (p : Producer) (c : Consumer) (frameSize : Nat) (elapsed : Nat → Duration)
    (limit : Option Nat) (st : Publish.State) (t : Receive.Tally) (h : Host) :
    ∃ count, run p c frameSize elapsed ⟨{ st with host := h }, t⟩ (List.replicate count .poll) =
      ⟨{ st with host := (Receive.loop c frameSize limit t h).2 },
        (Receive.loop c frameSize limit t h).1⟩ := by
  induction t, h using Receive.loop.induct c frameSize limit with
  | case1 t h hreached =>
      rw [Receive.loop, if_pos hreached]
      exact ⟨0, rfl⟩
  | case2 t h hreached hread res next ih =>
      obtain ⟨count, hrest⟩ := ih
      rw [Receive.loop, if_neg hreached, dif_pos hread]
      exact ⟨count + 1, hrest⟩
  | case3 t h hreached hread =>
      rw [Receive.loop, if_neg hreached, dif_neg hread]
      exact ⟨0, rfl⟩

inductive Phase where
  | publish (count : Nat)
  | receive (limit : Option Nat)

def phase (p : Producer) (c : Consumer) (frameSize : Nat) (elapsed : Nat → Duration)
    (x : Exchange) : Phase → Exchange
  | .publish count => { x with sender := Publish.steps p frameSize elapsed count x.sender }
  | .receive limit =>
      let (t, h) := Receive.loop c frameSize limit x.tally x.host
      ⟨{ x.sender with host := h }, t⟩

/-- Whatever loops are run one after another, they are turns. -/
theorem exists_turns (x : Exchange) (phases : List Phase) :
    ∃ turns, phases.foldl (phase p c frameSize elapsed) x = x.run p c frameSize elapsed turns := by
  induction phases generalizing x with
  | nil => exact ⟨[], rfl⟩
  | cons ph phases ih =>
      obtain ⟨turns, hrest⟩ := ih (x.phase p c frameSize elapsed ph)
      rw [List.foldl_cons, hrest]
      cases ph with
      | publish count =>
          refine ⟨List.replicate count .attempt ++ turns, ?_⟩
          rw [run_append, run_attempts]
          rfl
      | receive limit =>
          obtain ⟨count, hpolls⟩ :=
            run_polls p c frameSize elapsed limit x.sender x.tally x.host
          refine ⟨List.replicate count .poll ++ turns, ?_⟩
          rw [run_append]
          exact congrArg (run p c frameSize elapsed · turns) hpolls.symm

/-! ### The pipeline -/

/-- A pipeline that has the bytes of the object and the counts of both programs. -/
structure Mirrors (id : ObjectId) (s : Pipeline) (x : Exchange) : Prop where
  exists_object : id < x.host.objects.size
  memory : x.host.memory id = s.memory
  attempts : x.sender.index = s.attempts
  written : x.sender.written = s.written
  dropped : x.sender.dropped = s.dropped
  tally : x.tally = s.tally

namespace Mirrors

theorem attempt (hm : Mirrors id s x) (hp : p.binding = some b) (hb : b.object? = some id) :
    Mirrors id (s.attempt b.ring frameSize) (x.turn p c frameSize elapsed .attempt) := by
  have hmemory : b.memory x.sender.host = s.memory := (Binding.memory_eq hb _).trans hm.memory
  have hattempt : Mirrors id (s.attempt b.ring frameSize)
      { x with sender := Publish.attempt p frameSize x.sender } := by
    simp only [Publish.attempt, Pipeline.attempt, Producer.write, hp, hmemory, hm.attempts,
      Binding.setMemory_eq hb]
    refine ⟨?_, Host.memory_setMemory hm.exists_object, rfl, ?_, ?_, hm.tally⟩
    · rw [host, Host.size_setMemory]
      exact hm.exists_object
    · rw [hm.written]
      rfl
    · rw [hm.dropped]
      rfl
  obtain ⟨hid, hobject, hindex, hwritten, hdropped, htally⟩ := hattempt
  rw [Exchange.turn, Publish.step, Publish.reportStatus]
  split <;> exact ⟨hid, hobject, hindex, hwritten, hdropped, htally⟩

theorem poll (hm : Mirrors id s x) (hc : c.binding = some b) (hb : b.object? = some id) :
    Mirrors id (s.poll b.ring frameSize) (x.turn p c frameSize elapsed .poll) := by
  have hmemory : b.memory x.host = s.memory := (Binding.memory_eq hb _).trans hm.memory
  have hid (m : Memory) : id < (x.host.setMemory id m).objects.size := by
    rw [Host.size_setMemory]
    exact hm.exists_object
  have hset (m : Memory) := Host.memory_setMemory (m := m) hm.exists_object
  simp only [Exchange.turn, Receive.poll, Receive.account, Pipeline.poll, Consumer.read, hc,
    hmemory, Binding.setMemory_eq hb, hm.tally]
  generalize b.ring.read s.memory (Array.replicate frameSize 0) = res
  split
  · exact ⟨hid res.memory, hset res.memory, hm.attempts, hm.written, hm.dropped, rfl⟩
  · exact ⟨hid res.memory, hset res.memory, hm.attempts, hm.written, hm.dropped, rfl⟩

theorem turn (hm : Mirrors id s x) (hp : p.binding = some b) (hb : b.object? = some id)
    (hc : c.binding = some b') (hb' : b'.object? = some id) (t : Turn) :
    Mirrors id (s.turn b.ring b'.ring frameSize t) (x.turn p c frameSize elapsed t) := by
  cases t with
  | attempt => exact hm.attempt hp hb
  | poll => exact hm.poll hc hb'

theorem run (hm : Mirrors id s x) (hp : p.binding = some b) (hb : b.object? = some id)
    (hc : c.binding = some b') (hb' : b'.object? = some id) (turns : List Turn) :
    Mirrors id (s.run b.ring b'.ring frameSize turns) (x.run p c frameSize elapsed turns) := by
  induction turns generalizing s x with
  | nil => exact hm
  | cons t turns ih => exact ih (hm.turn hp hb hc hb' t)

end Mirrors

end Exchange

open Exchange in
/-- A channel that was just created can be attached to under its name, and then, whatever turns the
two programs take, what a pipeline conserves is conserved by them. -/
theorem exchange_conserves {h h₁ : Host} {name : String} {requested frameSize : Nat} {p : Producer}
    (hp : Producer.create h name requested = (.ok p, h₁)) (hsize : Frame.indexSize < frameSize)
    (pacer : Pacer) (elapsed : Nat → Duration) :
    ∃ b c h₂, p.binding = some b ∧ Consumer.attach h₁ name 0 = (.ok c, h₂) ∧
      ∀ turns, ∃ s : Pipeline,
        Mirrors h.objects.size s ((start h₂ pacer).run p c frameSize elapsed turns) ∧
        s.Conserves b.ring frameSize := by
  obtain ⟨r, hmade, hname, hbound, hbase, hmap, hadds⟩ := Producer.of_create_ok hp
  have hheld := hadds.held_new
  have hword : (h₁.memory h.objects.size).word (Header.capacityAt 0) = r.capacity.word := by
    rw [hadds.memory_new]
    exact (Ring.word_publish .zeroed 0 r.capacity.word).2.2.1
  obtain ⟨b', h₂, hattach, hon, hrole, hkeeps⟩ := Consumer.attach_of_find? hname hadds.admitted
    hadds.find?_eq hword (by rw [hheld]; exact hbound.fits) (by rw [hheld]; exact hmap)
  -- both ends are of the one ring in the object
  have hcons : b'.ring = { r with role := .consumer } := by
    have hcapacity := Capacity.word_inj (hon.published.symm.trans hword)
    have hbase' := hon.base
    obtain ⟨⟨base, capacity, role⟩, segment⟩ := b'
    dsimp only at hcapacity hbase' hrole ⊢
    rw [hcapacity, hbase', hrole, hbase]
  have hholds : r.Holds (h₂.memory h.objects.size) [] := by
    rw [hkeeps.memory, hadds.memory_new, ← hbase]
    exact Ring.holds_publish r .zeroed r.capacity.word
  have hgrown : h.objects.size < h₁.objects.size := by
    rw [hadds.objects, Array.size_push]
    exact Nat.lt_succ_self _
  have hstart : Mirrors h.objects.size (.start (h₂.memory h.objects.size)) (start h₂ pacer) :=
    ⟨Nat.lt_of_lt_of_le hgrown hkeeps.size_le, rfl, rfl, rfl, rfl, rfl⟩
  refine ⟨⟨r, Producer.created p.name h.objects.size requested⟩, ⟨p.name, some b'⟩, h₂,
    by rw [hmade], hattach, fun turns => ?_⟩
  refine ⟨_, hstart.run (by rw [hmade]) rfl rfl hon.object turns, ?_⟩
  rw [hcons]
  exact ((Pipeline.Sound.start hholds).run rfl hsize turns).conserves (Nat.le_of_lt hsize)

open Exchange in
/-- The same holds when each program runs its loop to the end, in any order and any number of
times. -/
theorem loops_conserve {h h₁ : Host} {name : String} {requested frameSize : Nat} {p : Producer}
    (hp : Producer.create h name requested = (.ok p, h₁)) (hsize : Frame.indexSize < frameSize)
    (pacer : Pacer) (elapsed : Nat → Duration) :
    ∃ b c h₂, p.binding = some b ∧ Consumer.attach h₁ name 0 = (.ok c, h₂) ∧
      ∀ phases : List Phase, ∃ s : Pipeline,
        Mirrors h.objects.size s (phases.foldl (phase p c frameSize elapsed) (start h₂ pacer)) ∧
        s.Conserves b.ring frameSize := by
  obtain ⟨b, c, h₂, hb, hattach, hturns⟩ := exchange_conserves hp hsize pacer elapsed
  refine ⟨b, c, h₂, hb, hattach, fun phases => ?_⟩
  obtain ⟨turns, heq⟩ := exists_turns (start h₂ pacer) phases
  rw [heq]
  exact hturns turns

end SharedRing.Video
