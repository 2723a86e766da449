import SharedRing.Channel.Consumer
import SharedRing.Video.Error
import SharedRing.Video.Sequence
import SharedRing.Wait

/-!
Receiving frames. A run opens a channel, takes one message after another and counts good frames,
bad ones and gaps. It ends when as many messages as its settings say have arrived, or when no
complete message is left: nothing else writes while it runs, so from then on it would only wait to
be stopped.
-/

namespace SharedRing.Video

structure ReceiveStats where
  received : Nat
  gaps : Nat
  bad : Nat
  deriving DecidableEq, Repr

namespace Receive

def statusInterval : Nat := 100

structure Tally where
  received : Nat
  bad : Nat
  sequence : Sequence
  deriving DecidableEq, Repr

namespace Tally

def start : Tally := ⟨0, 0, .start⟩

def stats (t : Tally) : ReceiveStats := ⟨t.received, t.sequence.gaps, t.bad⟩

/-- Counts a message. A good frame has the expected size and passes its check. -/
def add (t : Tally) (frameSize : Nat) (frame : Bytes) : Tally :=
  match Frame.readIndex? frame with
  | some index =>
      if frame.size = frameSize && Frame.isIntact frame index then
        ⟨t.received + 1, t.bad, (t.sequence.observe index).2⟩
      else ⟨t.received + 1, t.bad + 1, t.sequence⟩
  | none => ⟨t.received + 1, t.bad + 1, t.sequence⟩

def notices (before after : Tally) (size frameSize : Nat) : List Notice :=
  (if before.bad < after.bad then [.unexpectedFrame size frameSize] else []) ++
    if after.received % statusInterval = 0 then
      [.receiveStatus after.received after.sequence.gaps]
    else []

end Tally

def isReached (limit : Option Nat) (t : Tally) : Bool :=
  match limit with
  | none => false
  | some n => n ≤ t.received

/-- What a read that delivered `size` bytes of `out` adds; nothing when it delivered none. -/
def account (frameSize : Nat) (t : Tally) (h : Host) (size : Nat) (out : Bytes) : Tally × Host :=
  if size = 0 then (t, h)
  else
    let t' := t.add frameSize (out.extract 0 size)
    (t', h.reportAll (t.notices t' size frameSize))

theorem readable_account (c : Consumer) (frameSize : Nat) (t : Tally) (h : Host) (size : Nat)
    (out : Bytes) : c.readable (account frameSize t h size out).2 = c.readable h := by
  unfold account
  split <;> rfl

/-- Takes messages until the limit is reached or no complete one is left. -/
def loop (c : Consumer) (frameSize : Nat) (limit : Option Nat) (t : Tally) (h : Host) :
    Tally × Host :=
  if isReached limit t then (t, h)
  else if _hc : c.canRead h = true then
    let res := c.read h (Array.replicate frameSize 0)
    let next := account frameSize t res.2 res.1.1 res.1.2
    loop c frameSize limit next.1 next.2
  else (t, h)
termination_by c.readable h
decreasing_by
  rw [readable_account]
  exact Consumer.readable_read_lt ‹_›

def onChannel (c : Consumer) (s : ConsumerSettings) (stopped : Bool) (h : Host) :
    Except RunError ReceiveStats × Host :=
  if c.capacity < s.frameSize then (.error (.smallerThanFrame c.capacity s.geometry), h)
  else
    let (t, h) :=
      if stopped then (Tally.start, h) else loop c s.frameSize s.maxFrames .start h
    (.ok t.stats, h.report (.receivedAll t.received t.sequence.gaps t.bad))

end Receive

/-- Receives the frames that are there, up to the limit in the settings; none at all when told to
stop from the start. A channel that cannot be opened is waited for until the run is stopped. -/
def receive (s : ConsumerSettings) (stopped : Bool) (h : Host) :
    Except RunError ReceiveStats × Host :=
  match s.validate with
  | .error e => (.error (.settings e), h)
  | .ok () =>
      let (opened, h) := Consumer.attach h s.name 0
      let call : Attempt Consumer :=
        ⟨match opened with
          | .ok c => .ok c
          | .error e => .error e.message, true⟩
      let waited := waitFor s!"channel '{s.name}'" [call]
      let h := h.reportAll waited.notices
      match waited.resource? with
      | none => (.ok ⟨0, 0, 0⟩, h)
      | some c =>
          let (res, h) := Receive.onChannel c s stopped h
          (res, c.drop h)

end SharedRing.Video
