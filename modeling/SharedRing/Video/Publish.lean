import SharedRing.Channel.Producer
import SharedRing.Video.Error

/-!
Publishing frames. A run makes a fresh channel, writes one frame after another at the pace of its
settings, drops those for which there is no room, and removes the channel's name at its end. How
long each frame took is given by `elapsed`, since no clock is part of the state.
-/

namespace SharedRing.Video

structure PublishStats where
  written : Nat
  dropped : Nat
  overruns : Nat
  deriving DecidableEq, Repr

namespace Publish

def statusInterval : Nat := 100

structure State where
  host : Host
  pacer : Pacer
  /-- The index of the next frame, which is the number of attempts so far. -/
  index : Nat
  written : Nat
  dropped : Nat

def State.stats (s : State) : PublishStats := ⟨s.written, s.dropped, s.pacer.overruns⟩

def attempt (p : Producer) (frameSize : Nat) (s : State) : State :=
  let (ok, h) := p.write s.host (Frame.fill frameSize (UInt32.ofNat s.index))
  { s with
    host := h
    index := s.index + 1
    written := if ok then s.written + 1 else s.written
    dropped := if ok then s.dropped else s.dropped + 1 }

def reportStatus (p : Producer) (s : State) : State :=
  if s.index % statusInterval = 0 then
    { s with host := s.host.report (.publishStatus s.written s.dropped (p.writable s.host)) }
  else s

def step (p : Producer) (frameSize : Nat) (elapsed : Nat → Duration) (s : State) : State :=
  let s' := reportStatus p (attempt p frameSize s)
  { s' with pacer := s'.pacer.wait (elapsed s.index) }

def steps (p : Producer) (frameSize : Nat) (elapsed : Nat → Duration) : Nat → State → State
  | 0, s => s
  | n + 1, s => steps p frameSize elapsed n (step p frameSize elapsed s)

/-- How many frames a run attempts: as many as its settings say, or fewer when it is told to stop
after some. One without any end is taken as stopped from the start. -/
def attempts (maxFrames stopAfter : Option Nat) : Nat :=
  match maxFrames, stopAfter with
  | some n, some k => min n k
  | some n, none => n
  | none, some k => k
  | none, none => 0

def onChannel (p : Producer) (s : ProducerSettings) (stopAfter : Option Nat)
    (elapsed : Nat → Duration) (h : Host) : Except Failure PublishStats × Host :=
  let messageSize := s.frameSize + Ring.lengthSize
  if p.capacity < messageSize then
    (.error (.error (.cannotHoldFrame p.capacity s.frameSize)), h)
  else
    let h := h.report (.publishing p.name s.geometry.width s.geometry.height s.rate s.frameSize
      p.capacity (p.capacity / messageSize))
    match Pacer.ofRate s.rate with
    | .error e => (.error (.breaksOff e), h)
    | .ok pacer =>
        let last :=
          steps p s.frameSize elapsed (attempts s.maxFrames stopAfter) ⟨h, pacer, 0, 0, 0⟩
        let stats := last.stats
        (.ok stats,
          last.host.report (.publishedAll stats.written stats.dropped stats.overruns))

end Publish

/-- Publishes frames until as many as the settings say were attempted, or until told to stop.
Unless the run breaks off, the channel's name is removed at the end. -/
def publish (s : ProducerSettings) (stopAfter : Option Nat) (elapsed : Nat → Duration)
    (h : Host) : Except Failure PublishStats × Host :=
  match s.validate with
  | .error e => (.error (.error (.settings e)), h)
  | .ok () =>
      match Producer.create (Segment.remove h s.name) s.name s.requestedCapacity with
      | (.error e, h) => (.error (.error (.cannotCreate s.name e)), h)
      | (.ok p, h) =>
          match Publish.onChannel p s stopAfter elapsed h with
          -- the mapping goes, the name stays
          | (.error (.breaksOff e), h) => (.error (.breaksOff e), p.drop h)
          | (res, h) =>
              let (p, h) := p.destroy h
              (res, p.drop h)

end SharedRing.Video
