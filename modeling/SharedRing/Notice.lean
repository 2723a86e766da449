import SharedRing.Binary64.Text
import SharedRing.Error

/-!
What the library and its programs report while they run. A notice is kept as what happened; its
level, where it comes from, its wording and its further fields are functions of it. Measured frame
rates are no part of a notice.
-/

namespace SharedRing

inductive Level where
  | error
  | warn
  | info
  deriving DecidableEq, Repr

namespace Level

def text : Level → String
  | error => "ERROR"
  | warn => "WARN"
  | info => "INFO"

/-- More severe levels come first. -/
def rank : Level → Nat
  | error => 1
  | warn => 2
  | info => 3

end Level

inductive Notice where
  | segmentDestroyed (name : String)
  | unlinkFailed (name : String) (error : OsError)
  | producerCreated (name : String) (requested capacity : Nat)
  | cannotHost (name : String) (requested : Nat) (error : ChannelError)
  | consumerOpened (name : String) (capacity : Nat)
  | connected (resource : String)
  | waiting (resource reason : String)
  | stoppedWaiting (resource : String)
  | publishing (name : String) (width height : Nat) (rate : Binary64)
      (frameSize capacity bufferedFrames : Nat)
  | publishStatus (written dropped free : Nat)
  | publishedAll (written dropped overruns : Nat)
  | unexpectedFrame (size expected : Nat)
  | receiveStatus (received gaps : Nat)
  | receivedAll (frames gaps bad : Nat)
  | signalsRegistered
  | producerStopped
  | producerFailed (reason : String)
  | consumerStopped (frames : Nat)
  deriving DecidableEq, Repr

namespace Notice

inductive Value where
  | text (s : String)
  | count (n : Nat)
  deriving DecidableEq, Repr

def level : Notice → Level
  | unlinkFailed .. | cannotHost .. | unexpectedFrame .. => .warn
  | producerFailed .. => .error
  | _ => .info

def target : Notice → String
  | segmentDestroyed .. => "shm_channel::segment"
  | unlinkFailed .. => "shm_channel::segment::unix"
  | producerCreated .. | cannotHost .. | consumerOpened .. => "shm_channel::channel"
  | connected .. | waiting .. | stoppedWaiting .. => "common::wait"
  | publishing .. | publishStatus .. | publishedAll .. => "frame_demo::producer"
  | unexpectedFrame .. | receiveStatus .. | receivedAll .. => "frame_demo::consumer"
  | signalsRegistered | producerStopped | producerFailed .. => "frame_producer"
  | consumerStopped .. => "frame_consumer"

def message : Notice → String
  | segmentDestroyed _ => "Shared memory segment destroyed"
  | unlinkFailed _ error => s!"shm_unlink failed: {error.symbolMessage}"
  | producerCreated .. => "Producer channel created"
  | cannotHost _ _ error => s!"Cannot host a ring: {error.message}"
  | consumerOpened .. => "Consumer channel opened"
  | connected resource => s!"{resource} connected"
  | waiting resource reason => s!"Waiting for {resource} ({reason})"
  | stoppedWaiting resource => s!"Stopped waiting for {resource}"
  | publishing _ _ _ rate _ _ _ => s!"Producer ready at {rate.toOneDecimal} fps"
  | publishStatus written dropped free =>
      s!"Status: [Frames: {written}] [Dropped: {dropped}] [Free: {free} bytes]"
  | publishedAll written dropped overruns =>
      s!"Shutdown: {written} frames written, {dropped} dropped, {overruns} overruns."
  | unexpectedFrame size expected => s!"Unexpected frame of {size} bytes (expected {expected})"
  | receiveStatus received gaps => s!"Status: [Frames: {received}] [Gaps: {gaps}] [FPS: _]"
  | receivedAll frames gaps bad =>
      s!"Shutdown: {frames} frames received, {gaps} gaps, {bad} bad, _ fps."
  | signalsRegistered => "Signal handlers registered (SIGTERM, SIGINT)"
  | producerStopped => "Frame producer stopped gracefully"
  | producerFailed reason => s!"Frame producer failed: {reason}"
  | consumerStopped frames => s!"Frame consumer stopped after {frames} frames"

def fields : Notice → List (String × Value)
  | segmentDestroyed name => [("name", .text name)]
  | unlinkFailed name _ => [("name", .text name)]
  | producerCreated name requested capacity =>
      [("name", .text name), ("requested_capacity", .count requested),
        ("capacity", .count capacity)]
  | cannotHost name requested _ =>
      [("name", .text name), ("requested_capacity", .count requested)]
  | consumerOpened name capacity => [("name", .text name), ("capacity", .count capacity)]
  | publishing name width height _ frameSize capacity bufferedFrames =>
      [("name", .text name), ("width", .count width), ("height", .count height),
        ("frame_size", .count frameSize), ("capacity", .count capacity),
        ("buffered_frames", .count bufferedFrames)]
  | _ => []

/-- The wording counts as a field. -/
def fieldNames (n : Notice) : List String := "message" :: n.fields.map Prod.fst

def line (n : Notice) : String := s!"{n.level.text} {n.message}"

end Notice

end SharedRing
