import SharedRing.Binary64.Numeral
import SharedRing.Variables

/-!
The options of the programs' command lines: how each is spelled, which variable stands in for it,
and which texts are values of it.
-/

namespace SharedRing.CommandLine

inductive Key where
  | name
  | width
  | height
  | frameRate
  | bufferedFrames
  | maxFrames
  | pollInterval
  deriving DecidableEq, Repr

inductive Value where
  | text (s : String)
  | count (n : Nat)
  | rate (x : Binary64)
  deriving DecidableEq, Repr

namespace Key

def flag : Key → String
  | name => "name"
  | width => "width"
  | height => "height"
  | frameRate => "frame-rate"
  | bufferedFrames => "buffered-frames"
  | maxFrames => "max-frames"
  | pollInterval => "poll-interval-ms"

def variableName : Key → String
  | name => "SHM_NAME"
  | width => "FRAME_WIDTH"
  | height => "FRAME_HEIGHT"
  | frameRate => "FRAME_RATE"
  | bufferedFrames => "BUFFERED_FRAMES"
  | maxFrames => "MAX_FRAMES"
  | pollInterval => "POLL_INTERVAL_MS"

def ofProducer : List Key := [name, width, height, frameRate, bufferedFrames, maxFrames]

def ofConsumer : List Key := [name, width, height, maxFrames, pollInterval]

end Key

def Key.value? : Key → String → Option Value
  | name, s => some (.text s)
  | frameRate, s => (Binary64.ofDecimal? s).map .rate
  | _, s => (Text.count? s).map .count

end SharedRing.CommandLine
