import SharedRing.Ring.Basic
import SharedRing.Binary64.Text
import SharedRing.Video.Frame

/-!
What the two programs can be set to, and when settings make sense. Sizes are products that stop at
the largest number of 64 bits.
-/

namespace SharedRing.Video

/-- A count of 64 bits stops at its largest value. -/
def saturate (n : Nat) : Nat := min n 18446744073709551615

def channels : Nat := 3

structure Geometry where
  width : Nat
  height : Nat
  deriving DecidableEq, Repr

namespace Geometry

def frameSize (g : Geometry) : Nat := saturate (saturate (g.width * g.height) * channels)

def maxFrameSize : Nat := 4294967295 - Ring.lengthSize

def fullHd : Geometry := ⟨1920, 1080⟩

end Geometry

inductive SettingsError where
  | frameTooSmall (geometry : Geometry)
  | frameTooLarge (geometry : Geometry)
  | rateNotPositive (rate : Binary64)
  | nothingBuffered
  deriving DecidableEq, Repr

def SettingsError.message : SettingsError → String
  | frameTooSmall g => s!"Frame {g.width}x{g.height} is too small to carry a frame index"
  | frameTooLarge g => s!"Frame {g.width}x{g.height} is too large for one message"
  | rateNotPositive rate => s!"Frame rate must be positive, got {rate.toShortest}"
  | nothingBuffered => "At least one frame must be buffered"

def Geometry.validate (g : Geometry) : Except SettingsError Unit :=
  if g.frameSize < Frame.indexSize then .error (.frameTooSmall g)
  else if maxFrameSize < g.frameSize then .error (.frameTooLarge g)
  else .ok ()

def defaultName : String := "shm_video"

def defaultBufferedFrames : Nat := 10

structure ProducerSettings where
  name : String
  geometry : Geometry
  rate : Binary64
  bufferedFrames : Nat
  maxFrames : Option Nat

namespace ProducerSettings

def standard : ProducerSettings :=
  ⟨defaultName, .fullHd, .ofRatio false 30 1, defaultBufferedFrames, none⟩

def frameSize (s : ProducerSettings) : Nat := s.geometry.frameSize

def requestedCapacity (s : ProducerSettings) : Nat :=
  saturate (saturate (s.frameSize + Ring.lengthSize) * s.bufferedFrames)

def validate (s : ProducerSettings) : Except SettingsError Unit :=
  match s.geometry.validate with
  | .error e => .error e
  | .ok () =>
      if !(s.rate.isFinite && s.rate.isPositive) then .error (.rateNotPositive s.rate)
      else if s.bufferedFrames = 0 then .error .nothingBuffered
      else .ok ()

end ProducerSettings

structure ConsumerSettings where
  name : String
  geometry : Geometry
  maxFrames : Option Nat
  /-- Milliseconds between two tries to open a channel that is not there yet. -/
  pollInterval : Nat

namespace ConsumerSettings

def standard : ConsumerSettings := ⟨defaultName, .fullHd, none, 100⟩

def frameSize (s : ConsumerSettings) : Nat := s.geometry.frameSize

def validate (s : ConsumerSettings) : Except SettingsError Unit := s.geometry.validate

end ConsumerSettings

end SharedRing.Video
