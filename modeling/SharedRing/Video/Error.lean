import SharedRing.Error
import SharedRing.Video.Pacer
import SharedRing.Video.Settings

/-!
Why a program's run ends without a result. An error has a wording of its own and those of its
causes, the outermost first. A run whose rate has no period breaks off where it stands.
-/

namespace SharedRing.Video

inductive RunError where
  | settings (error : SettingsError)
  | cannotCreate (name : String) (error : ChannelError)
  | cannotHoldFrame (capacity frameSize : Nat)
  | smallerThanFrame (capacity : Nat) (geometry : Geometry)
  deriving DecidableEq, Repr

namespace RunError

def message : RunError → String
  | settings error => error.message
  | cannotCreate name _ => s!"Failed to create channel '{name}'"
  | cannotHoldFrame capacity frameSize =>
      s!"Channel capacity {capacity} cannot hold one {frameSize}-byte frame"
  | smallerThanFrame capacity g =>
      s!"Channel capacity {capacity} is smaller than a {g.width}x{g.height} frame"

def causes : RunError → List String
  | cannotCreate _ error => error.chain
  | _ => []

def chain (e : RunError) : List String := e.message :: e.causes

end RunError

inductive Failure where
  | error (e : RunError)
  | breaksOff (e : PeriodError)
  deriving DecidableEq, Repr

end SharedRing.Video
