import SharedRing.Binary64.Basic
import SharedRing.Duration

/-!
A fixed pace of frames. The period is one divided by the rate, as a floating-point number, and
then rounded to whole nanoseconds. A frame that leaves nothing of its period is an overrun.
-/

namespace SharedRing.Video

inductive PeriodError where
  | negative
  | tooLong
  deriving DecidableEq, Repr

def PeriodError.message : PeriodError → String
  | negative => "cannot convert float seconds to Duration: value is negative"
  | tooLong => "cannot convert float seconds to Duration: value is either too big or NaN"

/-- The duration of so many seconds, to the nearest nanosecond. -/
def durationOfSeconds (s : Binary64) : Except PeriodError Duration :=
  if s.isNegative then .error .negative
  else
    match s with
    | .finite _ mantissa scale =>
        let nanos :=
          roundHalfEven (Binary64.units mantissa scale * Duration.nanosPerSecond)
            Binary64.unitsPerOne
        if h : nanos < Duration.limit then .ok ⟨nanos, h⟩ else .error .tooLong
    | _ => .error .tooLong

structure Pacer where
  period : Duration
  overruns : Nat
  deriving DecidableEq, Repr

namespace Pacer

def ofRate (rate : Binary64) : Except PeriodError Pacer :=
  match durationOfSeconds rate.reciprocal with
  | .error e => .error e
  | .ok period => .ok ⟨period, 0⟩

def remaining (p : Pacer) (elapsed : Duration) : Option Duration :=
  match p.period.sub? elapsed with
  | none => none
  | some d => if d.nanos = 0 then none else some d

def wait (p : Pacer) (elapsed : Duration) : Pacer :=
  match p.remaining elapsed with
  | none => { p with overruns := p.overruns + 1 }
  | some _ => p

end Pacer

end SharedRing.Video
