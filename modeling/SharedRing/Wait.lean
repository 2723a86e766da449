import SharedRing.Notice

/-!
Waiting for a resource. Calls to connect follow one another until one succeeds or the wait is told
to stop. Success counts even when the request to stop came during that call, or before it; the
first failure is reported, later ones are not.
-/

namespace SharedRing

/-- One call to connect: what it gave, and whether a request to stop is there when it ends. -/
structure Attempt (α : Type) where
  outcome : Except String α
  stop : Bool

namespace Wait

structure Result (α : Type) where
  resource? : Option α
  /-- How many calls were made. -/
  calls : Nat
  notices : List Notice

/-- Goes through the calls; `told` says that a failure was reported before. -/
def run {α : Type} (resource : String) : Bool → List (Attempt α) → Result α
  | _, [] => ⟨none, 0, []⟩
  | told, a :: rest =>
      match a.outcome with
      | .ok r => ⟨some r, 1, [.connected resource]⟩
      | .error reason =>
          let first := if told then [] else [.waiting resource reason]
          if a.stop then ⟨none, 1, first ++ [.stoppedWaiting resource]⟩
          else
            let later := run resource true rest
            ⟨later.resource?, later.calls + 1, first ++ later.notices⟩

end Wait

def waitFor {α : Type} (resource : String) (calls : List (Attempt α)) : Wait.Result α :=
  Wait.run resource false calls

end SharedRing
