/-!
How deep the parts of a pattern nest. A group, a repetition and a class nest one deeper than what
is inside of them, and so do several parts side by side.
-/

namespace SharedRing.Pattern

def depthLimit : Nat := 250

/-- Parts that stand side by side: how many there are, and the depth of the deepest one. -/
structure Parts where
  count : Nat
  depth : Nat
  deriving DecidableEq, Repr

namespace Parts

def empty : Parts := ⟨0, 0⟩

def push (p : Parts) (depth : Nat) : Parts := ⟨p.count + 1, max p.depth depth⟩

/-- The depth of the whole. A single part is itself the whole. -/
def total (p : Parts) : Nat := if p.count ≤ 1 then p.depth else p.depth + 1

end Parts

end SharedRing.Pattern
