/-!
Names of shared objects. A normalized name is one slash and the given name without its leading
slash, cut to 255 bytes of UTF-8 at a character boundary.
-/

namespace SharedRing

inductive NameError where
  | containsNul
  | empty
  deriving DecidableEq, Repr

def NameError.reason : NameError → String
  | containsNul => "name contains a NUL byte"
  | empty => "name is empty"

namespace Name

/-- The longest normalized name, in bytes, its slash included. -/
def maxSize : Nat := 255

/-- The boundary between characters at byte `n`, or else the last one before it, looked for from
there downwards. None would mean that byte 0 was passed. -/
def lastBoundary? (s : String) : Nat → Option s.Pos
  | 0 => s.pos? ⟨0⟩
  | n + 1 =>
      match s.pos? ⟨n + 1⟩ with
      | some p => some p
      | none => lastBoundary? s n

def truncate (s : String) (n : Nat) : String :=
  if s.utf8ByteSize ≤ n then s
  else (s.sliceTo ((lastBoundary? s n).getD s.startPos)).copy

def dropSlash : List Char → List Char
  | '/' :: cs => cs
  | cs => cs

def normalize (name : String) : Except NameError String :=
  let cs := name.toList
  if cs.contains '\x00' then .error .containsNul
  else
    let body := dropSlash cs
    if body.isEmpty then .error .empty
    else .ok (truncate (String.ofList ('/' :: body)) maxSize)

end Name

end SharedRing
