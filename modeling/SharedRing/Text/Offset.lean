/-!
Places in text, counted in bytes of UTF-8. Text is cut where a character ends; a place inside of a
character gives no part.
-/

namespace SharedRing.Text

-- the empty sum is the zero of the core library, whatever else is imported
attribute [local instance (2000)] Zero.ofOfNat0

def utf8Size (cs : List Char) : Nat := (cs.map Char.utf8Size).sum

/-- Each character with its place when the first one is at `n`. -/
def withOffsets (n : Nat) : List Char → List (Nat × Char)
  | [] => []
  | c :: cs => (n, c) :: withOffsets (n + c.utf8Size) cs

def dropBytes? : Nat → List Char → Option (List Char)
  | 0, cs => some cs
  | _ + 1, [] => none
  | n + 1, c :: cs => if c.utf8Size ≤ n + 1 then dropBytes? (n + 1 - c.utf8Size) cs else none

def takeBytes? : Nat → List Char → Option (List Char)
  | 0, _ => some []
  | _ + 1, [] => none
  | n + 1, c :: cs =>
      if c.utf8Size ≤ n + 1 then (takeBytes? (n + 1 - c.utf8Size) cs).map (c :: ·) else none

def slice? (start stop : Nat) (cs : List Char) : Option (List Char) :=
  (dropBytes? start cs).bind (takeBytes? (stop - start))

end SharedRing.Text
