/-!
Naturals in decimal digits, written and read.
-/

namespace SharedRing.Text

/-- Without leading zeros; zero itself is one digit. -/
def digits (n : Nat) : List Char := Nat.toDigits 10 n

def digitValue (c : Char) : Nat := c.toNat - '0'.toNat

def digitsValue (cs : List Char) : Nat := cs.foldl (fun n c => 10 * n + digitValue c) 0

/-- A number of at most 64 bits: digits, perhaps with a plus sign in front. -/
def count? (s : String) : Option Nat :=
  let cs := match s.toList with
    | '+' :: cs => cs
    | cs => cs
  if cs.isEmpty || !cs.all Char.isDigit then none
  else
    let n := digitsValue cs
    if n < 18446744073709551616 then some n else none

end SharedRing.Text
