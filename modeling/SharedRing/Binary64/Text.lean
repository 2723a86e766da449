import SharedRing.Binary64.Basic
import SharedRing.Text.Digits

/-!
Floating-point numbers as text. `toShortest` writes the fewest digits that read back, of two such
numbers the nearer, in positional form at any size; `toOneDecimal` writes the exact value rounded
to one place.
-/

namespace SharedRing.Binary64

-- powers are those of the core library, whatever else is imported
attribute [local instance (2000)] instPowNat

/-! ### The fewest digits that read back -/

/-- Twice the distances, in units, from a number to the ends of the interval that rounds to it.
Below a power of two the numbers lie twice as close. -/
def halfGaps (mantissa scale : Nat) : Nat × Nat :=
  let above := 2 ^ scale
  if mantissa = hiddenBit && 0 < scale then (above / 2, above) else (above, above)

/-- Whether the decimal `digits * grid / unitsPerOne`, with the grid given as a quotient, rounds to
the number. The ends of the interval count when the mantissa is even. -/
def readsBack (mantissa scale digits gridNum gridDen : Nat) : Bool :=
  let value := 2 * units mantissa scale * gridDen
  let decimal := 2 * (digits * gridNum)
  let (below, above) := halfGaps mantissa scale
  if mantissa % 2 = 0 then value ≤ decimal + below * gridDen && decimal ≤ value + above * gridDen
  else value < decimal + below * gridDen && decimal < value + above * gridDen

/-- Decimal exponents are kept as naturals, this much above the power of ten that they mean. -/
def bias : Nat := 400

/-- The spacing of the decimals with an exponent, in units, as a quotient. -/
def grid (exponent : Nat) : Nat × Nat :=
  if bias ≤ exponent then (unitsPerOne * 10 ^ (exponent - bias), 1)
  else (unitsPerOne, 10 ^ (bias - exponent))

/-- The digits on one grid that round to the number, if there are any. The value lies between two
points of the grid; the nearer is preferred, and the upper one when they are equally near. -/
def digitsOn? (mantissa scale exponent : Nat) : Option Nat :=
  let (gridNum, gridDen) := grid exponent
  let value := units mantissa scale * gridDen
  let lower := value / gridNum
  let lowerOk := readsBack mantissa scale lower gridNum gridDen
  let upperOk := readsBack mantissa scale (lower + 1) gridNum gridDen
  if lowerOk && upperOk then
    if 2 * (value % gridNum) < gridNum then some lower else some (lower + 1)
  else if lowerOk then some lower
  else if upperOk then some (lower + 1)
  else none

/-- Tries the grids from `exponent` down, `fuel` of them; the exact value stands in should none
have a hit. -/
def searchDigits (mantissa scale : Nat) : Nat → Nat → Nat × Nat
  | _, 0 => (units mantissa scale * 10 ^ bias / unitsPerOne, 0)
  | exponent, fuel + 1 =>
      match digitsOn? mantissa scale exponent with
      | some digits => (digits, exponent)
      | none => searchDigits mantissa scale (exponent - 1) fuel

/-- Digits and exponent of the shortest decimal of a number other than zero. The search starts
above the number, whose logarithm is estimated from its bits (a unit is about `10 ^ -323`), and
seventeen digits are always enough. -/
def shortest (mantissa scale : Nat) : Nat × Nat :=
  let bits := (units mantissa scale).log2 + 1
  searchDigits mantissa scale (bias + bits * 30103 / 100000 - 322) 24

/-! ### Positional form -/

def positional (digits exponent : Nat) : List Char :=
  if bias ≤ exponent then Text.digits digits ++ List.replicate (exponent - bias) '0'
  else
    let places := bias - exponent
    let text := Text.digits digits
    let text := List.replicate (places + 1 - text.length) '0' ++ text
    let whole := text.length - places
    text.take whole ++ '.' :: text.drop whole

def stripZeros : Nat → Nat → Nat → Nat × Nat
  | digits, exponent, 0 => (digits, exponent)
  | digits, exponent, fuel + 1 =>
      if digits % 10 = 0 && digits != 0 then stripZeros (digits / 10) (exponent + 1) fuel
      else (digits, exponent)

def signText (negative : Bool) : List Char := if negative then ['-'] else []

def toShortest : Binary64 → String
  | nan => "NaN"
  | infinite negative => String.ofList (signText negative ++ ['i', 'n', 'f'])
  | finite negative mantissa scale =>
      if mantissa = 0 then String.ofList (signText negative ++ ['0'])
      else
        let (digits, exponent) := shortest mantissa scale
        let (digits, exponent) := stripZeros digits exponent 20
        String.ofList (signText negative ++ positional digits exponent)

def toOneDecimal : Binary64 → String
  | nan => "NaN"
  | infinite negative => String.ofList (signText negative ++ ['i', 'n', 'f'])
  | finite negative mantissa scale =>
      let tenths := roundHalfEven (units mantissa scale * 10) unitsPerOne
      String.ofList
        (signText negative ++ Text.digits (tenths / 10) ++ '.' :: Text.digits (tenths % 10))

end SharedRing.Binary64
