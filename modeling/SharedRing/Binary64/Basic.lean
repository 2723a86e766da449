import SharedRing.Rounding

/-!
Numbers of the 64-bit binary floating-point format, taken apart. A finite number is
`mantissa * 2 ^ scale` in units of `2 ^ -1074`, the smallest positive number of the format. Every
operation goes through exact quotients of naturals, which `ofRatio` rounds once.
-/

namespace SharedRing

-- powers are those of the core library, whatever else is imported
attribute [local instance (2000)] instPowNat

inductive Binary64 where
  | nan
  | infinite (negative : Bool)
  | finite (negative : Bool) (mantissa scale : Nat)
  deriving DecidableEq, Repr

namespace Binary64

/-- How many of the smallest positive number make one. -/
def unitsPerOne : Nat := 2 ^ (1074 : Nat)

/-- The mantissa of a number that is not subnormal has its highest bit here. -/
def hiddenBit : Nat := 2 ^ (52 : Nat)

def maxScale : Nat := 2045

def zero : Binary64 := finite false 0 0

def ofNat (n : Nat) : Binary64 := finite false n 1074

def ofBits (bits : Nat) : Binary64 :=
  let negative := decide (bits / 2 ^ (63 : Nat) % 2 = 1)
  let exponent := bits / hiddenBit % 2048
  let fraction := bits % hiddenBit
  if exponent = 2047 then if fraction = 0 then infinite negative else nan
  else if exponent = 0 then finite negative fraction 0
  else finite negative (fraction + hiddenBit) (exponent - 1)

def signBit (negative : Bool) : Nat := if negative then 2 ^ (63 : Nat) else 0

/-- The bit pattern; that of `nan` is the quiet one with no sign. -/
def toBits : Binary64 → Nat
  | nan => 2047 * hiddenBit + 2 ^ (51 : Nat)
  | infinite negative => signBit negative + 2047 * hiddenBit
  | finite negative mantissa scale => signBit negative + scale * hiddenBit + mantissa

/-- Beyond the largest finite number everything is infinite. -/
def ofParts (negative : Bool) (mantissa scale : Nat) : Binary64 :=
  if maxScale < scale then infinite negative else finite negative mantissa scale

/-- The number nearest to `num / den`, the one with the even mantissa of two. -/
def ofRatio (negative : Bool) (num den : Nat) : Binary64 :=
  let units := num * unitsPerOne
  let scale := (units / den).log2 - 52
  let mantissa := roundHalfEven units (den * 2 ^ scale)
  -- rounding up can carry into a further bit
  if mantissa = 2 * hiddenBit then ofParts negative hiddenBit (scale + 1)
  else ofParts negative mantissa scale

def units (mantissa scale : Nat) : Nat := mantissa * 2 ^ scale

def isFinite : Binary64 → Bool
  | finite _ _ _ => true
  | _ => false

def isPositive : Binary64 → Bool
  | nan => false
  | infinite negative => !negative
  | finite negative mantissa _ => !negative && mantissa != 0

def isNegative : Binary64 → Bool
  | nan => false
  | infinite negative => negative
  | finite negative mantissa _ => negative && mantissa != 0

def reciprocal : Binary64 → Binary64
  | nan => nan
  | infinite negative => finite negative 0 0
  | finite negative mantissa scale =>
      if mantissa = 0 then infinite negative
      else ofRatio negative unitsPerOne (units mantissa scale)

end Binary64

end SharedRing
