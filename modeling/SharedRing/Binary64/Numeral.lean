import SharedRing.Binary64.Basic
import SharedRing.Text.Digits

/-!
Reading floating-point numbers. A numeral has digits, perhaps with a point among them, and perhaps
an exponent; its exact value is rounded once.
-/

namespace SharedRing.Binary64

-- powers are those of the core library, whatever else is imported
attribute [local instance (2000)] instPowNat

def splitMantissa (cs : List Char) : List Char × List Char × List Char :=
  let whole := cs.takeWhile Char.isDigit
  match cs.dropWhile Char.isDigit with
  | '.' :: rest => (whole, rest.takeWhile Char.isDigit, rest.dropWhile Char.isDigit)
  | rest => (whole, [], rest)

/-- An exponent: nothing at all, or `e` or `E`, perhaps a sign, and digits. -/
def exponent? : List Char → Option Int
  | [] => some 0
  | e :: rest =>
      if e = 'e' || e = 'E' then
        let (negative, digits) := match rest with
          | '-' :: ds => (true, ds)
          | '+' :: ds => (false, ds)
          | ds => (false, ds)
        if digits.isEmpty || !digits.all Char.isDigit then none
        else if negative then some (-(Text.digitsValue digits : Int)) else some (Text.digitsValue digits)
      else none

/-- `digits * 10 ^ exponent`, rounded once. Outside of the range of the format the power itself
is not needed. -/
def ofScaled (negative : Bool) (digits : Nat) (exponent : Int) : Binary64 :=
  let size : Int := (Text.digits digits).length
  if digits = 0 then finite negative 0 0
  else if 400 < size + exponent then infinite negative
  else if size + exponent < -400 then finite negative 0 0
  else if 0 ≤ exponent then ofRatio negative (digits * 10 ^ exponent.toNat) 1
  else ofRatio negative digits (10 ^ (-exponent).toNat)

def numeral? (negative : Bool) (cs : List Char) : Option Binary64 :=
  let (whole, fraction, rest) := splitMantissa cs
  if whole.isEmpty && fraction.isEmpty then none
  else
    match exponent? rest with
    | none => none
    | some e => some (ofScaled negative (Text.digitsValue (whole ++ fraction)) (e - fraction.length))

/-- Reads a numeral, or a word for infinity or for no number in any case of letters; a sign may
stand in front. -/
def ofDecimal? (s : String) : Option Binary64 :=
  let (negative, cs) := match s.toList with
    | '-' :: cs => (true, cs)
    | '+' :: cs => (false, cs)
    | cs => (false, cs)
  let word := String.ofList (cs.map Char.toLower)
  if word = "inf" || word = "infinity" then some (infinite negative)
  else if word = "nan" then some nan
  else numeral? negative cs

end SharedRing.Binary64
