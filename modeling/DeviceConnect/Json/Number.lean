import DeviceConnect.Decimal.Shortest
import DeviceConnect.Json.Basic

/-! Doubles in JSON: how digits become one, and how one is written. -/
namespace DeviceConnect.Json

def maxPower : Nat := 308

def powerOfTen (n : Nat) : Float := Float.ofScientific 1 false n

/-- The double of `significand · 10^exponent`, rounded once for the significand and once for each
scaling step; `none` past the greatest double. Two steps take every significand to zero. -/
def scaled? (significand : Nat) (exponent : Int) : Option Float :=
  go 4 (UInt64.ofNat significand).toFloat exponent
where
  go : Nat → Float → Int → Option Float
    | 0, f, _ => some f
    | fuel + 1, f, exponent =>
      if exponent.natAbs ≤ maxPower then
        if 0 ≤ exponent then
          let product := f * powerOfTen exponent.natAbs
          if product.isInf then none else some product
        else some (f / powerOfTen exponent.natAbs)
      else if f == 0.0 then some f
      else if 0 ≤ exponent then none
      else go fuel (f / powerOfTen maxPower) (exponent + maxPower)

def ofFloat (negative : Bool) (f : Float) : Json := double (if negative then -f else f).toBits

/-- How a double is written: without an exponent from `10^-5` up to `10^16`, always with a point
or an exponent, the exponent with its sign. -/
structure DoubleFormat where
  lowestPoint : Int
  highestPoint : Int

def doubleFormat : DoubleFormat := ⟨-4, 16⟩

def DoubleFormat.render (format : DoubleFormat) (size : Decimal.Scaled) : List Char :=
  let digits := Nat.toDigits 10 size.digits
  let point : Int := digits.length + size.exponent
  let zeros (n : Int) : List Char := List.replicate n.toNat '0'
  if 0 ≤ size.exponent ∧ point ≤ format.highestPoint then digits ++ zeros size.exponent ++ ['.', '0']
  else if 0 < point ∧ point ≤ format.highestPoint then
    digits.take point.toNat ++ '.' :: digits.drop point.toNat
  else if format.lowestPoint ≤ point ∧ point ≤ 0 then '0' :: '.' :: zeros (-point) ++ digits
  else
    let mantissa := match digits with
      | [] | [_] => digits
      | first :: rest => first :: '.' :: rest
    let power := point - 1
    mantissa ++ 'e' :: (if power < 0 then '-' else '+') :: Nat.toDigits 10 power.natAbs

def doubleText (bits : UInt64) : List Char :=
  let size := bits.toNat % Nat.pow 2 63
  let sign := if size = bits.toNat then [] else ['-']
  sign ++ if size = 0 then ['0', '.', '0'] else doubleFormat.render (Decimal.ofBits bits)

def intText (n : Int) : List Char :=
  if n < 0 then '-' :: Nat.toDigits 10 n.natAbs else Nat.toDigits 10 n.natAbs

end DeviceConnect.Json
