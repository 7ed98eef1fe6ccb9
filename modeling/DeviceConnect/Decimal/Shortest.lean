/-! The shortest decimal that reads back as a given binary number: of all decimals that round to
`m · 2^q` those with the fewest digits, and of these the nearest. -/
namespace DeviceConnect.Decimal

structure Scaled where
  digits : Nat
  exponent : Int
  deriving DecidableEq

/-- The reals that round to a number, as bounds around it in units of `1 / den`. -/
structure Interval where
  low : Nat
  value : Nat
  high : Nat
  den : Nat
  closed : Bool

/-- The interval of `m · 2^q`. `narrow` says that the next number below is half a step away. -/
def Interval.of (m : Nat) (q : Int) (narrow : Bool) : Interval :=
  let up := Nat.pow 2 (q - 2).toNat
  { low := (4 * m - (if narrow then 1 else 2)) * up
    value := 4 * m * up
    high := (4 * m + 2) * up
    den := Nat.pow 2 (2 - q).toNat
    closed := m % 2 = 0 }

def Interval.contains (i : Interval) (d : Nat) (e : Int) : Bool :=
  let x := d * Nat.pow 10 e.toNat * i.den
  let scale := Nat.pow 10 (-e).toNat
  if i.closed then i.low * scale ≤ x && x ≤ i.high * scale
  else i.low * scale < x && x < i.high * scale

def digitCount (n : Nat) : Nat := if n < 10 then 1 else digitCount (n / 10) + 1

/-- How many digits stand before the point; at most zero for a number below one. -/
def Interval.magnitude (i : Interval) : Int :=
  let shift := digitCount i.den
  (digitCount (i.value * Nat.pow 10 shift / i.den) : Int) - shift

/-- The nearest point of the grid `10^e` in the interval, of the two beside the value; of two
equally near ones the even one. -/
def Interval.nearest? (i : Interval) (e : Int) : Option Nat :=
  let num := i.value * Nat.pow 10 (-e).toNat
  let den := i.den * Nat.pow 10 e.toNat
  let below := num / den
  let fromBelow := num - below * den
  match i.contains below e && below ≠ 0, i.contains (below + 1) e with
  | true, true =>
    some (if 2 * fromBelow < den || (2 * fromBelow = den && below % 2 = 0) then below else below + 1)
  | true, false => some below
  | false, true => some (below + 1)
  | false, false => none

def stripZeros : Nat → Nat → Int → Scaled
  | 0, d, e => ⟨d, e⟩
  | fuel + 1, d, e => if d % 10 = 0 then stripZeros fuel (d / 10) (e + 1) else ⟨d, e⟩

/-- Tries one digit, then two, and so on; seventeen always suffice for a double. -/
def Interval.shortest (i : Interval) : Scaled :=
  let tries := (List.range 17).filterMap fun n =>
    let e : Int := i.magnitude - (n + 1 : Nat)
    (i.nearest? e).map (·, e)
  match tries with
  | (d, e) :: _ => stripZeros (digitCount d) d e
  | [] => ⟨0, 0⟩

def ofBits (bits : UInt64) : Scaled :=
  let fraction : Nat := bits.toNat % Nat.pow 2 52
  let field : Nat := bits.toNat / Nat.pow 2 52 % Nat.pow 2 11
  let interval :=
    if field = 0 then Interval.of fraction (-1074) false
    else Interval.of (fraction + Nat.pow 2 52) ((field : Int) - 1075) (fraction = 0 && field ≠ 1)
  interval.shortest

end DeviceConnect.Decimal
