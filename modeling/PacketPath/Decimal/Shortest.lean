set_option autoImplicit false

/-! # Shortest decimals of binary numbers

A finite binary number `m · 2^q` is the nearest such number to every real in an interval around
it. The shortest decimal is the one with the fewest digits in that interval, and of those with as
few digits the one nearest to the number. If a decimal grid has a point in the interval, then one
of the two grid neighbours of the number is in it, so only these are tried, for one digit, two
digits, and so on. All comparisons are between natural numbers.
-/

namespace PacketPath.Decimal

/-- A positive binary number with the interval that rounds to it: its quarter units below, at and
above, all times `2^exponent`. -/
structure Interval where
  low : Nat
  centre : Nat
  high : Nat
  exponent : Int
  /-- Whether the ends of the interval round to the number too. -/
  closed : Bool

/-- The digits of a decimal and the power of ten of the last one. -/
structure Digits where
  digits : Nat
  exponent : Int
deriving DecidableEq, Inhabited

namespace Interval

/-- The interval of a positive double with the given bits, its sign being ignored. The number
below a power of two is only half as far away as the one above. -/
def ofBits (bits : Nat) : Interval :=
  let field : Nat := bits >>> 52 % 2048
  let fraction : Nat := bits % (1 <<< 52)
  let m := if field = 0 then fraction else fraction + 1 <<< 52
  let q : Int := if field = 0 then -1074 else field - 1075
  ⟨if fraction = 0 ∧ 1 < field then 4 * m - 1 else 4 * m - 2, 4 * m, 4 * m + 2, q - 2,
    m % 2 = 0⟩

/-- A point `d · 10^k` and a bound `x · 2^q` of the interval on a common integer scale. -/
def onScale (i : Interval) (k : Int) (x : Nat) : Nat :=
  x * Nat.pow 2 i.exponent.toNat * Nat.pow 10 (-k).toNat

def pointOnScale (i : Interval) (k : Int) (d : Nat) : Nat :=
  d * Nat.pow 10 k.toNat * Nat.pow 2 (-i.exponent).toNat

/-- Whether `d · 10^k` lies in the interval. -/
def contains (i : Interval) (k : Int) (d : Nat) : Bool :=
  let p := i.pointOnScale k d
  let low := i.onScale k i.low
  let high := i.onScale k i.high
  if i.closed then decide (low ≤ p ∧ p ≤ high) else decide (low < p ∧ p < high)

/-- The number of digits before the point: the least `k` with the number below `10^k`. The binary
logarithm gives it up to a few places. -/
def magnitude (i : Interval) : Int :=
  let estimate := ((i.centre.log2 : Int) + i.exponent) * 30103 / 100000
  let below (k : Int) : Bool := i.onScale k i.centre < i.pointOnScale k 1
  if below (estimate - 1) then estimate - 1
  else if below estimate then estimate
  else if below (estimate + 1) then estimate + 1
  else estimate + 2

/-- The neighbours of the number on the grid of multiples of `10^k` that lie in the interval, the
nearer one if there are two, the even one if both are as near. -/
def onGrid? (i : Interval) (k : Int) : Option Nat :=
  let value := i.onScale k i.centre
  let unit := i.pointOnScale k 1
  let d := value / unit
  let rest := value % unit
  match i.contains k d, i.contains k (d + 1) with
  | true, true => some (if 2 * rest < unit ∨ (2 * rest = unit ∧ d % 2 = 0) then d else d + 1)
  | true, false => some d
  | false, true => some (d + 1)
  | false, false => none

/-- The shortest decimal in the interval; seventeen digits always suffice. The coarsest grid
tried is that of the next power of ten above the number. -/
def shortest (i : Interval) : Digits :=
  let top := i.magnitude
  let found := (List.range 18).findSome? fun (n : Nat) =>
    let k : Int := top - n
    (i.onGrid? k).map (Digits.mk · k)
  found.getD ⟨0, 0⟩

end Interval

/-! ## Written form -/

/-- How a decimal is written. -/
structure Format where
  /-- The most digits before the point in positional notation. -/
  positionalDigits : Int
  /-- The most zeros between the point and the first digit in positional notation. -/
  leadingZeros : Int
  /-- Whether a positive exponent has a sign. -/
  plus : Bool

/-- The digits with a point after the first `point` of them, at least one digit on either
side. -/
def positional (digits : List Char) (point : Int) : String :=
  if point ≤ 0 then "0." ++ String.ofList (List.replicate (-point).toNat '0' ++ digits)
  else if digits.length ≤ point then
    String.ofList (digits ++ List.replicate (point.toNat - digits.length) '0') ++ ".0"
  else
    String.ofList (digits.take point.toNat) ++ "." ++ String.ofList (digits.drop point.toNat)

/-- The digits with a point after the first one, if there are more, and a power of ten. -/
def scientific (format : Format) (digits : List Char) (power : Int) : String :=
  let mantissa := match digits with
    | [] => ""
    | [d] => String.ofList [d]
    | d :: rest => String.ofList (d :: '.' :: rest)
  let sign := if power < 0 then "-" else if format.plus then "+" else ""
  mantissa ++ "e" ++ sign ++ power.natAbs.repr

def Digits.write (format : Format) (d : Digits) : String :=
  let digits := d.digits.repr.toList
  let point := digits.length + d.exponent
  if -format.leadingZeros ≤ point ∧ point ≤ format.positionalDigits then positional digits point
  else scientific format digits (point - 1)

/-- A finite double in its shortest form. -/
def writeFloat (format : Format) (x : Float) : String :=
  let bits := x.toBits.toNat
  let signBit : Nat := 1 <<< 63
  let sign := if bits < signBit then "" else "-"
  if bits % signBit = 0 then sign ++ "0.0"
  else sign ++ (Interval.ofBits bits).shortest.write format

end PacketPath.Decimal
