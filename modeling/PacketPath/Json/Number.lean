set_option autoImplicit false

/-! # JSON numbers

A number without fraction and exponent that fits in 64 bits is an integer: up to 2^64 − 1, and
down to −2^63. Everything else is a double: the leading digits that fit in 64 bits, scaled by a
power of ten. Negative zero is a double too. A number whose scaled value is not finite is refused.
-/

namespace PacketPath.Json

/-- What a JSON number stands for. -/
inductive Number
  | integer (n : Int)
  | float (x : Float)

/-- The value of a decimal digit. -/
def digit? (c : Char) : Option Nat :=
  if '0' ≤ c ∧ c ≤ '9' then some (c.toNat - 48) else none

def isDigit (c : Char) : Bool := (digit? c).isSome

def startsWithDigit : List Char → Bool
  | c :: _ => isDigit c
  | [] => false

def maxSignificand : Nat := 18446744073709551615

/-- Appends digits to a number as long as it stays below 2^64; gives the number, how many digits
were taken, and the rest. -/
def takeDigits (n taken : Nat) : List Char → Nat × Nat × List Char
  | [] => (n, taken, [])
  | c :: rest =>
    match digit? c with
    | some d =>
      if n * 10 + d ≤ maxSignificand then takeDigits (n * 10 + d) (taken + 1) rest
      else (n, taken, c :: rest)
    | none => (n, taken, c :: rest)

/-- A double times a power of ten, if that is finite. Powers beyond the range of a double are
applied in steps. -/
def scale? (x : Float) (power : Int) : Option Float :=
  if power < -308 then
    if x == 0 then some x else scale? (x / Float.ofScientific 1 false 308) (power + 308)
  else if power < 0 then some (x / Float.ofScientific 1 false power.natAbs)
  else if power ≤ 308 then
    let y := x * Float.ofScientific 1 false power.toNat
    if y.isInf then none else some y
  else if x == 0 then some x
  else none
termination_by (-power).toNat

/-- The double with a sign, a significand and a power of ten. -/
def float? (negative : Bool) (significand : Nat) (power : Int) : Option Number :=
  (scale? significand.toUInt64.toFloat power).map fun x => .float (if negative then -x else x)

/-- The value of the exponent part of a number, the letter having been read. -/
def exponent? (cs : List Char) : Option (Int × List Char) :=
  let (negative, cs) := match cs with
    | '+' :: rest => (false, rest)
    | '-' :: rest => (true, rest)
    | cs => (false, cs)
  if startsWithDigit cs then
    let n := (cs.takeWhile isDigit).foldl (fun n c => n * 10 + (digit? c).getD 0) 0
    some (if negative then -(n : Int) else n, cs.dropWhile isDigit)
  else none

/-- The end of a number that is a double: an exponent may follow. -/
def finish? (negative : Bool) (significand : Nat) (power : Int) :
    List Char → Option (Number × List Char)
  | [] => (float? negative significand power).map (·, [])
  | c :: rest =>
    if c = 'e' ∨ c = 'E' then
      (exponent? rest).bind fun (e, rest) =>
        (float? negative significand (power + e)).map (·, rest)
    else (float? negative significand power).map (·, c :: rest)

/-- The fraction of a number, the point having been read. Digits that no longer fit are read and
dropped, but there must be a digit. -/
def fraction? (negative : Bool) (significand : Nat) (power : Int) (cs : List Char) :
    Option (Number × List Char) :=
  if startsWithDigit cs then
    let (n, taken, rest) := takeDigits significand 0 cs
    finish? negative n (power - taken) (rest.dropWhile isDigit)
  else none

/-- The magnitude of the least 64-bit integer. -/
def maxNegative : Nat := 9223372036854775808

/-- The number with a sign and no fraction or exponent. -/
def whole (negative : Bool) (n : Nat) : Number :=
  if negative then
    if n = 0 ∨ maxNegative < n then .float (-n.toUInt64.toFloat) else .integer (-n)
  else .integer n

/-- What follows the digits of an integer that fits in 64 bits. -/
def afterInteger? (negative : Bool) (n : Nat) : List Char → Option (Number × List Char)
  | [] => some (whole negative n, [])
  | c :: rest =>
    if c = '.' then fraction? negative n 0 rest
    else if c = 'e' ∨ c = 'E' then finish? negative n 0 (c :: rest)
    else some (whole negative n, c :: rest)

/-- What follows the digits of an integer that does not fit; `dropped` digits were left out. -/
def afterLongInteger? (negative : Bool) (n dropped : Nat) :
    List Char → Option (Number × List Char)
  | [] => finish? negative n dropped []
  | c :: rest =>
    if c = '.' then fraction? negative n dropped rest else finish? negative n dropped (c :: rest)

/-- Reads a number from its first digit on. A zero is not followed by a digit. -/
def readNumber? (negative : Bool) (cs : List Char) : Option (Number × List Char) :=
  match cs with
  | [] => none
  | c :: rest =>
    if c = '0' then if startsWithDigit rest then none else afterInteger? negative 0 rest
    else if isDigit c then
      let (n, _, rest) := takeDigits 0 0 cs
      if startsWithDigit rest then
        afterLongInteger? negative n (rest.takeWhile isDigit).length (rest.dropWhile isDigit)
      else afterInteger? negative n rest
    else none

/-! ## Skipping -/

/-- Skips digits, of which there must be one. -/
def skipDigits? (cs : List Char) : Option (List Char) :=
  if startsWithDigit cs then some (cs.dropWhile isDigit) else none

def skipExponent? : List Char → Option (List Char)
  | [] => some []
  | c :: rest =>
    if c = 'e' ∨ c = 'E' then
      match rest with
      | '+' :: rest => skipDigits? rest
      | '-' :: rest => skipDigits? rest
      | rest => skipDigits? rest
    else some (c :: rest)

def skipFraction? : List Char → Option (List Char)
  | '.' :: rest => (skipDigits? rest).bind skipExponent?
  | cs => skipExponent? cs

/-- Skips a number from its first digit on, whatever its size. -/
def skipNumber? : List Char → Option (List Char)
  | '0' :: rest => if startsWithDigit rest then none else skipFraction? rest
  | cs => (skipDigits? cs).bind skipFraction?

end PacketPath.Json
