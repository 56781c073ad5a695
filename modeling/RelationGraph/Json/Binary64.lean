/-!
Finite double-precision numbers.

A number is kept as its bits, so it has a decidable identity, an exact value `significand * 2 ^
exponent` and a text of its own. `sameNumber` compares values: the two zeros are one number with two
bit patterns. The text has the fewest digits that read back to the same bits and always shows that
the number is no integer: it holds a point or an exponent.
-/

set_option autoImplicit false

namespace RelationGraph

/-- A finite double-precision number. -/
structure Binary64 where
  /-- Sign, biased exponent and fraction. -/
  bits : UInt64
deriving DecidableEq, Inhabited

namespace Binary64

/-- Whether the sign bit is set; it is for the negative zero too. -/
def isNegative (x : Binary64) : Bool := x.bits >>> 63 == 1

def isZero (x : Binary64) : Bool := x.bits <<< 1 == 0

def sameNumber (x y : Binary64) : Bool := x == y || (x.isZero && y.isZero)

def biasedExponent (x : Binary64) : Nat := ((x.bits >>> 52) &&& 0x7FF).toNat

def fraction (x : Binary64) : Nat := (x.bits &&& 0xFFFFFFFFFFFFF).toNat

/-- The absolute value is `significand * 2 ^ exponent`. -/
def significand (x : Binary64) : Nat :=
  if x.biasedExponent = 0 then x.fraction else 0x10000000000000 + x.fraction

def exponent (x : Binary64) : Int :=
  if x.biasedExponent = 0 then -1074 else (x.biasedExponent : Int) - 1075

/-- At a power of two the next smaller number is half as far away as the next larger one. -/
def narrowBelow (x : Binary64) : Bool := x.fraction == 0 && x.biasedExponent > 1

@[simp] theorem sameNumber_self (x : Binary64) : x.sameNumber x = true := by simp [sameNumber]

theorem sameNumber_comm (x y : Binary64) : x.sameNumber y = y.sameNumber x := by
  rw [sameNumber, sameNumber, BEq.comm, Bool.and_comm]

/-! ### Reading a decimal -/

def negate (x : Binary64) : Binary64 := ⟨x.bits ^^^ 0x8000000000000000⟩

/-- `10 ^ power` as a double; exact up to the twenty-second power and rounded beyond. -/
def powerOfTen (power : Nat) : Float := Float.ofScientific 1 false power

/-- Scales by a power of ten with one rounding, or with one per 308 places below that range. A value
too large for a double is refused. -/
def scale? : Nat → Float → Int → Option Float
  | 0, value, _ => some value
  | steps + 1, value, power =>
    if power.natAbs ≤ 308 then
      if 0 ≤ power then
        let scaled := value * powerOfTen power.natAbs
        if scaled.isInf then none else some scaled
      else some (value / powerOfTen power.natAbs)
    else if value == 0 then some value
    else if 0 ≤ power then none
    else scale? steps (value / powerOfTen 308) (power + 308)

/-- The number `significand * 10 ^ power`: the significand, a 64-bit number, is rounded to a double
and then scaled. Two scalings take every 64-bit number below the smallest double, so the third finds
zero. -/
def ofDecimal? (negative : Bool) (significand : Nat) (power : Int) : Option Binary64 :=
  (scale? 3 significand.toUInt64.toFloat power).map fun value =>
    if negative then (Binary64.mk value.toBits).negate else ⟨value.toBits⟩

def ofRatio (numerator denominator : Nat) : Binary64 :=
  ⟨(numerator.toUInt64.toFloat / denominator.toUInt64.toFloat).toBits⟩

/-! ### The fewest digits -/

/-- The decimal number `digits * 10 ^ power`. -/
structure Decimal where
  digits : Nat
  power : Int
deriving DecidableEq

def Decimal.compareTo (d : Decimal) (n : Nat) (j : Int) : Ordering :=
  compare (d.digits * Nat.pow 10 d.power.toNat * Nat.pow 2 (-j).toNat)
    (n * Nat.pow 2 j.toNat * Nat.pow 10 (-d.power).toNat)

/-- Whether a decimal lies among the reals that round to the absolute value of `x`: between the
middles towards its two neighbours, the middles included when the significand is even. -/
def readsBack (x : Binary64) (d : Decimal) : Bool :=
  let m := x.significand
  let low := d.compareTo (if x.narrowBelow then 4 * m - 1 else 4 * m - 2) (x.exponent - 2)
  let high := d.compareTo (4 * m + 2) (x.exponent - 2)
  let closed := m % 2 == 0
  (low == .gt || (closed && low == .eq)) && (high == .lt || (closed && high == .eq))

def quotient (x : Binary64) (power : Int) : Nat :=
  (x.significand * Nat.pow 2 x.exponent.toNat * Nat.pow 10 (-power).toNat)
    / (Nat.pow 2 (-x.exponent).toNat * Nat.pow 10 power.toNat)

/-- The number of digits of the whole part; negative numbers count the zeros that follow the point.
A positive double is above `10 ^ -324`, so 340 more places leave digits to count. -/
def magnitude (x : Binary64) : Int :=
  ((Nat.toDigits 10 (x.quotient (-340))).length : Int) - 340

/-- The decimal with the given number of digits that lies nearest among those reading back; at equal
distance the one with the even last digit. -/
def nearest? (x : Binary64) (count : Nat) : Option Decimal :=
  let power := x.magnitude - (count : Int)
  let below : Decimal := ⟨x.quotient power, power⟩
  let above : Decimal := ⟨below.digits + 1, power⟩
  match x.readsBack below, x.readsBack above with
  | true, true =>
    match (Decimal.mk (2 * below.digits + 1) power).compareTo (2 * x.significand) x.exponent with
    | .lt => some above
    | .gt => some below
    | .eq => some (if below.digits % 2 = 0 then below else above)
  | true, false => some below
  | false, true => some above
  | false, false => none

def Decimal.strip : Nat → Decimal → Decimal
  | 0, d => d
  | fuel + 1, d =>
    if d.digits ≠ 0 ∧ d.digits % 10 = 0 then strip fuel ⟨d.digits / 10, d.power + 1⟩ else d

/-- The decimal with the fewest digits that reads back; seventeen always suffice. -/
def shortest (x : Binary64) : Decimal :=
  match (List.range 17).findSome? fun before => x.nearest? (before + 1) with
  | some decimal => decimal.strip 17
  | none =>
    ⟨x.significand * Nat.pow 2 x.exponent.toNat * Nat.pow 5 (-x.exponent).toNat, min x.exponent 0⟩

/-! ### Writing -/

/-- Writes digits around the point. `lead` is the power of ten of the first digit: positional from
the fifth place behind the point up to sixteen whole digits, with a signed exponent otherwise. -/
def layout (digits : List Char) (lead : Int) : List Char :=
  if -5 ≤ lead ∧ lead < 16 then
    if lead < 0 then ['0', '.'] ++ List.replicate (-lead - 1).toNat '0' ++ digits
    else
      let whole := lead.toNat + 1
      if digits.length ≤ whole then
        digits ++ List.replicate (whole - digits.length) '0' ++ ['.', '0']
      else digits.take whole ++ '.' :: digits.drop whole
  else
    let point := if digits.length = 1 then [] else '.' :: digits.drop 1
    let sign := if lead < 0 then '-' else '+'
    digits.take 1 ++ point ++ 'e' :: sign :: Nat.toDigits 10 lead.natAbs

def chars (x : Binary64) : List Char :=
  let sign := if x.isNegative then ['-'] else []
  if x.isZero then sign ++ ['0', '.', '0']
  else
    let decimal := x.shortest
    let digits := Nat.toDigits 10 decimal.digits
    sign ++ layout digits (decimal.power + digits.length - 1)

end Binary64

end RelationGraph
