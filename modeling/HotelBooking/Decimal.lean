/-!
# Decimal numbers

A decimal is exact. `inDoublePrecision?` gives up what does not fit into double precision: it computes
the number from its parts in that precision and returns the shortest decimal that rounds to the result.
-/

namespace HotelBooking

/-- The number `significand * 10 ^ exponent`, negated if `negative`; zero keeps its sign. -/
structure Decimal where
  negative : Bool
  significand : Nat
  exponent : Int
  deriving Repr, DecidableEq

/-- The positive numbers that round to one floating-point number `value`, all in units of `2 ^ unit`. -/
structure RoundingInterval where
  low : Nat
  value : Nat
  high : Nat
  unit : Int
  /-- The ends belong to the interval. -/
  closed : Bool
  deriving Repr, DecidableEq

namespace RoundingInterval

/-- The least significand with all of its 53 bits. -/
def fullSignificand : Nat := 4503599627370496

/-- The interval of a positive number: from halfway to the number below, which is half as far away at a
power of two, to halfway to the number above. The ends round to the even one of two numbers. -/
def ofFloat (x : Float) : RoundingInterval :=
  let field := x.toBits.toNat / fullSignificand
  let fraction := x.toBits.toNat % fullSignificand
  let significand := if field = 0 then fraction else fullSignificand + fraction
  { low := 4 * significand - if fraction = 0 ∧ 1 < field then 1 else 2
    value := 4 * significand
    high := 4 * significand + 2
    unit := if field = 0 then -1076 else field - 1077
    closed := significand % 2 = 0 }

/-- The multiple of `10 ^ exponent` in the interval that is nearest to its value. -/
def multiple? (i : RoundingInterval) (exponent : Int) : Option Nat :=
  let step := Nat.pow 10 exponent.toNat <<< (-i.unit).toNat
  let scale (n : Nat) : Nat := (n * Nat.pow 10 (-exponent).toNat) <<< i.unit.toNat
  let below := scale i.value / step
  let above := below + 1
  let lowGap := scale i.value - below * step
  let highGap := above * step - scale i.value
  let nearestFirst :=
    if lowGap < highGap ∨ lowGap = highGap ∧ below % 2 = 0 then [below, above] else [above, below]
  nearestFirst.find? fun n =>
    if i.closed then scale i.low ≤ n * step ∧ n * step ≤ scale i.high
    else scale i.low < n * step ∧ n * step < scale i.high

end RoundingInterval

namespace Decimal

/-- The exponents of the shortest decimals, from the largest on. -/
def exponents : List Int := (List.range 633).map fun n : Nat => 308 - n

/-- The shortest decimal that rounds to a positive number. -/
def shortest? (x : Float) : Option Decimal :=
  let interval := RoundingInterval.ofFloat x
  exponents.findSome? fun e => (interval.multiple? e).map fun n => ⟨false, n, e⟩

/-- The power `10 ^ n`, for `n` up to 308. -/
def powerOfTen (n : Int) : Float := Float.ofScientific 1 false n.toNat

/-- The absolute value, for a significand of up to 64 bits: the significand times or divided by a power
of ten, where a power too large to divide by at once is split. -/
def magnitude (d : Decimal) : Float :=
  let significand := d.significand.toUInt64.toFloat
  if 0 ≤ d.exponent then significand * powerOfTen d.exponent
  else if -308 ≤ d.exponent then significand / powerOfTen (-d.exponent)
  else significand / powerOfTen 308 / powerOfTen (-d.exponent - 308)

/-- The number in double precision, unless it is too large. -/
def inDoublePrecision? (d : Decimal) : Option Decimal :=
  let zero : Decimal := ⟨d.negative, 0, 0⟩
  if d.significand = 0 ∨ d.exponent < -616 then some zero
  else if 308 < d.exponent ∨ d.magnitude.isInf then none
  else if d.magnitude == 0 then some zero
  else (shortest? d.magnitude).map fun s => { s with negative := d.negative }

end Decimal
end HotelBooking
