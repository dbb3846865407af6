import Cel.Number.Double

/-! # Doubles as decimal text

A finite double is written with the fewest significant digits that still round to it. For a given
number of digits only the two neighbours of the double on that decimal grid can do so; the first
grid on which one of them does is taken, and of two that do the nearer. What remains is layout:
which magnitudes are written positionally, whether whole numbers keep a fractional part, and which
neighbour wins an exact tie.
-/

namespace Cel

/-- A positive decimal number `0.d₁d₂d₃… · 10 ^ point`, with a nonzero first digit. -/
structure Decimal where
  digits : List Char
  point : Int
deriving DecidableEq, Repr

namespace Decimal

/-- The interval of numbers that round to a double, in quarters of its last place. The ends belong
to it exactly when the significand is even. Below a power of two the gap is half as wide. -/
structure Interval where
  low : Nat
  middle : Nat
  high : Nat
  closed : Bool
deriving DecidableEq, Repr

def interval (significand : Nat) (exponent : Int) : Interval where
  low := if significand = 1 <<< 52 ∧ -1074 < exponent then 4 * significand - 1 else 4 * significand - 2
  middle := 4 * significand
  high := 4 * significand + 2
  closed := significand % 2 == 0

/-- `quarters · 2 ^ exponent / 4` in units of `10 ^ place`, as a numerator and a denominator. -/
def onGrid (quarters : Nat) (exponent place : Int) : Nat × Nat :=
  ((quarters <<< exponent.toNat) * Nat.pow 10 (-place).toNat,
    (4 <<< (-exponent).toNat) * Nat.pow 10 place.toNat)

/-- Whether the grid point `n` rounds to the double. -/
def admits (i : Interval) (exponent place : Int) (n : Nat) : Bool :=
  let (low, unit) := onGrid i.low exponent place
  let (high, _) := onGrid i.high exponent place
  if i.closed then decide (low ≤ n * unit ∧ n * unit ≤ high)
  else decide (low < n * unit ∧ n * unit < high)

/-- The grid point nearest to the double among those next to it that round to it. -/
def onPlace? (tiesUp : Bool) (i : Interval) (exponent place : Int) : Option Nat :=
  let (middle, unit) := onGrid i.middle exponent place
  let below := middle / unit
  let twice := 2 * (middle % unit)
  match admits i exponent place below, admits i exponent place (below + 1) with
  | false, false => none
  | true, false => some below
  | false, true => some (below + 1)
  | true, true =>
    some (if unit < twice ∨ (unit = twice ∧ (tiesUp ∨ below % 2 = 1)) then below + 1 else below)

/-- The number of decimal digits before the point; zero or less when the first digit comes after
it. No double has its first digit beyond the 324th place. -/
def pointOf (significand : Nat) (exponent : Int) : Int :=
  let scaled := ((significand <<< exponent.toNat) * Nat.pow 10 324) >>> (-exponent).toNat
  (Nat.toDigits 10 scaled).length - 324

/-- The first of `count` grids, from the coarsest given by `place` on, that holds a grid point
which rounds to the double. -/
def search (tiesUp : Bool) (i : Interval) (exponent : Int) : (count : Nat) → (place : Int) → Nat × Int
  | 0, place => (0, place)
  | count + 1, place =>
    match onPlace? tiesUp i exponent place with
    | some n => (n, place)
    | none => search tiesUp i exponent count (place - 1)

/-- The fewest digits that round to `significand · 2 ^ exponent`; seventeen always suffice. -/
def shortest (tiesUp : Bool) (significand : Nat) (exponent : Int) : Decimal :=
  let (n, place) :=
    search tiesUp (interval significand exponent) exponent 17 (pointOf significand exponent - 1)
  let digits := Nat.toDigits 10 n
  ⟨(digits.reverse.dropWhile (· == '0')).reverse, digits.length + place⟩

end Decimal

/-! ### Layout -/

/-- How decimal numbers are laid out. -/
structure Layout where
  /-- Whether a number whose first digit has this decimal exponent is written positionally. -/
  positional : Int → Bool
  /-- Whether a whole number is written with `.0`. -/
  keepPoint : Bool
  /-- Whether a positive exponent has a sign. -/
  plus : Bool
  /-- Whether an exact tie between two shortest numbers goes to the larger. -/
  tiesUp : Bool

namespace Layout

/-- Digits with the decimal point in place. -/
def place (layout : Layout) (d : Decimal) : List Char :=
  let count := d.digits.length
  if d.point ≤ 0 then '0' :: '.' :: (List.replicate (-d.point).toNat '0' ++ d.digits)
  else if count ≤ d.point.toNat then
    d.digits ++ List.replicate (d.point.toNat - count) '0' ++
      (if layout.keepPoint then ['.', '0'] else [])
  else d.digits.take d.point.toNat ++ '.' :: d.digits.drop d.point.toNat

/-- Digits with an exponent. -/
def scientific (layout : Layout) (d : Decimal) : List Char :=
  let exponent := d.point - 1
  let sign := if exponent < 0 then ['-'] else if layout.plus then ['+'] else []
  let fraction := if d.digits.length ≤ 1 then [] else '.' :: d.digits.drop 1
  d.digits.take 1 ++ fraction ++ 'e' :: (sign ++ Nat.toDigits 10 exponent.natAbs)

/-- A finite double in the given layout. -/
def finite (layout : Layout) (negative : Bool) (significand : Nat) (exponent : Int) : String :=
  let d := if significand = 0 then ⟨['0'], 1⟩ else Decimal.shortest layout.tiesUp significand exponent
  let text := if layout.positional (d.point - 1) then layout.place d else layout.scientific d
  String.ofList (if negative then '-' :: text else text)

/-- Positional notation for every magnitude, without a superfluous point. -/
def plain : Layout := ⟨fun _ => true, false, false, true⟩

/-- Positional notation from `0.0001` up to sixteen whole digits, always with a point. -/
def source : Layout := ⟨fun e => -4 ≤ e && e ≤ 15, true, false, true⟩

/-- Positional notation from `0.00001` up to sixteen whole digits, always with a point. -/
def json : Layout := ⟨fun e => -5 ≤ e && e ≤ 15, true, true, false⟩

end Layout

namespace Double

/-- A double in positional notation, without a superfluous point. -/
def plainText (d : Double) : String :=
  match d.form with
  | .nan => "NaN"
  | .infinite negative => if negative then "-inf" else "inf"
  | .finite negative significand exponent => Layout.plain.finite negative significand exponent

/-- A double with a point or an exponent. -/
def sourceText (d : Double) : String :=
  match d.form with
  | .nan => "NaN"
  | .infinite negative => if negative then "-infinity" else "+infinity"
  | .finite negative significand exponent => Layout.source.finite negative significand exponent

end Double

end Cel
