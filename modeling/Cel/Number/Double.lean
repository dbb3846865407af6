/-! # Double-precision numbers

A double is its 64 bits: a sign, eleven exponent bits and fifty-two fraction bits. Every finite
double denotes a dyadic rational, so arithmetic is carried out exactly on dyadic rationals and
rounded once, to the nearest double with ties to the even significand. Comparison needs no rounding
at all: it compares the exact values, extended by the two infinities.
-/

namespace Cel

/-- A double-precision number, given by its bits. -/
structure Double where
  bits : UInt64
deriving DecidableEq, Repr

namespace Double

/-- What the bits of a double say. A finite double denotes `significand · 2 ^ exponent`, up to its
sign. -/
inductive Form where
  | nan
  | infinite (negative : Bool)
  | finite (negative : Bool) (significand : Nat) (exponent : Int)
deriving DecidableEq, Repr

/-- Read the sign, exponent and fraction of a double. -/
def form (d : Double) : Form :=
  let bits := d.bits.toNat
  let negative := decide (1 <<< 63 ≤ bits)
  let biased : Nat := (bits >>> 52) % (1 <<< 11)
  let fraction : Nat := bits % (1 <<< 52)
  if biased = 2047 then
    if fraction = 0 then .infinite negative else .nan
  else if biased = 0 then .finite negative fraction (-1074)
  else .finite negative ((1 <<< 52) + fraction) ((biased : Int) - 1075)

/-- The double with the given sign whose remaining bits are `magnitude`. Magnitudes are ordered as
the absolute values they denote, and the infinities follow the largest finite one. -/
def ofMagnitude (negative : Bool) (magnitude : Nat) : Double :=
  ⟨UInt64.ofNat ((if negative then 1 <<< 63 else 0) + magnitude)⟩

def zero (negative : Bool) : Double := ofMagnitude negative 0
def infinity (negative : Bool) : Double := ofMagnitude negative (2047 <<< 52)
def nan : Double := ofMagnitude false ((2047 <<< 52) + (1 <<< 51))

def isNaN (d : Double) : Bool := d.form == .nan

/-! ### Rounding -/

/-- The quotient rounded to the nearest natural number, ties to even. -/
def roundQuotient (num den : Nat) : Nat :=
  let quotient := num / den
  let twice := 2 * (num % den)
  if twice < den then quotient
  else if den < twice then quotient + 1
  else quotient + quotient % 2

/-- Numerator and denominator of `num / den / 2 ^ exponent`. -/
def scale (num den : Nat) (exponent : Int) : Nat × Nat :=
  if 0 ≤ exponent then (num, den <<< exponent.toNat) else (num <<< (-exponent).toNat, den)

/-- The exponent at which `num / den` has a significand of fifty-three bits, or the least exponent
of all if that would be smaller. -/
def exponentFor (num den : Nat) : Int :=
  let guess := (num.log2 : Int) - den.log2 - 53
  let (scaledNum, scaledDen) := scale num den guess
  max (if scaledDen <<< 53 ≤ scaledNum then guess + 1 else guess) (-1074)

/-- The double nearest to `num / den`, ties to the even significand; too large a quotient becomes
infinite. -/
def nearest (negative : Bool) (num den : Nat) : Double :=
  if num = 0 then zero negative
  else
    let exponent := exponentFor num den
    let (scaledNum, scaledDen) := scale num den exponent
    let magnitude := ((exponent + 1074).toNat <<< 52) + roundQuotient scaledNum scaledDen
    ofMagnitude negative (min magnitude (2047 <<< 52))

/-- The double nearest to a dyadic rational. Zero takes the sign asked for. -/
def ofDyadic (zeroNegative : Bool) : Dyadic → Double
  | .zero => zero zeroNegative
  | .ofOdd n precision _ =>
    nearest (n < 0) (n.natAbs <<< (-precision).toNat) (1 <<< precision.toNat)

/-- The double nearest to an integer. -/
def ofInt (n : Int) : Double := nearest (n < 0) n.natAbs 1

/-! ### Exact values -/

/-- The dyadic rational that a finite double denotes. -/
def dyadic? (d : Double) : Option Dyadic :=
  match d.form with
  | .finite negative significand exponent =>
    some (Dyadic.ofIntWithPrec (if negative then -(significand : Int) else significand) (-exponent))
  | _ => none

/-- A finite double without its fractional part. -/
def truncate? (d : Double) : Option Int :=
  match d.form with
  | .finite negative significand exponent =>
    let whole : Nat :=
      if 0 ≤ exponent then significand <<< exponent.toNat
      else significand >>> (-exponent).toNat
    some (if negative then -(whole : Int) else whole)
  | _ => none

/-- The integer that a double denotes, if it denotes one. -/
def integer? (d : Double) : Option Int :=
  match d.form with
  | .finite negative significand exponent =>
    let whole : Nat :=
      if 0 ≤ exponent then significand <<< exponent.toNat
      else significand >>> (-exponent).toNat
    if 0 ≤ exponent ∨ significand % (1 <<< (-exponent).toNat) = 0 then
      some (if negative then -(whole : Int) else whole)
    else none
  | _ => none

/-- A double without its fractional part, with the same sign. -/
def trunc (d : Double) : Double :=
  match d.form with
  | .finite negative _ _ => nearest negative (d.truncate?.getD 0).natAbs 1
  | _ => d

/-- The integer from `least` to `greatest` that is nearest to a double without its fractional part.
NaN gives zero. -/
def clamp (least greatest : Int) (d : Double) : Int :=
  match d.form with
  | .nan => 0
  | .infinite negative => if negative then least else greatest
  | .finite .. => max least (min greatest (d.truncate?.getD 0))

/-! ### Arithmetic -/

/-- The double with the opposite sign. -/
def neg (d : Double) : Double :=
  match d.form with
  | .nan => nan
  | .infinite negative => infinity (!negative)
  | .finite negative _ _ => ofMagnitude (!negative) (d.bits.toNat % (1 <<< 63))

def add (a b : Double) : Double :=
  match a.form, b.form with
  | .nan, _ | _, .nan => nan
  | .infinite s, .infinite t => if s = t then infinity s else nan
  | .infinite s, _ | _, .infinite s => infinity s
  | .finite s _ _, .finite t _ _ => ofDyadic (s && t) (a.dyadic?.getD 0 + b.dyadic?.getD 0)

def sub (a b : Double) : Double := add a b.neg

def mul (a b : Double) : Double :=
  match a.form, b.form with
  | .nan, _ | _, .nan => nan
  | .infinite s, .infinite t => infinity (s ^^ t)
  | .infinite s, .finite t significand _ | .finite s significand _, .infinite t =>
    if significand = 0 then nan else infinity (s ^^ t)
  | .finite s _ _, .finite t _ _ => ofDyadic (s ^^ t) (a.dyadic?.getD 0 * b.dyadic?.getD 0)

def div (a b : Double) : Double :=
  match a.form, b.form with
  | .nan, _ | _, .nan => nan
  | .infinite _, .infinite _ => nan
  | .infinite s, .finite t _ _ => infinity (s ^^ t)
  | .finite s _ _, .infinite t => zero (s ^^ t)
  | .finite s m e, .finite t n f =>
    if n = 0 then (if m = 0 then nan else infinity (s ^^ t))
    else nearest (s ^^ t) (m <<< (e - f).toNat) (n <<< (f - e).toNat)

/-! ### Comparison -/

/-- The values of doubles other than NaN: the dyadic rationals between two infinities. -/
inductive Extended where
  | bottom
  | exact (value : Dyadic)
  | top
deriving DecidableEq

/-- The order of exact values. -/
def Extended.compare : Extended → Extended → Ordering
  | .bottom, .bottom | .top, .top => .eq
  | .bottom, _ | _, .top => .lt
  | .top, _ | _, .bottom => .gt
  | .exact a, .exact b => if a < b then .lt else if b < a then .gt else .eq

/-- The exact value of a double. NaN has none. -/
def extended? (d : Double) : Option Extended :=
  match d.form with
  | .nan => none
  | .infinite negative => some (if negative then .bottom else .top)
  | .finite .. => d.dyadic?.map .exact

/-- The order of two doubles, unless one of them is NaN. -/
def compare? (a b : Double) : Option Ordering := do
  return (← a.extended?).compare (← b.extended?)

/-! ### Machine integers -/

/-- The signed word that a double without a fraction denotes, if it is in range. -/
def int64? (d : Double) : Option Int64 :=
  if (d.compare? (.ofInt (-0x8000000000000000))).any Ordering.isGE &&
      (d.compare? (.ofInt 0x8000000000000000)).any Ordering.isLT then
    some (Int64.ofInt (d.clamp (-0x8000000000000000) 0x7FFFFFFFFFFFFFFF))
  else none

/-- The unsigned word that a double without a fraction denotes, if it is in range. -/
def uint64? (d : Double) : Option UInt64 :=
  if (d.compare? (.ofInt (-1))).any Ordering.isGT &&
      (d.compare? (.ofInt 0x10000000000000000)).any Ordering.isLT then
    some (UInt64.ofNat (d.clamp 0 0xFFFFFFFFFFFFFFFF).toNat)
  else none

end Double

end Cel
