/-! # Digits of fixed width

Times are written with a fixed number of digits. A fraction of a second is written with nine digits,
less the zeros at its end.
-/

namespace Cel.Time

/-- The decimal digits of a number, filled up with zeros in front. -/
def padded (width n : Nat) : List Char :=
  let digits := Nat.toDigits 10 n
  List.replicate (width - digits.length) '0' ++ digits

/-- The digits of a fraction in billionths, with the point, or nothing for zero. -/
def fraction (nanos : Nat) : List Char :=
  match (padded 9 nanos).reverse.dropWhile (· == '0') with
  | [] => []
  | significant => '.' :: significant.reverse

end Cel.Time
