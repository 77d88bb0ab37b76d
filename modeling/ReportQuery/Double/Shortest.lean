import ReportQuery.Double

namespace ReportQuery.Double

structure Decimal where
  digits : Nat
  exponent : Int
  deriving DecidableEq

/-- The point of the grid of multiples of `unit` that lies between `low` and `high` and is nearest
to `value`, a tie going to the even multiple. The bounds count as inside if `closed`. -/
def gridPoint? (closed : Bool) (low value high unit : Nat) : Option Nat :=
  let inside (n : Nat) : Bool :=
    if closed then low ≤ n * unit && n * unit ≤ high else low < n * unit && n * unit < high
  let below := value / unit
  match inside below, inside (below + 1) with
  | true, true => some (roundHalfEven value unit)
  | true, false => some below
  | false, true => some (below + 1)
  | false, false => none

/-- How many decimal digits stand before the point of a positive magnitude; zero or less for one
below a tenth. Every positive magnitude is over `10 ^ (-400)`. -/
def pointPosition (rank : Nat) : Int :=
  (Nat.toDigits 10 (unitsAt rank * Nat.pow 10 400 / unitsOfOne)).length - 400

/-- The numeral of `count` digits for a positive rank, where one reads back as it. All lengths are
in units of `2 ^ (-1075)`, in which the midpoints between neighbouring magnitudes are whole. -/
def decimalOf? (rank count : Nat) : Option Decimal :=
  let exponent := pointPosition rank - count
  let scale := Nat.pow 10 (-exponent).toNat
  let low := unitsAt (rank - 1) + unitsAt rank
  let high := unitsAt rank + unitsAt (rank + 1)
  (gridPoint? (rank % 2 == 0) (low * scale) (2 * unitsAt rank * scale) (high * scale)
    (Nat.pow 10 exponent.toNat * (2 * unitsOfOne))).map (⟨·, exponent⟩)

/-- The shortest numeral of a positive rank; seventeen digits always do. -/
def shortest (rank : Nat) : Decimal :=
  ((List.range 17).findSome? fun n => decimalOf? rank (n + 1)).getD ⟨0, 0⟩

end ReportQuery.Double
