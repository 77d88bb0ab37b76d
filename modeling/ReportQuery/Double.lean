namespace ReportQuery

abbrev Double.binadeSize : Nat := 0x10000000000000

/-- The rank that would follow the greatest finite magnitude. -/
abbrev Double.rankLimit : Nat := 2047 * binadeSize

inductive Double where
  | finite (negative : Bool) (rank : Fin Double.rankLimit)
  | infinity (negative : Bool)
  | nan
  deriving DecidableEq

namespace Double

def isFinite : Double → Bool
  | .finite .. => true
  | _ => false

def isZero : Double → Bool
  | .finite _ rank => rank.val == 0
  | _ => false

/-- The magnitude of a rank, counted in units of the least positive magnitude, `2 ^ (-1074)`. -/
def unitsAt (rank : Nat) : Nat :=
  let binade := rank / binadeSize - 1
  (rank - binade * binadeSize) <<< binade

def unitsOfOne : Nat := 1 <<< 1074

def roundHalfEven (num den : Nat) : Nat :=
  let quotient := num / den
  let rest := num % den
  if 2 * rest < den then quotient
  else if den < 2 * rest then quotient + 1
  else quotient + quotient % 2

/-- The rank whose magnitude is nearest to `num / den`, a tie going to the even rank. It is
`rankLimit` or more where the quotient is past every finite magnitude. -/
def nearestRank (num den : Nat) : Nat :=
  let units := num * unitsOfOne
  let binade := (units / den).log2 - 52
  binade * binadeSize + roundHalfEven units (den <<< binade)

def ofRank (negative : Bool) (rank : Nat) : Double :=
  if h : rank < rankLimit then .finite negative ⟨rank, h⟩ else .infinity negative

/-- The double nearest to an integer, infinite where the integer is out of range. -/
def ofInt (n : Int) : Double :=
  ofRank (n < 0) (nearestRank n.natAbs 1)

/-- The double nearest to `± digits * 10 ^ exponent`. Exponents far out of range are settled
without raising ten to them: past 400 any digit overflows, and a power of ten with more bits than
the digits and 1200 besides leaves less than half of the least magnitude. -/
def ofDecimal (negative : Bool) (digits : Nat) (exponent : Int) : Double :=
  if digits = 0 then ofRank negative 0
  else match exponent with
    | .ofNat e =>
      if 400 < e then .infinity negative
      else ofRank negative (nearestRank (digits * Nat.pow 10 e) 1)
    | .negSucc e =>
      if digits.log2 + 1200 < 3 * (e + 1) then ofRank negative 0
      else ofRank negative (nearestRank digits (Nat.pow 10 (e + 1)))

def toInt? : Double → Option Int
  | .finite negative rank =>
    let units := unitsAt rank
    if units % unitsOfOne = 0 then
      let magnitude : Int := (units / unitsOfOne : Nat)
      some (if negative then -magnitude else magnitude)
    else none
  | _ => none

end Double

end ReportQuery
