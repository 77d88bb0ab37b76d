import ReportQuery.Double.Shortest

namespace ReportQuery

structure Double.Layout where
  /-- The least decimal exponent that is written without exponent part. -/
  leastPositional : Int
  /-- The first decimal exponent past those written without exponent part. -/
  positionalEnd : Int
  /-- The least number of digits of an exponent part. -/
  exponentDigits : Nat
  infinityText : String
  nanText : String

namespace Double

/-- Positional from `0.0001` to below `10 ^ 16`, else with a signed exponent of at least two
digits. -/
def plainLayout : Layout where
  leastPositional := -4
  positionalEnd := 16
  exponentDigits := 2
  infinityText := "inf"
  nanText := "nan"

def jsonLayout : Layout :=
  { plainLayout with infinityText := "Infinity", nanText := "NaN" }

def zeros (n : Nat) : List Char := List.replicate n '0'

/-- Lays out digits `d₁ d₂ …` whose value is `0.d₁d₂… * 10 ^ point`. -/
def Layout.arrange (layout : Layout) (digits : List Char) (point : Int) : List Char :=
  let exponent := point - 1
  if layout.leastPositional ≤ exponent ∧ exponent < layout.positionalEnd then
    if point ≤ 0 then
      '0' :: '.' :: zeros (-point).toNat ++ digits
    else
      let whole := point.toNat
      if digits.length ≤ whole then
        digits ++ zeros (whole - digits.length) ++ ['.', '0']
      else
        digits.take whole ++ '.' :: digits.drop whole
  else
    let size := Nat.toDigits 10 exponent.natAbs
    let fraction := if digits.length ≤ 1 then [] else '.' :: digits.drop 1
    digits.take 1 ++ fraction ++ 'e' :: (if exponent < 0 then '-' else '+') ::
      zeros (layout.exponentDigits - size.length) ++ size

def Layout.magnitude (layout : Layout) (rank : Nat) : List Char :=
  if rank = 0 then ['0', '.', '0']
  else
    let decimal := shortest rank
    let all := Nat.toDigits 10 decimal.digits
    let digits := (all.reverse.dropWhile (· == '0')).reverse
    layout.arrange digits (all.length + decimal.exponent)

def Layout.text (layout : Layout) : Double → String
  | .nan => layout.nanText
  | .infinity negative => (if negative then "-" else "") ++ layout.infinityText
  | .finite negative rank =>
    (if negative then "-" else "") ++ String.ofList (layout.magnitude rank)

def text (x : Double) : String := plainLayout.text x

example : (ofInt 100000).text = "100000.0" := by decide +kernel

example : (ofDecimal false 1 16).text = "1e+16" := by decide +kernel

example : (ofDecimal true 15 (-6)).text = "-1.5e-05" := by decide +kernel

example : (ofDecimal false 3 (-324)).text = "5e-324" := by decide +kernel

end Double

end ReportQuery
