import ReportQuery.Json
import ReportQuery.Double.Numeral

namespace ReportQuery

inductive ConversionError where
  /-- An integer whose nearest double would be past every finite one. -/
  | integerTooLarge (n : Int)
  deriving DecidableEq

def ConversionError.message : ConversionError → String
  | integerTooLarge _ => "int too large to convert to float"

namespace Double

def ofInt? (n : Int) : Except ConversionError Double :=
  if (ofInt n).isFinite then .ok (ofInt n) else .error (.integerTooLarge n)

def finite? (x : Double) : Option Double := if x.isFinite then some x else none

end Double

def Json.toNumber : Json → Except ConversionError (Option Double)
  | .int n => some <$> Double.ofInt? n
  | .float x => .ok x.finite?
  | .str s => .ok ((Double.ofFreeText? s).bind Double.finite?)
  | _ => .ok none

end ReportQuery
