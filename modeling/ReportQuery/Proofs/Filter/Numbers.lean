import ReportQuery.Proofs.Connector.Explanation
import ReportQuery.Proofs.Double.Nearest
import ReportQuery.Proofs.Double.Numeral

namespace ReportQuery.Json

open Double (IntegerNumeral IsNearest NonfiniteNumeral integerLimit)

/-- The values that stand for no finite number: all that are neither numbers nor texts, the doubles
that are not finite, and the words for these. -/
inductive NoNumber : Json → Prop where
  | null : NoNumber .null
  | bool {b : Bool} : NoNumber (.bool b)
  | arr {items : List Json} : NoNumber (.arr items)
  | obj {fields : List (String × Json)} : NoNumber (.obj fields)
  | float {x : Double} : x.isFinite = false → NoNumber (.float x)
  | word {s : String} : Text.Padded NonfiniteNumeral s.toList → NoNumber (.str s)

section Integers

variable {n : Int} {s : String}

theorem toNumber_int_of_lt (h : n.natAbs < integerLimit) :
    (int n).toNumber = .ok (some (Double.ofInt n)) := by
  rw [toNumber, Double.ofInt?, if_pos (Double.isFinite_ofInt_iff.mpr h)]
  rfl

theorem toNumber_int_eq_error_iff :
    (∃ e, (int n).toNumber = .error e) ↔ integerLimit ≤ n.natAbs := by
  simp [toNumber_eq_error_iff]

theorem toNumber_str_of_numeral (h : Text.Padded (IntegerNumeral n) s.toList) :
    (str s).toNumber =
      .ok (if n.natAbs < integerLimit then some (Double.ofInt n) else none) := by
  rw [toNumber, Double.ofFreeText?_of_numeral h, Option.bind_some, Double.finite?]
  simp only [Double.isFinite_ofInt_iff]

end Integers

theorem NoNumber.toNumber_eq {value : Json} (h : NoNumber value) : value.toNumber = .ok none := by
  have hfinite {x : Double} (hx : x.isFinite = false) : x.finite? = none := by
    rw [Double.finite?, if_neg (ne_true_of_eq_false hx)]
  cases h with
  | float hx => rw [toNumber, hfinite hx]
  | word hs =>
    obtain ⟨x, hread, hx⟩ := Double.ofFreeText?_of_word hs
    rw [toNumber, hread, Option.bind_some, hfinite hx]
  | _ => rfl

/-- Numbers and their texts are converted alike. A text of an integer has no number exactly if the
conversion of the integer fails, which it does from the limit on. Otherwise both are converted to
the double nearest to the integer. No other conversion fails, and what it yields is finite. -/
theorem toNumber_alike :
    (∀ (n : Int) (s : String), Text.Padded (IntegerNumeral n) s.toList →
      ((str s).toNumber = .ok none ↔ ∃ e, (int n).toNumber = .error e) ∧
      ((∃ e, (int n).toNumber = .error e) ↔ integerLimit ≤ n.natAbs) ∧
      ((str s).toNumber ≠ .ok none →
        (str s).toNumber = (int n).toNumber ∧
        ∃ x, (int n).toNumber = .ok (some x) ∧ x.isFinite ∧ IsNearest n x)) ∧
    (∀ value, (∀ n, value ≠ int n) →
      value.toNumber = .ok none ∨ ∃ x, value.toNumber = .ok (some x) ∧ x.isFinite) ∧
    ∀ value, NoNumber value → value.toNumber = .ok none := by
  refine ⟨?_, ?_, fun value => NoNumber.toNumber_eq⟩
  · intro n s hs
    rw [toNumber_int_eq_error_iff, toNumber_str_of_numeral hs]
    by_cases h : n.natAbs < integerLimit
    · have hfinite : (Double.ofInt n).isFinite := Double.isFinite_ofInt_iff.mpr h
      rw [if_pos h, toNumber_int_of_lt h]
      refine ⟨?_, Iff.rfl, fun _ => ⟨rfl, _, rfl, hfinite, Double.isNearest_ofInt hfinite⟩⟩
      exact iff_of_false nofun (Nat.not_le.mpr h)
    · rw [if_neg h]
      exact ⟨iff_of_true rfl (Nat.not_lt.mp h), Iff.rfl, fun hne => absurd rfl hne⟩
  · intro value hvalue
    cases hresult : value.toNumber with
    | error e =>
      obtain ⟨n, hn, -⟩ := toNumber_eq_error_iff.mp hresult
      exact absurd hn (hvalue n)
    | ok x? =>
      cases x? with
      | none => exact .inl rfl
      | some x => exact .inr ⟨x, rfl, isFinite_of_toNumber hresult⟩

example : (str "\t+9007199254740993 ").toNumber = (int 9007199254740992).toNumber := by
  decide +kernel

end ReportQuery.Json
