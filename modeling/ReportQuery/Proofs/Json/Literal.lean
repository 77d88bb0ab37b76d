import ReportQuery.Json.Display
import ReportQuery.Proofs.Double.Text
import ReportQuery.Proofs.Text.Quoted

namespace ReportQuery.Json

open Text (Follows signed_append_inj word_append_inj)

variable {rest rest' : List Char}

inductive IsFiniteNumber : Json → Prop where
  | integer {n : Int} : IsFiniteNumber (.int n)
  | double {x : Double} : x.isFinite → IsFiniteNumber (.float x)

inductive IsScalar : Json → Prop where
  | text {s : String} : IsScalar (.str s)
  | number {v : Json} : IsFiniteNumber v → IsScalar v

section Integers

variable {m n : Int}

theorem toList_toString (n : Int) :
    (toString n).toList = (if n < 0 then ['-'] else []) ++ Nat.toDigits 10 n.natAbs := by
  rw [Int.toString_eq_repr, Int.repr_eq_if]
  by_cases h : n < 0
  · have hsize : (-n).toNat = n.natAbs := by omega
    rw [if_neg (Int.not_le.mpr h), if_pos h, hsize, String.toList_append, Nat.toList_repr]
    rfl
  · have hsize : n.toNat = n.natAbs := by omega
    rw [if_pos (Int.not_lt.mp h), if_neg h, hsize, Nat.toList_repr]
    rfl

theorem mem_toString {c : Char} (h : c ∈ (toString n).toList) : c = '-' ∨ c.isDigit := by
  rw [toList_toString, List.mem_append] at h
  rcases h with hsign | hdigit
  · split at hsign
    · exact .inl (List.mem_singleton.mp hsign)
    · cases hsign
  · exact .inr (Double.isDigit_of_mem_toDigits c hdigit)

theorem toString_inj (h : toString m = toString n) : m = n := by
  have hchars := congrArg String.toList h
  rw [toList_toString, toList_toString] at hchars
  have hminus (k : Nat) (s : List Char) : Nat.toDigits 10 k ≠ '-' :: s := by
    intro heq
    have hdigit := Double.isDigit_of_mem_toDigits '-' (heq ▸ List.mem_cons_self)
    cases hdigit
  obtain ⟨hsign, hdigits⟩ := signed_append_inj (hminus _) (hminus _) hchars
  have hsize := congrArg (Nat.ofDigitChars 10 · 0) hdigits
  simp only [Nat.ofDigitChars_ten_toDigits] at hsize
  omega

end Integers

section Numbers

variable {n : Int} {x y : Double} {c : Char}

theorem isWordChar_of_mem_toString (h : c ∈ (toString n).toList) : Token.isWordChar c := by
  rcases mem_toString h with rfl | hdigit
  · rfl
  · exact Double.isWordChar_of_isDigit hdigit

theorem toString_ne_text (hx : x.isFinite) : toString n ≠ x.text := by
  intro h
  rcases Double.mark_mem_text hx with hmark | hmark
  · rw [← h] at hmark
    rcases mem_toString hmark with heq | hdigit
    · cases heq
    · cases hdigit
  · rw [← h] at hmark
    rcases mem_toString hmark with heq | hdigit
    · cases heq
    · cases hdigit

end Numbers

/-- No quoted text begins as a word does, or as what follows a word. -/
theorem quoted_append_ne {s : String} {word : List Char} (hw : ∀ c ∈ word, Token.isWordChar c)
    (hrest : Follows rest') : (Text.quoted s).toList ++ rest ≠ word ++ rest' := by
  intro h
  rw [Text.quoted, String.toList_ofList] at h
  cases word with
  | nil =>
    rw [List.nil_append] at h
    rw [← h] at hrest
    rcases Text.quoteFor_eq s.toList with hq | hq
    · simp only [Text.quotedChars, hq] at hrest
      cases hrest
    · simp only [Text.quotedChars, hq] at hrest
      cases hrest
  | cons c word =>
    have hc : Token.isWordChar c := hw c List.mem_cons_self
    rw [← (List.cons.inj h).1] at hc
    rcases Text.quoteFor_eq s.toList with hq | hq
    · rw [hq] at hc
      cases hc
    · rw [hq] at hc
      cases hc

variable {v v' : Json}

theorem IsFiniteNumber.isWordChar (h : IsFiniteNumber v) :
    ∀ c ∈ v.literal.toList, Token.isWordChar c := by
  intro c hc
  cases h with
  | integer => exact isWordChar_of_mem_toString hc
  | double hx => exact Double.isWordChar_of_mem_text hx hc

theorem IsFiniteNumber.literal_inj (h : IsFiniteNumber v) (h' : IsFiniteNumber v')
    (hl : v.literal = v'.literal) : v = v' := by
  cases h with
  | integer =>
    cases h' with
    | integer => rw [toString_inj hl]
    | double hx' => exact absurd hl (toString_ne_text hx')
  | double hx =>
    cases h' with
    | integer => exact absurd hl.symm (toString_ne_text hx)
    | double hx' => rw [Double.text_inj hx hx' hl]

/-- Where the literal of a scalar ends and which scalar it is can be told. -/
theorem IsScalar.literal_append_inj (h : IsScalar v) (h' : IsScalar v') (hrest : Follows rest)
    (hrest' : Follows rest') (hl : v.literal.toList ++ rest = v'.literal.toList ++ rest') :
    v = v' ∧ rest = rest' := by
  cases h with
  | @text s =>
    cases h' with
    | @text s' =>
      simp only [literal, Text.quoted, String.toList_ofList] at hl
      obtain ⟨hs, hend⟩ := Text.quotedChars_append_inj hl
      rw [String.toList_inj.mp hs]
      exact ⟨rfl, hend⟩
    | number hn' => exact absurd hl (quoted_append_ne hn'.isWordChar hrest')
  | number hn =>
    cases h' with
    | text => exact absurd hl.symm (quoted_append_ne hn.isWordChar hrest)
    | number hn' =>
      obtain ⟨hchars, hend⟩ := word_append_inj hn.isWordChar hn'.isWordChar hrest hrest' hl
      exact ⟨hn.literal_inj hn' (String.toList_inj.mp hchars), hend⟩

end ReportQuery.Json
