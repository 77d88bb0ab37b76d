import Mathlib.Algebra.Group.Nat.Defs
import ReportQuery.Json.Token
import ReportQuery.Text.Quoted

namespace ReportQuery.Text

section Hexadecimal

variable {s : List Char} {width n : Nat}

def hexValue (s : List Char) : Nat :=
  s.foldl (fun n c => n * 16 + (Json.Token.hexDigit? c).getD 0) 0

theorem hexDigit?_digitChar (h : n < 16) : Json.Token.hexDigit? n.digitChar = some n := by
  have hall : ∀ k : Fin 16, Json.Token.hexDigit? k.val.digitChar = some k.val := by decide
  exact hall ⟨n, h⟩

theorem hexValue_toDigits (n : Nat) : hexValue (Nat.toDigits 16 n) = n := by
  induction n using Nat.strongRecOn with
  | _ n ih =>
    rw [Nat.toDigits_eq_if (by decide)]
    split
    · next h => simp [hexValue, hexDigit?_digitChar h]
    · next h =>
      have hlt : n / 16 < n := Nat.div_lt_self (by omega) (by decide)
      have hdigit : n % 16 < 16 := Nat.mod_lt n (by decide)
      have hfront : hexValue (Nat.toDigits 16 (n / 16)) = n / 16 := ih _ hlt
      rw [hexValue] at hfront ⊢
      rw [List.foldl_append, hfront, List.foldl_cons, List.foldl_nil, hexDigit?_digitChar hdigit]
      exact Nat.div_add_mod' n 16

theorem hexValue_hex : hexValue (hex width n) = n := by
  have hzeros (k : Nat) : hexValue (List.replicate k '0' ++ Nat.toDigits 16 n) = n := by
    induction k with
    | zero => exact hexValue_toDigits n
    | succ k ih => exact ih
  exact hzeros _

theorem length_hex (hw : 0 < width) (h : n < 16 ^ width) : (hex width n).length = width := by
  have hle : (Nat.toDigits 16 n).length ≤ width := (Nat.length_toDigits_le_iff (by decide) hw).mpr h
  rw [hex, List.length_append, List.length_replicate]
  omega

end Hexadecimal

/-- The character that stands at the front of a quoted text, and the rest. -/
def readChar? : List Char → Option (Char × List Char)
  | [] => none
  | '\\' :: 'n' :: rest => some ('\n', rest)
  | '\\' :: 'r' :: rest => some ('\r', rest)
  | '\\' :: 't' :: rest => some ('\t', rest)
  | '\\' :: 'x' :: rest => some (Char.ofNat (hexValue (rest.take 2)), rest.drop 2)
  | '\\' :: 'u' :: rest => some (Char.ofNat (hexValue (rest.take 4)), rest.drop 4)
  | '\\' :: 'U' :: rest => some (Char.ofNat (hexValue (rest.take 8)), rest.drop 8)
  | '\\' :: c :: rest => some (c, rest)
  | c :: rest => some (c, rest)

section Reading

variable {quote c c' : Char} {s s' rest rest' : List Char}

theorem readChar?_of_ne (h : c ≠ '\\') : readChar? (c :: rest) = some (c, rest) := by
  unfold readChar?
  split <;> simp_all

theorem quoteFor_eq (s : List Char) : quoteFor s = '\'' ∨ quoteFor s = '"' := by
  rw [quoteFor]
  split
  · exact .inr rfl
  · exact .inl rfl

theorem take_hex_append (rest : List Char) {width n : Nat} (hw : 0 < width) (hn : n < 16 ^ width) :
    hexValue ((hex width n ++ rest).take width) = n ∧ (hex width n ++ rest).drop width = rest := by
  have hlength : (hex width n).length = width := length_hex hw hn
  rw [List.take_left' hlength, List.drop_left' hlength]
  exact ⟨hexValue_hex, rfl⟩

theorem readChar?_hex2 (h : c.toNat < 0x100) :
    readChar? ('\\' :: 'x' :: (hex 2 c.toNat ++ rest)) = some (c, rest) := by
  obtain ⟨hvalue, hrest⟩ := take_hex_append rest Nat.two_pos h
  simp only [readChar?, hvalue, hrest, Char.ofNat_toNat]

theorem readChar?_hex4 (h : c.toNat < 0x10000) :
    readChar? ('\\' :: 'u' :: (hex 4 c.toNat ++ rest)) = some (c, rest) := by
  obtain ⟨hvalue, hrest⟩ := take_hex_append rest (Nat.zero_lt_succ 3) h
  simp only [readChar?, hvalue, hrest, Char.ofNat_toNat]

theorem readChar?_hex8 :
    readChar? ('\\' :: 'U' :: (hex 8 c.toNat ++ rest)) = some (c, rest) := by
  have hvalid : c.toNat < 0xd800 ∨ 0xdfff < c.toNat ∧ c.toNat < 0x110000 := c.valid
  have hlt : c.toNat < 16 ^ 8 := by omega
  obtain ⟨hvalue, hrest⟩ := take_hex_append rest (Nat.zero_lt_succ 7) hlt
  simp only [readChar?, hvalue, hrest, Char.ofNat_toNat]

theorem readChar?_escapeChar (hq : quote = '\'' ∨ quote = '"') :
    readChar? (escapeChar quote c ++ rest) = some (c, rest) := by
  simp only [escapeChar]
  split
  · next h =>
    rcases h with rfl | rfl
    · rcases hq with rfl | rfl
      · rfl
      · rfl
    · rfl
  split
  · next h => subst h; rfl
  split
  · next h => subst h; rfl
  split
  · next h => subst h; rfl
  split
  · next hslash _ _ _ _ => exact readChar?_of_ne (fun h => hslash (.inr h))
  split
  · next hlt => exact readChar?_hex2 hlt
  split
  · next hlt => exact readChar?_hex4 hlt
  · exact readChar?_hex8

theorem escapeChar_append_inj (hq : quote = '\'' ∨ quote = '"')
    (h : escapeChar quote c ++ rest = escapeChar quote c' ++ rest') : c = c' ∧ rest = rest' := by
  have hread : readChar? (escapeChar quote c ++ rest) = some (c, rest) := readChar?_escapeChar hq
  rw [h, readChar?_escapeChar hq] at hread
  cases hread
  exact ⟨rfl, rfl⟩

theorem escapeChar_append_ne_quote (hq : quote = '\'' ∨ quote = '"') :
    escapeChar quote c ++ rest ≠ quote :: rest' := by
  intro h
  have hslash : quote ≠ '\\' := by
    rcases hq with rfl | rfl
    · decide
    · decide
  have hread : readChar? (escapeChar quote c ++ rest) = some (c, rest) := readChar?_escapeChar hq
  rw [h, readChar?_of_ne hslash] at hread
  cases hread
  rw [escapeChar, if_pos (.inl rfl)] at h
  exact hslash (List.cons.inj h).1.symm

theorem escaped_append_inj (hq : quote = '\'' ∨ quote = '"')
    (h : s.flatMap (escapeChar quote) ++ quote :: rest =
      s'.flatMap (escapeChar quote) ++ quote :: rest') : s = s' ∧ rest = rest' := by
  induction s generalizing s' with
  | nil =>
    cases s' with
    | nil => exact ⟨rfl, (List.cons.inj h).2⟩
    | cons c' s' =>
      rw [List.flatMap_cons, List.append_assoc] at h
      exact absurd h.symm (escapeChar_append_ne_quote hq)
  | cons c s ih =>
    rw [List.flatMap_cons, List.append_assoc] at h
    cases s' with
    | nil => exact absurd h (escapeChar_append_ne_quote hq)
    | cons c' s' =>
      rw [List.flatMap_cons, List.append_assoc] at h
      obtain ⟨rfl, hmore⟩ := escapeChar_append_inj hq h
      obtain ⟨rfl, hrest⟩ := ih hmore
      exact ⟨rfl, hrest⟩

/-- Where a quoted text ends and what it quotes can be told from any text that it begins. -/
theorem quotedChars_append_inj (h : quotedChars s ++ rest = quotedChars s' ++ rest') :
    s = s' ∧ rest = rest' := by
  have hq := quoteFor_eq s'
  simp only [quotedChars, List.cons_append, List.append_assoc] at h
  obtain ⟨hquote, h⟩ := List.cons.inj h
  rw [hquote] at h
  exact escaped_append_inj hq h

end Reading

end ReportQuery.Text
