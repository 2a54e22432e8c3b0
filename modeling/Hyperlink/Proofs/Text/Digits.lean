import Hyperlink.Text.Hex
import Mathlib.Data.List.Basic
import Mathlib.Data.List.Induction

/-!
# Hyperlink.Proofs.Text.Digits — the digits that numbers are written with

* `toDigits_head`: only zero is written with a zero in front.
* `PadsTo`: digits and the same digits without the zeros in front; `padsTo_toDigits`: without them, decimal digits are
  those that their number is written with.
* `exists_digit_of_mem_toDigits`: numbers are written with the digits of their base.
* `hexNumber_hexDigits`: **a number is read from its hexadecimal digits.**
-/

namespace Hyperlink.Text

/-- Decimal digits begin with a zero only where they are the zero. -/
theorem toDigits_head (n : Nat) (h : (Nat.toDigits 10 n).head? = some '0') : (Nat.toDigits 10 n).length = 1 := by
  induction n using Nat.strongRecOn with
  | ind n ih =>
    rw [Nat.toDigits_eq_if (by decide)] at h ⊢
    split at h
    · next hn => simp [hn]
    · next hn =>
      have hne : Nat.toDigits 10 (n / 10) ≠ [] := Nat.toDigits_ne_nil
      rw [List.head?_append_of_ne_nil _ hne] at h
      have hone := ih (n / 10) (by omega) h
      -- the digits in front are a single zero, so nothing but a digit was left
      have hzero : Nat.toDigits 10 (n / 10) = ['0'] := by
        obtain ⟨d, hd⟩ := List.length_eq_one_iff.mp hone
        rw [hd] at h ⊢
        simpa using h
      have hval : n / 10 = 0 := by
        rw [← Nat.ofDigitChars_ten_toDigits (n := n / 10), hzero]
        rfl
      omega

theorem exists_digit_of_mem_toDigits {b n : Nat} (hb : 1 < b) {c : Char} (h : c ∈ Nat.toDigits b n) :
    ∃ d < b, c = Nat.digitChar d := by
  induction n using Nat.strongRecOn with
  | ind n ih =>
    rw [Nat.toDigits_eq_if hb] at h
    split at h
    · next hn => exact ⟨n, hn, by simpa using h⟩
    · next hn =>
      rcases List.mem_append.mp h with h | h
      · exact ih (n / b) (Nat.div_lt_self (by omega) hb) h
      · exact ⟨n % b, Nat.mod_lt n (by omega), by simpa using h⟩

/-! ## Zeros in front -/

/-- A zero stands in front of the digits and could be left out. -/
def IsPadded (cs : List Char) : Prop := ∃ rest, rest ≠ [] ∧ cs = '0' :: rest

/-- The digits `cs` are `plain` with zeros in front, and no zero can be left out of `plain`. -/
structure PadsTo (cs plain : List Char) : Prop where
  zeros : ∃ k, cs = List.replicate k '0' ++ plain
  ne_nil : plain ≠ []
  not_padded : ¬ IsPadded plain

theorem exists_digitChar_of_isDigit {c : Char} (h : c.isDigit) : ∃ d < 10, c = Nat.digitChar d := by
  have hle : 48 ≤ c.toNat ∧ c.toNat ≤ 57 := by
    simpa [Char.isDigit, UInt32.le_iff_toNat_le] using h
  refine ⟨c.toNat - 48, by omega, ?_⟩
  rw [← Char.toNat_inj, Nat.toNat_digitChar_of_lt_ten (by omega)]
  omega

theorem not_isPadded_toDigits (n : Nat) : ¬ IsPadded (Nat.toDigits 10 n) := by
  rintro ⟨rest, hrest, h⟩
  have hlen := toDigits_head n (by rw [h]; rfl)
  rw [h, List.length_cons, Nat.add_eq_right, List.length_eq_zero_iff] at hlen
  exact hrest hlen

/-- Decimal digits are zeros and the digits that their number is written with. -/
theorem exists_zeros_append_toDigits {cs : List Char} (hne : cs ≠ []) (hcs : ∀ c ∈ cs, c.isDigit) :
    ∃ k, cs = List.replicate k '0' ++ Nat.toDigits 10 (Nat.ofDigitChars 10 cs 0) := by
  induction cs using List.reverseRecOn with
  | nil => exact absurd rfl hne
  | append_singleton front c ih =>
    obtain ⟨d, hd, rfl⟩ := exists_digitChar_of_isDigit (hcs c (by simp))
    have hvalue : Nat.ofDigitChars 10 (front ++ [Nat.digitChar d]) 0 = 10 * Nat.ofDigitChars 10 front 0 + d := by
      rw [Nat.ofDigitChars_append, Nat.ofDigitChars_cons_digitChar_of_lt_ten hd, Nat.ofDigitChars_nil]
    have hlast : Nat.toDigits 10 d = [Nat.digitChar d] := Nat.toDigits_of_lt_base hd
    rw [hvalue]
    by_cases hfront : front = []
    · subst hfront
      refine ⟨0, ?_⟩
      rw [Nat.ofDigitChars_nil, Nat.mul_zero, Nat.zero_add, hlast]
      rfl
    · obtain ⟨k, hk⟩ := ih hfront fun c hc => hcs c (List.mem_append_left _ hc)
      by_cases hzero : Nat.ofDigitChars 10 front 0 = 0
      · -- there were only zeros so far, and the one that stood for their number is in front of a digit now
        rw [hzero, Nat.toDigits_zero, ← List.replicate_succ'] at hk
        refine ⟨k + 1, ?_⟩
        rw [hzero, Nat.mul_zero, Nat.zero_add, hlast, ← hk]
      · refine ⟨k, ?_⟩
        rw [← Nat.toDigits_append_toDigits (by decide) (Nat.pos_of_ne_zero hzero) hd, hlast, ← List.append_assoc, ← hk]

/-- Without the zeros in front, decimal digits are those that their number is written with. -/
theorem padsTo_toDigits {cs : List Char} (hne : cs ≠ []) (hcs : ∀ c ∈ cs, c.isDigit) :
    PadsTo cs (Nat.toDigits 10 (Nat.ofDigitChars 10 cs 0)) :=
  ⟨exists_zeros_append_toDigits hne hcs, Nat.toDigits_ne_nil, not_isPadded_toDigits _⟩

/-- Digits from which no zero can be left out have none in front of them. -/
theorem PadsTo.eq_iff {cs plain : List Char} (h : PadsTo cs plain) : plain = cs ↔ ¬ IsPadded cs := by
  constructor
  · rintro rfl
    exact h.not_padded
  · intro hcs
    obtain ⟨k, rfl⟩ := h.zeros
    cases k with
    | zero => rfl
    | succ k =>
      refine absurd ⟨List.replicate k '0' ++ plain, ?_, rfl⟩ hcs
      exact List.append_ne_nil_of_right_ne_nil _ h.ne_nil

/-! ## Hexadecimal digits -/

theorem hexValue?_digitChar : ∀ d < 16, hexValue? (Nat.digitChar d) = some d := by
  decide

theorem isHexDigit_of_mem_hexDigits {n : Nat} {c : Char} (h : c ∈ hexDigits n) : isHexDigit c = true := by
  obtain ⟨d, hd, rfl⟩ := exists_digit_of_mem_toDigits (by decide) h
  rw [isHexDigit, hexValue?_digitChar d hd]
  rfl

theorem hexNumber_concat {c : Char} {d : Nat} (h : hexValue? c = some d) (cs : List Char) :
    hexNumber (cs ++ [c]) = 16 * hexNumber cs + d := by
  simp [hexNumber, h]

/-- **A number is read from its hexadecimal digits.** -/
theorem hexNumber_hexDigits (n : Nat) : hexNumber (hexDigits n) = n := by
  induction n using Nat.strongRecOn with
  | ind n ih =>
    rw [hexDigits, Nat.toDigits_eq_if (by decide)]
    split
    · next hn => simp [hexNumber, hexValue?_digitChar n hn]
    · next hn =>
      have hfront : hexNumber (Nat.toDigits 16 (n / 16)) = n / 16 := ih (n / 16) (by omega)
      rw [hexNumber_concat (hexValue?_digitChar _ (Nat.mod_lt n (by decide))), hfront]
      omega

end Hyperlink.Text
