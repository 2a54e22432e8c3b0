import Hyperlink.Block
import Mathlib.Data.List.Basic

/-!
# Hyperlink.Proofs.Block.Grammar — the grammar of block references

* `IsNumber`, `IsRange`: the texts that are read as a number of 32 bits and as what qualifies a block.
* `readSuffix_isRange`: `readSuffix` reads exactly these texts as a range; `readSuffix_suffix`: and a written range as
  itself.
* `BlockRef.IsStable`: the references that are read back from their own text.
* `parse?_render_iff`: a reference is read back from its text iff it is stable; all references that are read are.
-/

namespace Hyperlink

namespace BlockRange

/-! ## Numbers -/

/-- One or more digits that write a number of at most 32 bits. -/
structure IsNumber (cs : List Char) : Prop where
  ne_nil : cs ≠ []
  isDigit : ∀ c ∈ cs, c.isDigit
  le : Nat.ofDigitChars 10 cs 0 ≤ 4294967295

theorem number?_eq_some {cs : List Char} {n : UInt32} :
    number? cs = some n ↔ IsNumber cs ∧ n = UInt32.ofNat (Nat.ofDigitChars 10 cs 0) := by
  have hsize : UInt32.size = 4294967295 + 1 := rfl
  unfold number?
  split
  · next h =>
    refine ⟨fun hn => by simp at hn, fun ⟨hn, _⟩ => ?_⟩
    rcases h with h | h
    · exact absurd h hn.ne_nil
    · exact absurd (List.all_eq_true.mpr hn.isDigit) h
  · next h =>
    simp only [not_or, not_not, List.all_eq_true] at h
    simp only [hsize, Nat.lt_succ_iff]
    split
    · next hle => exact ⟨fun hn => ⟨⟨h.1, h.2, hle⟩, (Option.some.inj hn).symm⟩, fun hn => by rw [hn.2]⟩
    · next hgt => exact ⟨fun hn => by simp at hn, fun hn => absurd hn.1.le hgt⟩

theorem isNumber_digits (n : UInt32) : IsNumber (digits n) := by
  refine ⟨Nat.toDigits_ne_nil, fun c hc => Nat.isDigit_of_mem_toDigits (by decide) (by decide) hc, ?_⟩
  rw [digits, Nat.ofDigitChars_ten_toDigits]
  have := n.toNat_lt
  omega

/-- A number that is written is read back. -/
theorem number?_digits (n : UInt32) : number? (digits n) = some n := by
  rw [number?_eq_some, digits, Nat.ofDigitChars_ten_toDigits]
  exact ⟨isNumber_digits n, by simp⟩

theorem not_mem_of_isNumber {cs : List Char} (h : IsNumber cs) {c : Char} (hc : c.isDigit = false) : c ∉ cs := by
  intro hmem
  simp [h.isDigit c hmem] at hc

/-! ## Ranges -/

/-- `+`, or two numbers in brackets with a colon between them. -/
def IsRange (cs : List Char) : Prop :=
  cs = ['+'] ∨ ∃ start stop, cs = '[' :: (start ++ ':' :: (stop ++ [']'])) ∧ IsNumber start ∧ IsNumber stop

theorem span?_brackets {start stop : List Char} (hs : ':' ∉ start) (ht : ']' ∉ stop) :
    span? (start ++ ':' :: (stop ++ [']'])) = (number? start).bind fun a => (number? stop).map (span a) := by
  unfold span?
  rw [Text.cutAt_append hs]
  simp only
  rw [Text.cutAt_append ht]
  cases ha : number? start with
  | none => simp
  | some a => cases hb : number? stop <;> simp [hb]

theorem span?_eq_some {cs : List Char} {r : BlockRange} (h : span? cs = some r) :
    ∃ start stop a b, cs = start ++ ':' :: (stop ++ [']']) ∧ number? start = some a ∧ number? stop = some b ∧
      r = span a b := by
  unfold span? at h
  split at h
  · simp at h
  · next start rest hstart =>
    split at h
    · next stop hstop =>
      obtain ⟨rfl, -⟩ := Text.cutAt_eq_some hstart
      obtain ⟨rfl, -⟩ := Text.cutAt_eq_some hstop
      cases ha : number? start with
      | none => simp [ha] at h
      | some a =>
        cases hb : number? stop with
        | none => simp [ha, hb] at h
        | some b =>
          refine ⟨start, stop, a, b, rfl, ha, hb, ?_⟩
          simpa [ha, hb] using h.symm
    · simp at h

theorem readSuffix_eq_none_iff_nil {cs : List Char} : readSuffix cs = some none ↔ cs = [] := by
  unfold readSuffix
  split
  · simp
  · simp
  · next cs => cases span? cs <;> simp
  · next h _ _ => simpa using h

/-- A range that is written is read back. -/
theorem readSuffix_suffix {r : BlockRange} (h : r ≠ expanded false) : readSuffix r.suffix = some (some r) := by
  cases r with
  | span start stop =>
    have hs := not_mem_of_isNumber (isNumber_digits start) (show ':'.isDigit = false by decide)
    have ht := not_mem_of_isNumber (isNumber_digits stop) (show ']'.isDigit = false by decide)
    show (span? (digits start ++ ':' :: digits stop ++ [']'])).map some = _
    rw [List.append_assoc, List.cons_append, span?_brackets hs ht, number?_digits, number?_digits]
    rfl
  | expanded on =>
    cases on with
    | true => rfl
    | false => exact absurd rfl h

/-- The texts that are read as a range. -/
theorem readSuffix_isRange {cs : List Char} : IsRange cs ↔ ∃ r, readSuffix cs = some (some r) := by
  constructor
  · rintro (rfl | ⟨start, stop, rfl, hs, ht⟩)
    · exact ⟨expanded true, rfl⟩
    · refine ⟨span (UInt32.ofNat (Nat.ofDigitChars 10 start 0)) (UInt32.ofNat (Nat.ofDigitChars 10 stop 0)), ?_⟩
      show (span? (start ++ ':' :: (stop ++ [']']))).map some = _
      rw [span?_brackets (not_mem_of_isNumber hs (by decide)) (not_mem_of_isNumber ht (by decide)),
        number?_eq_some.mpr ⟨hs, rfl⟩, number?_eq_some.mpr ⟨ht, rfl⟩]
      rfl
  · rintro ⟨r, h⟩
    unfold readSuffix at h
    split at h
    · simp at h
    · exact Or.inl rfl
    · next cs =>
      obtain ⟨r', hr', -⟩ := Option.map_eq_some_iff.mp h
      obtain ⟨start, stop, a, b, rfl, ha, hb, -⟩ := span?_eq_some hr'
      exact Or.inr ⟨start, stop, rfl, (number?_eq_some.mp ha).1, (number?_eq_some.mp hb).1⟩
    · simp at h

/-- No text is read as a block that is explicitly not expanded. -/
theorem readSuffix_ne_expanded_false (cs : List Char) : readSuffix cs ≠ some (some (expanded false)) := by
  intro h
  unfold readSuffix at h
  split at h
  · simp at h
  · simp at h
  · obtain ⟨r', hr', he⟩ := Option.map_eq_some_iff.mp h
    obtain ⟨start, stop, a, b, -, -, -, rfl⟩ := span?_eq_some hr'
    simp at he
  · simp at h

end BlockRange

namespace BlockRef

open BlockRange (IsRange readSuffix)

/-! ## Stable references -/

/-- The references that are read back from their own text: one with a range has a block id of eight characters, and
one without has any text that is not read as a block id with a range. -/
def IsStable (b : BlockRef) : Prop :=
  match b.range with
  | some (.expanded false) => False
  | some _ => isId b.blockId.toList
  | none => b.blockId ≠ "" ∧ ¬ ∃ id suffix, b.blockId.toList = id ++ suffix ∧ isId id ∧ IsRange suffix

theorem isStable_none {id : String} :
    IsStable ⟨id, none⟩ ↔ id ≠ "" ∧ ¬ ∃ front suffix, id.toList = front ++ suffix ∧ isId front ∧ IsRange suffix :=
  Iff.rfl

theorem isStable_some {id : String} {r : BlockRange} (h : r ≠ .expanded false) :
    IsStable ⟨id, some r⟩ ↔ isId id.toList := by
  cases r with
  | span start stop => exact Iff.rfl
  | expanded on =>
    cases on with
    | true => exact Iff.rfl
    | false => exact absurd rfl h

theorem length_of_isId {id : List Char} (h : isId id) : id.length = idLength := by
  simp only [isId, Bool.and_eq_true, decide_eq_true_eq] at h
  exact h.1

theorem IsStable.blockId_ne {b : BlockRef} (h : b.IsStable) : b.blockId ≠ "" := by
  obtain ⟨id, range⟩ := b
  cases range with
  | none => exact h.1
  | some r =>
    have hr : r ≠ .expanded false := by
      rintro rfl
      exact h
    have hlen := length_of_isId ((isStable_some hr).mp h)
    rintro rfl
    simp [idLength] at hlen

theorem IsStable.range_ne {b : BlockRef} (h : b.IsStable) : b.range ≠ some (.expanded false) := by
  intro hr
  rw [IsStable, hr] at h
  exact h

/-- The text begins with a block id. -/
theorem parse?_append {id : List Char} (h : isId id) (suffix : List Char) :
    parse? (String.ofList (id ++ suffix)) =
      match readSuffix suffix with
      | some range => some ⟨String.ofList id, range⟩
      | none => some ⟨String.ofList (id ++ suffix), none⟩ := by
  have hlen := length_of_isId h
  have hne : id ++ suffix ≠ [] := by
    intro hnil
    rw [(List.append_eq_nil_iff.mp hnil).1] at hlen
    simp [idLength] at hlen
  unfold parse?
  cases hsuffix : readSuffix suffix <;>
    simp only [String.toList_ofList, if_neg hne, List.take_left' hlen, List.drop_left' hlen, if_pos h, hsuffix]

/-- The text begins with no block id. -/
theorem parse?_of_not_isId {text : String} (hne : text ≠ "")
    (h : ∀ id suffix, text.toList = id ++ suffix → ¬ isId id) : parse? text = some ⟨text, none⟩ := by
  unfold parse?
  simp only
  rw [if_neg (by simpa using hne), if_neg (h _ _ (List.take_append_drop idLength text.toList).symm)]

@[simp] theorem parse?_empty : parse? "" = none := rfl

/-- A text begins with a block id or not. -/
theorem exists_isId_or (text : String) :
    (∃ id suffix, text = String.ofList (id ++ suffix) ∧ isId id) ∨
      ∀ id suffix, text.toList = id ++ suffix → ¬ isId id := by
  by_cases h : ∃ id suffix, text.toList = id ++ suffix ∧ isId id
  · obtain ⟨id, suffix, ht, hid⟩ := h
    exact Or.inl ⟨id, suffix, by rw [← ht, String.ofList_toList], hid⟩
  · exact Or.inr fun id suffix ht hid => h ⟨id, suffix, ht, hid⟩

/-- Behind a block id stands a range iff one is read there, as the text is cut behind its id in one way only. -/
theorem exists_isRange_iff {id : List Char} (h : isId id) (suffix : List Char) :
    (∃ front back, id ++ suffix = front ++ back ∧ isId front ∧ IsRange back) ↔
      ∃ r, readSuffix suffix = some (some r) := by
  rw [← BlockRange.readSuffix_isRange]
  constructor
  · rintro ⟨front, back, htext, hfront, hback⟩
    obtain ⟨-, rfl⟩ := List.append_inj htext (by rw [length_of_isId h, length_of_isId hfront])
    exact hback
  · intro hsuffix
    exact ⟨id, suffix, rfl, h, hsuffix⟩

/-- Every reference that is read is stable. -/
theorem isStable_of_parse? {text : String} {b : BlockRef} (h : parse? text = some b) : b.IsStable := by
  have hne : text ≠ "" := by rintro rfl; simp at h
  rcases exists_isId_or text with ⟨id, suffix, rfl, hid⟩ | hno
  · have hrange := exists_isRange_iff hid suffix
    rw [parse?_append hid] at h
    cases hr : readSuffix suffix with
    | none =>
      rw [hr] at h hrange
      obtain rfl := Option.some.inj h
      refine isStable_none.mpr ⟨hne, ?_⟩
      rw [String.toList_ofList, hrange]
      simp
    | some range =>
      rw [hr] at h hrange
      obtain rfl := Option.some.inj h
      cases range with
      | none =>
        obtain rfl := BlockRange.readSuffix_eq_none_iff_nil.mp hr
        rw [List.append_nil] at hne hrange
        refine isStable_none.mpr ⟨hne, ?_⟩
        rw [String.toList_ofList, hrange]
        simp
      | some r =>
        have hne' : r ≠ .expanded false := by
          rintro rfl
          exact BlockRange.readSuffix_ne_expanded_false suffix hr
        rw [isStable_some hne', String.toList_ofList]
        exact hid
  · rw [parse?_of_not_isId hne hno] at h
    obtain rfl := Option.some.inj h
    exact isStable_none.mpr ⟨hne, fun ⟨id, suffix, ht, hid, _⟩ => hno id suffix ht hid⟩

/-- A stable reference is read back from its text. -/
theorem parse?_render {b : BlockRef} (h : b.IsStable) : parse? b.render = some b := by
  obtain ⟨blockId, range⟩ := b
  cases range with
  | none =>
    obtain ⟨hne, hrange⟩ := isStable_none.mp h
    have hrender : render ⟨blockId, none⟩ = blockId := by simp [render, BlockRange.renderOptional]
    rw [hrender]
    rcases exists_isId_or blockId with ⟨id, suffix, rfl, hid⟩ | hno
    · rw [parse?_append hid]
      cases hr : readSuffix suffix with
      | none => rfl
      | some range =>
        cases range with
        | none =>
          rw [BlockRange.readSuffix_eq_none_iff_nil] at hr
          simp [hr]
        | some r =>
          have hr' : IsRange suffix := BlockRange.readSuffix_isRange.mpr ⟨r, hr⟩
          exact absurd ⟨id, suffix, String.toList_ofList, hid, hr'⟩ hrange
    · exact parse?_of_not_isId hne hno
  | some r =>
    have hr : r ≠ .expanded false := by
      rintro rfl
      exact h
    rw [isStable_some hr] at h
    have hrender : render ⟨blockId, some r⟩ = String.ofList (blockId.toList ++ r.suffix) := by
      simp [render, BlockRange.renderOptional, BlockRange.render]
    rw [hrender, parse?_append h, BlockRange.readSuffix_suffix hr, String.ofList_toList]

/-- **The references that are read back from their own text** are the stable ones. -/
theorem parse?_render_iff {b : BlockRef} : parse? b.render = some b ↔ b.IsStable :=
  ⟨isStable_of_parse?, parse?_render⟩

end BlockRef

end Hyperlink
