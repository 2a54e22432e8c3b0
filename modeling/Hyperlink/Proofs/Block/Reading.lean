import Hyperlink.Proofs.Block.Grammar

/-!
# Hyperlink.Proofs.Block.Reading — which texts refer to a part of a block

* `IsBlockId`, `Writes`: the texts of a block id and of a number of 32 bits.
* `WithPlus`, `WithSpan`: the two forms of a text that qualifies the block; `InBrackets` shows the second one's parts.
* `readSuffix_eq_some_iff`: what stands behind the id in each form.
* `parse?_ranged_iff`: a text is read with a range iff a block id and a text of that range make it up.
* `reading_meets_grammar`: every text is read by its form, and one of neither form is kept whole.
-/

namespace Hyperlink

/-! ## The grammar -/

namespace BlockRange

/-- One or more decimal digits that write `n`, also with zeros in front. -/
structure Writes (cs : List Char) (n : UInt32) : Prop where
  ne_nil : cs ≠ []
  isDigit : ∀ c ∈ cs, c.isDigit
  value_eq : Nat.ofDigitChars 10 cs 0 = n.toNat

end BlockRange

namespace BlockRef

open BlockRange (Writes)

/-- Eight characters, none of them blank. -/
structure IsBlockId (id : List Char) : Prop where
  length_eq : id.length = 8
  not_blank : ∀ c ∈ id, ¬ Text.isBlank c

/-- The text is the block id `id` with a plus behind it. -/
def WithPlus (text id : String) : Prop := IsBlockId id.toList ∧ text.toList = id.toList ++ ['+']

/-- The text is the block id `id` with the texts `front` and `back` in brackets behind it. -/
def InBrackets (text id : String) (front back : List Char) : Prop :=
  IsBlockId id.toList ∧ text.toList = id.toList ++ '[' :: (front ++ ':' :: (back ++ [']']))

/-- The text is the block id `id` with two numbers in brackets behind it. -/
def WithSpan (text id : String) (start stop : UInt32) : Prop :=
  ∃ front back, InBrackets text id front back ∧ Writes front start ∧ Writes back stop

theorem isId_iff {id : List Char} : isId id ↔ IsBlockId id := by
  rw [isId, Bool.and_eq_true, decide_eq_true_eq, List.all_eq_true]
  constructor
  · intro h
    exact ⟨h.1, fun c hc => by simpa using h.2 c hc⟩
  · intro h
    exact ⟨h.length_eq, fun c hc => by simpa using h.not_blank c hc⟩

end BlockRef

/-! ## Behind the block id -/

namespace BlockRange

theorem Writes.isNumber {cs : List Char} {n : UInt32} (h : Writes cs n) : IsNumber cs := by
  refine ⟨h.ne_nil, h.isDigit, ?_⟩
  rw [h.value_eq]
  have := n.toNat_lt
  omega

/-- The numbers that are read are those that the digits write. -/
theorem number?_iff_writes {cs : List Char} {n : UInt32} : number? cs = some n ↔ Writes cs n := by
  rw [number?_eq_some]
  constructor
  · rintro ⟨h, rfl⟩
    refine ⟨h.ne_nil, h.isDigit, ?_⟩
    have hlt : Nat.ofDigitChars 10 cs 0 < 2 ^ 32 := by
      have := h.le
      omega
    rw [UInt32.toNat_ofNat_of_lt' hlt]
  · intro h
    refine ⟨h.isNumber, ?_⟩
    rw [h.value_eq, UInt32.ofNat_toNat]

/-- Two numbers in brackets are read as the part between them. -/
theorem span?_eq_some_iff {cs : List Char} {r : BlockRange} :
    span? cs = some r ↔ ∃ front back start stop, cs = front ++ ':' :: (back ++ [']']) ∧ Writes front start ∧
      Writes back stop ∧ r = span start stop := by
  constructor
  · intro h
    obtain ⟨front, back, start, stop, hcs, hfront, hback, hr⟩ := span?_eq_some h
    exact ⟨front, back, start, stop, hcs, number?_iff_writes.mp hfront, number?_iff_writes.mp hback, hr⟩
  · rintro ⟨front, back, start, stop, rfl, hfront, hback, rfl⟩
    have hcolon : ':' ∉ front := not_mem_of_isNumber hfront.isNumber (by decide)
    have hbracket : ']' ∉ back := not_mem_of_isNumber hback.isNumber (by decide)
    rw [span?_brackets hcolon hbracket, number?_iff_writes.mpr hfront, number?_iff_writes.mpr hback]
    rfl

/-- What stands behind a block id is read as a range iff it is a plus or two numbers in brackets. -/
theorem readSuffix_eq_some_iff {cs : List Char} {r : BlockRange} :
    readSuffix cs = some (some r) ↔ (cs = ['+'] ∧ r = expanded true) ∨
      ∃ front back start stop, cs = '[' :: (front ++ ':' :: (back ++ [']'])) ∧ Writes front start ∧
        Writes back stop ∧ r = span start stop := by
  constructor
  · intro h
    unfold readSuffix at h
    split at h
    · simp at h
    · exact Or.inl ⟨rfl, by simpa using h.symm⟩
    · next cs =>
      obtain ⟨r', hspan, he⟩ := Option.map_eq_some_iff.mp h
      obtain rfl := Option.some.inj he
      obtain ⟨front, back, start, stop, rfl, hfront, hback, hr⟩ := span?_eq_some_iff.mp hspan
      exact Or.inr ⟨front, back, start, stop, rfl, hfront, hback, hr⟩
    · simp at h
  · rintro (⟨rfl, rfl⟩ | ⟨front, back, start, stop, rfl, hfront, hback, rfl⟩)
    · rfl
    · have hspan := span?_eq_some_iff.mpr ⟨front, back, start, stop, rfl, hfront, hback, rfl⟩
      show (span? (front ++ ':' :: (back ++ [']']))).map some = _
      rw [hspan]
      rfl

end BlockRange

/-! ## The whole text -/

namespace BlockRef

open BlockRange (readSuffix)

/-- A text is empty, is kept whole, or is a block id and a text that is read as a range. -/
theorem parse?_cases (text : String) :
    text = "" ∧ parse? text = none ∨ text ≠ "" ∧ parse? text = some ⟨text, none⟩ ∨
      ∃ id suffix r, isId id ∧ readSuffix suffix = some (some r) ∧ text = String.ofList (id ++ suffix) ∧
        parse? text = some ⟨String.ofList id, some r⟩ := by
  by_cases hne : text = ""
  · subst hne
    exact Or.inl ⟨rfl, parse?_empty⟩
  · refine Or.inr ?_
    rcases exists_isId_or text with ⟨id, suffix, rfl, hid⟩ | hno
    · have hparse := parse?_append hid suffix
      cases hsuffix : readSuffix suffix with
      | none =>
        rw [hsuffix] at hparse
        exact Or.inl ⟨hne, hparse⟩
      | some range =>
        rw [hsuffix] at hparse
        cases range with
        | none =>
          -- nothing stands behind the id, so it is the whole text
          obtain rfl := BlockRange.readSuffix_eq_none_iff_nil.mp hsuffix
          rw [List.append_nil] at hne hparse ⊢
          exact Or.inl ⟨hne, hparse⟩
        | some r => exact Or.inr ⟨id, suffix, r, hid, hsuffix, rfl, hparse⟩
    · exact Or.inl ⟨hne, parse?_of_not_isId hne hno⟩

theorem parse?_eq_none_iff {text : String} : parse? text = none ↔ text = "" := by
  rcases parse?_cases text with ⟨htext, hparse⟩ | ⟨hne, hparse⟩ | ⟨id, suffix, r, hid, -, rfl, hparse⟩
  · simp [htext]
  · simp [hparse, hne]
  · have hne : id ≠ [] := by
      rintro rfl
      exact absurd (length_of_isId hid) (by decide)
    rw [hparse]
    simp [hne]

/-- A text is read with a range iff it is a block id and a text that is read as the range. -/
theorem parse?_ranged_iff {text id : String} {r : BlockRange} :
    parse? text = some ⟨id, some r⟩ ↔
      isId id.toList ∧ ∃ suffix, readSuffix suffix = some (some r) ∧ text.toList = id.toList ++ suffix := by
  constructor
  · intro h
    rcases parse?_cases text with ⟨-, hparse⟩ | ⟨-, hparse⟩ | ⟨front, suffix, r', hid, hsuffix, rfl, hparse⟩
    · simp [hparse] at h
    · simp [hparse] at h
    · rw [hparse] at h
      obtain ⟨rfl, rfl⟩ : String.ofList front = id ∧ r' = r := by simpa using h
      simp only [String.toList_ofList]
      exact ⟨hid, suffix, hsuffix, rfl⟩
  · rintro ⟨hid, suffix, hsuffix, htext⟩
    have hparse := parse?_append hid suffix
    rw [← htext, hsuffix, String.ofList_toList, String.ofList_toList] at hparse
    exact hparse

/-- A reference without a range is the whole text. -/
theorem eq_of_parse?_whole {text id : String} (h : parse? text = some ⟨id, none⟩) : id = text := by
  rcases parse?_cases text with ⟨-, hparse⟩ | ⟨-, hparse⟩ | ⟨_, _, _, -, -, -, hparse⟩
  · simp [hparse] at h
  · simpa [hparse] using h.symm
  · simp [hparse] at h

theorem parse?_plus_iff {text id : String} :
    parse? text = some ⟨id, some (.expanded true)⟩ ↔ WithPlus text id := by
  rw [parse?_ranged_iff, isId_iff]
  simp [BlockRange.readSuffix_eq_some_iff, WithPlus]

theorem parse?_span_iff {text id : String} {start stop : UInt32} :
    parse? text = some ⟨id, some (.span start stop)⟩ ↔ WithSpan text id start stop := by
  rw [parse?_ranged_iff, isId_iff]
  constructor
  · rintro ⟨hid, suffix, hsuffix, htext⟩
    rcases BlockRange.readSuffix_eq_some_iff.mp hsuffix with ⟨-, hr⟩ | ⟨front, back, a, b, rfl, hfront, hback, hr⟩
    · cases hr
    · cases hr
      exact ⟨front, back, ⟨hid, htext⟩, hfront, hback⟩
  · rintro ⟨front, back, ⟨hid, htext⟩, hfront, hback⟩
    exact ⟨hid, _, BlockRange.readSuffix_eq_some_iff.mpr (Or.inr ⟨front, back, _, _, rfl, hfront, hback, rfl⟩), htext⟩

/-- What is to be read from a text. -/
structure MeetsGrammar (text : String) : Prop where
  none_iff : parse? text = none ↔ text = ""
  plus_iff : ∀ id, parse? text = some ⟨id, some (.expanded true)⟩ ↔ WithPlus text id
  span_iff : ∀ id start stop, parse? text = some ⟨id, some (.span start stop)⟩ ↔ WithSpan text id start stop
  /-- A text of neither form is kept whole. -/
  whole_iff : ∀ id, parse? text = some ⟨id, none⟩ ↔
    id = text ∧ text ≠ "" ∧ (∀ id', ¬ WithPlus text id') ∧ ∀ id' start stop, ¬ WithSpan text id' start stop

/-- **Reading follows the grammar of block references**: of every text. -/
theorem reading_meets_grammar (text : String) : MeetsGrammar text where
  none_iff := parse?_eq_none_iff
  plus_iff _ := parse?_plus_iff
  span_iff _ _ _ := parse?_span_iff
  whole_iff id := by
    constructor
    · intro h
      refine ⟨eq_of_parse?_whole h, ?_, fun id' hplus => ?_, fun id' start stop hspan => ?_⟩
      · rintro rfl
        simp at h
      · rw [parse?_plus_iff.mpr hplus] at h
        simp at h
      · rw [parse?_span_iff.mpr hspan] at h
        simp at h
    · rintro ⟨rfl, hne, hplus, hspan⟩
      cases hparse : parse? id with
      | none => exact absurd (parse?_eq_none_iff.mp hparse) hne
      | some b =>
        obtain ⟨front, range⟩ := b
        cases range with
        | none => rw [eq_of_parse?_whole hparse]
        | some r =>
          cases r with
          | span start stop => exact absurd (parse?_span_iff.mp hparse) (hspan front start stop)
          | expanded on =>
            cases on with
            | true => exact absurd (parse?_plus_iff.mp hparse) (hplus front)
            | false => exact absurd rfl (isStable_of_parse? hparse).range_ne

/-- A block id may hold all the marks of a range. -/
example : parse? "a+[0:b]c[007:4294967295]" = some ⟨"a+[0:b]c", some (.span 7 4294967295)⟩ := by
  decide +kernel

end BlockRef

end Hyperlink
