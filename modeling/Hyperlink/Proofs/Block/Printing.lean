import Hyperlink.Proofs.Block.Reading
import Hyperlink.Proofs.Text.Digits

/-!
# Hyperlink.Proofs.Block.Printing — a reference that is read and written again

* `Writes.padsTo`: a number is written with the digits it was read from, without the zeros in front.
* `InBrackets.parse?`: numbers in brackets are read with their values; `InBrackets.render`: and written without zeros in
  front.
* `render_of_not_inBrackets`: any other text is written as it was read.
* `PrintsBack`: what becomes of a text; `isStable_iff`: the references that are read back, in terms of their parts.
* `printing_inverts_reading`: reading and writing undo each other as far as they can.
-/

namespace Hyperlink

open Text (IsPadded PadsTo)

namespace BlockRange

theorem IsNumber.exists_writes {cs : List Char} (h : IsNumber cs) : ∃ n, Writes cs n :=
  ⟨_, number?_iff_writes.mp (number?_eq_some.mpr ⟨h, rfl⟩)⟩

/-- A number is written with the digits it was read from, without the zeros in front. -/
theorem Writes.padsTo {cs : List Char} {n : UInt32} (h : Writes cs n) : PadsTo cs (digits n) := by
  have hpads := Text.padsTo_toDigits h.ne_nil h.isDigit
  rw [h.value_eq] at hpads
  exact hpads

end BlockRange

namespace BlockRef

open BlockRange (IsNumber IsRange Writes digits)

/-! ## Numbers in brackets -/

theorem InBrackets.parse? {text id : String} {front back : List Char} {start stop : UInt32}
    (h : InBrackets text id front back) (hfront : Writes front start) (hback : Writes back stop) :
    BlockRef.parse? text = some ⟨id, some (.span start stop)⟩ :=
  parse?_span_iff.mpr ⟨front, back, h, hfront, hback⟩

theorem InBrackets.exists_parse? {text id : String} {front back : List Char} (h : InBrackets text id front back)
    (hfront : IsNumber front) (hback : IsNumber back) :
    ∃ start stop, Writes front start ∧ Writes back stop ∧ BlockRef.parse? text = some ⟨id, some (.span start stop)⟩ := by
  obtain ⟨start, hstart⟩ := hfront.exists_writes
  obtain ⟨stop, hstop⟩ := hback.exists_writes
  exact ⟨start, stop, hstart, hstop, h.parse? hstart hstop⟩

/-- Numbers in brackets are written without zeros in front. -/
theorem InBrackets.render {text id : String} {front back : List Char} (h : InBrackets text id front back)
    (start stop : UInt32) :
    InBrackets (BlockRef.render ⟨id, some (.span start stop)⟩) id (digits start) (digits stop) := by
  refine ⟨h.1, ?_⟩
  simp [BlockRef.render, BlockRange.renderOptional, BlockRange.render, BlockRange.suffix]

/-- A text has one pair of numbers in brackets only. -/
theorem InBrackets.unique {text id : String} {front back front' back' : List Char}
    (h : InBrackets text id front back) (h' : InBrackets text id front' back') (hfront : IsNumber front)
    (hfront' : IsNumber front') : front = front' ∧ back = back' := by
  have htext := h.2.symm.trans h'.2
  rw [List.append_cancel_left_eq, List.cons.injEq] at htext
  -- the first colon stands behind the first number
  have hcolon : ':'.isDigit = false := by decide
  have hcut := Text.cutAt_append (BlockRange.not_mem_of_isNumber hfront hcolon) (back ++ [']'])
  rw [htext.2, Text.cutAt_append (BlockRange.not_mem_of_isNumber hfront' hcolon)] at hcut
  simpa [eq_comm] using hcut

/-- The text is a block id with two numbers in brackets behind it, and a zero could be left out in front of one. -/
def HasPadding (text : String) : Prop :=
  ∃ id front back, InBrackets text id front back ∧ IsNumber front ∧ IsNumber back ∧ (IsPadded front ∨ IsPadded back)

/-- Numbers in brackets are written as they were read iff no zero stands in front of them. -/
theorem InBrackets.render_eq_iff {text id : String} {front back : List Char} {start stop : UInt32}
    (h : InBrackets text id front back) (hfront : Writes front start) (hback : Writes back stop) :
    BlockRef.render ⟨id, some (.span start stop)⟩ = text ↔ ¬ IsPadded front ∧ ¬ IsPadded back := by
  rw [← hfront.padsTo.eq_iff, ← hback.padsTo.eq_iff]
  constructor
  · intro heq
    have hrender := h.render start stop
    rw [heq] at hrender
    exact hrender.unique h (BlockRange.isNumber_digits start) hfront.isNumber
  · rintro ⟨hstart, hstop⟩
    apply String.toList_injective
    rw [(h.render start stop).2, hstart, hstop, h.2]

/-! ## All texts -/

/-- A text without numbers in brackets is written as it was read. -/
theorem render_of_not_inBrackets {text : String} {b : BlockRef} (hparse : parse? text = some b)
    (h : ∀ id start stop, ¬ WithSpan text id start stop) : b.render = text := by
  obtain ⟨id, range⟩ := b
  cases range with
  | none =>
    rw [eq_of_parse?_whole hparse]
    simp [render, BlockRange.renderOptional]
  | some r =>
    cases r with
    | span start stop => exact absurd (parse?_span_iff.mp hparse) (h id start stop)
    | expanded on =>
      cases on with
      | true =>
        apply String.toList_injective
        rw [(parse?_plus_iff.mp hparse).2]
        simp [render, BlockRange.renderOptional, BlockRange.render, BlockRange.suffix]
      | false => exact absurd rfl (isStable_of_parse? hparse).range_ne

/-- What becomes of a text that is read as `b` and written again. -/
structure PrintsBack (text : String) (b : BlockRef) : Prop where
  again : parse? b.render = some b
  /-- Only a text with a zero in front of a number changes. -/
  same_iff : b.render = text ↔ ¬ HasPadding text
  /-- Only zeros in front of numbers are left out. -/
  only_zeros : ∀ id front back, InBrackets text id front back → IsNumber front → IsNumber back →
    ∃ front' back', InBrackets b.render id front' back' ∧ PadsTo front front' ∧ PadsTo back back'

theorem printsBack_of_parse? {text : String} {b : BlockRef} (h : parse? text = some b) : PrintsBack text b where
  again := parse?_render (isStable_of_parse? h)
  same_iff := by
    constructor
    · rintro hsame ⟨id, front, back, hin, hfront, hback, hpadded⟩
      obtain ⟨start, stop, hstart, hstop, hparse⟩ := hin.exists_parse? hfront hback
      obtain rfl := Option.some.inj (h.symm.trans hparse)
      obtain ⟨hnot, hnot'⟩ := (hin.render_eq_iff hstart hstop).mp hsame
      exact hpadded.elim hnot hnot'
    · intro hpadding
      by_cases hspan : ∃ id start stop, WithSpan text id start stop
      · obtain ⟨id, start, stop, front, back, hin, hstart, hstop⟩ := hspan
        obtain rfl := Option.some.inj (h.symm.trans (hin.parse? hstart hstop))
        rw [hin.render_eq_iff hstart hstop, ← not_or]
        intro hpadded
        exact hpadding ⟨id, front, back, hin, hstart.isNumber, hstop.isNumber, hpadded⟩
      · simp only [not_exists] at hspan
        exact render_of_not_inBrackets h hspan
  only_zeros id front back hin hfront hback := by
    obtain ⟨start, stop, hstart, hstop, hparse⟩ := hin.exists_parse? hfront hback
    obtain rfl := Option.some.inj (h.symm.trans hparse)
    exact ⟨_, _, hin.render start stop, hstart.padsTo, hstop.padsTo⟩

/-! ## All references -/

/-- The references that are read back: with a range, those whose block id is one; without, those that no text of a block
id and a range makes up. -/
theorem isStable_iff {b : BlockRef} :
    b.IsStable ↔
      (∃ r, b.range = some r ∧ r ≠ .expanded false ∧ IsBlockId b.blockId.toList) ∨
      (b.range = none ∧ b.blockId ≠ "" ∧
        ¬ ∃ id suffix, b.blockId.toList = id ++ suffix ∧ IsBlockId id ∧ IsRange suffix) := by
  obtain ⟨blockId, range⟩ := b
  cases range with
  | none => simp [isStable_none, isId_iff]
  | some r =>
    by_cases hr : r = .expanded false
    · subst hr
      refine iff_of_false id ?_
      simp
    · rw [isStable_some hr, isId_iff]
      simp [hr]

/-- **Reading and writing undo each other as far as they can.**  A text is written as it was read but for zeros in front
of its numbers, and exactly the references of the two forms on the right are read back. -/
theorem printing_inverts_reading :
    (∀ text : String, text ≠ "" → ∃ b, parse? text = some b ∧ PrintsBack text b) ∧
      ∀ b : BlockRef, parse? b.render = some b ↔
        (∃ r, b.range = some r ∧ r ≠ .expanded false ∧ IsBlockId b.blockId.toList) ∨
        (b.range = none ∧ b.blockId ≠ "" ∧
          ¬ ∃ id suffix, b.blockId.toList = id ++ suffix ∧ IsBlockId id ∧ IsRange suffix) := by
  constructor
  · intro text hne
    cases hparse : parse? text with
    | none => exact absurd (parse?_eq_none_iff.mp hparse) hne
    | some b => exact ⟨b, rfl, printsBack_of_parse? hparse⟩
  · intro b
    rw [parse?_render_iff, isStable_iff]

/-- A block id that holds all the marks of a range, with zeros in front of both numbers behind it. -/
theorem printing_inverts_reading_padded :
    "ab[c:d+][0007:00]" ≠ "" ∧
      ∃ b, parse? "ab[c:d+][0007:00]" = some b ∧ PrintsBack "ab[c:d+][0007:00]" b ∧ b.render = "ab[c:d+][7:0]" := by
  have hne : "ab[c:d+][0007:00]" ≠ "" := by decide
  have hread : parse? "ab[c:d+][0007:00]" = some ⟨"ab[c:d+]", some (.span 7 0)⟩ := by decide +kernel
  obtain ⟨b, hparse, hprints⟩ := printing_inverts_reading.1 "ab[c:d+][0007:00]" hne
  obtain rfl := Option.some.inj (hread.symm.trans hparse)
  exact ⟨hne, _, hparse, hprints, by decide +kernel⟩

end BlockRef

end Hyperlink
