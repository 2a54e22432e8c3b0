import Hyperlink.Text.Cut
import Mathlib.Data.List.Basic

/-!
# Hyperlink.Proofs.Text.Occurrence — the first place at which a text stands in another

* `StandsFirst sep text before after`: `sep` stands in `text` between the two parts, and nowhere further to the front.
* `cut_eq_none_iff`, `cut_eq_some_iff`: `cut` finds this place, and finds none only where `sep` does not occur.
* `StandsFirst.append_right`: the first place stays where it is when the text goes on.
* `standsFirst_of_not_mem`, `standsFirst_append`: a text has its first place behind every text without its first
  character; and if that does not come again in it, behind every text in which it does not occur.
-/

namespace Hyperlink.Text

/-- The text `sep` stands between the two parts, and at no place further to the front. -/
structure StandsFirst (sep text before after : List Char) : Prop where
  eq : text = before ++ (sep ++ after)
  first : ∀ b a, text = b ++ (sep ++ a) → before.length ≤ b.length

namespace StandsFirst

variable {sep text before after before' after' : List Char}

theorem occurs (h : StandsFirst sep text before after) : sep <:+: text :=
  ⟨before, after, by rw [h.eq, List.append_assoc]⟩

/-- There is one first place. -/
theorem unique (h : StandsFirst sep text before after) (h' : StandsFirst sep text before' after') :
    before = before' ∧ after = after' := by
  have hlen : before.length = before'.length := Nat.le_antisymm (h.first _ _ h'.eq) (h'.first _ _ h.eq)
  obtain ⟨hbefore, hrest⟩ := List.append_inj (h.eq.symm.trans h'.eq) hlen
  exact ⟨hbefore, List.append_cancel_left hrest⟩

/-- The text does not occur in front of its first place. -/
theorem not_occurs_before (hne : sep ≠ []) (h : StandsFirst sep text before after) : ¬ sep <:+: before := by
  rintro ⟨b, a, rfl⟩
  have hle := h.first b (a ++ (sep ++ after)) (by rw [h.eq]; simp)
  have hpos := List.length_pos_of_ne_nil hne
  simp only [List.length_append] at hle
  omega

/-- The first place stays the first one when the text goes on. -/
theorem append_right (h : StandsFirst sep text before after) (more : List Char) :
    StandsFirst sep (text ++ more) before (after ++ more) where
  eq := by
    rw [h.eq]
    simp
  first b a htext := Nat.not_lt.mp fun hlt => by
    -- what stands further to the front ends within the text, and not in what was added
    have hlen : (b ++ sep).length ≤ text.length := by
      rw [h.eq]
      simp only [List.length_append]
      omega
    have hfront : b ++ sep <+: text ++ more := ⟨a, by rw [htext, List.append_assoc]⟩
    obtain ⟨a', ha'⟩ := List.prefix_of_prefix_length_le hfront (List.prefix_append text more) hlen
    have hle := h.first b a' (by rw [← ha', List.append_assoc])
    omega

end StandsFirst

/-! ## The cut is made at the first place -/

theorem cut_eq_none_iff {sep text : List Char} : cut sep text = none ↔ ¬ sep <:+: text := by
  induction text with
  | nil => by_cases hsep : sep = [] <;> simp [cut, hsep]
  | cons c text ih =>
    rw [List.infix_cons_iff, not_or, ← ih, cut]
    cases hstart : sep.isPrefixOf? (c :: text) with
    | none =>
      have hno : ¬ sep <+: c :: text := by
        rintro ⟨rest, hrest⟩
        rw [List.isPrefixOf?_eq_some_iff_append_eq.mpr hrest] at hstart
        simp at hstart
      simp [hno]
    | some rest =>
      have hyes : sep <+: c :: text := ⟨rest, List.isPrefixOf?_eq_some_iff_append_eq.mp hstart⟩
      simp [hyes]

theorem cut_eq_some {sep text before after : List Char} (h : cut sep text = some (before, after)) :
    text = before ++ (sep ++ after) := by
  induction text generalizing before with
  | nil =>
    unfold cut at h
    split at h
    · next hsep =>
      obtain ⟨rfl, rfl⟩ : [] = before ∧ [] = after := by simpa using h
      simp [hsep]
    · simp at h
  | cons c text ih =>
    unfold cut at h
    split at h
    · next rest hrest =>
      obtain ⟨rfl, rfl⟩ : [] = before ∧ rest = after := by simpa using h
      exact (List.isPrefixOf?_eq_some_iff_append_eq.mp hrest).symm
    · obtain ⟨⟨before', after'⟩, hcut, hpair⟩ := Option.map_eq_some_iff.mp h
      obtain ⟨rfl, rfl⟩ : c :: before' = before ∧ after' = after := by simpa using hpair
      rw [ih hcut, List.cons_append]

theorem length_le_of_cut {sep text before after : List Char} (h : cut sep text = some (before, after)) :
    ∀ b a, text = b ++ (sep ++ a) → before.length ≤ b.length := by
  induction text generalizing before with
  | nil =>
    obtain rfl := (List.append_eq_nil_iff.mp (cut_eq_some h).symm).1
    simp
  | cons c text ih =>
    intro b a htext
    rw [cut] at h
    cases hstart : sep.isPrefixOf? (c :: text) with
    | some rest =>
      rw [hstart] at h
      obtain ⟨rfl, -⟩ : [] = before ∧ rest = after := by simpa using h
      simp
    | none =>
      rw [hstart] at h
      obtain ⟨⟨before', after'⟩, hcut, hpair⟩ := Option.map_eq_some_iff.mp h
      obtain ⟨rfl, rfl⟩ : c :: before' = before ∧ after' = after := by simpa using hpair
      cases b with
      | nil =>
        rw [List.nil_append] at htext
        rw [List.isPrefixOf?_eq_some_iff_append_eq.mpr htext.symm] at hstart
        simp at hstart
      | cons d b =>
        have hle := ih hcut b a (List.cons.inj htext).2
        simpa using hle

theorem exists_cut {sep text : List Char} (h : sep <:+: text) : ∃ p, cut sep text = some p := by
  rwa [← Option.ne_none_iff_exists', Ne, cut_eq_none_iff, not_not]

theorem cut_eq_some_iff {sep text before after : List Char} :
    cut sep text = some (before, after) ↔ StandsFirst sep text before after := by
  constructor
  · intro h
    exact ⟨cut_eq_some h, length_le_of_cut h⟩
  · intro h
    obtain ⟨⟨before', after'⟩, hcut⟩ := exists_cut h.occurs
    obtain ⟨rfl, rfl⟩ := h.unique ⟨cut_eq_some hcut, length_le_of_cut hcut⟩
    exact hcut

/-- A text that occurs has a first place, with no less behind it. -/
theorem exists_standsFirst {sep text b a : List Char} (h : text = b ++ (sep ++ a)) :
    ∃ before after, StandsFirst sep text before after ∧ a.length ≤ after.length := by
  obtain ⟨⟨before, after⟩, hcut⟩ := exists_cut (⟨b, a, by rw [h, List.append_assoc]⟩ : sep <:+: text)
  have hfirst := cut_eq_some_iff.mp hcut
  have hle := hfirst.first b a h
  have hlen := congrArg List.length (h.symm.trans hfirst.eq)
  simp only [List.length_append] at hlen
  exact ⟨before, after, hfirst, by omega⟩

/-- The first occurrence of a separator stays the first one when the text goes on. -/
theorem cut_append_right {sep text before after : List Char} (h : cut sep text = some (before, after))
    (more : List Char) : cut sep (text ++ more) = some (before, after ++ more) :=
  cut_eq_some_iff.mpr ((cut_eq_some_iff.mp h).append_right more)

/-! ## Where the first place is -/

/-- What stands further to the front than behind `before` begins within it. -/
theorem exists_of_length_lt {c : Char} {before after b a : List Char} (htext : before ++ after = b ++ c :: a)
    (hlt : b.length < before.length) : ∃ t, before = b ++ c :: t ∧ a = t ++ after := by
  rcases List.append_eq_append_iff.mp htext with ⟨t, rfl, -⟩ | ⟨t, rfl, ht⟩
  · simp only [List.length_append] at hlt
    omega
  · cases t with
    | nil => simp at hlt
    | cons d t =>
      obtain ⟨rfl, rfl⟩ := List.cons.inj ht
      exact ⟨t, rfl, rfl⟩

theorem standsFirst_of_not_mem {c : Char} {sep before : List Char} (h : c ∉ before) (after : List Char) :
    StandsFirst (c :: sep) (before ++ (c :: sep ++ after)) before after := by
  refine ⟨rfl, fun b a htext => Nat.not_lt.mp fun hlt => h ?_⟩
  obtain ⟨t, rfl, -⟩ := exists_of_length_lt htext hlt
  simp

theorem cut_append {c : Char} {sep before : List Char} (h : c ∉ before) (after : List Char) :
    cut (c :: sep) (before ++ (c :: sep ++ after)) = some (before, after) :=
  cut_eq_some_iff.mpr (standsFirst_of_not_mem h after)

/-- If its first character does not come again in it, a text cannot begin in front of its place and end behind. -/
theorem standsFirst_append {c : Char} {sep before : List Char} (hc : c ∉ sep) (h : ¬ c :: sep <:+: before)
    (after : List Char) : StandsFirst (c :: sep) (before ++ (c :: sep ++ after)) before after := by
  refine ⟨rfl, fun b a htext => Nat.not_lt.mp fun hlt => h ?_⟩
  obtain ⟨t, rfl, ht⟩ := exists_of_length_lt htext hlt
  rcases List.append_eq_append_iff.mp ht with ⟨u, rfl, -⟩ | ⟨u, hsep, hrest⟩
  · exact ⟨b, u, by simp⟩
  · -- what is left of `sep` behind `before` would begin with `c`
    cases u with
    | nil => exact ⟨b, [], by rw [hsep]; simp⟩
    | cons e u =>
      obtain ⟨rfl, -⟩ := List.cons.inj hrest
      exact absurd (by rw [hsep]; simp) hc

end Hyperlink.Text
