import Hyperlink.Locator
import Mathlib.Data.List.DropRight

/-!
# Hyperlink.Proofs.Text.Cutting — what the cuts of a text give back

* `cutOptional_append`: text in front that does not hold the separator stays in front.
* `not_mem_of_mem_splitOn`, `mem_of_mem_splitOn`: the pieces of a text hold no separator and only characters of the
  text.
* `stripEnds_split`: `stripEnds` takes entries off the ends only; `stripEnds_stripEnds`: and all of them at once.
* `stripEnds_append`, `stripEnds_eq_self`: what is put around a list at both ends is taken off again, and nothing else.
-/

namespace Hyperlink

namespace Text

/-! ## The pieces between the separators -/

theorem mem_intercalate {sep x : Char} {ls : List (List Char)} {l : List Char} (hl : l ∈ ls) (hx : x ∈ l) :
    x ∈ [sep].intercalate ls := by
  induction ls with
  | nil => simp at hl
  | cons k ls ih =>
    rcases List.mem_cons.mp hl with rfl | hl
    · cases ls <;> simp [hx]
    · rw [List.intercalate_cons_of_ne_nil (List.ne_nil_of_mem hl)]
      exact List.mem_append_right _ (ih hl)

theorem eq_or_mem_of_mem_intercalate {sep x : Char} {ls : List (List Char)} (h : x ∈ [sep].intercalate ls) :
    x = sep ∨ ∃ l ∈ ls, x ∈ l := by
  induction ls with
  | nil => simp at h
  | cons k ls ih =>
    cases ls with
    | nil => exact Or.inr ⟨k, by simp, by simpa using h⟩
    | cons k' ls =>
      rw [List.intercalate_cons_cons, List.append_assoc, List.mem_append, List.mem_append, List.mem_singleton] at h
      rcases h with h | h | h
      · exact Or.inr ⟨k, by simp, h⟩
      · exact Or.inl h
      · rcases ih h with h | ⟨l, hl, hx⟩
        · exact Or.inl h
        · exact Or.inr ⟨l, List.mem_cons_of_mem _ hl, hx⟩

theorem mem_of_mem_splitOn {sep x : Char} {cs l : List Char} (hl : l ∈ cs.splitOn sep) (hx : x ∈ l) : x ∈ cs := by
  have h : x ∈ [sep].intercalate (cs.splitOn sep) := mem_intercalate hl hx
  rwa [List.intercalate_splitOn] at h

theorem not_mem_of_mem_splitOn {sep : Char} {cs l : List Char} (hl : l ∈ cs.splitOn sep) : sep ∉ l := by
  induction cs generalizing l with
  | nil =>
    rw [List.splitOn_nil, List.mem_singleton] at hl
    simp [hl]
  | cons c cs ih =>
    rw [List.splitOn_cons_eq_if_modifyHead] at hl
    split at hl
    · rcases List.mem_cons.mp hl with rfl | hl
      · simp
      · exact ih hl
    · next hc =>
      obtain ⟨k, ks, hk⟩ := List.exists_cons_of_ne_nil (List.splitOn_ne_nil sep cs)
      rw [hk, List.modifyHead_cons] at hl
      rcases List.mem_cons.mp hl with rfl | hl
      · have hck : sep ≠ c := fun h => hc (by simp [h])
        have hk' : sep ∉ k := ih (by simp [hk])
        simp [hck, hk']
      · exact ih (by simp [hk, hl])

theorem length_le_of_mem_intercalate {sep : Char} {ls : List (List Char)} {l : List Char} (hl : l ∈ ls) :
    l.length ≤ ([sep].intercalate ls).length := by
  induction ls with
  | nil => simp at hl
  | cons k ls ih =>
    rcases List.mem_cons.mp hl with rfl | hl
    · cases ls <;> simp
    · have hle := ih hl
      rw [List.intercalate_cons_of_ne_nil (List.ne_nil_of_mem hl), List.length_append]
      omega

/-- No piece of a text is longer than the text. -/
theorem length_le_of_mem_splitOn {sep : Char} {cs l : List Char} (hl : l ∈ cs.splitOn sep) : l.length ≤ cs.length := by
  have hle : l.length ≤ ([sep].intercalate (cs.splitOn sep)).length := length_le_of_mem_intercalate hl
  rwa [List.intercalate_splitOn] at hle

/-! ## Entries at the ends -/

section StripEnds

variable {α : Type} (p : α → Bool)

theorem stripEnds_eq_rdropWhile (xs : List α) : stripEnds p xs = (xs.dropWhile p).rdropWhile p := rfl

/-- Only entries that satisfy `p` are taken off. -/
theorem stripEnds_split (xs : List α) :
    ∃ before after, xs = before ++ stripEnds p xs ++ after ∧ (∀ x ∈ before, p x) ∧ ∀ x ∈ after, p x := by
  refine ⟨xs.takeWhile p, (xs.dropWhile p).rtakeWhile p, ?_, fun x hx => List.mem_takeWhile_imp hx,
    fun x hx => List.mem_rtakeWhile_imp hx⟩
  rw [stripEnds_eq_rdropWhile, List.append_assoc, List.rdropWhile_append_rtakeWhile, List.takeWhile_append_dropWhile]

/-- What is left begins with an entry that does not satisfy `p`. -/
theorem dropWhile_stripEnds (xs : List α) : (stripEnds p xs).dropWhile p = stripEnds p xs := by
  obtain ⟨t, ht⟩ := List.rdropWhile_prefix p (xs.dropWhile p)
  rw [stripEnds_eq_rdropWhile]
  cases h : (xs.dropWhile p).rdropWhile p with
  | nil => rfl
  | cons y ys =>
    -- the first entry that is left is the first one behind those taken off the start
    have hdrop : xs.dropWhile p = y :: (ys ++ t) := by rw [h] at ht; exact ht.symm
    have hy : ¬ p y := by
      have hhead := List.head?_dropWhile_not p xs
      rw [hdrop] at hhead
      simpa using hhead
    rw [List.dropWhile_cons, if_neg hy]

theorem head_stripEnds {xs : List α} (h : stripEnds p xs ≠ []) : ¬ p ((stripEnds p xs).head h) := by
  have hdrop : (stripEnds p xs).dropWhile p ≠ [] := by rwa [dropWhile_stripEnds]
  have hhead := List.head_dropWhile_not p hdrop
  simp only [dropWhile_stripEnds] at hhead
  simp [hhead]

theorem getLast_stripEnds {xs : List α} (h : stripEnds p xs ≠ []) : ¬ p ((stripEnds p xs).getLast h) :=
  List.rdropWhile_last_not p (xs.dropWhile p) h

/-- Taking entries off both ends once takes off all. -/
theorem stripEnds_stripEnds (xs : List α) : stripEnds p (stripEnds p xs) = stripEnds p xs := by
  rw [stripEnds_eq_rdropWhile, dropWhile_stripEnds, stripEnds_eq_rdropWhile, List.rdropWhile_idempotent]

variable {p}

/-- Entries that satisfy `p` are taken off, however many are added at the ends. -/
theorem stripEnds_append {before after : List α} (hbefore : ∀ x ∈ before, p x) (hafter : ∀ x ∈ after, p x)
    (xs : List α) : stripEnds p (before ++ xs ++ after) = stripEnds p xs := by
  unfold stripEnds
  rw [List.append_assoc, List.dropWhile_append_of_pos hbefore, List.dropWhile_append]
  by_cases hxs : xs.dropWhile p = []
  · have hnil : after.dropWhile p = [] := List.dropWhile_eq_nil_iff.mpr hafter
    simp [hxs, hnil]
  · rw [if_neg (by simpa using hxs), List.reverse_append,
      List.dropWhile_append_of_pos fun x hx => hafter x (List.mem_reverse.mp hx)]

/-- Nothing is taken off between entries that do not satisfy `p`. -/
theorem stripEnds_eq_self {xs : List α} (h : ∀ hne : xs ≠ [], ¬ p (xs.head hne) ∧ ¬ p (xs.getLast hne)) :
    stripEnds p xs = xs := by
  have hdrop : xs.dropWhile p = xs := by
    cases xs with
    | nil => rfl
    | cons x xs => exact List.dropWhile_cons_of_neg (h (List.cons_ne_nil x xs)).1
  rw [stripEnds_eq_rdropWhile, hdrop, List.rdropWhile_eq_self_iff]
  exact fun hne => (h hne).2

end StripEnds

end Text

namespace Locator

/-! ## Cuts that need not be there -/

@[simp] theorem cutOptional_cons_self (sep : Char) (text : List Char) :
    cutOptional sep (sep :: text) = ([], some text) := by
  simp [cutOptional, Text.cutAt]

theorem cutOptional_append {sep : Char} {front : List Char} (h : sep ∉ front) (text : List Char) :
    cutOptional sep (front ++ text) = (front ++ (cutOptional sep text).1, (cutOptional sep text).2) := by
  unfold cutOptional
  cases hc : Text.cutAt sep text with
  | none =>
    have hn : Text.cutAt sep (front ++ text) = none := by
      rw [Text.cutAt_eq_none] at hc ⊢
      simp [h, hc]
    rw [hn]
  | some q =>
    obtain ⟨before, after⟩ := q
    obtain ⟨rfl, hb⟩ := Text.cutAt_eq_some hc
    have hs : Text.cutAt sep (front ++ (before ++ sep :: after)) = some (front ++ before, after) := by
      rw [← List.append_assoc, Text.cutAt_append (by simp [h, hb])]
    rw [hs]

/-- The text in front of a cut does not hold the separator. -/
theorem not_mem_cutOptional (sep : Char) (text : List Char) : sep ∉ (cutOptional sep text).1 := by
  unfold cutOptional
  cases hc : Text.cutAt sep text with
  | none => exact Text.cutAt_eq_none.mp hc
  | some q => exact (Text.cutAt_eq_some hc).2

/-- The text in front of a cut is all that stands before the first separator. -/
theorem cutOptional_fst (sep : Char) (text : List Char) : (cutOptional sep text).1 = text.takeWhile (· ≠ sep) := by
  unfold cutOptional
  cases hc : Text.cutAt sep text with
  | none =>
    have hno := Text.cutAt_eq_none.mp hc
    refine (List.takeWhile_eq_self_iff.mpr fun c hmem => ?_).symm
    simpa using fun h : c = sep => hno (h ▸ hmem)
  | some q =>
    obtain ⟨rfl, hno⟩ := Text.cutAt_eq_some hc
    rw [List.takeWhile_append_of_pos (fun c hmem => by simpa using fun h : c = sep => hno (h ▸ hmem)),
      List.takeWhile_cons_of_neg (by simp), List.append_nil]

/-- A cut invents no characters. -/
theorem mem_of_mem_cutOptional {sep c : Char} {text : List Char}
    (h : c ∈ (cutOptional sep text).1 ∨ c ∈ (cutOptional sep text).2.getD []) : c ∈ text := by
  unfold cutOptional at h
  cases hc : Text.cutAt sep text with
  | none =>
    rw [hc] at h
    simpa using h
  | some q =>
    rw [hc] at h
    rw [(Text.cutAt_eq_some hc).1]
    rcases h with h | h
    · exact List.mem_append_left _ h
    · exact List.mem_append_right _ (List.mem_cons_of_mem _ h)

end Locator

end Hyperlink
