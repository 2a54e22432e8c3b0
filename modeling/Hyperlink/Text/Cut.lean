/-!
# Hyperlink.Text.Cut — cutting texts at separators

* `cutAt sep cs`: the parts of `cs` before and after the first `sep`, if there is one.
* `cut sep cs`: the same for a separator of several characters.
* `pieces sep text`: the parts of a text between all separators; `String.intercalate` puts them together again.
* `stripEnds p xs`: `xs` without the entries at either end that satisfy `p`.
-/

namespace Hyperlink.Text

/-- The parts before and after the first character `sep`. -/
def cutAt (sep : Char) : List Char → Option (List Char × List Char)
  | [] => none
  | c :: cs => if c = sep then some ([], cs) else (cutAt sep cs).map fun p => (c :: p.1, p.2)

/-- The parts before and after the first occurrence of the text `sep`. -/
def cut (sep : List Char) : List Char → Option (List Char × List Char)
  | [] => if sep = [] then some ([], []) else none
  | c :: cs =>
    match sep.isPrefixOf? (c :: cs) with
    | some rest => some ([], rest)
    | none => (cut sep cs).map fun p => (c :: p.1, p.2)

/-- The pieces of a text between the separators. A text without one is a single piece. -/
def pieces (sep : Char) (text : String) : List String :=
  (text.toList.splitOn sep).map String.ofList

/-- The list without the entries at either end that satisfy `p`. -/
def stripEnds {α : Type} (p : α → Bool) (xs : List α) : List α :=
  ((xs.dropWhile p).reverse.dropWhile p).reverse

/-! ## The parts make up the whole -/

theorem cutAt_eq_some {sep : Char} {cs a b : List Char} (h : cutAt sep cs = some (a, b)) :
    cs = a ++ sep :: b ∧ sep ∉ a := by
  induction cs generalizing a with
  | nil => simp [cutAt] at h
  | cons c cs ih =>
    unfold cutAt at h
    split at h
    · next hc => simp_all
    · next hc =>
      obtain ⟨⟨a', b'⟩, h', he⟩ := Option.map_eq_some_iff.1 h
      simp only [Prod.mk.injEq] at he
      obtain ⟨rfl, rfl⟩ := he
      obtain ⟨rfl, hn⟩ := ih h'
      exact ⟨rfl, by simp [hn, Ne.symm hc]⟩

theorem cutAt_append {sep : Char} {a : List Char} (h : sep ∉ a) (b : List Char) :
    cutAt sep (a ++ sep :: b) = some (a, b) := by
  induction a with
  | nil => simp [cutAt]
  | cons c a ih =>
    simp only [List.mem_cons, not_or] at h
    simp [cutAt, Ne.symm h.1, ih h.2]

theorem cutAt_eq_none {sep : Char} {cs : List Char} : cutAt sep cs = none ↔ sep ∉ cs := by
  induction cs with
  | nil => simp [cutAt]
  | cons c cs ih =>
    unfold cutAt
    split
    · next hc => simp [hc]
    · next hc => simp [ih, Ne.symm hc]

end Hyperlink.Text
