import Hyperlink.Text.Ranges
import Mathlib.Data.List.Basic

/-!
# Hyperlink.Proofs.Text.Table — what is found in a table

* `find?_eq_some`: a row that is found stands in the table and holds the code point; `find?_eq_none`: nothing is found
  where no row holds it.
* `IsRowOf`: a range of code points lies in one row, those before it are smaller and those behind it larger.
  `holds_of_isRowOf`: **such a row is found**, as halving never leaves it.
* `forall_rows_cons`, `isRowOf_cons`: both are settled line by line, from the characters of the line.
-/

namespace Hyperlink.Text.CodeTable

variable {t : CodeTable} {c : Char} {r : CodeRow}

/-! ## Rows that are found -/

theorem search_eq_some {n first stop : Nat} (h : search t n first stop = some r) :
    r ∈ t.toList ∧ r.lo ≤ n ∧ n ≤ r.hi := by
  fun_induction search t n first stop with
  | case1 => cases h
  | case2 first stop hlt middle s hs hlow ih => exact ih h
  | case3 first stop hlt middle s hs hlow hhigh ih => exact ih h
  | case4 first stop hlt middle s hs hlow hhigh =>
    obtain rfl := Option.some.inj h
    exact ⟨Array.mem_toList_iff.mpr (Array.mem_of_getElem? hs), by omega, by omega⟩
  | case5 => cases h

theorem find?_eq_some (h : t.find? c = some r) : r ∈ t.toList ∧ r.lo ≤ c.toNat ∧ c.toNat ≤ r.hi :=
  search_eq_some h

/-- Nothing is found where no row holds the code point. -/
theorem find?_eq_none (h : ∀ r ∈ t.toList, r.hi < c.toNat ∨ c.toNat < r.lo) : t.find? c = none := by
  refine Option.eq_none_iff_forall_ne_some.mpr fun r hr => ?_
  obtain ⟨hmem, hlow, hhigh⟩ := find?_eq_some hr
  have haway := h r hmem
  omega

/-! ## The row of a range -/

/-- The range from `lo` to `hi` lies in one row; those before it are smaller and those behind it larger. -/
def IsRowOf (lo hi : Nat) : List CodeRow → Bool
  | [] => false
  | r :: rs =>
    if r.lo ≤ lo ∧ r.hi < lo then IsRowOf lo hi rs else r.lo ≤ lo && hi ≤ r.hi && rs.all (hi < ·.lo)

theorem exists_of_isRowOf {lo hi : Nat} {rs : List CodeRow} (h : IsRowOf lo hi rs = true) :
    ∃ (i : Nat) (r : CodeRow), rs[i]? = some r ∧ r.lo ≤ lo ∧ hi ≤ r.hi ∧
      ∀ (j : Nat) (s : CodeRow), rs[j]? = some s → (j < i → s.lo ≤ lo ∧ s.hi < lo) ∧ (i < j → hi < s.lo) := by
  induction rs with
  | nil => cases h
  | cons r rs ih =>
    rw [IsRowOf] at h
    split at h
    · next hr =>
      obtain ⟨i, s, hs, hlow, hhigh, hall⟩ := ih h
      refine ⟨i + 1, s, hs, hlow, hhigh, fun j s hs => ?_⟩
      cases j with
      | zero =>
        obtain rfl := Option.some.inj hs
        exact ⟨fun _ => hr, fun hlt => absurd hlt (by omega)⟩
      | succ j =>
        obtain ⟨hbefore, hbehind⟩ := hall j s hs
        exact ⟨fun hlt => hbefore (by omega), fun hlt => hbehind (by omega)⟩
    · simp only [Bool.and_eq_true, decide_eq_true_eq, List.all_eq_true] at h
      refine ⟨0, r, rfl, h.1.1, h.1.2, fun j s hs => ⟨fun hlt => absurd hlt (by omega), fun hlt => ?_⟩⟩
      obtain ⟨j, rfl⟩ : ∃ k, j = k + 1 := ⟨j - 1, by omega⟩
      exact h.2 s (List.mem_of_getElem? hs)

section Halving

variable {lo hi n i : Nat} (hlo : lo ≤ n) (hhi : n ≤ hi) (hr : t[i]? = some r) (hlow : r.lo ≤ lo) (hhigh : hi ≤ r.hi)
  (hall : ∀ (j : Nat) (s : CodeRow), t[j]? = some s → (j < i → s.lo ≤ lo ∧ s.hi < lo) ∧ (i < j → hi < s.lo))

include hlo hhi hr hlow hhigh hall

/-- Halving never leaves the row. -/
theorem isSome_search {first stop : Nat} (hfirst : first ≤ i) (hstop : i < stop) (hsize : stop ≤ t.size) :
    (search t n first stop).isSome := by
  fun_induction search t n first stop with
  | case1 first stop hlt middle hs =>
    have hmiddle : middle < t.size := by omega
    rw [Array.getElem?_eq_none_iff] at hs
    omega
  | case2 first stop hlt middle s hs hbelow ih =>
    -- a row that begins behind `n` stands behind the row
    have hleft : i < middle := by
      rcases Nat.lt_trichotomy middle i with hbefore | heq | hbehind
      · have hs' := (hall middle s hs).1 hbefore
        omega
      · rw [heq, hr] at hs
        obtain rfl := Option.some.inj hs
        omega
      · exact hbehind
    exact ih hfirst hleft (by omega)
  | case3 first stop hlt middle s hs hbelow habove ih =>
    -- a row that ends before `n` stands before the row
    have hright : middle < i := by
      rcases Nat.lt_trichotomy middle i with hbefore | heq | hbehind
      · exact hbefore
      · rw [heq, hr] at hs
        obtain rfl := Option.some.inj hs
        omega
      · have hs' := (hall middle s hs).2 hbehind
        omega
    exact ih hright hstop hsize
  | case4 => rfl
  | case5 first stop hlt => omega

end Halving

/-- **The characters of a range that lies in one row are held by the table.** -/
theorem holds_of_isRowOf {lo hi : Nat} (h : IsRowOf lo hi t.toList = true) (hlo : lo ≤ c.toNat) (hhi : c.toNat ≤ hi) :
    t.holds c = true := by
  obtain ⟨i, r, hr, hlow, hhigh, hall⟩ := exists_of_isRowOf h
  simp only [Array.getElem?_toList] at hr hall
  have hsize : i < t.size := by
    by_contra hge
    rw [Array.getElem?_eq_none (by omega)] at hr
    cases hr
  exact isSome_search hlo hhi hr hlow hhigh hall (Nat.zero_le i) hsize (Nat.le_refl t.size)

/-! ## Line by line -/

/-- The rows that the characters of a line write. -/
def rows (line : List Char) : List CodeRow := ((line.splitOn ' ').filter (!·.isEmpty)).map CodeRow.ofChars

theorem toList_ofLines (lines : List String) : (ofLines lines).toList = lines.flatMap ofLine := rfl

theorem flatMap_ofLine_cons (line : List Char) (lines : List String) :
    (String.ofList line :: lines).flatMap ofLine = rows line ++ lines.flatMap ofLine := by
  rw [List.flatMap_cons, ofLine, String.toList_ofList]
  rfl

theorem forall_rows_cons {p : CodeRow → Bool} {line : List Char} {lines : List String} (h : (rows line).all p = true)
    (hrest : ∀ r ∈ lines.flatMap ofLine, p r = true) : ∀ r ∈ (String.ofList line :: lines).flatMap ofLine, p r = true := by
  intro r hr
  rw [flatMap_ofLine_cons, List.mem_append] at hr
  rcases hr with hr | hr
  · exact List.all_eq_true.mp h r hr
  · exact hrest r hr

theorem isRowOf_append {lo hi : Nat} {rs ss : List CodeRow} (h : rs.all (fun r => r.lo ≤ lo && r.hi < lo) = true)
    (hrest : IsRowOf lo hi ss = true) : IsRowOf lo hi (rs ++ ss) = true := by
  induction rs with
  | nil => exact hrest
  | cons r rs ih =>
    simp only [List.all_cons, Bool.and_eq_true, decide_eq_true_eq] at h
    rw [List.cons_append, IsRowOf, if_pos h.1]
    exact ih (by simpa only [Bool.and_eq_true, decide_eq_true_eq] using h.2)

theorem isRowOf_cons {lo hi : Nat} {line : List Char} {lines : List String}
    (h : (rows line).all (fun r => r.lo ≤ lo && r.hi < lo) = true) (hrest : IsRowOf lo hi (lines.flatMap ofLine) = true) :
    IsRowOf lo hi ((String.ofList line :: lines).flatMap ofLine) = true := by
  rw [flatMap_ofLine_cons]
  exact isRowOf_append h hrest

theorem isRowOf_line {lo hi : Nat} {line : List Char} {lines : List String} (h : IsRowOf lo hi (rows line) = true)
    (hrest : ∀ r ∈ lines.flatMap ofLine, decide (hi < r.lo) = true) :
    IsRowOf lo hi ((String.ofList line :: lines).flatMap ofLine) = true := by
  rw [flatMap_ofLine_cons]
  generalize rows line = rs at h
  induction rs with
  | nil => cases h
  | cons r rs ih =>
    rw [IsRowOf] at h
    rw [List.cons_append, IsRowOf]
    split
    · next hr =>
      rw [if_pos hr] at h
      exact ih h
    · next hr =>
      rw [if_neg hr, Bool.and_eq_true] at h
      rw [List.all_append, h.1, h.2, List.all_eq_true.mpr hrest]
      rfl

end Hyperlink.Text.CodeTable
