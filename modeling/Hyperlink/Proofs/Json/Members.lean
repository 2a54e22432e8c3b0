import Hyperlink.Json.Record
import Mathlib.Data.List.Count

/-!
# Hyperlink.Proofs.Json.Members — members of an object by their keys

A member is looked up among all members with its key, so only these have a say in what is found.

* `member?_eq_none_iff`, `member?_eq_missing_iff`, `member?_eq_some_iff`: when a key is repeated, missing, or there once.
* `member?_perm`, `member?_cons_of_ne`, `member?_filter`: **the order of the members and members with other keys change
  nothing.**
* `required_of_member?` and its kind: what the reader of a field makes of what is found.
-/

namespace Hyperlink.Json

variable {ms ms' : List (String × Json)} {m : String × Json} {key : String} {v : Json}

/-! ## Looking up members -/

theorem length_filter_key (ms : List (String × Json)) (key : String) :
    (ms.filter (·.1 = key)).length = (ms.map Prod.fst).count key := by
  rw [List.count, List.countP_map, List.countP_eq_length_filter]
  congr 1

theorem member?_eq_none_iff : member? ms key = none ↔ 2 ≤ (ms.map Prod.fst).count key := by
  rw [← length_filter_key]
  unfold member?
  generalize ms.filter (·.1 = key) = found
  rcases found with _ | ⟨m, _ | ⟨m', rest⟩⟩
  · simp
  · simp
  · simp

theorem member?_eq_missing_iff : member? ms key = some none ↔ key ∉ ms.map Prod.fst := by
  rw [← List.count_eq_zero, ← length_filter_key]
  unfold member?
  generalize ms.filter (·.1 = key) = found
  rcases found with _ | ⟨m, _ | ⟨m', rest⟩⟩
  · simp
  · simp
  · simp

theorem member?_eq_some_iff : member? ms key = some (some v) ↔ ms.filter (·.1 = key) = [(key, v)] := by
  unfold member?
  constructor
  · intro h
    split at h
    · simp at h
    · next m hm =>
      have hkey : m.1 = key := by
        have hmem : m ∈ ms.filter (·.1 = key) := hm ▸ List.mem_singleton_self m
        simpa using (List.mem_filter.mp hmem).2
      obtain rfl : m.2 = v := by simpa using h
      rw [hm, ← hkey]
    · simp at h
  · intro h
    rw [h]

theorem member?_congr (h : ms.filter (·.1 = key) = ms'.filter (·.1 = key)) : member? ms key = member? ms' key := by
  unfold member?
  rw [h]

/-- A member is found wherever it stands. -/
theorem member?_perm (h : ms.Perm ms') (key : String) : member? ms key = member? ms' key := by
  have hfilter := h.filter (·.1 = key)
  rcases hms : ms.filter (·.1 = key) with _ | ⟨m, _ | ⟨m', rest⟩⟩
  · rw [hms, List.nil_perm] at hfilter
    exact member?_congr (hms.trans hfilter.symm)
  · rw [hms, List.singleton_perm] at hfilter
    exact member?_congr (hms.trans hfilter)
  · -- a repeated key is repeated in any order
    have hcount : 2 ≤ (ms.map Prod.fst).count key := by
      rw [← length_filter_key, hms]
      simp
    rw [member?_eq_none_iff.mpr hcount, member?_eq_none_iff.mpr ((h.map Prod.fst).count_eq key ▸ hcount)]

/-- Members with other keys have no say in what is found. -/
theorem member?_cons_of_ne (h : m.1 ≠ key) : member? (m :: ms) key = member? ms key :=
  member?_congr (List.filter_cons_of_neg (by simpa using h))

theorem member?_filter {p : String × Json → Bool} (h : ∀ m ∈ ms, m.1 = key → p m) :
    member? (ms.filter p) key = member? ms key := by
  refine member?_congr ?_
  rw [List.filter_filter]
  refine List.filter_congr fun m hm => ?_
  by_cases hkey : m.1 = key
  · simp [hkey, h m hm hkey]
  · simp [hkey]

/-- The first member is what is found for its key iff the key does not occur again. -/
theorem member?_cons_self {w : Json} :
    member? ((key, w) :: ms) key = some (some v) ↔ w = v ∧ key ∉ ms.map Prod.fst := by
  rw [member?_eq_some_iff, List.filter_cons_of_pos (by simp), List.cons.injEq, Prod.mk.injEq, ← List.length_eq_zero_iff,
    length_filter_key, List.count_eq_zero]
  simp only [true_and]

/-- If no key is repeated, every member is found. -/
theorem member?_of_mem (hnodup : (ms.map Prod.fst).Nodup) (h : m ∈ ms) : member? ms m.1 = some (some m.2) := by
  induction ms with
  | nil => simp at h
  | cons m' ms ih =>
    obtain ⟨hnew, hnodup⟩ := List.nodup_cons.mp hnodup
    rcases List.mem_cons.mp h with rfl | h
    · exact member?_cons_self.mpr ⟨rfl, hnew⟩
    · have hne : m'.1 ≠ m.1 := fun heq => hnew (heq ▸ List.mem_map_of_mem h)
      rw [member?_cons_of_ne hne, ih hnodup h]

/-! ## Reading fields -/

section Fields

variable {α : Type} {read : Json → Option α} {default a : α}

theorem required_of_member? (h : member? ms key = some (some v)) : required ms key read = read v := by
  simp [required, h]

theorem optional_of_member? (h : member? ms key = some (some v)) : Json.optional ms key read = nullable read v := by
  simp [Json.optional, h]

theorem optional_of_missing (h : member? ms key = some none) : Json.optional ms key read = some none := by
  simp [Json.optional, h]

theorem defaulting_of_member? (h : member? ms key = some (some v)) : defaulting ms key default read = read v := by
  simp [defaulting, h]

theorem defaulting_of_missing (h : member? ms key = some none) : defaulting ms key default read = some default := by
  simp [defaulting, h]

theorem member?_ne_none_of_required (h : required ms key read = some a) : member? ms key ≠ none := by
  intro hnone
  simp [required, hnone] at h

theorem member?_ne_missing_of_required (h : required ms key read = some a) : member? ms key ≠ some none := by
  intro hmissing
  simp [required, hmissing] at h

theorem member?_ne_none_of_optional {o : Option α} (h : Json.optional ms key read = some o) : member? ms key ≠ none := by
  intro hnone
  simp [Json.optional, hnone] at h

theorem member?_ne_none_of_defaulting (h : defaulting ms key default read = some a) : member? ms key ≠ none := by
  intro hnone
  simp [defaulting, hnone] at h

end Fields

end Hyperlink.Json
