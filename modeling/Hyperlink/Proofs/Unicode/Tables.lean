import Hyperlink.Proofs.Text.Table
import Hyperlink.Unicode.Bidi
import Hyperlink.Unicode.CombiningClass
import Hyperlink.Unicode.Composite
import Hyperlink.Unicode.Mapping
import Hyperlink.Unicode.Valid
import Mathlib

/-!
# Hyperlink.Proofs.Unicode.Tables — what the tables hold

* `mapped?_isUpper`, `tableParts?_isUpper`, `tableComposite?_isUpper`: no table writes a capital of ASCII.
* `IsIdeograph`: the ideographs of a range that of all tables only the one of valid characters knows. They are replaced by
  nothing, neither made up of others nor part of others (`tableParts?_ideograph`, `tableComposite?_ideograph`), of class
  zero and run from left to right; and **they are valid** (`isValid_ideograph`).
-/

namespace Hyperlink.Unicode

open Text

/-- The ideographs of the range U+20000 to U+2A6DF. -/
def IsIdeograph (c : Char) : Prop := 0x20000 ≤ c.toNat ∧ c.toNat ≤ 0x2a6df

/-- Whether the code points of a row are no ideographs. -/
def isAway (r : CodeRow) : Bool := r.hi < 0x20000 || 0x2a6df < r.lo

theorem find?_ideograph {t : CodeTable} (ht : ∀ r ∈ t.toList, isAway r = true) {c : Char} (hc : IsIdeograph c) :
    t.find? c = none := by
  obtain ⟨hlow, hhigh⟩ := hc
  refine CodeTable.find?_eq_none fun r hr => ?_
  have haway := ht r hr
  simp only [isAway, Bool.or_eq_true, decide_eq_true_eq] at haway
  omega

/-! ## Capitals -/

theorem isUpper_iff {c : Char} : c.isUpper = true ↔ 0x41 ≤ c.toNat ∧ c.toNat ≤ 0x5a := by
  rw [Char.isUpper, decide_eq_true_iff]
  exact Iff.rfl

theorem isUpper_eq_false_iff {c : Char} : c.isUpper = false ↔ c.toNat < 0x41 ∨ 0x5a < c.toNat := by
  rw [← Bool.not_eq_true, isUpper_iff]
  omega

theorem isUpper_ofNat {n : Nat} (h : n < 0x41 ∨ 0x5a < n) : (Char.ofNat n).isUpper = false := by
  rw [isUpper_eq_false_iff, Char.ofNat]
  split
  · exact h
  · exact Or.inl (by decide)

theorem toLower_of_notUpper {c : Char} (h : c.isUpper = false) : c.toLower = c := by
  rw [Char.isUpper, decide_eq_false_iff_not] at h
  exact dif_neg h

theorem isUpper_toLower (c : Char) : c.toLower.isUpper = false := by
  by_cases h : c.isUpper = true
  · have hrange := isUpper_iff.mp h
    rw [Char.isUpper, decide_eq_true_iff] at h
    have hlower : c.toLower.toNat = c.toNat + 32 := by
      unfold Char.toLower
      rw [dif_pos h]
      show (c.val + 32).toNat = c.val.toNat + 32
      have hval : c.val.toNat ≤ 0x5a := hrange.2
      rw [UInt32.toNat_add]
      show (c.val.toNat + 32) % 2 ^ 32 = _
      omega
    rw [isUpper_eq_false_iff, hlower]
    omega
  · rw [Bool.not_eq_true] at h
    rwa [toLower_of_notUpper h]

/-! ## Replacements -/

/-- Whether a row writes no capital: the replacements lie behind the capitals, or before them with all that follow in
step. -/
def writesSmall (r : CodeRow) : Bool :=
  (charsOf (r.value.drop 1)).all fun t => 0x5a < t.toNat || t.toNat + (r.hi - r.lo) < 0x41

theorem mappingTable_rows : ∀ r ∈ mappingTable.toList, (isAway r && writesSmall r) = true := by
  rw [mappingTable, CodeTable.toList_ofLines]
  repeat (with_reducible refine CodeTable.forall_rows_cons ?_ ?_) <;> [decide +kernel; skip]
  exact List.forall_mem_nil _

theorem replacementOf?_isUpper {row : CodeRow} {c d : Char} {ds : List Char} (hrow : writesSmall row = true)
    (hc : c.toNat ≤ row.hi) (h : replacementOf? row c = some ds) (hd : d ∈ ds) : d.isUpper = false := by
  simp only [writesSmall, List.all_eq_true, Bool.or_eq_true, decide_eq_true_eq] at hrow
  have hstep : ∀ value, (∀ t ∈ charsOf value, 0x5a < t.toNat ∨ t.toNat + (row.hi - row.lo) < 0x41) →
      d ∈ (charsOf value).map (fun t => Char.ofNat (t.toNat + (c.toNat - row.lo))) → d.isUpper = false := by
    intro value hvalue hmem
    obtain ⟨t, ht, rfl⟩ := List.mem_map.mp hmem
    have hbound := hvalue t ht
    exact isUpper_ofNat (by omega)
  unfold replacementOf? at h
  dsimp only at h
  split at h
  · next value hvalue =>
    rw [hvalue] at hrow
    obtain rfl := Option.some.inj h
    have hbound := hrow d hd
    rw [isUpper_eq_false_iff]
    omega
  · next value hvalue =>
    rw [hvalue] at hrow
    obtain rfl := Option.some.inj h
    exact hstep value hrow hd
  · next value hvalue =>
    rw [hvalue] at hrow
    split at h
    · obtain rfl := Option.some.inj h
      exact hstep value hrow hd
    · cases h
  · cases h

/-- No character is replaced by a capital. -/
theorem mapped?_isUpper {c d : Char} {ds : List Char} (h : mapped? c = some ds) (hd : d ∈ ds) : d.isUpper = false := by
  unfold mapped? at h
  obtain ⟨row, hfound, hrow⟩ := Option.bind_eq_some_iff.mp h
  obtain ⟨hmem, -, hhigh⟩ := CodeTable.find?_eq_some hfound
  have hsmall := mappingTable_rows row hmem
  rw [Bool.and_eq_true] at hsmall
  exact replacementOf?_isUpper hsmall.2 hhigh hrow hd

theorem mapped?_ideograph {c : Char} (hc : IsIdeograph c) : mapped? c = none := by
  have haway : ∀ r ∈ mappingTable.toList, isAway r = true := by
    intro r hr
    have hrow := mappingTable_rows r hr
    rw [Bool.and_eq_true] at hrow
    exact hrow.1
  unfold mapped?
  rw [find?_ideograph haway hc]
  rfl

/-! ## Composite characters -/

/-- Whether a row is about no ideograph and no capital. -/
def composesSmall (r : CodeRow) : Bool :=
  match compositeOf? r with
  | none => true
  | some x =>
    [x.whole, x.first, x.second].all fun c => c.isUpper = false && (c.toNat < 0x20000 || 0x2a6df < c.toNat)

theorem compositeTable_rows : ∀ r ∈ compositeTable.toList, composesSmall r = true := by
  rw [compositeTable, CodeTable.toList_ofLines]
  repeat (with_reducible refine CodeTable.forall_rows_cons ?_ ?_) <;> [decide +kernel; skip]
  exact List.forall_mem_nil _

theorem composites_small {x : Composite} (h : x ∈ composites) {c : Char} (hc : c ∈ [x.whole, x.first, x.second]) :
    c.isUpper = false ∧ ¬ IsIdeograph c := by
  have hrows := compositeTable_rows
  unfold composites at h
  generalize compositeTable = t at h hrows
  obtain ⟨r, hr, hx⟩ := Array.mem_filterMap.mp h
  have hsmall := hrows r (Array.mem_toList_iff.mpr hr)
  rw [composesSmall, hx] at hsmall
  have hchar := List.all_eq_true.mp hsmall c hc
  simp only [Bool.and_eq_true, Bool.or_eq_true, decide_eq_true_eq] at hchar
  refine ⟨hchar.1, ?_⟩
  rintro ⟨hlow, hhigh⟩
  omega

theorem tableParts?_eq_some {c a b : Char} (h : tableParts? c = some (a, b)) :
    ∃ x ∈ composites, x.whole = c ∧ x.first = a ∧ x.second = b := by
  unfold tableParts? at h
  generalize composites = xs at h ⊢
  obtain ⟨x, hx, hparts⟩ := Option.map_eq_some_iff.mp h
  obtain ⟨rfl, rfl⟩ := Prod.mk.inj hparts
  exact ⟨x, Array.mem_of_find?_eq_some hx, by simpa using Array.find?_some hx, rfl, rfl⟩

theorem tableComposite?_eq_some {a b c : Char} (h : tableComposite? a b = some c) :
    ∃ x ∈ composites, x.whole = c ∧ x.first = a ∧ x.second = b := by
  unfold tableComposite? at h
  generalize composites = xs at h ⊢
  obtain ⟨x, hx, rfl⟩ := Option.map_eq_some_iff.mp h
  have hparts := Array.find?_some hx
  simp only [Bool.and_eq_true, decide_eq_true_eq] at hparts
  exact ⟨x, Array.mem_of_find?_eq_some hx, rfl, hparts⟩

theorem tableParts?_isUpper {c a b : Char} (h : tableParts? c = some (a, b)) :
    a.isUpper = false ∧ b.isUpper = false := by
  obtain ⟨x, hx, rfl, rfl, rfl⟩ := tableParts?_eq_some h
  exact ⟨(composites_small hx (by simp)).1, (composites_small hx (by simp)).1⟩

theorem tableComposite?_isUpper {a b c : Char} (h : tableComposite? a b = some c) : c.isUpper = false := by
  obtain ⟨x, hx, rfl, rfl, rfl⟩ := tableComposite?_eq_some h
  exact (composites_small hx (by simp)).1

theorem tableParts?_ideograph {c : Char} (hc : IsIdeograph c) : tableParts? c = none := by
  refine Option.eq_none_iff_forall_ne_some.mpr fun p hp => ?_
  obtain ⟨x, hx, rfl, -, -⟩ := tableParts?_eq_some (a := p.1) (b := p.2) hp
  exact (composites_small hx (by simp)).2 hc

theorem tableComposite?_ideograph {b : Char} (hb : IsIdeograph b) (a : Char) : tableComposite? a b = none := by
  refine Option.eq_none_iff_forall_ne_some.mpr fun c hc => ?_
  obtain ⟨x, hx, -, -, rfl⟩ := tableComposite?_eq_some hc
  exact (composites_small hx (by simp)).2 hb

/-! ## Properties of ideographs -/

theorem combiningTable_rows : ∀ r ∈ combiningTable.toList, isAway r = true := by
  rw [combiningTable, CodeTable.toList_ofLines]
  repeat (with_reducible refine CodeTable.forall_rows_cons ?_ ?_) <;> [decide +kernel; skip]
  exact List.forall_mem_nil _

theorem bidiTable_rows : ∀ r ∈ bidiTable.toList, isAway r = true := by
  rw [bidiTable, CodeTable.toList_ofLines]
  repeat (with_reducible refine CodeTable.forall_rows_cons ?_ ?_) <;> [decide +kernel; skip]
  exact List.forall_mem_nil _

theorem validTable_rows : CodeTable.IsRowOf 0x20000 0x2a6df validTable.toList = true := by
  rw [validTable, CodeTable.toList_ofLines]
  repeat (with_reducible refine CodeTable.isRowOf_cons ?_ ?_) <;> [decide +kernel; skip]
  -- the row stands in one of the last lines
  with_reducible refine CodeTable.isRowOf_line ?_ ?_
  · decide +kernel
  repeat (with_reducible refine CodeTable.forall_rows_cons ?_ ?_) <;> [decide +kernel; skip]
  exact List.forall_mem_nil _

variable {c : Char} (hc : IsIdeograph c)

include hc

theorem combiningClass_ideograph : combiningClass c = 0 := by
  unfold combiningClass
  rw [find?_ideograph combiningTable_rows hc]
  rfl

theorem bidiClass_ideograph : bidiClass c = .leftToRight := by
  unfold bidiClass
  rw [find?_ideograph bidiTable_rows hc]
  rfl

/-- **The ideographs are valid.** -/
theorem isValid_ideograph : isValid c = true :=
  CodeTable.holds_of_isRowOf validTable_rows hc.1 hc.2

end Hyperlink.Unicode
