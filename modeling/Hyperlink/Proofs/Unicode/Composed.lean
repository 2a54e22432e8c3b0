import Hyperlink.Proofs.Unicode.Tables
import Hyperlink.Unicode.Normal

/-!
# Hyperlink.Proofs.Unicode.Composed — texts in composed normal form

* `StandsAlone`: a character that is not made up of others, joins none before it and has class zero. The characters of
  ASCII do so (`standsAlone_of_ascii`), and ideographs too (`standsAlone_ideograph`).
* `compose_eq_self`: **a text of such characters is in composed normal form.**
* `compose_isUpper`: composing makes no capitals of ASCII.
-/

namespace Hyperlink.Unicode

/-! ## Characters that stand alone -/

/-- A character that neither taking apart nor putting together changes. -/
structure StandsAlone (c : Char) : Prop where
  parts : parts? c = none
  composite : ∀ a, composite? a c = none
  classOf : classOf c = 0

theorem standsAlone_of_ascii {c : Char} (h : c.toNat < 0x80) : StandsAlone c where
  parts := by
    have hlt : c.toNat < firstComposite := Nat.lt_trans h (by decide)
    rw [parts?, if_pos hlt]
  composite a := by
    have hlt : c.toNat < firstCombining := Nat.lt_trans h (by decide)
    rw [composite?, if_pos hlt]
  classOf := by
    have hlt : c.toNat < firstCombining := Nat.lt_trans h (by decide)
    rw [Unicode.classOf, if_pos hlt]

theorem not_lt_firstCombining {c : Char} (hc : IsIdeograph c) : ¬ c.toNat < firstCombining := by
  have hlow := hc.1
  simp only [firstCombining]
  omega

theorem standsAlone_ideograph {c : Char} (hc : IsIdeograph c) : StandsAlone c where
  parts := by
    have hlow := hc.1
    have hno : ¬ c.toNat < firstComposite := by
      simp only [firstComposite]
      omega
    have hsyllable : syllableParts? c = none := by
      rw [syllableParts?]
      refine if_pos (Or.inr ?_)
      simp only [leadCount, vowelCount, trailCount, syllableBase]
      omega
    rw [parts?, if_neg hno, tableParts?_ideograph hc, hsyllable]
    rfl
  composite a := by
    have hsyllable : syllableOf? a c = none := by
      have hlow := hc.1
      rw [syllableOf?]
      rw [if_neg, if_neg]
      · rintro ⟨-, -, -, -, h⟩
        simp only [trailBase, trailCount] at h
        omega
      · rintro ⟨-, -, -, h⟩
        simp only [vowelBase, vowelCount] at h
        omega
    rw [composite?, if_neg (not_lt_firstCombining hc), tableComposite?_ideograph hc, hsyllable]
    rfl
  classOf := by rw [Unicode.classOf, if_neg (not_lt_firstCombining hc), combiningClass_ideograph hc]

theorem takeApart_of_standsAlone {c : Char} (h : StandsAlone c) (depth : Nat) : takeApart depth c = [c] := by
  cases depth with
  | zero => rfl
  | succ depth => rw [takeApart, h.parts]

theorem insertByClass_of_standsAlone {c : Char} (h : StandsAlone c) (before : List Char) :
    insertByClass c before = c :: before := by
  cases before with
  | nil => rfl
  | cons d before => rw [insertByClass, if_neg (fun hclass => hclass.1 h.classOf)]

variable {cs : List Char}

section Alone

variable (h : ∀ c ∈ cs, StandsAlone c)

include h

theorem decompose_of_standsAlone : decompose cs = cs := by
  induction cs with
  | nil => rfl
  | cons c cs ih =>
    rw [List.forall_mem_cons] at h
    rw [decompose, List.flatMap_cons, takeApart_of_standsAlone h.1]
    exact congrArg (c :: ·) (ih h.2)

theorem order_of_standsAlone : order cs = cs := by
  have hfold : ∀ before, cs.foldl (fun before c => insertByClass c before) before = cs.reverse ++ before := by
    induction cs with
    | nil => exact fun _ => rfl
    | cons c cs ih =>
      intro before
      rw [List.forall_mem_cons] at h
      rw [List.foldl_cons, insertByClass_of_standsAlone h.1, ih h.2, List.reverse_cons, List.append_assoc]
      rfl
  rw [order, hfold, List.append_nil, List.reverse_reverse]

theorem combine_of_standsAlone (base : Char) : combine base [] cs = base :: cs := by
  induction cs generalizing base with
  | nil => rfl
  | cons c cs ih =>
    rw [List.forall_mem_cons] at h
    have hjoined : composite? base c = none := h.1.composite base
    rw [combine, if_pos rfl, hjoined]
    dsimp only
    rw [if_pos h.1.classOf, ih h.2]
    rfl

/-- **A text of characters that stand alone is in composed normal form.** -/
theorem compose_eq_self : compose cs = cs := by
  rw [compose, decompose_of_standsAlone h, order_of_standsAlone h]
  cases cs with
  | nil => rfl
  | cons c cs =>
    rw [List.forall_mem_cons] at h
    rw [recompose, if_pos h.1.classOf, combine_of_standsAlone h.2]

end Alone

/-! ## Capitals -/

theorem syllableParts?_isUpper {c a b : Char} (h : syllableParts? c = some (a, b)) :
    a.isUpper = false ∧ b.isUpper = false := by
  have hsyllable : syllableBase = 0xac00 := rfl
  have hlead : leadBase = 0x1100 := rfl
  have hvowel : vowelBase = 0x1161 := rfl
  have htrail : trailBase = 0x11a7 := rfl
  unfold syllableParts? at h
  dsimp only at h
  split at h
  · cases h
  · have hmod := Nat.mod_le (c.toNat - syllableBase) trailCount
    split at h
    · obtain ⟨rfl, rfl⟩ := Prod.mk.inj (Option.some.inj h)
      exact ⟨isUpper_ofNat (by omega), isUpper_ofNat (by omega)⟩
    · obtain ⟨rfl, rfl⟩ := Prod.mk.inj (Option.some.inj h)
      have hfirst : ∀ n, 0x5a < leadBase + n := fun n => by omega
      have hsecond : ∀ n, 0x5a < vowelBase + n := fun n => by omega
      exact ⟨isUpper_ofNat (Or.inr (hfirst _)), isUpper_ofNat (Or.inr (hsecond _))⟩

theorem syllableOf?_isUpper {a b c : Char} (h : syllableOf? a b = some c) : c.isUpper = false := by
  have hsyllable : syllableBase = 0xac00 := rfl
  unfold syllableOf? at h
  dsimp only at h
  split at h
  · obtain rfl := Option.some.inj h
    exact isUpper_ofNat (by omega)
  · split at h
    · next hrange =>
      obtain rfl := Option.some.inj h
      exact isUpper_ofNat (by omega)
    · cases h

theorem parts?_isUpper {c a b : Char} (h : parts? c = some (a, b)) : a.isUpper = false ∧ b.isUpper = false := by
  unfold parts? at h
  split at h
  · cases h
  · rcases Option.or_eq_some_iff.mp h with h | ⟨-, h⟩
    · exact tableParts?_isUpper h
    · exact syllableParts?_isUpper h

theorem composite?_isUpper {a b c : Char} (h : composite? a b = some c) : c.isUpper = false := by
  unfold composite? at h
  split at h
  · cases h
  · rcases Option.or_eq_some_iff.mp h with h | ⟨-, h⟩
    · exact tableComposite?_isUpper h
    · exact syllableOf?_isUpper h

theorem takeApart_isUpper {depth : Nat} {c d : Char} (hc : c.isUpper = false) (hd : d ∈ takeApart depth c) :
    d.isUpper = false := by
  induction depth generalizing c with
  | zero =>
    rw [takeApart, List.mem_singleton] at hd
    rwa [hd]
  | succ depth ih =>
    rw [takeApart] at hd
    split at hd
    · next a b hparts =>
      obtain ⟨ha, hb⟩ := parts?_isUpper hparts
      rcases List.mem_append.mp hd with hd | hd
      · exact ih ha hd
      · exact ih hb hd
    · rw [List.mem_singleton] at hd
      rwa [hd]

theorem mem_insertByClass {c d : Char} {before : List Char} (h : d ∈ insertByClass c before) : d = c ∨ d ∈ before := by
  induction before with
  | nil => simpa [insertByClass] using h
  | cons e before ih =>
    rw [insertByClass] at h
    split at h
    · rcases List.mem_cons.mp h with rfl | h
      · exact Or.inr List.mem_cons_self
      · exact (ih h).imp_right (List.mem_cons_of_mem e)
    · exact List.mem_cons.mp h

theorem mem_order {d : Char} (h : d ∈ order cs) : d ∈ cs := by
  have hfold : ∀ before, d ∈ cs.foldl (fun before c => insertByClass c before) before → d ∈ before ∨ d ∈ cs := by
    clear h
    induction cs with
    | nil => exact fun before h => Or.inl h
    | cons c cs ih =>
      intro before h
      rcases ih _ h with h | h
      · rcases mem_insertByClass h with rfl | h
        · exact Or.inr List.mem_cons_self
        · exact Or.inl h
      · exact Or.inr (List.mem_cons_of_mem c h)
  rw [order, List.mem_reverse] at h
  exact (hfold [] h).resolve_left List.not_mem_nil

/-- The next character joins the base, or ends what the base can be joined by, or stays behind the base. -/
theorem combine_cons (base c : Char) (marks cs : List Char) :
    (∃ joined, composite? base c = some joined ∧ combine base marks (c :: cs) = combine joined marks cs) ∨
      combine base marks (c :: cs) = base :: marks.reverse ++ combine c [] cs ∨
        combine base marks (c :: cs) = combine base (c :: marks) cs := by
  have hclosed : ∀ whole : Prop, [Decidable whole] → ∀ front back : List Char,
      (if whole then front else back) = front ∨ (if whole then front else back) = back := by
    intro whole _ front back
    by_cases h : whole
    · exact Or.inl (if_pos h)
    · exact Or.inr (if_neg h)
  cases marks with
  | nil =>
    rw [combine, if_pos rfl]
    cases hjoined : composite? base c with
    | some joined => exact Or.inl ⟨joined, rfl, rfl⟩
    | none => exact Or.inr (hclosed _ _ _)
  | cons m marks =>
    rw [combine]
    by_cases hopen : classOf m < classOf c
    · rw [if_pos (by simpa using hopen)]
      cases hjoined : composite? base c with
      | some joined => exact Or.inl ⟨joined, rfl, rfl⟩
      | none => exact Or.inr (hclosed _ _ _)
    · rw [if_neg (by simpa using hopen)]
      exact Or.inr (hclosed _ _ _)

theorem combine_isUpper {base : Char} {marks : List Char} (hbase : base.isUpper = false)
    (hmarks : ∀ c ∈ marks, c.isUpper = false) (hcs : ∀ c ∈ cs, c.isUpper = false) :
    ∀ c ∈ combine base marks cs, c.isUpper = false := by
  induction cs generalizing base marks with
  | nil =>
    rw [combine]
    exact List.forall_mem_cons.mpr ⟨hbase, by simpa using hmarks⟩
  | cons c cs ih =>
    rw [List.forall_mem_cons] at hcs
    rcases combine_cons base c marks cs with ⟨joined, hjoined, heq⟩ | heq | heq
    · rw [heq]
      exact ih (composite?_isUpper hjoined) hmarks hcs.2
    · rw [heq]
      refine List.forall_mem_cons.mpr ⟨hbase, List.forall_mem_append.mpr ⟨by simpa using hmarks, ?_⟩⟩
      exact ih hcs.1 (List.forall_mem_nil _) hcs.2
    · rw [heq]
      exact ih hbase (List.forall_mem_cons.mpr ⟨hcs.1, hmarks⟩) hcs.2

/-- Composing makes no capitals. -/
theorem compose_isUpper (h : ∀ c ∈ cs, c.isUpper = false) : ∀ c ∈ compose cs, c.isUpper = false := by
  have hordered : ∀ c ∈ order (decompose cs), c.isUpper = false := by
    intro c hc
    obtain ⟨d, hd, hc⟩ := List.mem_flatMap.mp (mem_order hc)
    exact takeApart_isUpper (h d hd) hc
  rw [compose]
  generalize order (decompose cs) = ds at hordered
  induction ds with
  | nil => exact List.forall_mem_nil _
  | cons d ds ih =>
    rw [List.forall_mem_cons] at hordered
    rw [recompose]
    split
    · exact combine_isUpper hordered.1 (List.forall_mem_nil _) hordered.2
    · exact List.forall_mem_cons.mpr ⟨hordered.1, ih hordered.2⟩

end Hyperlink.Unicode
