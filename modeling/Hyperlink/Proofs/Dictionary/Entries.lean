import Hyperlink.Dictionary
import Mathlib.Data.List.Induction
import Mathlib.Data.String.Basic

/-!
# Hyperlink.Proofs.Dictionary.Entries — the pairs that a dictionary holds

* `Ascending`: the keys stand in strictly ascending order. `ascending_ofPairs`: they do in every dictionary, so that it
  holds one value per key.
* `mem_insert_iff`: an insertion adds its pair and drops the others with its key. `mem_ofPairs_iff`: **the value of a
  key is that of the last pair with the key**, by induction on the pairs from the back.
* `lookup_insert`: what is found at a key after an insertion.
* `ofPairs_eq_self`: pairs whose keys ascend already are their own dictionary.
-/

namespace Hyperlink.Dictionary

variable {α : Type}

/-- The keys stand in strictly ascending order. -/
def Ascending (d : List (String × α)) : Prop := d.Pairwise fun p q => p.1 < q.1

theorem mem_insert {key : String} {value : α} {d : List (String × α)} {p : String × α}
    (h : p ∈ insert key value d) : p = (key, value) ∨ p ∈ d := by
  induction d with
  | nil => simpa [insert] using h
  | cons q d ih =>
    unfold insert at h
    split_ifs at h with hlt hgt
    · simpa using h
    · rcases List.mem_cons.mp h with rfl | h
      · simp
      · rcases ih h with rfl | h <;> simp [*]
    · rcases List.mem_cons.mp h with rfl | h <;> simp [*]

theorem mem_ofPairs {ps : List (String × α)} {p : String × α} (h : p ∈ ofPairs ps) : p ∈ ps := by
  induction ps using List.reverseRecOn with
  | nil => exact h
  | append_singleton ps q ih =>
    rw [ofPairs_concat] at h
    rcases mem_insert h with rfl | h
    · simp
    · exact List.mem_append_left _ (ih h)

theorem Ascending.insert {d : List (String × α)} (h : Ascending d) (key : String) (value : α) :
    Ascending (Dictionary.insert key value d) := by
  induction d with
  | nil => exact List.pairwise_singleton _ _
  | cons p d ih =>
    obtain ⟨hhead, htail⟩ := List.pairwise_cons.mp h
    unfold Dictionary.insert
    split_ifs with hlt hgt
    · refine List.pairwise_cons.mpr ⟨fun q hq => ?_, h⟩
      rcases List.mem_cons.mp hq with rfl | hq
      · exact hlt
      · exact lt_trans hlt (hhead q hq)
    · refine List.pairwise_cons.mpr ⟨fun q hq => ?_, ih htail⟩
      rcases mem_insert hq with rfl | hq
      · exact hgt
      · exact hhead q hq
    · have hkey : p.1 = key := le_antisymm (not_lt.mp hlt) (not_lt.mp hgt)
      exact List.pairwise_cons.mpr ⟨fun q hq => hkey ▸ hhead q hq, htail⟩

theorem ascending_ofPairs (ps : List (String × α)) : Ascending (ofPairs ps) := by
  induction ps using List.reverseRecOn with
  | nil => exact List.Pairwise.nil
  | append_singleton ps p ih =>
    rw [ofPairs_concat]
    exact ih.insert p.1 p.2

/-- An insertion adds its pair and drops the other pairs with its key. -/
theorem mem_insert_iff {key : String} {value : α} {d : List (String × α)} (h : Ascending d) {p : String × α} :
    p ∈ insert key value d ↔ p = (key, value) ∨ p ∈ d ∧ p.1 ≠ key := by
  induction d with
  | nil => simp [insert]
  | cons q d ih =>
    obtain ⟨hhead, htail⟩ := List.pairwise_cons.mp h
    have hbehind : key ≤ q.1 → p ∈ d → p.1 ≠ key := fun hle hp => (hle.trans_lt (hhead p hp)).ne'
    unfold insert
    split_ifs with hlt hgt
    · have hne : p ∈ q :: d → p.1 ≠ key := by
        intro hp
        rcases List.mem_cons.mp hp with rfl | hp
        · exact hlt.ne'
        · exact hbehind hlt.le hp
      rw [List.mem_cons, and_iff_left_of_imp hne]
    · have hne : p = q → p.1 ≠ key := fun hp => hp ▸ hgt.ne
      rw [List.mem_cons, List.mem_cons, ih htail, or_and_right, and_iff_left_of_imp hne, or_left_comm]
    · have hkey : q.1 = key := le_antisymm (not_lt.mp hlt) (not_lt.mp hgt)
      have hreplaced : ¬ (p = q ∧ p.1 ≠ key) := fun hp => hp.2 (hp.1 ▸ hkey)
      rw [List.mem_cons, List.mem_cons, or_and_right, and_iff_left_of_imp (hbehind hkey.ge),
        iff_false_intro hreplaced, false_or]

/-- The value of a key is that of the last pair with the key. -/
theorem mem_ofPairs_iff {ps : List (String × α)} {p : String × α} :
    p ∈ ofPairs ps ↔ ∃ before after, ps = before ++ p :: after ∧ ∀ q ∈ after, q.1 ≠ p.1 := by
  induction ps using List.reverseRecOn with
  | nil => simp
  | append_singleton ps q ih =>
    rw [ofPairs_concat, mem_insert_iff (ascending_ofPairs ps), ih]
    constructor
    · rintro (rfl | ⟨⟨before, after, rfl, hafter⟩, hne⟩)
      · exact ⟨ps, [], rfl, by simp⟩
      · refine ⟨before, after ++ [q], by simp, fun r hr => ?_⟩
        rcases List.mem_append.mp hr with hr | hr
        · exact hafter r hr
        · exact List.mem_singleton.mp hr ▸ hne.symm
    · rintro ⟨before, after, hps, hafter⟩
      rcases List.eq_nil_or_concat after with rfl | ⟨after, r, rfl⟩
      · exact Or.inl (by simpa using (List.append_inj' hps rfl).2.symm)
      · rw [List.concat_eq_append] at hps hafter
        rw [← List.cons_append, ← List.append_assoc] at hps
        obtain ⟨rfl, hr⟩ := List.append_inj' hps rfl
        obtain rfl : q = r := by simpa using hr
        refine Or.inr ⟨⟨before, after, rfl, fun s hs => hafter s (List.mem_append_left _ hs)⟩, ?_⟩
        exact (hafter q (by simp)).symm

theorem mem_keys_ofPairs {ps : List (String × α)} {key : String} :
    key ∈ (ofPairs ps).map Prod.fst ↔ key ∈ ps.map Prod.fst := by
  induction ps using List.reverseRecOn with
  | nil => rfl
  | append_singleton ps p ih =>
    rw [ofPairs_concat, mem_keys_insert, ih]
    simp [or_comm]

theorem lookup_cons (p : String × α) (d : List (String × α)) (k : String) :
    (p :: d).lookup k = if k = p.1 then some p.2 else d.lookup k := by
  rw [List.lookup_cons]
  by_cases h : k = p.1
  · rw [if_pos h, beq_iff_eq.mpr h]
  · rw [if_neg h, beq_eq_false_iff_ne.mpr h]

/-- An insertion changes what is found at its key, and nothing else. -/
theorem lookup_insert (key : String) (value : α) (d : List (String × α)) (k : String) :
    (insert key value d).lookup k = if k = key then some value else d.lookup k := by
  induction d with
  | nil => exact lookup_cons (key, value) [] k
  | cons p d ih =>
    unfold insert
    split
    · exact lookup_cons (key, value) (p :: d) k
    · split
      · next hgt =>
        have hne : p.1 ≠ key := hgt.ne
        rw [lookup_cons, lookup_cons, ih]
        grind
      · next hlt hgt =>
        have hkey : p.1 = key := le_antisymm (not_lt.mp hlt) (not_lt.mp hgt)
        rw [lookup_cons, lookup_cons, hkey]
        grind

/-- A pair whose key comes behind all others is put at the end. -/
theorem insert_of_forall_lt {d : List (String × α)} {key : String} {value : α} (h : ∀ p ∈ d, p.1 < key) :
    insert key value d = d ++ [(key, value)] := by
  induction d with
  | nil => rfl
  | cons p d ih =>
    have hp : p.1 < key := h p List.mem_cons_self
    rw [insert, if_neg (not_lt.mpr hp.le), if_pos hp, ih fun q hq => h q (List.mem_cons_of_mem p hq),
      List.cons_append]

theorem ofPairs_eq_self {d : List (String × α)} (h : Ascending d) : ofPairs d = d := by
  induction d using List.reverseRecOn with
  | nil => rfl
  | append_singleton d p ih =>
    obtain ⟨hd, -, hp⟩ := List.pairwise_append.mp h
    rw [ofPairs_concat, ih hd, insert_of_forall_lt fun q hq => hp q hq p (by simp)]

end Hyperlink.Dictionary
