import Hyperlink.Text.Blank
import Hyperlink.Url.Percent
import Mathlib.Data.List.Basic

/-!
# Hyperlink.Proofs.Url.Percent — encoding what is encoded

* `IsVisible`: the characters of ASCII that are seen, no blanks among them. They are solid (`IsSolid`): nothing takes them
  off the ends of a text.
* `IsPartSet`: a set that encodes all others and keeps what encoded bytes are written with. The sets of the parts of a
  URL are of this kind.
* `percentEncode_avoids`: so an encoded text holds no character of the set; `percentEncode_percentEncode`: **encoding it
  again changes nothing**.
-/

namespace Hyperlink.Url

/-- A character of ASCII that is seen. -/
def IsVisible (c : Char) : Prop := '!' ≤ c ∧ c ≤ '~'

instance (c : Char) : Decidable (IsVisible c) := inferInstanceAs (Decidable (_ ∧ _))

/-- A character that is not taken off at the ends of a text. -/
structure IsSolid (c : Char) : Prop where
  space_lt : ' ' < c
  notBlank : Text.isBlank c = false

theorem IsVisible.solid {c : Char} (h : IsVisible c) : IsSolid c := by
  have hlow : 33 ≤ c.toNat := h.1
  have hhigh : c.toNat ≤ 126 := h.2
  constructor
  · show 32 < c.toNat
    omega
  · simp [Text.isBlank, Text.inRanges, Text.blankRanges]
    omega

/-- The characters that encoded bytes are written with. -/
def codeChars : List Char := "%0123456789ABCDEF".toList

/-- A set of characters that are encoded in a part of a URL: all that are not visible, and none that an encoded byte is
written with. -/
structure IsPartSet (set : Char → Bool) : Prop where
  visible : ∀ c, set c = false → IsVisible c
  keeps : ∀ c ∈ codeChars, set c = false

/-! ## The sets of the parts -/

theorem isVisible_of_controlSet {c : Char} (h : controlSet c = false) (hspace : c ≠ ' ') : IsVisible c := by
  obtain ⟨hlow, hhigh⟩ : ' ' ≤ c ∧ c ≤ '\x7e' := by
    simpa [controlSet, Char.not_lt] using h
  refine ⟨?_, hhigh⟩
  have hne : c.toNat ≠ 32 := fun hc => hspace (Char.toNat_inj.mp hc)
  have hle : 32 ≤ c.toNat := hlow
  show 33 ≤ c.toNat
  omega

theorem isPartSet_fragment : IsPartSet fragmentSet where
  visible c h := by
    simp only [fragmentSet, Bool.or_eq_false_iff] at h
    refine isVisible_of_controlSet h.1 ?_
    rintro rfl
    exact absurd h.2 (by decide)
  keeps := List.forall_iff_forall_mem.mp (by decide)

theorem isPartSet_path : IsPartSet pathSet where
  visible c h := by
    simp only [pathSet, Bool.or_eq_false_iff] at h
    exact isPartSet_fragment.visible c h.1
  keeps := List.forall_iff_forall_mem.mp (by decide)

theorem isPartSet_userinfo : IsPartSet userinfoSet where
  visible c h := by
    simp only [userinfoSet, Bool.or_eq_false_iff] at h
    exact isPartSet_path.visible c h.1
  keeps := List.forall_iff_forall_mem.mp (by decide)

theorem isPartSet_query : IsPartSet querySet where
  visible c h := by
    simp only [querySet, Bool.or_eq_false_iff] at h
    refine isVisible_of_controlSet h.1 ?_
    rintro rfl
    exact absurd h.2 (by decide)
  keeps := List.forall_iff_forall_mem.mp (by decide)

/-! ## Encoded texts -/

theorem mem_codeChars_of_hexByte {b : UInt8} {c : Char} (h : c ∈ Text.hexByte b) : c ∈ codeChars := by
  have hdigit : ∀ n < 16, (Nat.digitChar n).toUpper ∈ codeChars := by decide
  have hb := b.toNat_lt
  have hhigh := hdigit (b.toNat / 16) (by omega)
  have hlow := hdigit (b.toNat % 16) (by omega)
  simp only [Text.hexByte, List.map_cons, List.map_nil, List.mem_cons, List.not_mem_nil, or_false] at h
  rcases h with rfl | rfl
  · exact hhigh
  · exact hlow

theorem mem_codeChars_of_encodeChar {c d : Char} (h : d ∈ encodeChar c) : d ∈ codeChars := by
  obtain ⟨b, -, hd⟩ := List.mem_flatMap.mp h
  rcases List.mem_cons.mp hd with rfl | hd
  · decide
  · exact mem_codeChars_of_hexByte hd

/-- A text without characters of the set stands for itself. -/
theorem percentEncode_eq_self {set : Char → Bool} {cs : List Char} (h : ∀ c ∈ cs, set c = false) :
    percentEncode set cs = cs := by
  induction cs with
  | nil => rfl
  | cons c cs ih =>
    rw [List.forall_mem_cons] at h
    have hcs : cs.flatMap (fun c => if set c then encodeChar c else [c]) = cs := ih h.2
    rw [percentEncode, List.flatMap_cons, hcs, if_neg (by simp [h.1]), List.singleton_append]

section PartSet

variable {set : Char → Bool} (hset : IsPartSet set)

include hset

/-- An encoded text holds no character of the set. -/
theorem percentEncode_avoids {cs : List Char} {c : Char} (h : c ∈ percentEncode set cs) : set c = false := by
  obtain ⟨d, -, hd⟩ := List.mem_flatMap.mp h
  split at hd
  · exact hset.keeps c (mem_codeChars_of_encodeChar hd)
  · next hnot =>
    obtain rfl := List.mem_singleton.mp hd
    simpa using hnot

/-- **Encoding an encoded text changes nothing.** -/
theorem percentEncode_percentEncode (cs : List Char) :
    percentEncode set (percentEncode set cs) = percentEncode set cs :=
  percentEncode_eq_self fun _ h => percentEncode_avoids hset h

end PartSet

end Hyperlink.Url
