import Hyperlink.Domain.Name
import Hyperlink.Proofs.Domain.Punycode
import Hyperlink.Proofs.Text.Cutting
import Hyperlink.Proofs.Unicode.Composed

/-!
# Hyperlink.Proofs.Domain.Name — a domain name in ASCII is read again

* `IsSmall`: a character of ASCII that is no capital. `Passes`: a character that no check of a label is about; these and
  ideographs are of this kind. A name of such characters is cut into its labels as it stands (`labels_of_passes`), and
  they are valid (`checkedLabel?_of_passes`).
* `isOverlong`: a label in Punycode that is too long to be read. A label can become so long by being written.
* `checkedLabel?_again`: any other label that has been checked is checked again with the same outcome.
* `toAscii?_again`: so **a name in ASCII stays what it is, unless one of its labels is overlong; then it is refused.**
-/

namespace Hyperlink.Domain

open Unicode

/-! ## Small characters -/

/-- A character of ASCII that is no capital. -/
structure IsSmall (c : Char) : Prop where
  ascii : c.toNat < Punycode.firstCode
  notUpper : c.isUpper = false

theorem isSmall_of_decide {c : Char} (h : c.toNat < 128 ∧ c.isUpper = false) : IsSmall c := ⟨h.1, h.2⟩

theorem IsSmall.isAscii {c : Char} (h : IsSmall c) : isAscii c = true := by
  simpa [Domain.isAscii] using h.ascii

theorem IsSmall.toLower {c : Char} (h : IsSmall c) : c.toLower = c :=
  toLower_of_notUpper h.notUpper

theorem isPrefixOf_eq (mark label : List Char) : mark.isPrefixOf label = (mark.isPrefixOf? label).isSome := by
  induction mark generalizing label with
  | nil => simp [List.isPrefixOf?]
  | cons c mark ih =>
    cases label with
    | nil => rfl
    | cons d label =>
      rw [List.isPrefixOf, List.isPrefixOf?, ih]
      by_cases hcd : c = d <;> simp [hcd]

/-- A character that the replacement keeps and that may stand anywhere in a label that does not run in two directions. -/
structure Passes (c : Char) : Prop where
  replaced : replacement c = [c]
  alone : StandsAlone c
  valid : isLabelChar c = true
  noJoiner : c ≠ nonJoiner ∧ c ≠ joiner
  leftToRight : runsRightToLeft c = false

theorem IsSmall.passes {c : Char} (h : IsSmall c) : Passes c where
  replaced := by rw [replacement, if_pos h.isAscii, h.toLower]
  alone := standsAlone_of_ascii h.ascii
  valid := by simp [isLabelChar, h.isAscii, h.toLower]
  noJoiner := by
    have hlt := h.ascii
    constructor <;> rintro rfl <;> exact absurd hlt (by decide)
  leftToRight := by
    have hlt : ¬ firstRightToLeft ≤ c.toNat := Nat.not_le.mpr (Nat.lt_trans h.ascii (by decide))
    simp [runsRightToLeft, hlt]

theorem passes_ideograph {c : Char} (h : IsIdeograph c) : Passes c := by
  have hlow := h.1
  have hascii : isAscii c = false := by
    have hlt : ¬ c.toNat < Punycode.firstCode := by
      simp only [Punycode.firstCode]
      omega
    simpa [isAscii] using hlt
  refine ⟨?_, standsAlone_ideograph h, ?_, ?_, ?_⟩
  · rw [replacement, hascii, mapped?_ideograph h]
    rfl
  · simp [isLabelChar, hascii, isValid_ideograph h]
  · constructor <;> rintro rfl <;> exact absurd hlow (by decide)
  · rw [runsRightToLeft, bidiClass_ideograph h, Bool.and_false]

section Passing

variable {cs : List Char} (h : ∀ c ∈ cs, Passes c)

include h

/-- A name that passes is cut into its labels as it stands. -/
theorem labels_of_passes : labels cs = cs.splitOn '.' := by
  have hsame : cs.flatMap replacement = cs := by
    induction cs with
    | nil => rfl
    | cons c cs ih =>
      rw [List.forall_mem_cons] at h
      rw [List.flatMap_cons, h.1.replaced, ih h.2]
      rfl
  rw [labels, hsame, compose_eq_self fun c hc => (h c hc).alone]

theorem joinersFit_of_passes (before : List Char) : joinersFit before cs = true := by
  induction cs generalizing before with
  | nil => rfl
  | cons c cs ih =>
    rw [List.forall_mem_cons] at h
    rw [joinersFit, ih h.2]
    simp [h.1.noJoiner]

/-- A label that passes and does not begin with the mark of Punycode is what it stands for. -/
theorem checkedLabel?_of_passes (hmark : punycodeMark.isPrefixOf? cs = none)
    (hhead : ∀ c, cs.head? = some c → isAscii c = true) : checkedLabel? false cs = asciiLabel? cs := by
  have hplain : plainLabel? cs = some cs := by
    rw [plainLabel?, hmark]
  have hleading : (cs.head?.map isLeadingMark).getD false = false := by
    cases hc : cs.head? with
    | none => rfl
    | some c => simp [isLeadingMark, hhead c hc]
  have hall : cs.all isLabelChar = true := List.all_eq_true.mpr fun c hc => (h c hc).valid
  have hvalid : isValidLabel false cs = true := by
    rw [isValidLabel, compose_eq_self fun c hc => (h c hc).alone, hall, hleading, joinersFit_of_passes h]
    simp
  rw [checkedLabel?, hplain]
  simp only [Option.bind_eq_bind, Option.bind_some]
  rw [if_neg (by simp [hvalid]), isPrefixOf_eq, hmark]
  rfl

theorem runsRightToLeft_of_passes (hmark : punycodeMark.isPrefixOf? cs = none) :
    ((plainLabel? cs).getD []).any runsRightToLeft = false := by
  rw [plainLabel?, hmark]
  exact List.any_eq_false.mpr fun c hc => by simp [(h c hc).leftToRight]

end Passing

theorem replacement_isUpper {c d : Char} (h : d ∈ replacement c) : d.isUpper = false := by
  unfold replacement at h
  split at h
  · rw [List.mem_singleton] at h
    rw [h]
    exact isUpper_toLower c
  · next hascii =>
    cases hmapped : mapped? c with
    | some ds =>
      rw [hmapped] at h
      exact mapped?_isUpper hmapped h
    | none =>
      rw [hmapped] at h
      obtain rfl : d = c := List.mem_singleton.mp h
      have hfirst : Punycode.firstCode = 128 := rfl
      have hlarge : ¬ d.toNat < Punycode.firstCode := by simpa only [isAscii, decide_eq_true_eq] using hascii
      rw [isUpper_eq_false_iff]
      omega

/-- A label of a name, cut at the points and without capitals. -/
structure IsCut (label : List Char) : Prop where
  notUpper : ∀ c ∈ label, c.isUpper = false
  noPoint : '.' ∉ label

theorem isCut_of_mem_labels {name label : List Char} (h : label ∈ labels name) : IsCut label where
  notUpper c hc := by
    refine compose_isUpper (fun d hd => ?_) c (Text.mem_of_mem_splitOn h hc)
    obtain ⟨e, -, hd⟩ := List.mem_flatMap.mp hd
    exact replacement_isUpper hd
  noPoint := Text.not_mem_of_mem_splitOn h

/-! ## Labels that are checked again -/

/-- Whether a label in Punycode is too long to be read. -/
def isOverlong (label : List Char) : Bool :=
  match punycodeMark.isPrefixOf? label with
  | some encoded => maxEncoded < encoded.length
  | none => false

theorem checkedLabel?_of_overlong {label : List Char} (h : isOverlong label = true) (twoDirections : Bool) :
    checkedLabel? twoDirections label = none := by
  have hplain : plainLabel? label = none := by
    unfold isOverlong at h
    unfold plainLabel?
    split at h
    · next encoded hmarked =>
      rw [hmarked]
      exact if_pos (by simpa using h)
    · cases h
  rw [checkedLabel?, hplain]
  rfl

theorem plainLabel?_eq_some {label plain : List Char} (h : plainLabel? label = some plain) :
    (punycodeMark.isPrefixOf? label = none ∧ plain = label) ∨
      ∃ encoded, punycodeMark.isPrefixOf? label = some encoded ∧ Punycode.decode? encoded = some plain := by
  unfold plainLabel? at h
  split at h
  · next hmark => exact Or.inl ⟨hmark, (Option.some.inj h).symm⟩
  · next encoded hmark =>
    split at h
    · cases h
    · split at h
      · cases h
      · next decoded hdecoded =>
        split at h
        · cases h
        · exact Or.inr ⟨encoded, hmark, hdecoded.trans h⟩

theorem checkedLabel?_eq_some {twoDirections : Bool} {label checked : List Char}
    (h : checkedLabel? twoDirections label = some checked) :
    ∃ plain, plainLabel? label = some plain ∧ isValidLabel twoDirections plain = true ∧
      (if punycodeMark.isPrefixOf label then some label else asciiLabel? plain) = some checked := by
  simp only [checkedLabel?, bind, Option.bind_eq_some_iff] at h
  obtain ⟨plain, hplain, h⟩ := h
  split at h
  · cases h
  · next hvalid => exact ⟨plain, hplain, by simpa using hvalid, h⟩

section Checked

variable {twoDirections : Bool} {label checked : List Char} (h : checkedLabel? twoDirections label = some checked)

include h

/-- A label is kept, or it is no ASCII and written in Punycode. -/
theorem checkedLabel?_cases : checked = label ∧ (∀ c ∈ label, c.toNat < Punycode.firstCode) ∨
    checked = punycodeMark ++ Punycode.encode label ∧ plainLabel? label = some label ∧
      isValidLabel twoDirections label = true ∧ label.all isAscii = false ∧
      punycodeMark.isPrefixOf? label = none := by
  obtain ⟨plain, hplain, hvalid, hchecked⟩ := checkedLabel?_eq_some h
  rw [isPrefixOf_eq] at hchecked
  rcases plainLabel?_eq_some hplain with ⟨hmark, rfl⟩ | ⟨encoded, hmark, hdecoded⟩
  · rw [hmark, Option.isSome_none, if_neg (by decide), asciiLabel?] at hchecked
    split at hchecked
    · next hascii =>
      refine Or.inl ⟨(Option.some.inj hchecked).symm, fun c hc => ?_⟩
      simpa [isAscii] using List.all_eq_true.mp hascii c hc
    · next hascii =>
      split at hchecked
      · cases hchecked
      · rw [Punycode.encode?_eq_some] at hchecked
        exact Or.inr ⟨(Option.some.inj hchecked).symm, hplain, hvalid, by simpa using hascii, hmark⟩
  · rw [hmark, Option.isSome_some, if_pos rfl] at hchecked
    refine Or.inl ⟨(Option.some.inj hchecked).symm, fun c hc => ?_⟩
    have hlabel := List.isPrefixOf?_eq_some_iff_append_eq.mp hmark
    rw [← hlabel] at hc
    rcases List.mem_append.mp hc with hc | hc
    · have hall : ∀ c ∈ punycodeMark, c.toNat < Punycode.firstCode :=
        List.forall_iff_forall_mem.mp (by decide)
      exact hall c hc
    · unfold Punycode.decode? at hdecoded
      split at hdecoded
      · next hascii => simpa using List.all_eq_true.mp hascii c hc
      · cases hdecoded

/-- A checked label is made of small characters and has no points. -/
theorem checkedLabel?_small (hcut : IsCut label) : (∀ c ∈ checked, IsSmall c) ∧ '.' ∉ checked := by
  rcases checkedLabel?_cases h with ⟨rfl, hascii⟩ | ⟨rfl, -, -, -, -⟩
  · exact ⟨fun c hc => ⟨hascii c hc, hcut.notUpper c hc⟩, hcut.noPoint⟩
  · have hmark : ∀ c ∈ punycodeMark, IsSmall c ∧ c ≠ '.' := by
      have hall : ∀ c ∈ punycodeMark, (c.toNat < 128 ∧ c.isUpper = false) ∧ c ≠ '.' :=
        List.forall_iff_forall_mem.mp (by decide)
      exact fun c hc => ⟨isSmall_of_decide (hall c hc).1, (hall c hc).2⟩
    have hwritten : ∀ c ∈ Punycode.encode label, IsSmall c ∧ c ≠ '.' := by
      intro c hc
      rcases Punycode.encode_isWritten hc with hc | rfl | ⟨d, hd, rfl⟩
      · obtain ⟨hmem, hascii⟩ := List.mem_filter.mp hc
        refine ⟨⟨by simpa using hascii, hcut.notUpper c hmem⟩, ?_⟩
        rintro rfl
        exact hcut.noPoint hmem
      · exact ⟨isSmall_of_decide (by decide), by decide⟩
      · have hall : ∀ d < 36, ((Punycode.digitChar d).toNat < 128 ∧ (Punycode.digitChar d).isUpper = false) ∧
            Punycode.digitChar d ≠ '.' := by decide
        exact ⟨isSmall_of_decide (hall d hd).1, (hall d hd).2⟩
    have hboth : ∀ c ∈ punycodeMark ++ Punycode.encode label, IsSmall c ∧ c ≠ '.' :=
      List.forall_mem_append.mpr ⟨hmark, hwritten⟩
    exact ⟨fun c hc => (hboth c hc).1, fun hpoint => (hboth _ hpoint).2 rfl⟩

/-- **A checked label that is not overlong is checked again with the same outcome.** -/
theorem checkedLabel?_again (hlong : isOverlong checked = false) :
    plainLabel? checked = plainLabel? label ∧ checkedLabel? twoDirections checked = some checked := by
  rcases checkedLabel?_cases h with ⟨rfl, -⟩ | ⟨rfl, hplain, hvalid, hascii, hmark⟩
  · exact ⟨rfl, h⟩
  · have hmarked : punycodeMark.isPrefixOf? (punycodeMark ++ Punycode.encode label) = some (Punycode.encode label) :=
      List.isPrefixOf?_eq_some_iff_append_eq.mpr rfl
    have hlength : ¬ maxEncoded < (Punycode.encode label).length := by
      rw [isOverlong, hmarked] at hlong
      simpa using hlong
    have hagain : plainLabel? (punycodeMark ++ Punycode.encode label) = some label := by
      rw [plainLabel?, hmarked]
      dsimp only
      rw [if_neg hlength, Punycode.decode?_encode]
      dsimp only
      rw [hascii, isPrefixOf_eq, hmark]
      rfl
    refine ⟨hagain.trans hplain.symm, ?_⟩
    rw [checkedLabel?, hagain]
    simp only [Option.bind_eq_bind, Option.bind_some]
    rw [if_neg (by simp [hvalid]), isPrefixOf_eq, hmarked]
    rfl

end Checked

/-! ## Names that are read again -/

/-- What holds of all labels of a name that have been checked, `ks` for `ls`. -/
theorem mapM_checkedLabel? {twoDirections : Bool} {ls ks : List (List Char)}
    (h : ls.mapM (checkedLabel? twoDirections) = some ks) (hcut : ∀ l ∈ ls, IsCut l) :
    ks.length = ls.length ∧ (∀ k ∈ ks, (∀ c ∈ k, IsSmall c) ∧ '.' ∉ k) ∧
      ((∀ k ∈ ks, isOverlong k = false) →
        ks.map plainLabel? = ls.map plainLabel? ∧ ks.mapM (checkedLabel? twoDirections) = some ks) := by
  induction ls generalizing ks with
  | nil =>
    obtain rfl : ks = [] := by simpa using h.symm
    simp
  | cons l ls ih =>
    rw [List.mapM_cons] at h
    simp only [Option.bind_eq_bind, Option.bind_eq_some_iff] at h
    obtain ⟨k, hk, ks', hks, h⟩ := h
    obtain rfl := Option.some.inj h
    rw [List.forall_mem_cons] at hcut
    obtain ⟨hlength, hsmall, hagain⟩ := ih hks hcut.2
    refine ⟨by rw [List.length_cons, List.length_cons, hlength], ?_, fun hlong => ?_⟩
    · exact List.forall_mem_cons.mpr ⟨checkedLabel?_small hk hcut.1, hsmall⟩
    · rw [List.forall_mem_cons] at hlong
      obtain ⟨hplain, hchecked⟩ := checkedLabel?_again hk hlong.1
      obtain ⟨hplains, hcheckeds⟩ := hagain hlong.2
      constructor
      · rw [List.map_cons, List.map_cons, hplain, hplains]
      · rw [List.mapM_cons, hchecked, hcheckeds]
        rfl

theorem mapM_checkedLabel?_of_overlong {twoDirections : Bool} {ks : List (List Char)} {k : List Char} (hk : k ∈ ks)
    (h : isOverlong k = true) : ks.mapM (checkedLabel? twoDirections) = none := by
  induction ks with
  | nil => cases hk
  | cons k' ks ih =>
    rw [List.mapM_cons]
    rcases List.mem_cons.mp hk with rfl | hk
    · rw [checkedLabel?_of_overlong h]
      rfl
    · rw [ih hk]
      cases checkedLabel? twoDirections k' <;> rfl

theorem hasTwoDirections_eq {ls ks : List (List Char)} (h : ks.map plainLabel? = ls.map plainLabel?) :
    hasTwoDirections ks = hasTwoDirections ls := by
  have hmap : ∀ ls : List (List Char),
      hasTwoDirections ls = (ls.map plainLabel?).any fun plain => (plain.getD []).any runsRightToLeft := by
    intro ls
    rw [List.any_map]
    rfl
  rw [hmap, hmap, h]

theorem toAscii?_eq_some {name result : List Char} (h : toAscii? name = some result) :
    ∃ ks, (labels name).mapM (checkedLabel? (hasTwoDirections (labels name))) = some ks ∧
      result = ['.'].intercalate ks ∧ result.any isForbidden = false := by
  simp only [toAscii?, bind, Option.bind_eq_some_iff] at h
  obtain ⟨ks, hks, h⟩ := h
  split at h
  · cases h
  · next hforbidden =>
    have hresult := Option.some.inj h
    exact ⟨ks, hks, hresult.symm, by simpa [hresult] using hforbidden⟩

/-- The labels of a name in ASCII are small and lead back to the name. -/
theorem splitOn_toAscii? {name result : List Char} {ks : List (List Char)}
    (hks : (labels name).mapM (checkedLabel? (hasTwoDirections (labels name))) = some ks)
    (hresult : result = ['.'].intercalate ks) : result.splitOn '.' = ks := by
  obtain ⟨hlength, hsmall, -⟩ := mapM_checkedLabel? hks fun l hl => isCut_of_mem_labels hl
  have hne : ks ≠ [] := by
    rintro rfl
    exact absurd (List.length_eq_zero_iff.mp hlength.symm) (List.splitOn_ne_nil _ _)
  rw [hresult]
  exact List.splitOn_intercalate '.' (fun k hk => (hsmall k hk).2) hne

theorem toAscii?_small {name result : List Char} (h : toAscii? name = some result) : ∀ c ∈ result, IsSmall c := by
  obtain ⟨ks, hks, rfl, -⟩ := toAscii?_eq_some h
  obtain ⟨-, hsmall, -⟩ := mapM_checkedLabel? hks fun l hl => isCut_of_mem_labels hl
  intro c hc
  rcases Text.eq_or_mem_of_mem_intercalate hc with rfl | ⟨k, hk, hc⟩
  · exact isSmall_of_decide (by decide)
  · exact (hsmall k hk).1 c hc

/-- **A name in ASCII stays what it is**, unless one of its labels is overlong; then it is refused. -/
theorem toAscii?_again {name result : List Char} (h : toAscii? name = some result) :
    toAscii? result = if (result.splitOn '.').any isOverlong then none else some result := by
  obtain ⟨ks, hks, hresult, hforbidden⟩ := toAscii?_eq_some h
  have hsplit := splitOn_toAscii? hks hresult
  have hlabels : labels result = ks := by
    rw [labels_of_passes fun c hc => (toAscii?_small h c hc).passes, hsplit]
  rw [hsplit, toAscii?, hlabels]
  split
  · next hlong =>
    obtain ⟨k, hk, hlong⟩ := List.any_eq_true.mp hlong
    dsimp only
    rw [mapM_checkedLabel?_of_overlong hk hlong]
    rfl
  · next hlong =>
    obtain ⟨-, -, hagain⟩ := mapM_checkedLabel? hks fun l hl => isCut_of_mem_labels hl
    obtain ⟨hplain, hchecked⟩ := hagain fun k hk => by
      simpa using fun hk' => hlong (List.any_eq_true.mpr ⟨k, hk, hk'⟩)
    dsimp only
    rw [hasTwoDirections_eq hplain, hchecked]
    simp only [Option.bind_eq_bind, Option.bind_some]
    rw [← hresult, hforbidden]
    rfl

/-- A name of small characters that has no label in Punycode is in ASCII. -/
theorem toAscii?_of_small {name : List Char} (hsmall : ∀ c ∈ name, IsSmall c) (hforbidden : name.any isForbidden = false)
    (hmark : ∀ l ∈ name.splitOn '.', punycodeMark.isPrefixOf? l = none) : toAscii? name = some name := by
  have hlabel : ∀ l ∈ name.splitOn '.', ∀ c ∈ l, IsSmall c :=
    fun l hl c hc => hsmall c (Text.mem_of_mem_splitOn hl hc)
  have hpass : ∀ l ∈ name.splitOn '.', ∀ c ∈ l, Passes c := fun l hl c hc => (hlabel l hl c hc).passes
  have hchecked : ∀ l ∈ name.splitOn '.', checkedLabel? false l = some l := by
    intro l hl
    have hascii : l.all isAscii = true := List.all_eq_true.mpr fun c hc => (hlabel l hl c hc).isAscii
    rw [checkedLabel?_of_passes (hpass l hl) (hmark l hl)
      fun c hc => (hlabel l hl c (List.mem_of_head? hc)).isAscii, asciiLabel?, if_pos hascii]
  have htwo : hasTwoDirections (name.splitOn '.') = false :=
    List.any_eq_false.mpr fun l hl => by simp [runsRightToLeft_of_passes (hpass l hl) (hmark l hl)]
  have hmap : (name.splitOn '.').mapM (checkedLabel? false) = some (name.splitOn '.') := by
    generalize name.splitOn '.' = ls at hchecked
    induction ls with
    | nil => rfl
    | cons l ls ih =>
      rw [List.forall_mem_cons] at hchecked
      rw [List.mapM_cons, hchecked.1, ih hchecked.2]
      rfl
  rw [toAscii?, labels_of_passes fun c hc => (hsmall c hc).passes]
  dsimp only
  rw [htwo, hmap]
  simp only [Option.bind_eq_bind, Option.bind_some, List.intercalate_splitOn]
  rw [hforbidden]
  rfl

theorem ascii_of_isForbidden {c : Char} (h : isForbidden c = true) : c.toNat < Punycode.firstCode := by
  have hsigns : ∀ c ∈ "%#/:<>?@[\\]^|".toList, c.toNat < Punycode.firstCode :=
    List.forall_iff_forall_mem.mp (by decide)
  have hfirst : Punycode.firstCode = 128 := rfl
  simp only [isForbidden, Bool.or_eq_true, decide_eq_true_eq, List.contains_iff_mem] at h
  rcases h with (h | h) | h
  · omega
  · omega
  · exact hsigns c h

/-- A label of which all characters pass is written in Punycode, if it is neither ASCII nor too long. -/
theorem toAscii?_of_passes {label : List Char} (h : ∀ c ∈ label, Passes c) (hpoint : '.' ∉ label)
    (hforbidden : ∀ c ∈ label, isForbidden c = false) (hmark : punycodeMark.isPrefixOf? label = none)
    (hhead : ∀ c, label.head? = some c → isAscii c = true) (hascii : label.all isAscii = false)
    (hlength : label.length ≤ maxPlain) : toAscii? label = some (punycodeMark ++ Punycode.encode label) := by
  have hlabels : labels label = [label] := by
    rw [labels_of_passes h, List.splitOn_eq_singleton hpoint]
  have htwo : hasTwoDirections [label] = false := by
    rw [hasTwoDirections, List.any_cons, List.any_nil, runsRightToLeft_of_passes h hmark, Bool.or_false]
  have hchecked : checkedLabel? false label = some (punycodeMark ++ Punycode.encode label) := by
    rw [checkedLabel?_of_passes h hmark hhead, asciiLabel?, if_neg (by simp [hascii]), if_neg (Nat.not_lt.mpr hlength),
      Punycode.encode?_eq_some]
    rfl
  have hwritten : (punycodeMark ++ Punycode.encode label).any isForbidden = false := by
    rw [List.any_append, Bool.or_eq_false_iff]
    refine ⟨by decide, List.any_eq_false.mpr fun c hc => ?_⟩
    rcases Punycode.encode_isWritten hc with hc | rfl | ⟨d, hd, rfl⟩
    · simp [hforbidden c (List.mem_filter.mp hc).1]
    · decide
    · have hall : ∀ d < 36, ¬ isForbidden (Punycode.digitChar d) = true := by decide
      exact hall d hd
  rw [toAscii?, hlabels]
  dsimp only
  rw [htwo, List.mapM_cons, hchecked]
  simp only [List.mapM_nil, Option.bind_eq_bind, Option.bind_some, Option.pure_def, List.intercalate_singleton]
  rw [hwritten]
  rfl

end Hyperlink.Domain
