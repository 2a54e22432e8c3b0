import Hyperlink.Identifier.Unpack
import Hyperlink.Proofs.Block.Grammar
import Hyperlink.Proofs.Locator.Reading

/-!
# Hyperlink.Proofs.View.Reading — view parameters are read back as they were written

* `View.IsPlain`: a view whose texts do not leak into each other when they are written.
* `suffix_normalizeView`: a view and its normal form are written alike.
* `pathChars_suffix`: no view parameter ever belongs to the path, whatever characters it holds.
* `viewOf_suffix`: a plain view in normal form is read back.
* `ofFragment`: the view at the block that the text of a fragment refers to. It is plain and in normal form if its
  version is (`isPlain_ofFragment`, `normalizeView_ofFragment`); and so is every view that is read (`viewOf_isPlain`,
  `normalizeView_viewOf`).
-/

namespace Hyperlink

open Identifier (normalizeView viewOf)
open Locator (ofRest ofRest_query ofRest_fragment cutOptional pathChars keyValue queryPairs)

namespace View

/-- A view that is written so that each part can be told from the others: the version ends where the next parameter
begins, and the block is read back with its range. -/
structure IsPlain (v : View) : Prop where
  version : ∀ w, v.version = some w → '&' ∉ w.toList ∧ '#' ∉ w.toList
  block : ∀ b, v.blockRef = some b →
    BlockRef.parse? (BlockRef.render ⟨b, v.blockRange⟩) = some ⟨b, v.blockRange⟩

/-! ## Normal forms -/

theorem nonempty_eq_some {t : Option String} {s : String} : nonempty t = some s ↔ t = some s ∧ s ≠ "" := by
  simp [nonempty, Option.filter_eq_some_iff]

@[simp] theorem nonempty_nonempty (t : Option String) : nonempty (nonempty t) = nonempty t := by
  simp [nonempty, Option.filter_filter]

/-- A text that is not empty comes before another one. -/
theorem nonempty_or (first second : Option String) :
    nonempty ((nonempty first).or second) = (nonempty first).or (nonempty second) := by
  cases h : nonempty first with
  | none => rfl
  | some s => rw [Option.some_or, Option.some_or, ← h, nonempty_nonempty]

theorem normalizeView_normalizeView (v : View) : normalizeView (normalizeView v) = normalizeView v := by
  unfold normalizeView
  simp only [nonempty_nonempty]
  split <;> simp [Option.filter_filter]

/-- A view and its normal form are written alike. -/
theorem suffix_normalizeView (v : View) : (normalizeView v).suffix = v.suffix := by
  have hquery : (normalizeView v).query = v.query := by
    simp [query, queryPieces, normalizeView]
  have hfragment : (normalizeView v).fragment = v.fragment := by
    unfold fragment normalizeView
    simp only [nonempty_nonempty]
    cases hb : nonempty v.blockRef with
    | none => rfl
    | some b =>
      cases hr : v.blockRange with
      | none => rfl
      | some r =>
        by_cases he : r = .expanded false
        · subst he
          rfl
        · simp [Option.filter, he]
  rw [suffix, suffix, hquery, hfragment]

/-! ## The text of a view -/

/-- The text behind the number sign. -/
def fragmentText (v : View) : Option String :=
  (nonempty v.blockRef).map fun b => BlockRef.render ⟨b, v.blockRange⟩

theorem fragment_eq (v : View) : v.fragment = Locator.marked '#' v.fragmentText := by
  unfold fragment fragmentText
  cases nonempty v.blockRef with
  | none => rfl
  | some b => simp only [Locator.marked, Option.map_some, BlockRef.render, String.append_assoc]

/-- The text behind the question mark. -/
def queryText (v : View) : Option String :=
  if v.queryPieces = [] then none else some ("&".intercalate v.queryPieces)

theorem query_eq (v : View) : v.query = Locator.marked '?' v.queryText := by
  unfold query queryText
  split <;> rfl

/-- No view parameter belongs to the path: what is written begins with a question mark or a number sign. -/
theorem pathChars_suffix (v : View) : pathChars v.suffix.toList = [] := by
  rw [Locator.pathChars_eq_takeWhile, suffix, String.toList_append, query_eq, fragment_eq, Locator.toList_marked,
    Locator.toList_marked]
  cases v.queryText <;> cases v.fragmentText <;> simp

theorem not_mem_query {v : View} (h : ∀ w, v.version = some w → '#' ∉ w.toList) : '#' ∉ v.query.toList := by
  have hversion : ∀ w, nonempty v.version = some w → '#' ∉ w.toList := fun w hw => h w (nonempty_eq_some.mp hw).1
  unfold query queryPieces
  cases hw : nonempty v.version with
  | none => cases v.latest <;> decide
  | some w =>
    have := hversion w hw
    cases v.latest <;> simp [this]

/-- The query and the fragment of a view whose version does not hold a number sign. -/
theorem ofRest_suffix {v : View} (h : ∀ w, v.version = some w → '#' ∉ w.toList) (scheme : List Char) :
    (ofRest scheme v.suffix.toList).query = queryPairs ("&".intercalate v.queryPieces).toList ∧
      (ofRest scheme v.suffix.toList).fragment = v.fragmentText := by
  rw [ofRest_query, ofRest_fragment, suffix, String.toList_append, fragment_eq,
    Locator.cutOptional_marked (not_mem_query h), query_eq, Locator.cutOptional_marked_nil, queryText]
  refine ⟨?_, ?_⟩
  · split
    · next hpieces => rw [hpieces]; rfl
    · rfl
  · cases v.fragmentText <;> simp

/-! ## Reading -/

theorem keyValue_version (w : String) : keyValue ("v=" ++ w).toList = ("v", w) := by
  have htext : ("v=" ++ w).toList = ['v'] ++ '=' :: w.toList := by simp
  unfold keyValue
  rw [htext, Text.cutAt_append (by decide)]
  simp

/-- The pairs that are read from the query of a view: the version, and the flag without a value. -/
theorem queryPairs_queryPieces {v : View} (h : ∀ w, v.version = some w → '&' ∉ w.toList) :
    queryPairs ("&".intercalate v.queryPieces).toList =
      ((nonempty v.version).map fun w => ("v", w)).toList ++ if v.latest then [("l", "")] else [] := by
  have hpieces : ∀ p ∈ v.queryPieces, p ≠ "" ∧ '&' ∉ p.toList := by
    intro p hp
    rw [queryPieces] at hp
    rcases List.mem_append.mp hp with hp | hp
    · rw [Option.mem_toList, Option.map_eq_some_iff] at hp
      obtain ⟨w, hw, rfl⟩ := hp
      exact ⟨by simp, by simp [h w (nonempty_eq_some.mp hw).1]⟩
    · cases hlatest : v.latest with
      | false => simp [hlatest] at hp
      | true =>
        obtain rfl : p = "l" := by simpa [hlatest] using hp
        decide
  have hflag : keyValue "l".toList = ("l", "") := rfl
  rw [Locator.queryPairs_intercalate hpieces, queryPieces, List.map_append]
  congr 1
  · cases nonempty v.version with
    | none => rfl
    | some w => simp only [Option.map_some, Option.toList_some, List.map_cons, List.map_nil, keyValue_version]
  · cases v.latest with
    | false => rfl
    | true => simp only [if_true, List.map_cons, List.map_nil, hflag]

theorem value?_hasKey {l : Locator} {version : Option String} {latest : Bool}
    (h : l.query = (version.map fun w => ("v", w)).toList ++ if latest then [("l", "")] else []) :
    l.value? "v" = nonempty version ∧ l.hasKey "l" = latest := by
  unfold Locator.value? Locator.hasKey
  rw [h]
  cases version with
  | none => cases latest <;> decide
  | some w =>
    by_cases hw : w = ""
    · subst hw
      cases latest <;> decide
    · have hne : nonempty (some w) = some w := nonempty_eq_some.mpr ⟨rfl, hw⟩
      rw [hne]
      cases latest <;> simp [hw]

/-- **A plain view in normal form is read back** from what is written for it. -/
theorem viewOf_suffix (scheme : List Char) {v : View} (hn : normalizeView v = v) (hp : v.IsPlain) {l : Locator}
    (hq : l.query = (ofRest scheme v.suffix.toList).query)
    (hf : l.fragment = (ofRest scheme v.suffix.toList).fragment) : viewOf l = v := by
  obtain ⟨hquery, hfragment⟩ := ofRest_suffix (fun w hw => (hp.version w hw).2) scheme
  have hversion : nonempty v.version = v.version := congrArg View.version hn
  have hblock : nonempty v.blockRef = v.blockRef := congrArg View.blockRef hn
  have hrange : v.blockRange =
      if (nonempty v.blockRef).isSome then v.blockRange.filter (· ≠ .expanded false) else none :=
    (congrArg View.blockRange hn).symm
  rw [hquery, queryPairs_queryPieces fun w hw => (hp.version w hw).1] at hq
  rw [hfragment, fragmentText] at hf
  obtain ⟨hvalue, hkey⟩ := value?_hasKey hq
  unfold viewOf
  rw [hvalue, hkey, nonempty_nonempty, hversion, hf, hblock]
  cases hb : v.blockRef with
  | none =>
    rw [hblock, hb] at hrange
    have hnone : v.blockRange = none := by simpa using hrange
    obtain ⟨version, latest, blockRef, blockRange⟩ := v
    simp only at hb hnone
    subst hb hnone
    rfl
  | some b =>
    simp only [Option.map_some, Option.bind_some, hp.block b hb]
    rw [← hb]

/-- The block that a fragment refers to is stable. -/
theorem isStable_of_fragment {text : Option String} {b : BlockRef} (h : text.bind BlockRef.parse? = some b) :
    b.IsStable := by
  obtain ⟨written, -, hparse⟩ := Option.bind_eq_some_iff.mp h
  exact BlockRef.isStable_of_parse? hparse

/-- The view at a version, and at the block that the text of a fragment refers to. -/
def ofFragment (version : Option String) (latest : Bool) (text : Option String) : View where
  version := version
  latest := latest
  blockRef := (text.bind BlockRef.parse?).map BlockRef.blockId
  blockRange := (text.bind BlockRef.parse?).bind BlockRef.range

theorem viewOf_eq (l : Locator) : viewOf l = ofFragment (l.value? "v") (l.hasKey "l") l.fragment := rfl

/-- The block that a fragment refers to is in normal form. -/
theorem normalizeView_ofFragment (version : Option String) (latest : Bool) (text : Option String) :
    normalizeView (ofFragment version latest text) = ofFragment (nonempty version) latest text := by
  unfold normalizeView ofFragment
  cases hblock : text.bind BlockRef.parse? with
  | none => rfl
  | some b =>
    have hstable := isStable_of_fragment hblock
    have hid : nonempty (some b.blockId) = some b.blockId := nonempty_eq_some.mpr ⟨rfl, hstable.blockId_ne⟩
    have hrange : b.range.filter (· ≠ .expanded false) = b.range := by
      cases hr : b.range with
      | none => rfl
      | some r =>
        have hne : r ≠ .expanded false := fun he => hstable.range_ne (hr.trans (congrArg some he))
        rw [Option.filter_some, if_pos (by simpa using hne)]
    simp only [Option.map_some, Option.bind_some, hid, hrange, Option.isSome_some, if_true]

/-- The block that a fragment refers to is read back. -/
theorem isPlain_ofFragment {version : Option String} (h : ∀ w, version = some w → '&' ∉ w.toList ∧ '#' ∉ w.toList)
    (latest : Bool) (text : Option String) : (ofFragment version latest text).IsPlain where
  version := h
  block := by
    intro b hb
    obtain ⟨block, hblock, rfl⟩ := Option.map_eq_some_iff.mp hb
    have hrange : (ofFragment version latest text).blockRange = block.range := by
      simp only [ofFragment, hblock, Option.bind_some]
    rw [hrange]
    exact BlockRef.parse?_render (isStable_of_fragment hblock)

/-- Every view that is read is plain. -/
theorem viewOf_isPlain (scheme rest : List Char) : (viewOf (ofRest scheme rest)).IsPlain := by
  refine isPlain_ofFragment (fun w hw => ?_) _ _
  obtain ⟨-, k, hmem⟩ := Locator.value?_eq_some hw
  exact Locator.not_mem_value hmem

/-- Every view that is read is in normal form. -/
theorem normalizeView_viewOf (l : Locator) : normalizeView (viewOf l) = viewOf l := by
  have hversion : nonempty (l.value? "v") = l.value? "v" := by
    cases hw : l.value? "v" with
    | none => rfl
    | some w => exact nonempty_eq_some.mpr ⟨rfl, (Locator.value?_eq_some hw).1⟩
  rw [viewOf_eq, normalizeView_ofFragment, hversion]

end View

end Hyperlink
