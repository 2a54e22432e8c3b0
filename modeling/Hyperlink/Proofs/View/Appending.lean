import Hyperlink.Proofs.Identifier.Fragment
import Hyperlink.Proofs.View.Reading

/-!
# Hyperlink.Proofs.View.Appending — view parameters behind any link

View parameters are written without escaping and are read in three ways: the version as a value of the query, the flag
as a key of it, and the block behind the first `#` of the text.

* `View.IsLegible`: the views whose parts can be told apart; `View.IsShownBy`: what is read from a link of a view.
* `Parts.withView`: a link without query and fragment is made up of proper parts, and so is the link with a view behind
  it (`IsProper.withView`), from which all three ways read the view (`isShownBy_withView`).
* `view_behind_link_is_read`: so it is for `appendView` behind any such link, and for `siteUrl` exactly if the segments
  of the path can be told apart.
-/

namespace Hyperlink

open Locator (Parts)

/-! ## Views and links -/

namespace View

/-- The version ends where the next parameter begins, and a block that is written is one that a fragment is read as. -/
structure IsLegible (v : View) : Prop where
  version : ∀ w, v.version = some w → '&' ∉ w.toList ∧ '#' ∉ w.toList
  block : ∀ b, v.blockRef = some b → b ≠ "" → ∃ text, BlockRef.parse? text = some ⟨b, v.blockRange⟩

/-- The link has the scheme and the segments, and all parameters of the view are read from it. Empty texts count as
missing, and without a block there is no range. -/
structure IsShownBy (v : View) (link scheme : String) (segments : List String) : Prop where
  locator : ∃ l, Locator.parse? link = some l ∧ l.scheme = scheme ∧ l.path = segments ∧
    l.value? "v" = nonempty v.version ∧ l.hasKey "l" = v.latest
  blockRef : (BlockRef.ofLink? link).map BlockRef.blockId = nonempty v.blockRef
  blockRange : (BlockRef.ofLink? link).bind BlockRef.range = if (nonempty v.blockRef).isSome then v.blockRange else none

/-- The segments of a path that is read are segments, whatever was written. -/
theorem IsShownBy.isSegment {v : View} {link scheme : String} {segments : List String}
    (h : v.IsShownBy link scheme segments) : ∀ s ∈ segments, IsSegment s := by
  obtain ⟨l, hparse, -, rfl, -⟩ := h.locator
  obtain ⟨_, _, -, -, rfl⟩ := Locator.parse?_eq_some hparse
  exact fun s hs => Locator.isSegment_of_mem_path hs

/-- The fragment of a legible view is read as its block. -/
theorem IsLegible.parse?_fragmentText {v : View} (h : v.IsLegible) :
    v.fragmentText.bind BlockRef.parse? = (nonempty v.blockRef).map fun b => ⟨b, v.blockRange⟩ := by
  unfold fragmentText
  cases hb : nonempty v.blockRef with
  | none => rfl
  | some b =>
    obtain ⟨hblock, hne⟩ := nonempty_eq_some.mp hb
    obtain ⟨text, htext⟩ := h.block b hblock hne
    exact BlockRef.parse?_render (BlockRef.isStable_of_parse? htext)

theorem getD_queryText (v : View) : v.queryText.getD "" = "&".intercalate v.queryPieces := by
  unfold queryText
  split
  · next h =>
    rw [h]
    rfl
  · rfl

end View

/-- The link has something behind its `://`, and neither a query nor a fragment. -/
def IsBareLink (link : String) : Prop :=
  (∃ front back, link = front ++ "://" ++ back ∧ back ≠ "") ∧ '?' ∉ link.toList ∧ '#' ∉ link.toList

/-! ## Parts of a link with a view behind it -/

namespace Locator.Parts

/-- The parts with the query and the fragment of a view. -/
def withView (p : Parts) (v : View) : Parts := { p with query := v.queryText, fragment := v.fragmentText }

/-- The scheme and the segments of a text without query and fragment. -/
def ofPath (scheme : String) (segments : List String) : Parts := ⟨scheme, segments, none, none⟩

theorem rest_ofPath (scheme : String) (segments : List String) :
    (ofPath scheme segments).rest = "/".intercalate segments := by
  simp [rest, ofPath, marked]

theorem text_ofPath (scheme : String) (segments : List String) :
    (ofPath scheme segments).text = scheme ++ "://" ++ "/".intercalate segments := by
  rw [text, rest_ofPath]
  rfl

/-- The view is written behind the text of the path. -/
theorem text_withView (scheme : String) (segments : List String) (v : View) :
    ((ofPath scheme segments).withView v).text = (ofPath scheme segments).text ++ v.suffix := by
  rw [text_ofPath, View.suffix, View.query_eq, View.fragment_eq]
  simp only [text, rest, withView, ofPath, String.append_assoc]

theorem IsProper.withView {scheme : String} {segments : List String} (h : (ofPath scheme segments).IsProper) {v : View}
    (hv : ∀ w, v.version = some w → '#' ∉ w.toList) : ((ofPath scheme segments).withView v).IsProper where
  scheme := h.scheme
  segments_ne := h.segments_ne
  segments := h.segments
  query q hq := by
    have hquery := View.not_mem_query hv
    have htext : v.queryText = some q := hq
    rw [View.query_eq, htext, toList_marked, Option.elim_some, List.mem_cons, not_or] at hquery
    exact hquery.2
  rest_ne := by
    have hne := h.rest_ne
    rw [rest_ofPath] at hne
    intro hrest
    simp only [rest, Parts.withView, ofPath, String.append_eq_empty_iff] at hrest
    exact hne hrest.1.1

/-- The query of a view is read as its version and its flag. -/
theorem locator_withView_query (p : Parts) {v : View} (hv : ∀ w, v.version = some w → '&' ∉ w.toList) :
    (p.withView v).locator.query =
      ((View.nonempty v.version).map fun w => ("v", w)).toList ++ if v.latest then [("l", "")] else [] := by
  rw [← View.queryPairs_queryPieces hv, ← View.getD_queryText, queryPairs_eq]
  rfl

/-- All parameters of a legible view are read from the link that it stands behind. -/
theorem isShownBy_withView {scheme : String} {segments : List String} (h : (ofPath scheme segments).IsProper)
    (hscheme : '#' ∉ scheme.toList) {v : View} (hv : v.IsLegible) :
    v.IsShownBy ((ofPath scheme segments).text ++ v.suffix) scheme segments := by
  have hproper := h.withView fun w hw => (hv.version w hw).2
  obtain ⟨hvalue, hkey⟩ := View.value?_hasKey
    (locator_withView_query (ofPath scheme segments) fun w hw => (hv.version w hw).1)
  have hblock : BlockRef.ofLink? ((ofPath scheme segments).withView v).text =
      (View.nonempty v.blockRef).map fun b => ⟨b, v.blockRange⟩ := by
    rw [BlockRef.ofLink?_text hproper hscheme]
    exact hv.parse?_fragmentText
  rw [← text_withView]
  refine ⟨⟨_, hproper.parse?_text, rfl, rfl, ?_, hkey⟩, ?_, ?_⟩
  · rw [hvalue, View.nonempty_nonempty]
  · rw [hblock]
    cases View.nonempty v.blockRef <;> rfl
  · rw [hblock]
    cases View.nonempty v.blockRef <;> rfl

/-- A link with neither a query nor a fragment is made up of its scheme and its segments. -/
theorem exists_ofPath {link : String} (h : IsBareLink link) :
    ∃ scheme segments, (ofPath scheme segments).IsProper ∧ (ofPath scheme segments).text = link := by
  obtain ⟨⟨front, back, hlink, hback⟩, hquery, hfragment⟩ := h
  have hmark : link.toList = front.toList ++ ("://".toList ++ back.toList) := by
    rw [hlink, String.toList_append, String.toList_append, List.append_assoc]
  obtain ⟨before, after, hfirst, hlen⟩ := Text.exists_standsFirst hmark
  have hafter : after ≠ [] := by
    rintro rfl
    exact hback (String.toList_eq_nil_iff.mp (List.eq_nil_of_length_eq_zero (Nat.le_zero.mp hlen)))
  obtain ⟨l, hparse⟩ := exists_parse?_iff.mpr ⟨before, after, hfirst, hafter⟩
  obtain ⟨⟨scheme, segments, query, fragment⟩, hproper, rfl, -⟩ := exists_parts hparse
  -- a query or a fragment would show its mark in the link
  have hnone : ∀ (sep : Char) {part : Option String}, sep ∉ (marked sep part).toList → part = none := by
    intro sep part hsep
    cases part with
    | none => rfl
    | some t => exact absurd (by simp [marked]) hsep
  obtain rfl : query = none := hnone '?' fun hmem => hquery (by simp [text, rest, hmem])
  obtain rfl : fragment = none := hnone '#' fun hmem => hfragment (by simp [text, rest, hmem])
  exact ⟨scheme, segments, hproper, rfl⟩

end Locator.Parts

/-! ## Both ways to write a link with a view -/

/-- A number sign in front of the block is dropped. -/
theorem appendView_hash (link : String) (v : View) (b : String) :
    appendView link { v with blockRef := some ("#" ++ b) } = link ++ { v with blockRef := some b }.suffix := by
  simp [appendView]

theorem appendView_eq (link : String) {v : View} (h : ∀ b, v.blockRef = some b → b.toList.head? ≠ some '#') :
    appendView link v = link ++ v.suffix := by
  obtain ⟨version, latest, blockRef, blockRange⟩ := v
  cases blockRef with
  | none => rfl
  | some b =>
    have hhead := h b rfl
    unfold appendView
    simp only [Option.map_some]
    split
    · next rest hb => simp [hb] at hhead
    · rfl

/-- The segments behind the host in the URL of a site: without a path it ends with an empty one. -/
def siteSegments (path : Option (List String)) : List String :=
  if path.getD [] = [] then [""] else path.getD []

theorem siteUrl_eq (scheme host : String) (path : Option (List String)) (v : View) :
    siteUrl (scheme ++ "://" ++ host) path v =
      (Parts.ofPath scheme (host :: siteSegments path)).text ++ v.suffix := by
  have hsegments : "/".intercalate (host :: siteSegments path) = host ++ "/" ++ "/".intercalate (path.getD []) := by
    unfold siteSegments
    split
    · next h => rw [h]; simp [String.intercalate_cons_cons]
    · next h =>
      obtain ⟨s, segments, hs⟩ := List.exists_cons_of_ne_nil h
      rw [hs, String.intercalate_cons_cons]
  rw [Parts.text_ofPath, hsegments, siteUrl]
  simp only [String.append_assoc]

theorem isProper_site {scheme host : String} {path : Option (List String)} (hscheme : ¬ "://".toList <:+: scheme.toList)
    (hhost : IsSegment host) (hpath : ∀ s ∈ path.getD [], IsSegment s) :
    (Parts.ofPath scheme (host :: siteSegments path)).IsProper where
  scheme := hscheme
  segments_ne := List.cons_ne_nil _ _
  segments s hs := by
    rcases List.mem_cons.mp hs with rfl | hs
    · exact hhost
    · unfold siteSegments at hs
      split at hs
      · exact List.mem_singleton.mp hs ▸ isSegment_empty
      · exact hpath s hs
  query q hq := by cases hq
  rest_ne := by
    have hne : siteSegments path ≠ [] := by
      unfold siteSegments
      split <;> simp_all
    obtain ⟨s, segments, hs⟩ := List.exists_cons_of_ne_nil hne
    rw [Parts.rest_ofPath, hs, String.intercalate_cons_cons]
    simp

/-- **View parameters behind any link are read back.**  They change neither the scheme nor the segments of the link, and
a number sign in front of the block makes no difference. On a site they are read back exactly if no segment of the path
holds a separator. -/
theorem view_behind_link_is_read :
    (∀ (link : String) (v : View), IsBareLink link → v.IsLegible →
      (∀ b, v.blockRef = some b → b.toList.head? ≠ some '#') →
      (∃ l, Locator.parse? link = some l ∧ v.IsShownBy (appendView link v) l.scheme l.path) ∧
        ∀ b, v.blockRef = some b → appendView link { v with blockRef := some ("#" ++ b) } = appendView link v) ∧
    ∀ (scheme host : String) (path : Option (List String)) (v : View),
      ¬ "://".toList <:+: scheme.toList → '#' ∉ scheme.toList → IsSegment host → v.IsLegible →
      (v.IsShownBy (siteUrl (scheme ++ "://" ++ host) path v) scheme (host :: siteSegments path) ↔
        ∀ s ∈ path.getD [], IsSegment s) := by
  refine ⟨fun link v hlink hv hblock => ⟨?_, fun b hb => ?_⟩, fun scheme host path v hscheme hsharp hhost hv => ?_⟩
  · obtain ⟨scheme, segments, hproper, rfl⟩ := Parts.exists_ofPath hlink
    refine ⟨_, hproper.parse?_text, ?_⟩
    rw [appendView_eq _ hblock]
    refine Parts.isShownBy_withView hproper (fun hmem => hlink.2.2 ?_) hv
    simp [Parts.text, Parts.ofPath, hmem]
  · have hsame : { v with blockRef := some b } = v := by rw [← hb]
    rw [appendView_hash, hsame, appendView_eq _ hblock]
  · constructor
    · intro h s hs
      refine h.isSegment s (List.mem_cons_of_mem _ ?_)
      rw [siteSegments, if_neg (List.ne_nil_of_mem hs)]
      exact hs
    · intro hpath
      rw [siteUrl_eq]
      exact Parts.isShownBy_withView (isProper_site hscheme hhost hpath) hsharp hv

/-- A view whose texts hold the separators of a link wherever they may. -/
def crowdedView : View where
  version := some "=?v/"
  latest := true
  blockRef := some "a#?/b[+:"
  blockRange := some (.span 7 9)

/-- A link whose scheme, host and path look like other parts, and a site with a block that begins with a number sign. -/
theorem view_behind_link_is_read_crowded :
    IsBareLink "a:/b:://hm://d//" ∧ crowdedView.IsLegible ∧
      appendView "a:/b:://hm://d//" crowdedView = "a:/b:://hm://d//?v==?v/&l#a#?/b[+:[7:9]" ∧
      (∃ l, Locator.parse? "a:/b:://hm://d//" = some l ∧ l.path = ["hm:", "", "d", "", ""] ∧
        crowdedView.IsShownBy (appendView "a:/b:://hm://d//" crowdedView) l.scheme l.path) ∧
      appendView "a:/b:://hm://d//" { crowdedView with blockRef := some ("#" ++ "a#?/b[+:") } =
        appendView "a:/b:://hm://d//" crowdedView ∧
      View.IsShownBy { blockRef := some "##x" } (siteUrl ("?:/" ++ "://" ++ "me@h:80") (some ["", "p:"])
        { blockRef := some "##x" }) "?:/" ["me@h:80", "", "p:"] := by
  have hlink : IsBareLink "a:/b:://hm://d//" :=
    ⟨⟨"a:/b:", "hm://d//", by decide +kernel, by decide⟩, by decide, by decide⟩
  have hview : crowdedView.IsLegible := by
    refine ⟨fun w hw => ?_, fun b hb _ => ⟨"a#?/b[+:[7:09]", ?_⟩⟩
    · obtain rfl : "=?v/" = w := Option.some.inj hw
      decide
    · obtain rfl : "a#?/b[+:" = b := Option.some.inj hb
      decide +kernel
  have hsharp : ∀ b, crowdedView.blockRef = some b → b.toList.head? ≠ some '#' := by
    rintro _ ⟨⟩
    decide
  obtain ⟨⟨l, hparse, hshown⟩, hhash⟩ := view_behind_link_is_read.1 _ crowdedView hlink hview hsharp
  have hpath : (Locator.parse? "a:/b:://hm://d//").map Locator.path = some ["hm:", "", "d", "", ""] := by decide +kernel
  rw [hparse] at hpath
  have hbare : View.IsLegible { blockRef := some "##x" } := by
    refine ⟨fun w hw => ?_, fun b hb _ => ⟨"##x", ?_⟩⟩
    · cases hw
    · obtain rfl : "##x" = b := Option.some.inj hb
      decide +kernel
  have hsite := view_behind_link_is_read.2 "?:/" "me@h:80" (some ["", "p:"]) { blockRef := some "##x" } (by decide)
    (by decide) (by decide) hbare
  exact ⟨hlink, hview, by decide +kernel, ⟨l, hparse, Option.some.inj hpath, hshown⟩, hhash _ rfl,
    hsite.mpr (by decide)⟩

end Hyperlink
