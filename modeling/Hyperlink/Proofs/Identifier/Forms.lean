import Hyperlink.Proofs.Identifier.Reading

/-!
# Hyperlink.Proofs.Identifier.Forms — the compact form and the web form denote the same identifier

* `not_mem_of_isWeb`: the scheme of a URL of the web holds no colon, so the URL is cut behind it.
* `Address.not_mem_scheme`: a text with any other character in front of its `://` is no link.
* `ofLocator_web`: a URL of the web is read as the compact link of the text behind its marker.
* `compact_web_agree`: the two links of any record, whatever its texts, are read as the same entity and view, or
  neither is read.
-/

namespace Hyperlink

open Locator (ofRest)

namespace Scheme

/-- A known scheme is written with the letters of its name and with blank characters only. -/
theorem ofText_eq_other {text : String} {c : Char} (hc : c ∈ text.toList) (hb : Text.isBlank c = false)
    (hl : c.toLower ∉ "https".toList ∧ c.toLower ∉ hypermediaText.toList) : ofText text = .other := by
  obtain ⟨before, after, hsplit, hbefore, hafter⟩ := Text.stripEnds_split Text.isBlank text.toList
  have hblank : ∀ l : List Char, (∀ x ∈ l, Text.isBlank x = true) → c ∉ l := by
    intro l hall hmem
    rw [hall c hmem] at hb
    cases hb
  have htrim : c ∈ Text.trim text.toList := by
    rw [hsplit] at hc
    rcases List.mem_append.mp hc with hc | hc
    · rcases List.mem_append.mp hc with hc | hc
      · exact absurd hc (hblank before hbefore)
      · exact hc
    · exact absurd hc (hblank after hafter)
  have hplain : c.toLower ∈ (String.ofList ((Text.trim text.toList).map Char.toLower)).toList := by
    rw [String.toList_ofList]
    exact List.mem_map.mpr ⟨c, htrim, rfl⟩
  have hsub : "http".toList ⊆ "https".toList := by decide
  unfold ofText
  simp only
  split
  · next heq => exact absurd (heq ▸ hplain) hl.2
  · split
    · next heq => exact absurd (hsub (heq ▸ hplain)) hl.1
    · split
      · next heq => exact absurd (heq ▸ hplain) hl.1
      · rfl

/-- The text of a known scheme holds no character but those of its name and blank ones. -/
theorem not_mem_of_ne_other {text : String} (h : ofText text ≠ .other) : ':' ∉ text.toList := fun hmem =>
  h (ofText_eq_other hmem (by decide) (by decide))

theorem not_mem_of_isWeb {text : String} (h : (ofText text).isWeb) : ':' ∉ text.toList := by
  refine not_mem_of_ne_other fun hother => ?_
  rw [hother] at h
  cases h

end Scheme

/-- The scheme of a link holds no character but those of the known schemes and blank ones. -/
theorem Address.not_mem_scheme {l : Locator} {a : Address} (h : ofLocator? l = some a) {c : Char}
    (hb : Text.isBlank c = false) (hl : c.toLower ∉ "https".toList ∧ c.toLower ∉ Scheme.hypermediaText.toList) :
    c ∉ l.scheme.toList := by
  intro hmem
  have hother : Scheme.ofText l.scheme = .other := Scheme.ofText_eq_other hmem hb hl
  rcases ofLocator?_cases h with ⟨hscheme, -⟩ | ⟨hweb, -⟩
  · rw [hother] at hscheme
    cases hscheme
  · rw [hother] at hweb
    cases hweb

namespace Identifier

/-- A URL of the web is read like the compact link of the text behind the marker, but for host and scheme. -/
theorem ofLocator_web {scheme host : String} (h : (Scheme.ofText scheme).isWeb) (text : List Char) :
    ofLocator { ofRest scheme.toList text with path := host :: webMarker :: (ofRest scheme.toList text).path } =
      .ok ((Address.ofSegments? none (ofRest Scheme.hypermediaText.toList text).path).map fun a =>
        { a with hostname := some host }.identifier (viewOf (ofRest Scheme.hypermediaText.toList text)) scheme) := by
  have hscheme : (ofRest scheme.toList text).scheme = scheme := String.ofList_toList
  rw [ofLocator_eq, Address.ofLocator?_web (by rw [hscheme]; exact h) rfl, Address.ofSegments?_hostname, Option.map_map,
    hscheme]
  rfl

/-- **The two forms of a link denote the same identifier**, for every record and every origin of the web. -/
theorem compact_web_agree (r : Identifier) {scheme host : String} (hs : (Scheme.ofText scheme).isWeb)
    (hh : IsSegment host) :
    (unpack r.pack = .ok none ∧ unpack (r.webUrl (.origin (scheme ++ "://" ++ host))) = .ok none) ∨
      ∃ x y, unpack r.pack = .ok (some x) ∧ unpack (r.webUrl (.origin (scheme ++ "://" ++ host))) = .ok (some y) ∧
        x.SameLink y ∧ x.hostname = none ∧ x.scheme = some Scheme.hypermediaText ∧ y.scheme = some scheme ∧
        y.hostname = if host = "" then none else some host := by
  rw [unpack_pack, unpack_webUrl r (Scheme.not_mem_of_isWeb hs) hh, ofLocator_web hs, ofLocator_compact]
  cases ha : Address.ofSegments? none (ofRest Scheme.hypermediaText.toList r.linkText.toList).path with
  | none =>
    refine Or.inl ⟨?_, rfl⟩
    split <;> rfl
  | some a =>
    -- without a text behind `hm://` there is no compact link, but then its only segment is empty
    have hne : r.linkText ≠ "" := by
      intro hempty
      have hnone : Address.ofSegments? none (ofRest Scheme.hypermediaText.toList "".toList).path = none := by decide
      rw [hempty, hnone] at ha
      simp at ha
    have hhost : a.hostname = none := (Address.ofSegments?_eq_some ha).1
    rw [if_neg hne]
    refine Or.inr ⟨_, _, rfl, rfl, ⟨rfl, rfl, rfl, rfl, rfl⟩, ?_, rfl, rfl, ?_⟩
    · show View.nonempty a.hostname = none
      rw [hhost]
      rfl
    · show View.nonempty (some host) = _
      by_cases h : host = ""
      · rw [if_pos h, h]
        rfl
      · rw [if_neg h]
        exact View.nonempty_eq_some.mpr ⟨rfl, h⟩

/-- A record whose texts hold the separators of links, so that each leaks into the part behind it. -/
def leakyDraft : Identifier where
  id := ""
  entityType := .draft
  uid := "a/b"
  path := some ["", "c?v=2&l", "d#e"]
  view := { version := some "1#x", latest := false, blockRef := some "#BLOCKID1", blockRange := some (.span 2 5) }
  hostname := none
  scheme := none

theorem compact_web_agree_leaky :
    (Scheme.ofText " Http").isWeb ∧ IsSegment "me@[::1]:80" ∧
      ((unpack leakyDraft.pack = .ok none ∧
          unpack (leakyDraft.webUrl (.origin (" Http" ++ "://" ++ "me@[::1]:80"))) = .ok none) ∨
        ∃ x y, unpack leakyDraft.pack = .ok (some x) ∧
          unpack (leakyDraft.webUrl (.origin (" Http" ++ "://" ++ "me@[::1]:80"))) = .ok (some y) ∧
          x.SameLink y ∧ x.hostname = none ∧ x.scheme = some Scheme.hypermediaText ∧ y.scheme = some " Http" ∧
          y.hostname = if "me@[::1]:80" = "" then none else some "me@[::1]:80") :=
  ⟨by decide, by decide, compact_web_agree leakyDraft (by decide) (by decide)⟩

end Identifier

end Hyperlink
