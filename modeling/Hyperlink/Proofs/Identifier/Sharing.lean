import Hyperlink.Proofs.Identifier.Canonical

/-!
# Hyperlink.Proofs.Identifier.Sharing — sharing a link of the web loses nothing

A link of the web records the text of its scheme and its host apart, and `shareUrl` puts them together again.

* `shareUrl_eq`: what is shared for an identifier with a host is its URL on the origin of host and scheme.
* `unpack_slash`: a text that begins with a slash is no link, wherever a `://` stands in it.
* `share_round_trip`: a link of the web is read back from its shared URL in all its fields, and what has no host is
  shared as a path, which is no link.
-/

namespace Hyperlink

open Locator (ofRest)

namespace Identifier

/-- A text that names a scheme holds a slash. -/
theorem slash_mem_of_namesScheme {text : String} (h : namesScheme text) : '/' ∈ text.toList := by
  obtain ⟨⟨before, after⟩, hcut⟩ := Option.isSome_iff_exists.mp h
  rw [Text.cut_eq_some hcut]
  simp

/-- What is shared for an identifier with an origin is its URL there. -/
theorem shareUrl_eq {a : Identifier} {scheme host : String} (hscheme : a.scheme = some scheme)
    (hs : (Scheme.ofText scheme).isWeb) (hhost : a.hostname = some host) (hh : IsSegment host) :
    a.shareUrl = a.webUrl (.origin (scheme ++ "://" ++ host)) := by
  have hnames : ¬ namesScheme host := fun h => hh.1 (slash_mem_of_namesScheme h)
  unfold shareUrl
  rw [hhost, hscheme]
  simp only
  rw [if_pos ⟨hs, hnames⟩]

/-- A text that begins with a slash is no link: what stands in front of a `://` in it is no scheme of a link. -/
theorem unpack_slash (text : String) : unpack ("/" ++ text) = .ok none := by
  cases hparse : Locator.parse? ("/" ++ text) with
  | none =>
    unfold unpack
    rw [hparse]
  | some l =>
    obtain ⟨scheme, rest, hcut, -, rfl⟩ := Locator.parse?_eq_some hparse
    have hwhole := Text.cut_eq_some hcut
    have hslash : '/' ∈ scheme := by
      cases scheme with
      | nil => simp at hwhole
      | cons c cs =>
        obtain ⟨rfl, -⟩ : '/' = c ∧ text.toList = cs ++ ([':', '/', '/'] ++ rest) := by simpa using hwhole
        exact List.mem_cons_self
    cases ha : Address.ofLocator? (ofRest scheme rest) with
    | none =>
      rw [unpack_of_parse? hparse, ofLocator_eq, ha]
      rfl
    | some a =>
      have hno : '/' ∉ (String.ofList scheme).toList := Address.not_mem_scheme ha (by decide) (by decide)
      rw [String.toList_ofList] at hno
      exact absurd hslash hno

theorem shareUrl_of_hostname_eq_none {x : Identifier} (h : x.hostname = none) :
    ∃ path, x.shareUrl = "/" ++ path := by
  refine ⟨webMarker ++ "/" ++ x.linkText, ?_⟩
  unfold shareUrl
  rw [h]
  simp only
  rw [webUrl_eq, WebHost.text]
  simp only [String.append_assoc, String.empty_append]

/-- **Sharing a link of the web loses nothing.**  It is read back in all its fields from the URL on its own host. What
has no host is shared as a path alone, and that is no link, whatever the other fields hold. -/
theorem share_round_trip :
    (∀ link a scheme, unpack link = .ok (some a) → a.scheme = some scheme → (Scheme.ofText scheme).isWeb →
      a.hostname ≠ none → ¬ a.IsReserved → unpack a.shareUrl = .ok (some a)) ∧
    ∀ x : Identifier, x.hostname = none → (∃ path, x.shareUrl = "/" ++ path) ∧ unpack x.shareUrl = .ok none := by
  constructor
  · intro link a scheme h hscheme hs hhost hr
    obtain ⟨host, hhost⟩ := Option.ne_none_iff_exists'.mp hhost
    obtain ⟨hh, hne, -⟩ := unpack_hostname h hhost
    obtain ⟨y, hy, hsame⟩ := (isLinkable_of_unpack h).unpack_pack hr
    rw [shareUrl_eq hscheme hs hhost hh, unpack_webUrl_of_unpack_pack hs hh hy,
      View.nonempty_eq_some.mpr ⟨rfl, hne⟩, ← hscheme, ← hhost, hsame.id, hsame.entityType, hsame.uid, hsame.path,
      hsame.view]
  · intro x hx
    obtain ⟨path, hpath⟩ := shareUrl_of_hostname_eq_none hx
    rw [hpath]
    exact ⟨⟨path, rfl⟩, unpack_slash path⟩

/-- A link whose scheme has capitals and a blank in front of it. -/
def spacedLink : String := " hTTpS://Me@h:80/hm/draft/comment//a//b/?l&v=a?b=c#BLOCKID1[007:8]"

theorem share_round_trip_spaced :
    (∃ a, unpack spacedLink = .ok (some a) ∧ a.scheme = some " hTTpS" ∧ a.hostname = some "Me@h:80" ∧
      a.shareUrl = " hTTpS://Me@h:80/hm/draft/comment/a//b?v=a?b=c&l#BLOCKID1[7:8]" ∧
      unpack a.shareUrl = .ok (some a)) ∧
    unpack { leakyDraft with uid := "://hm://x" }.shareUrl = .ok none := by
  refine ⟨?_, (share_round_trip.2 _ rfl).2⟩
  obtain ⟨a, ha, htype, hscheme, hhost, hshare⟩ : ∃ a, unpack spacedLink = .ok (some a) ∧ a.entityType = .draft ∧
      a.scheme = some " hTTpS" ∧ a.hostname = some "Me@h:80" ∧
      a.shareUrl = " hTTpS://Me@h:80/hm/draft/comment/a//b?v=a?b=c&l#BLOCKID1[7:8]" :=
    ⟨_, rfl, rfl, rfl, rfl, by decide +kernel⟩
  have hr : ¬ a.IsReserved := by
    rintro ⟨hdocument, -⟩
    rw [htype] at hdocument
    cases hdocument
  have hhost' : a.hostname ≠ none := by
    rw [hhost]
    simp
  exact ⟨a, ha, hscheme, hhost, hshare, share_round_trip.1 spacedLink a _ ha hscheme (by decide) hhost' hr⟩

end Identifier

end Hyperlink
