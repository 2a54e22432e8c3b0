import Hyperlink.Proofs.Block.Pattern
import Hyperlink.Proofs.Identifier.Normal

/-!
# Hyperlink.Proofs.Identifier.Reading — what is read from a link

* `locate_eq`, `readView_eq`: the positions and the parts that reading a link asks for are there.
* `ofLocator_eq`: reading never fails; it gives the identifier of the address that the path names, if there is one.
* `unpack_isPlain`, `unpack_normal`: every identifier that is read is plain and in normal form.
* `unpack_pack`, `unpack_webUrl`: both forms of the link of an identifier are cut behind their marks, and what is left
  to read is the same text.
-/

namespace Hyperlink

open Locator (ofRest)
open Identifier (ofParts normalizePath normalizeView viewOf)

namespace Address

/-- The identifier of an address with a view, read from a link with the given scheme. -/
def identifier (a : Address) (view : View) (scheme : String) : Identifier :=
  { ofParts a.entityType a.uid { path := some a.path, view := view, hostname := a.hostname } with
    scheme := some scheme }

theorem ofSegments?_eq_some {hostname : Option String} {segments : List String} {a : Address}
    (h : ofSegments? hostname segments = some a) :
    a.hostname = hostname ∧ a.uid ≠ "" ∧ a.uid ∈ segments ∧ ∀ s ∈ a.path, s ∈ segments := by
  unfold ofSegments? at h
  split at h
  · simp at h
  · next head rest =>
    obtain ⟨h, hne⟩ := Option.filter_eq_some_iff.mp h
    have hne : a.uid ≠ "" := by simpa using hne
    split at h
    · split at h
      · next uid path =>
        obtain rfl := Option.some.inj h
        exact ⟨rfl, hne, by simp, fun s hs => by simp [hs]⟩
      · simp at h
    · obtain rfl := Option.some.inj h
      exact ⟨rfl, hne, by simp, fun s hs => by simp [hs]⟩

/-- The host has no say in what the segments name. -/
theorem ofSegments?_hostname (hostname : Option String) (segments : List String) :
    ofSegments? hostname segments = (ofSegments? none segments).map fun a => { a with hostname := hostname } := by
  unfold ofSegments?
  cases segments with
  | nil => rfl
  | cons head rest =>
    simp only
    cases EntityType.ofKey? head with
    | none => by_cases h : head = "" <;> simp [Option.filter, h]
    | some t =>
      cases rest with
      | nil => rfl
      | cons uid path => by_cases h : uid = "" <;> simp [Option.filter, h]

theorem ofLocator?_compact {l : Locator} (h : Scheme.ofText l.scheme = .hypermedia) :
    ofLocator? l = ofSegments? none l.path := by
  unfold ofLocator?
  rw [h]

theorem ofLocator?_web {l : Locator} (h : (Scheme.ofText l.scheme).isWeb) {host : String} {segments : List String}
    (hpath : l.path = host :: webMarker :: segments) : ofLocator? l = ofSegments? (some host) segments := by
  unfold ofLocator?
  rw [hpath]
  cases hs : Scheme.ofText l.scheme <;> simp [hs, Scheme.isWeb] at h ⊢

/-- What names an entity: the path of a compact link, and what stands behind host and marker in a link of the web. -/
theorem ofLocator?_cases {l : Locator} {a : Address} (h : ofLocator? l = some a) :
    (Scheme.ofText l.scheme = .hypermedia ∧ ofSegments? none l.path = some a) ∨
      (Scheme.ofText l.scheme).isWeb ∧
        ∃ host segments, l.path = host :: webMarker :: segments ∧ ofSegments? (some host) segments = some a := by
  have hweb : ∀ {host marker : String} {segments : List String}, l.path = host :: marker :: segments →
      (if marker = webMarker then ofSegments? (some host) segments else none) = some a →
      ∃ host segments, l.path = host :: webMarker :: segments ∧ ofSegments? (some host) segments = some a := by
    intro host marker segments hpath h
    split at h
    · next hmarker => exact ⟨host, segments, hmarker ▸ hpath, h⟩
    · simp at h
  unfold ofLocator? at h
  split at h
  · next hs => exact Or.inl ⟨hs, h⟩
  · next hs =>
    split at h
    · next hpath => exact Or.inr ⟨by rw [hs]; rfl, hweb hpath h⟩
    · simp at h
  · next hs =>
    split at h
    · next hpath => exact Or.inr ⟨by rw [hs]; rfl, hweb hpath h⟩
    · simp at h
  · simp at h

theorem ofLocator?_web_eq_some {l : Locator} (h : (Scheme.ofText l.scheme).isWeb) {a : Address}
    (ha : ofLocator? l = some a) :
    ∃ host segments, l.path = host :: webMarker :: segments ∧ ofSegments? (some host) segments = some a := by
  rcases ofLocator?_cases ha with ⟨hs, -⟩ | ⟨-, hpath⟩
  · rw [hs] at h
    cases h
  · exact hpath

/-- The uid is found at a segment that is no key of a type, or before it. -/
theorem ofSegments?_uid_mem {hostname : Option String} {front back : List String} {marker : String} {a : Address}
    (hm : EntityType.ofKey? marker = none) (h : ofSegments? hostname (front ++ marker :: back) = some a) :
    a.uid ∈ front ∨ a.uid = marker := by
  unfold ofSegments? at h
  cases front with
  | nil =>
    simp only [List.nil_append, hm] at h
    obtain rfl := Option.some.inj (Option.filter_eq_some_iff.mp h).1
    exact Or.inr rfl
  | cons head front =>
    simp only [List.cons_append] at h
    cases hk : EntityType.ofKey? head with
    | none =>
      simp only [hk] at h
      obtain rfl := Option.some.inj (Option.filter_eq_some_iff.mp h).1
      exact Or.inl List.mem_cons_self
    | some t =>
      cases front with
      | nil =>
        simp only [hk, List.nil_append] at h
        obtain rfl := Option.some.inj (Option.filter_eq_some_iff.mp h).1
        exact Or.inr rfl
      | cons uid front =>
        simp only [hk, List.cons_append] at h
        obtain rfl := Option.some.inj (Option.filter_eq_some_iff.mp h).1
        exact Or.inl (by simp)

/-- In a link of the web the uid stands behind the host and the first marker, and no further back than the next one. -/
theorem ofLocator?_web_uid_mem {l : Locator} (h : (Scheme.ofText l.scheme).isWeb) {a : Address}
    (ha : ofLocator? l = some a) {host marker : String} {front back : List String}
    (hpath : l.path = host :: marker :: (front ++ webMarker :: back)) : a.uid ∈ front ∨ a.uid = webMarker := by
  obtain ⟨host', segments, hpath', hsegments⟩ := ofLocator?_web_eq_some h ha
  rw [hpath] at hpath'
  obtain ⟨-, -, rfl⟩ : host = host' ∧ marker = webMarker ∧ front ++ webMarker :: back = segments := by
    simpa using hpath'
  exact ofSegments?_uid_mem (by decide) hsegments

/-- An address is made of segments of the path. -/
theorem ofLocator?_eq_some {l : Locator} {a : Address} (h : ofLocator? l = some a) :
    a.uid ≠ "" ∧ a.uid ∈ l.path ∧ ∀ s ∈ a.path, s ∈ l.path := by
  rcases ofLocator?_cases h with ⟨-, hsegments⟩ | ⟨-, host, segments, hpath, hsegments⟩
  · exact (ofSegments?_eq_some hsegments).2
  · obtain ⟨-, hne, huid, hmem⟩ := ofSegments?_eq_some hsegments
    rw [hpath]
    exact ⟨hne, by simp [huid], fun s hs => by simp [hmem s hs]⟩

/-- Only links of the web have a host. It is a segment of the path. -/
theorem ofLocator?_hostname {l : Locator} {a : Address} (h : ofLocator? l = some a) {host : String}
    (hhost : a.hostname = some host) : (Scheme.ofText l.scheme).isWeb ∧ host ∈ l.path := by
  rcases ofLocator?_cases h with ⟨-, hsegments⟩ | ⟨hweb, host', segments, hpath, hsegments⟩
  · rw [(ofSegments?_eq_some hsegments).1] at hhost
    cases hhost
  · obtain rfl : host = host' := Option.some.inj (hhost.symm.trans (ofSegments?_eq_some hsegments).1)
    exact ⟨hweb, by simp [hpath]⟩

/-- A path that has a first segment has its second position. -/
theorem locate_eq (l : Locator) : locate l = .ok (ofLocator? l) := by
  unfold locate
  split
  · next head hs hhead =>
    obtain ⟨rest, hpath⟩ : ∃ rest, l.path = head :: rest := by
      unfold Locator.segment? at hhead
      cases hl : l.path <;> simp_all
    rw [ofLocator?_compact hs, hpath, Fault.slice_eq (by simp) le_rfl, List.take_length]
    rfl
  · rfl

end Address

namespace Identifier

/-! ## Everything that is read is plain and in normal form -/

theorem readView_eq (l : Locator) : readView l = .ok (viewOf l) := by
  unfold readView
  rw [BlockRef.readOptional_eq]
  rfl

/-- Reading never fails, because an address has a uid. -/
theorem ofLocator_eq (l : Locator) :
    ofLocator l = .ok ((Address.ofLocator? l).map fun a => a.identifier (viewOf l) l.scheme) := by
  unfold ofLocator
  rw [Address.locate_eq, readView_eq]
  cases ha : Address.ofLocator? l with
  | none => rfl
  | some a =>
    simp only [bind, Except.bind]
    rw [build_eq (Address.ofLocator?_eq_some ha).1]
    rfl

theorem unpack_eq_some {link : String} {x : Identifier} (h : unpack link = .ok (some x)) :
    ∃ scheme rest a, Locator.parse? link = some (ofRest scheme rest) ∧
      Address.ofLocator? (ofRest scheme rest) = some a ∧
      x = a.identifier (viewOf (ofRest scheme rest)) (ofRest scheme rest).scheme := by
  unfold unpack at h
  split at h
  · simp at h
  · next l hl =>
    obtain ⟨scheme, rest, -, -, rfl⟩ := Locator.parse?_eq_some hl
    rw [ofLocator_eq] at h
    obtain ⟨a, ha, rfl⟩ := Option.map_eq_some_iff.mp (Except.ok.inj h)
    exact ⟨scheme, rest, a, hl, ha, rfl⟩

theorem unpack_uid_ne {link : String} {x : Identifier} (h : unpack link = .ok (some x)) : x.uid ≠ "" := by
  obtain ⟨scheme, rest, a, -, ha, rfl⟩ := unpack_eq_some h
  exact (Address.ofLocator?_eq_some ha).1

/-- **Every identifier that is read is plain.** -/
theorem unpack_isPlain {link : String} {x : Identifier} (h : unpack link = .ok (some x)) : x.IsPlain := by
  obtain ⟨scheme, rest, a, -, ha, rfl⟩ := unpack_eq_some h
  obtain ⟨-, huid, hpath⟩ := Address.ofLocator?_eq_some ha
  refine ⟨Locator.isSegment_of_mem_path huid, fun s hs => ?_, ?_⟩
  · have hs : s ∈ (some a.path).getD [] := mem_of_mem_normalizePath hs
    exact Locator.isSegment_of_mem_path (hpath s hs)
  · show (normalizeView (viewOf (ofRest scheme rest))).IsPlain
    rw [View.normalizeView_viewOf]
    exact View.viewOf_isPlain scheme rest

/-- The host of an identifier that is read is a segment, and its link is one of the web. -/
theorem unpack_hostname {link : String} {x : Identifier} (h : unpack link = .ok (some x)) {host : String}
    (hhost : x.hostname = some host) :
    IsSegment host ∧ host ≠ "" ∧ ∃ scheme, x.scheme = some scheme ∧ (Scheme.ofText scheme).isWeb := by
  obtain ⟨scheme, rest, a, -, ha, rfl⟩ := unpack_eq_some h
  obtain ⟨hname, hne⟩ := View.nonempty_eq_some.mp hhost
  obtain ⟨hweb, hmem⟩ := Address.ofLocator?_hostname ha hname
  exact ⟨Locator.isSegment_of_mem_path hmem, hne, _, rfl, hweb⟩

/-- **Every identifier that is read is in normal form.** -/
theorem unpack_normal {link : String} {x : Identifier} (h : unpack link = .ok (some x)) : x.SameLink x.normalized := by
  obtain ⟨scheme, rest, a, -, -, rfl⟩ := unpack_eq_some h
  have hpath : normalizePath (normalizePath (some a.path)) = normalizePath (some a.path) :=
    normalizePath_normalizePath _
  have hview : normalizeView (normalizeView (viewOf (ofRest scheme rest))) =
      normalizeView (viewOf (ofRest scheme rest)) := View.normalizeView_normalizeView _
  refine ⟨?_, rfl, rfl, hpath.symm, hview.symm⟩
  show baseLink a.entityType a.uid (normalizePath (some a.path)) =
    baseLink a.entityType a.uid (normalizePath (normalizePath (some a.path)))
  rw [hpath]

/-! ## The two forms of a link -/

theorem unpack_of_parse? {link : String} {l : Locator} (h : Locator.parse? link = some l) :
    unpack link = ofLocator l := by
  unfold unpack
  rw [h]

/-- The compact link of an identifier is read from the text behind `hm://`. -/
theorem unpack_pack (x : Identifier) :
    unpack x.pack =
      if x.linkText = "" then .ok none else ofLocator (ofRest Scheme.hypermediaText.toList x.linkText.toList) := by
  have hcolon : ':' ∉ Scheme.hypermediaText.toList := by decide
  have hparse := Locator.parse?_append hcolon x.linkText
  rw [← pack_eq] at hparse
  unfold unpack
  rw [hparse]
  by_cases h : x.linkText = "" <;> simp only [h, if_true, if_false]

/-- A compact link names the entity of the segments behind `hm://`. -/
theorem ofLocator_compact (text : List Char) :
    ofLocator (ofRest Scheme.hypermediaText.toList text) =
      .ok ((Address.ofSegments? none (ofRest Scheme.hypermediaText.toList text).path).map fun a =>
        a.identifier (viewOf (ofRest Scheme.hypermediaText.toList text)) Scheme.hypermediaText) := by
  have hscheme : (ofRest Scheme.hypermediaText.toList text).scheme = Scheme.hypermediaText := String.ofList_toList
  have hcompact : Scheme.ofText (ofRest Scheme.hypermediaText.toList text).scheme = .hypermedia := by
    rw [hscheme]
    decide
  rw [ofLocator_eq, Address.ofLocator?_compact hcompact, hscheme]

/-- A URL is read from what stands behind `://` in the text of its host, and from the marker and the text of the compact
link behind that. -/
theorem unpack_webUrl_append (x : Identifier) {scheme : String} (hs : ':' ∉ scheme.toList) (front : String) :
    unpack (x.webUrl (.origin (scheme ++ "://" ++ front))) =
      ofLocator (ofRest scheme.toList
        (front.toList ++ '/' :: (webMarker.toList ++ '/' :: x.linkText.toList))) := by
  have hurl : x.webUrl (.origin (scheme ++ "://" ++ front)) =
      scheme ++ "://" ++ (front ++ ("/" ++ webMarker ++ "/" ++ x.linkText)) := by
    rw [webUrl_eq, WebHost.text]
    simp only [String.append_assoc]
  have hrest : (front ++ ("/" ++ webMarker ++ "/" ++ x.linkText)).toList =
      front.toList ++ '/' :: (webMarker.toList ++ '/' :: x.linkText.toList) := by
    simp
  have hne : front ++ ("/" ++ webMarker ++ "/" ++ x.linkText) ≠ "" := by
    intro hempty
    have hnil := congrArg String.toList hempty
    rw [hrest] at hnil
    simp at hnil
  have hparse := Locator.parse?_append hs (front ++ ("/" ++ webMarker ++ "/" ++ x.linkText))
  rw [if_neg hne, ← hurl, hrest] at hparse
  exact unpack_of_parse? hparse

/-- The URL of an identifier on an origin is read from the same text, with the host and the marker in front of the
path. -/
theorem unpack_webUrl (x : Identifier) {scheme host : String} (hs : ':' ∉ scheme.toList) (hh : IsSegment host) :
    unpack (x.webUrl (.origin (scheme ++ "://" ++ host))) =
      ofLocator { ofRest scheme.toList x.linkText.toList with
        path := host :: webMarker :: (ofRest scheme.toList x.linkText.toList).path } := by
  rw [unpack_webUrl_append x hs, Locator.ofRest_segment_append hh,
    Locator.ofRest_segment_append (by decide : IsSegment webMarker)]

end Identifier

end Hyperlink
