import Hyperlink.Proofs.Identifier.Reading

/-!
# Hyperlink.Proofs.Identifier.RoundTrip — which identifiers survive their compact link

* `unpack_pack_sameLink_iff`: the link of an identifier is read back iff its normal form is plain and not reserved.
* `pack_round_trip_iff`: the same for the identifier that is built from the parts of any record, with the condition on
  the block in terms of its text.
* `repack_stable_iff`: a link that was read is stable under packing and reading iff it does not name a document whose
  uid is the key of a type; `repack_unstable_of_reserved`: there are links that do.
-/

namespace Hyperlink

open Locator (ofRest)

namespace Identifier

/-! ## The segments of a compact link -/

theorem ofSegments?_segments {x : Identifier} (huid : x.uid ≠ "") (h : ¬ x.IsReserved) :
    Address.ofSegments? none x.segments = some ⟨none, x.entityType, x.uid, x.path.getD []⟩ := by
  unfold segments Address.ofSegments?
  by_cases ht : x.entityType = .document
  · have hkey : EntityType.ofKey? x.uid = none := by
      cases hk : EntityType.ofKey? x.uid with
      | none => rfl
      | some t => exact absurd ⟨ht, t, (EntityType.key_of_ofKey? hk).symm⟩ h
    simp [ht, EntityType.isDefault, hkey, huid]
  · simp [ht, EntityType.isDefault, huid]

/-- The uid of a reserved document is taken for a type, and the first segment of its path for the uid. -/
theorem ofSegments?_reserved {x : Identifier} (ht : x.entityType = .document) {t : EntityType} (hkey : x.uid = t.key) :
    Address.ofSegments? none x.segments =
      ((x.path.getD []).head?.filter (· ≠ "")).map fun uid => ⟨none, t, uid, (x.path.getD []).tail⟩ := by
  unfold segments Address.ofSegments?
  simp only [ht, EntityType.isDefault, decide_true, if_true, List.singleton_append, hkey, EntityType.ofKey?_key]
  cases x.path.getD [] with
  | nil => rfl
  | cons uid path => by_cases huid : uid = "" <;> simp [Option.filter, huid]

/-- So the entity that is read for a reserved document is another one. -/
theorem ofSegments?_of_isReserved {x : Identifier} (h : x.IsReserved) {a : Address}
    (ha : Address.ofSegments? none x.segments = some a) :
    ¬ (a.entityType = x.entityType ∧ a.uid = x.uid ∧ normalizePath (some a.path) = normalizePath x.path) := by
  rintro ⟨-, -, hpath⟩
  obtain ⟨ht, t, hkey⟩ := h
  rw [ofSegments?_reserved ht hkey] at ha
  obtain ⟨uid, huid, rfl⟩ := Option.map_eq_some_iff.mp ha
  obtain ⟨hhead, hne⟩ := Option.filter_eq_some_iff.mp huid
  rw [← normalizePath_some_getD x.path, ← List.cons_head?_tail hhead] at hpath
  exact normalizePath_cons_ne (by simpa using hne) _ hpath.symm

theorem isSegment_key (t : EntityType) : IsSegment t.key := by
  cases t <;> decide

/-- The segments of a record whose normal form is plain can all stand between slashes. -/
theorem isSegment_of_mem_segments {x : Identifier} (h : x.normalized.IsPlain) : ∀ s ∈ x.segments, IsSegment s := by
  intro s hs
  unfold segments at hs
  rcases List.mem_append.mp hs with hs | hs
  · split at hs
    · obtain rfl := List.mem_singleton.mp hs
      exact h.uid
    · rcases List.mem_cons.mp hs with rfl | hs
      · exact isSegment_key x.entityType
      · obtain rfl := List.mem_singleton.mp hs
        exact h.uid
  · rcases eq_or_mem_normalizePath hs with rfl | hs
    · exact isSegment_empty
    · exact h.path s hs

/-! ## Reading a link back -/

theorem unpack_pack_of_isPlain {x : Identifier} (huid : x.uid ≠ "") (h : x.normalized.IsPlain) :
    unpack x.pack = .ok ((Address.ofSegments? none x.segments).map fun a =>
      a.identifier x.normalized.view Scheme.hypermediaText) := by
  have hrest := Locator.ofRest_intercalate_append (isSegment_of_mem_segments h) x.segments_ne_nil
    (View.pathChars_suffix x.view) Scheme.hypermediaText.toList
  rw [← String.toList_append, ← linkText] at hrest
  have hview : viewOf (ofRest Scheme.hypermediaText.toList x.linkText.toList) = x.normalized.view := by
    refine View.viewOf_suffix Scheme.hypermediaText.toList (View.normalizeView_normalizeView x.view) h.view ?_ ?_
    · rw [hrest, ← View.suffix_normalizeView]
    · rw [hrest, ← View.suffix_normalizeView]
  rw [unpack_pack, if_neg (linkText_ne_empty huid), ofLocator_compact, hview, hrest]

/-- **A record is read back from its compact link** iff its normal form is plain and not reserved. -/
theorem unpack_pack_sameLink_iff {x : Identifier} (huid : x.uid ≠ "") :
    (∃ y, unpack x.pack = .ok (some y) ∧ y.SameLink x.normalized) ↔ x.normalized.IsPlain ∧ ¬ x.IsReserved := by
  constructor
  · rintro ⟨y, hy, hsame⟩
    have hplain := (unpack_isPlain hy).congr hsame
    refine ⟨hplain, fun hr => ?_⟩
    rw [unpack_pack_of_isPlain huid hplain] at hy
    obtain ⟨a, ha, rfl⟩ := Option.map_eq_some_iff.mp (Except.ok.inj hy)
    exact ofSegments?_of_isReserved hr ha ⟨hsame.entityType, hsame.uid, hsame.path⟩
  · rintro ⟨hplain, hr⟩
    rw [unpack_pack_of_isPlain huid hplain, ofSegments?_segments huid hr]
    refine ⟨_, rfl, ?_, rfl, rfl, normalizePath_some_getD x.path, View.normalizeView_normalizeView x.view⟩
    show baseLink x.entityType x.uid (normalizePath (some (x.path.getD []))) =
      baseLink x.entityType x.uid (normalizePath x.path)
    rw [normalizePath_some_getD]

/-! ## Records and links -/

/-- **Exact round trip of the compact form.**  For every record with a uid there is the identifier `n` that is built
from its parts, and the compact link of the record is read back as `n` iff no text of `n` leaks into its neighbour and
`n` is not a document whose uid is the key of a type.  A block leaks unless it is a stable reference. -/
theorem pack_round_trip_iff (r : Identifier) (huid : r.uid ≠ "") :
    ∃ n, build r.entityType r.uid { path := r.path, view := r.view } = .ok n ∧
      ((∃ x, unpack r.pack = .ok (some x) ∧ x.SameLink n) ↔ n.IsPlain ∧ ¬ n.IsReserved) ∧
      ∀ b, n.view.blockRef = some b →
        (BlockRef.parse? (BlockRef.render ⟨b, n.view.blockRange⟩) = some ⟨b, n.view.blockRange⟩ ↔
          BlockRef.IsStable ⟨b, n.view.blockRange⟩) :=
  ⟨r.normalized, build_eq huid _ _, unpack_pack_sameLink_iff huid, fun _ _ => BlockRef.parse?_render_iff⟩

/-- A record that is not in normal form: its path has empty segments at both ends. -/
def paddedComment : Identifier where
  id := ""
  entityType := .comment
  uid := "d"
  path := some ["", "a", "", "b", ""]
  view := { version := some "v=1?", latest := true, blockRef := some "BLOCKID1", blockRange := some (.span 0 3) }
  hostname := some "example.com"
  scheme := none

theorem pack_round_trip_iff_padded :
    paddedComment.uid ≠ "" ∧
      ∃ n, build .comment "d" { path := paddedComment.path, view := paddedComment.view } = .ok n ∧
        ((∃ x, unpack paddedComment.pack = .ok (some x) ∧ x.SameLink n) ↔ n.IsPlain ∧ ¬ n.IsReserved) ∧
        ∀ b, n.view.blockRef = some b →
          (BlockRef.parse? (BlockRef.render ⟨b, n.view.blockRange⟩) = some ⟨b, n.view.blockRange⟩ ↔
            BlockRef.IsStable ⟨b, n.view.blockRange⟩) :=
  ⟨by decide, pack_round_trip_iff paddedComment (by decide)⟩

/-- **Re-packing a link is stable** iff the link does not name a document whose uid is the key of a type. -/
theorem repack_stable_iff {link : String} {a : Identifier} (h : unpack link = .ok (some a)) :
    (∃ b, unpack a.pack = .ok (some b) ∧ b.SameLink a ∧ b.pack = a.pack) ↔ ¬ a.IsReserved := by
  have hnormal := unpack_normal h
  have hiff := unpack_pack_sameLink_iff (unpack_uid_ne h)
  constructor
  · rintro ⟨b, hb, hsame, -⟩
    exact (hiff.mp ⟨b, hb, hsame.trans hnormal⟩).2
  · intro hr
    obtain ⟨b, hb, hsame⟩ := hiff.mpr ⟨(unpack_isPlain h).congr hnormal, hr⟩
    have hba := hsame.trans hnormal.symm
    exact ⟨b, hb, hba, hba.pack_eq⟩

/-- A comment whose uid is the key of a type, as it is read from a link. -/
def draftComment : Identifier where
  id := "hm://comment/draft/a"
  entityType := .comment
  uid := "draft"
  path := some ["a"]
  view := { version := some "1", blockRef := some "BLOCKID1", blockRange := some (.expanded true) }
  hostname := some "example.com"
  scheme := some "HTTPS"

theorem repack_stable_iff_comment :
    unpack "HTTPS://example.com/hm/comment/draft//a/?v=0&v=1#BLOCKID1+" = .ok (some draftComment) ∧
      ((∃ b, unpack draftComment.pack = .ok (some b) ∧ b.SameLink draftComment ∧ b.pack = draftComment.pack) ↔
        ¬ draftComment.IsReserved) := by
  have h : unpack "HTTPS://example.com/hm/comment/draft//a/?v=0&v=1#BLOCKID1+" = .ok (some draftComment) := by
    decide +kernel
  exact ⟨h, repack_stable_iff h⟩

/-- A document whose uid is the key of a type, as it is read from a link that writes out its type. -/
def commentDocument : Identifier where
  id := "hm://comment/x"
  entityType := .document
  uid := "comment"
  path := some ["x"]
  view := {}
  hostname := none
  scheme := some "hm"

/-- The link of such a document is read as a comment. -/
theorem repack_unstable_of_reserved :
    unpack "hm://d/comment/x" = .ok (some commentDocument) ∧
      ¬ ∃ b, unpack commentDocument.pack = .ok (some b) ∧ b.SameLink commentDocument ∧
        b.pack = commentDocument.pack := by
  refine ⟨by decide +kernel, ?_⟩
  rintro ⟨b, hb, hsame, -⟩
  have hcomment : unpack commentDocument.pack =
      .ok (some { id := "hm://comment/x", entityType := .comment, uid := "x", path := none, view := {},
                  hostname := none, scheme := some "hm" }) := by
    decide +kernel
  rw [hcomment] at hb
  obtain rfl := Option.some.inj (Except.ok.inj hb)
  exact absurd hsame.entityType (by decide)

end Identifier

end Hyperlink
