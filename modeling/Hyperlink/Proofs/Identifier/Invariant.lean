import Hyperlink.Proofs.Block.Reading
import Hyperlink.Proofs.Identifier.Pinning
import Hyperlink.Proofs.Locator.Decomposition

/-!
# Hyperlink.Proofs.Identifier.Invariant — what holds of every identifier that is built

* `InOrder`: the invariant. No text is empty where a missing one is meant, no segment at either end of the path is
  empty, a range stands behind a block and is one that is written, and `id` is the link of the segments.
  `inOrder_ofParts`: all identifiers in normal form satisfy it.
* `unpack_parts`: an identifier that is read comes from the proper parts of its link. `IsReadFrom`: so its texts hold
  no separator that would end them, its block is read back, and host and scheme are those of the link.
* `built_in_order`: so much holds of every result of `build`, `create`, `withVersion` and `unpack`.
-/

namespace Hyperlink

open Identifier (viewOf normalizePath normalizeView)

/-! ## Views -/

namespace View

theorem nonempty_ne_some_empty (text : Option String) : nonempty text ≠ some "" := fun h =>
  (nonempty_eq_some.mp h).2 rfl

/-- A view in normal form has a range behind a block only, and one that is written. -/
theorem normalizeView_blockRange {v : View} {r : BlockRange} (h : (normalizeView v).blockRange = some r) :
    (normalizeView v).blockRef ≠ none ∧ r ≠ .expanded false := by
  unfold normalizeView at h ⊢
  simp only at h ⊢
  split at h
  · next hblock =>
    obtain ⟨-, hr⟩ := Option.filter_eq_some_iff.mp h
    exact ⟨Option.isSome_iff_ne_none.mp hblock, by simpa using hr⟩
  · simp at h

/-- Of the blocks that are read back, those with a range have a block id. -/
theorem IsPlain.isBlockId {v : View} (h : v.IsPlain) {b : String} (hb : v.blockRef = some b) {r : BlockRange}
    (hr : v.blockRange = some r) (hne : r ≠ .expanded false) : BlockRef.IsBlockId b.toList := by
  have hread := h.block b hb
  rw [hr, BlockRef.parse?_render_iff, BlockRef.isStable_some hne] at hread
  exact BlockRef.isId_iff.mp hread

end View

namespace Identifier

/-! ## The invariant -/

/-- Every part of the identifier is in order. -/
structure InOrder (x : Identifier) : Prop where
  uid : x.uid ≠ ""
  path : ∀ segments, x.path = some segments →
    ∃ hne : segments ≠ [], segments.head hne ≠ "" ∧ segments.getLast hne ≠ ""
  version : x.view.version ≠ some ""
  blockRef : x.view.blockRef ≠ some ""
  blockRange : ∀ r, x.view.blockRange = some r → x.view.blockRef ≠ none ∧ r ≠ .expanded false
  hostname : x.hostname ≠ some ""
  id : x.id = "hm://" ++ "/".intercalate x.segments

/-- The scheme that a link was written with has no say in it. -/
theorem InOrder.withScheme {x : Identifier} (h : x.InOrder) (scheme : Option String) :
    { x with scheme := scheme }.InOrder :=
  ⟨h.uid, h.path, h.version, h.blockRef, h.blockRange, h.hostname, h.id⟩

/-- A path in normal form has segments, and those at its ends are not empty. -/
theorem normalizePath_ends {path : Option (List String)} {segments : List String}
    (h : normalizePath path = some segments) :
    ∃ hne : segments ≠ [], segments.head hne ≠ "" ∧ segments.getLast hne ≠ "" := by
  have hne : segments ≠ [] := by
    rintro rfl
    exact normalizePath_ne_nil path h
  have hstrip := getD_normalizePath path
  rw [h, Option.getD_some] at hstrip
  subst hstrip
  exact ⟨hne, by simpa using Text.head_stripEnds _ hne, by simpa using Text.getLast_stripEnds _ hne⟩

theorem inOrder_ofParts {uid : String} (h : uid ≠ "") (t : EntityType) (o : Options) : (ofParts t uid o).InOrder where
  uid := h
  path _ hpath := normalizePath_ends hpath
  version := View.nonempty_ne_some_empty _
  blockRef := View.nonempty_ne_some_empty _
  blockRange _ hr := View.normalizeView_blockRange hr
  hostname := View.nonempty_ne_some_empty _
  id := by
    rw [← entityText_append_pathText, ← String.append_assoc]
    rfl

/-! ## What is read -/

/-- An identifier that is read has the address that the proper parts of its link name. -/
theorem unpack_parts {link : String} {x : Identifier} (h : unpack link = .ok (some x)) :
    ∃ (p : Locator.Parts) (a : Address), p.IsProper ∧ p.text = link ∧ Address.ofLocator? p.locator = some a ∧
      x = a.identifier (viewOf p.locator) p.scheme := by
  obtain ⟨scheme, rest, a, hparse, ha, rfl⟩ := unpack_eq_some h
  obtain ⟨p, hp, htext, hlocator⟩ := Locator.exists_parts hparse
  rw [← hlocator] at ha ⊢
  exact ⟨p, a, hp, htext, ha, rfl⟩

theorem exists_unpack (link : String) : ∃ r, unpack link = .ok r := by
  unfold unpack
  cases Locator.parse? link with
  | none => exact ⟨none, rfl⟩
  | some l => exact ⟨_, ofLocator_eq l⟩

/-- What an identifier keeps of the link that it was read from. -/
structure IsReadFrom (link : String) (x : Identifier) : Prop where
  /-- No text holds a separator that would end it, and the block is read back with its range. -/
  plain : x.IsPlain
  blockRange : ∀ r, x.view.blockRange = some r → ∃ b, x.view.blockRef = some b ∧ BlockRef.IsBlockId b.toList
  scheme : ∃ scheme rest, x.scheme = some scheme ∧
    Text.StandsFirst "://".toList link.toList scheme.toList rest
  hostname : ∀ host, x.hostname = some host →
    IsSegment host ∧ ∃ scheme, x.scheme = some scheme ∧ (Scheme.ofText scheme).isWeb

theorem unpack_inOrder {link : String} {x : Identifier} (h : unpack link = .ok (some x)) : x.InOrder := by
  obtain ⟨scheme, rest, a, -, ha, rfl⟩ := unpack_eq_some h
  exact (inOrder_ofParts (Address.ofLocator?_eq_some ha).1 _ _).withScheme _

theorem unpack_isReadFrom {link : String} {x : Identifier} (h : unpack link = .ok (some x)) : x.IsReadFrom link := by
  have hplain := unpack_isPlain h
  have horder := unpack_inOrder h
  obtain ⟨p, a, hp, rfl, ha, rfl⟩ := unpack_parts h
  refine ⟨hplain, fun r hr => ?_, ⟨p.scheme, p.rest.toList, rfl, hp.standsFirst⟩, fun host hhost => ?_⟩
  · obtain ⟨hblock, hne⟩ := horder.blockRange r hr
    obtain ⟨b, hb⟩ := Option.ne_none_iff_exists'.mp hblock
    exact ⟨b, hb, hplain.view.isBlockId hb hr hne⟩
  · obtain ⟨hsegment, -, hweb⟩ := unpack_hostname h hhost
    exact ⟨hsegment, hweb⟩

/-- **Every identifier that is built is in order.** For a uid that is not empty building always gives one, and so does
pinning; and what is read from a link keeps the parts of the link apart. -/
theorem built_in_order :
    (∀ (t : EntityType) (uid : String) (o : Options), uid ≠ "" →
      ∃ x, build t uid o = .ok x ∧ create t uid o = .ok (.ok x) ∧ x.InOrder) ∧
    (∀ (x : Identifier) (version blockRef : Option String) (range : Option BlockRange), x.uid ≠ "" →
      ∃ y, x.withVersion version blockRef range = .ok y ∧ y.InOrder) ∧
    ∀ link : String, ∃ r, unpack link = .ok r ∧ ∀ x, r = some x → x.InOrder ∧ x.IsReadFrom link := by
  refine ⟨fun t uid o h => ?_, fun x version blockRef range h => ?_, fun link => ?_⟩
  · exact ⟨ofParts t uid o, build_eq h t o, create_eq h t o, inOrder_ofParts h t o⟩
  · exact ⟨_, withVersion_eq h version blockRef range, inOrder_ofParts h _ _⟩
  · obtain ⟨r, hr⟩ := exists_unpack link
    refine ⟨r, hr, ?_⟩
    rintro x rfl
    exact ⟨unpack_inOrder hr, unpack_isReadFrom hr⟩

/-- Options with empty texts wherever there may be some. -/
def blankOptions : Options where
  path := some ["", "c", ""]
  view := { version := some "", blockRef := some "", blockRange := some (.span 1 2) }
  hostname := some ""

theorem built_in_order_blank :
    "a/b" ≠ "" ∧
    (∃ x, build .draft "a/b" blankOptions = .ok x ∧ create .draft "a/b" blankOptions = .ok (.ok x) ∧ x.InOrder) ∧
    ∃ x, unpack "HTTPS ://me@h:80/hm/draft/u//a:/b//?v=1&v=x=&l#1234567:[007:9]" = .ok (some x) ∧
      x.hostname = some "me@h:80" ∧ x.path = some ["a:", "b"] ∧ x.view.blockRange = some (.span 7 9) ∧
      x.InOrder ∧ x.IsReadFrom "HTTPS ://me@h:80/hm/draft/u//a:/b//?v=1&v=x=&l#1234567:[007:9]" := by
  have huid : "a/b" ≠ "" := by decide
  obtain ⟨x, hx, hhost, hpath, hrange⟩ :
      ∃ x, unpack "HTTPS ://me@h:80/hm/draft/u//a:/b//?v=1&v=x=&l#1234567:[007:9]" = .ok (some x) ∧
        x.hostname = some "me@h:80" ∧ x.path = some ["a:", "b"] ∧ x.view.blockRange = some (.span 7 9) :=
    ⟨_, rfl, rfl, rfl, rfl⟩
  obtain ⟨r, hr, hread⟩ :=
    built_in_order.2.2 "HTTPS ://me@h:80/hm/draft/u//a:/b//?v=1&v=x=&l#1234567:[007:9]"
  obtain ⟨horder, hlink⟩ := hread x (Except.ok.inj (hr.symm.trans hx))
  exact ⟨huid, built_in_order.1 .draft "a/b" blankOptions huid, x, hx, hhost, hpath, hrange, horder, hlink⟩

end Identifier

end Hyperlink
