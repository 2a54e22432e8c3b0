import Hyperlink.Proofs.Identifier.Entity

/-!
# Hyperlink.Proofs.Identifier.Pinning — of two pins the last one counts

A link can be pinned to a version and a block again and again. Nothing in a pin is escaped, so the texts of one can be
read as other parameters than they were given for; the next pin replaces all parameters, however they were read.

* `pinned`: the identifier at a version and a block, in normal form; `linkWithVersion_pinned`: what the pin of a link
  packs.
* `pinned_pinned`: a second pin leaves of the first one only a version that it has none to put in the place of.
* `unpack_pinned_entity`: no pin changes the entity, so `pinned_congr` lets the second pin forget the first.
* `unpack_pack_ofFragment`: an identifier without separators in its texts, at the block that a fragment refers to, is
  read back from its link with exactly these parts; `unpack_pinned`: so is a pin.
* `last_pin_wins`: all of it, for identifiers and for links.
-/

namespace Hyperlink

namespace BlockRef

/-- The block and its range are absent, or those that the text of some fragment is read as. -/
def IsRead (blockRef : Option String) (range : Option BlockRange) : Prop :=
  (blockRef = none ∧ range = none) ∨ ∃ text b, parse? text = some b ∧ blockRef = some b.blockId ∧ range = b.range

theorem IsRead.exists_text {blockRef : Option String} {range : Option BlockRange} (h : IsRead blockRef range) :
    ∃ text : Option String, blockRef = (text.bind parse?).map blockId ∧ range = (text.bind parse?).bind BlockRef.range := by
  rcases h with ⟨rfl, rfl⟩ | ⟨text, b, hparse, rfl, rfl⟩
  · exact ⟨none, rfl, rfl⟩
  · refine ⟨some text, ?_, ?_⟩
    · rw [Option.bind_some, hparse, Option.map_some]
    · rw [Option.bind_some, hparse, Option.bind_some]

end BlockRef

namespace Identifier

/-! ## Pins -/

/-- The identifier at a version and a block, in normal form. A missing or empty version leaves the one it has. -/
def pinned (x : Identifier) (version blockRef : Option String) (range : Option BlockRange) : Identifier :=
  ofParts x.entityType x.uid
    { path := x.path
      view := { version := (View.nonempty version).or x.view.version, blockRef := blockRef, blockRange := range } }

theorem withVersion_eq {x : Identifier} (h : x.uid ≠ "") (version blockRef : Option String)
    (range : Option BlockRange) : x.withVersion version blockRef range = .ok (x.pinned version blockRef range) :=
  build_eq h _ _

theorem linkWithVersion_pinned {link : String} {a : Identifier} (h : unpack link = .ok (some a))
    (version blockRef : Option String) (range : Option BlockRange) :
    linkWithVersion (some link) version blockRef range = .ok (some (a.pinned version blockRef range).pack) :=
  linkWithVersion_eq h version blockRef range

/-- Of a first pin only its version is left, and only if the second one has none. -/
theorem pinned_pinned (x : Identifier) (v₁ b₁ : Option String) (r₁ : Option BlockRange) (v₂ b₂ : Option String)
    (r₂ : Option BlockRange) :
    (x.pinned v₁ b₁ r₁).pinned v₂ b₂ r₂ = x.pinned ((View.nonempty v₂).or v₁) b₂ r₂ := by
  have hpath : normalizePath (normalizePath x.path) = normalizePath x.path := normalizePath_normalizePath x.path
  have hversion : View.nonempty ((View.nonempty v₂).or (View.nonempty ((View.nonempty v₁).or x.view.version))) =
      View.nonempty ((View.nonempty ((View.nonempty v₂).or v₁)).or x.view.version) := by
    simp only [View.nonempty_or, View.nonempty_nonempty, Option.or_assoc]
  unfold pinned ofParts normalizeView
  simp only [hpath, hversion]

/-- A pin with a version of its own takes nothing but the entity from the identifier. -/
theorem pinned_congr {x y : Identifier} (h : x.SameEntity y) {version : Option String}
    (hversion : View.nonempty version ≠ none) (blockRef : Option String) (range : Option BlockRange) :
    x.pinned version blockRef range = y.pinned version blockRef range := by
  obtain ⟨w, hw⟩ := Option.ne_none_iff_exists'.mp hversion
  unfold pinned
  rw [h.entityType, h.uid, h.path, hw, Option.some_or, Option.some_or]

/-- The pin of an identifier that was read names its entity. -/
theorem pinned_sameEntity {link : String} {a : Identifier} (h : unpack link = .ok (some a))
    (version blockRef : Option String) (range : Option BlockRange) :
    (a.pinned version blockRef range).SameEntity a := by
  have hnormal := (unpack_normal h).sameEntity
  exact ⟨hnormal.id.symm, rfl, rfl, hnormal.path.symm⟩

/-- The link of a pin is read as the same entity, whatever the pin holds. -/
theorem unpack_pinned_entity {link : String} {a : Identifier} (h : unpack link = .ok (some a)) (hr : ¬ a.IsReserved)
    (version blockRef : Option String) (range : Option BlockRange) :
    ∃ y, unpack (a.pinned version blockRef range).pack = .ok (some y) ∧ y.SameEntity a := by
  have hplain := unpack_isPlain h
  have hne : a.uid ≠ "" := unpack_uid_ne h
  obtain ⟨y, hy, hsame⟩ := unpack_pack_entity (x := a.pinned version blockRef range) hne hr hplain.uid
    fun s hs => hplain.path s (mem_of_mem_normalizePath hs)
  exact ⟨y, hy, (hsame.trans sameEntity_normalized).trans (pinned_sameEntity h version blockRef range)⟩

/-! ## Reading back -/

section Plain

variable {t : EntityType} {uid : String} {path : Option (List String)} {version : Option String}

theorem isWellFormed_ofFragment (hne : uid ≠ "") (huid : IsSegment uid) (hpath : ∀ s ∈ path.getD [], IsSegment s)
    (hr : ¬ (t = .document ∧ ∃ k : EntityType, uid = k.key))
    (hversion : ∀ w, View.nonempty version = some w → '&' ∉ w.toList ∧ '#' ∉ w.toList) (latest : Bool)
    (text : Option String) :
    (ofParts t uid { path := path, view := View.ofFragment version latest text }).IsWellFormed where
  built := ⟨t, uid, _, build_eq hne t _⟩
  uid := huid
  path s hs := hpath s (mem_of_mem_normalizePath hs)
  version := hversion
  block b hb := by
    have hview : (ofParts t uid { path := path, view := View.ofFragment version latest text }).view =
        View.ofFragment (View.nonempty version) latest text := View.normalizeView_ofFragment version latest text
    rw [hview] at hb ⊢
    obtain ⟨block, hblock, rfl⟩ := Option.map_eq_some_iff.mp hb
    obtain ⟨written, -, hparse⟩ := Option.bind_eq_some_iff.mp hblock
    refine ⟨written, ?_⟩
    rw [hparse, View.ofFragment, hblock]
    rfl
  unreserved := hr

/-- **An identifier is read back from its link** with the parts it was built from and the block that the text of a
fragment refers to, if neither its uid, its path nor its version holds a separator. -/
theorem unpack_pack_ofFragment (hne : uid ≠ "") (huid : IsSegment uid) (hpath : ∀ s ∈ path.getD [], IsSegment s)
    (hr : ¬ (t = .document ∧ ∃ k : EntityType, uid = k.key))
    (hversion : ∀ w, View.nonempty version = some w → '&' ∉ w.toList ∧ '#' ∉ w.toList) (latest : Bool)
    (text : Option String) :
    ∃ y, unpack (ofParts t uid { path := path, view := View.ofFragment version latest text }).pack = .ok (some y) ∧
      y.entityType = t ∧ y.uid = uid ∧ y.path = normalizePath path ∧
      y.view = View.ofFragment (View.nonempty version) latest text := by
  have hwell := isWellFormed_ofFragment hne huid hpath hr hversion latest text
  obtain ⟨y, hy, hsame⟩ := hwell.isLinkable.unpack_pack hwell.unreserved
  exact ⟨y, hy, hsame.entityType, hsame.uid, hsame.path,
    hsame.view.trans (View.normalizeView_ofFragment version latest text)⟩

/-- A pin to the block that the text of a fragment refers to is read back. -/
theorem unpack_pinned {link : String} {a : Identifier} (h : unpack link = .ok (some a)) (hr : ¬ a.IsReserved)
    (hversion : ∀ w, View.nonempty version = some w → '&' ∉ w.toList ∧ '#' ∉ w.toList) (text : Option String) :
    ∃ y, unpack (a.pinned version ((text.bind BlockRef.parse?).map BlockRef.blockId)
        ((text.bind BlockRef.parse?).bind BlockRef.range)).pack = .ok (some y) ∧
      y.entityType = a.entityType ∧ y.uid = a.uid ∧ y.path = a.path ∧
      y.view = View.ofFragment ((View.nonempty version).or a.view.version) false text := by
  have hplain := unpack_isPlain h
  have hnormal := unpack_normal h
  -- the version that is kept was read from a link, so it is not empty and holds no separator
  have hown : View.nonempty a.view.version = a.view.version := (congrArg View.version hnormal.view).symm
  have hkept : View.nonempty ((View.nonempty version).or a.view.version) = (View.nonempty version).or a.view.version := by
    rw [View.nonempty_or, hown]
  have hplainVersion : ∀ w, View.nonempty ((View.nonempty version).or a.view.version) = some w →
      '&' ∉ w.toList ∧ '#' ∉ w.toList := by
    intro w hw
    rw [hkept, Option.or_eq_some_iff] at hw
    rcases hw with hw | ⟨-, hw⟩
    · exact hversion w hw
    · exact hplain.view.version w hw
  obtain ⟨y, hy, htype, huid, hpath, hview⟩ :=
    unpack_pack_ofFragment (unpack_uid_ne h) hplain.uid hplain.path hr hplainVersion false text
  exact ⟨y, hy, htype, huid, hpath.trans hnormal.path.symm, hview.trans (by rw [hkept])⟩

end Plain

/-! ## Two pins -/

/-- A pin that comes last replaces the pins before it. -/
structure ReplacesPins (version blockRef : Option String) (range : Option BlockRange) : Prop where
  /-- An identifier that was pinned before is pinned as if it had not been, except that the version of the first pin stays
  if the last one has none. -/
  record : ∀ (x : Identifier) v b r, x.uid ≠ "" → ∃ y z, x.withVersion v b r = .ok y ∧
    y.withVersion version blockRef range = .ok z ∧
    x.withVersion ((View.nonempty version).or v) blockRef range = .ok z
  /-- If the last pin has a version, it gives the same link for the link of a first pin, whatever the texts of that one
  hold, as for the link that was pinned first. If its version holds no separator and its block is one that fragments are
  read as, both are read back from the link. -/
  link : ∀ s a w, unpack s = .ok (some a) → ¬ a.IsReserved → version = some w → w ≠ "" →
    ∀ v b r, ∃ first last, linkWithVersion (some s) v b r = .ok (some first) ∧
      linkWithVersion (some first) version blockRef range = .ok (some last) ∧
      linkWithVersion (some s) version blockRef range = .ok (some last) ∧
      ('&' ∉ w.toList ∧ '#' ∉ w.toList → BlockRef.IsRead blockRef range →
        ∃ y, unpack last = .ok (some y) ∧ y.entityType = a.entityType ∧ y.uid = a.uid ∧ y.path = a.path ∧
          y.view = { version := some w, latest := false, blockRef := blockRef, blockRange := range })

/-- **The last pin wins**, and the pins before it leave nothing behind. -/
theorem last_pin_wins (version blockRef : Option String) (range : Option BlockRange) :
    ReplacesPins version blockRef range where
  record x v b r h := by
    refine ⟨_, _, withVersion_eq h v b r, withVersion_eq (x := x.pinned v b r) h version blockRef range, ?_⟩
    rw [withVersion_eq h, pinned_pinned]
  link s a w h hr hversion hw v b r := by
    subst hversion
    have hversion : View.nonempty (some w) = some w := View.nonempty_eq_some.mpr ⟨rfl, hw⟩
    have hsome : View.nonempty (some w) ≠ none := by simp [hversion]
    obtain ⟨y, hy, hsame⟩ := unpack_pinned_entity h hr v b r
    refine ⟨_, _, linkWithVersion_pinned h v b r, ?_, linkWithVersion_pinned h _ _ _, fun hplain hread => ?_⟩
    · rw [linkWithVersion_pinned hy, pinned_congr hsame hsome]
    · obtain ⟨text, rfl, rfl⟩ := hread.exists_text
      have hplain : ∀ w', View.nonempty (some w) = some w' → '&' ∉ w'.toList ∧ '#' ∉ w'.toList := by
        intro w' hw'
        rw [hversion] at hw'
        exact Option.some.inj hw' ▸ hplain
      obtain ⟨z, hz, htype, huid, hpath, hview⟩ := unpack_pinned h hr hplain text
      rw [hversion] at hview
      exact ⟨z, hz, htype, huid, hpath, hview⟩

theorem last_pin_wins_hostile :
    (∃ y z, leakyDraft.withVersion (some "1") (some "#") none = .ok y ∧ y.withVersion none none none = .ok z ∧
      leakyDraft.withVersion (some "1") none none = .ok z) ∧
    ∃ first last y, linkWithVersion (some "hm://a/b/?v=1") (some "a&l#x") (some "#?") none = .ok (some first) ∧
      first = "hm://a/b?v=a&l#x##?" ∧
      linkWithVersion (some first) (some "2?") (some "BLOCKID1") (some (.span 2 5)) = .ok (some last) ∧
      unpack last = .ok (some y) ∧ y.uid = "a" ∧ y.path = some ["b"] ∧
      y.view = { version := some "2?", blockRef := some "BLOCKID1", blockRange := some (.span 2 5) } := by
  refine ⟨(last_pin_wins none none none).record leakyDraft (some "1") (some "#") none (by decide), ?_⟩
  obtain ⟨a, ha, htype, huid, hpath⟩ : ∃ a, unpack "hm://a/b/?v=1" = .ok (some a) ∧ a.entityType = .document ∧
      a.uid = "a" ∧ a.path = some ["b"] :=
    ⟨_, rfl, rfl, rfl, rfl⟩
  have hr : ¬ a.IsReserved := not_isReserved_of_ofKey? (huid ▸ by decide)
  obtain ⟨first, last, hfirst, hlast, -, hread⟩ :=
    (last_pin_wins (some "2?") (some "BLOCKID1") (some (.span 2 5))).link "hm://a/b/?v=1" a "2?" ha hr rfl (by decide)
      (some "a&l#x") (some "#?") none
  obtain ⟨y, hy, -, hyuid, hypath, hview⟩ :=
    hread (by decide) (Or.inr ⟨"BLOCKID1[2:5]", ⟨"BLOCKID1", some (.span 2 5)⟩, by decide, rfl, rfl⟩)
  have htext : linkWithVersion (some "hm://a/b/?v=1") (some "a&l#x") (some "#?") none =
      .ok (some "hm://a/b?v=a&l#x##?") := by
    decide +kernel
  have heq : first = "hm://a/b?v=a&l#x##?" := Option.some.inj (Except.ok.inj (hfirst.symm.trans htext))
  exact ⟨first, last, y, hfirst, heq, hlast, hy, hyuid.trans huid, hypath.trans hpath, hview⟩

end Identifier

end Hyperlink
