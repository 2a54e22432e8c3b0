import Hyperlink.Proofs.Identifier.Canonical

/-!
# Hyperlink.Proofs.Identifier.Entity — view parameters never change the entity of a link

Nothing in a view is escaped, so its texts can hold every separator of a link. They still cannot reach the entity: a
link is cut at `://` first, its path ends at the first `?` or `#`, and a view begins with one of these.

* `parse?_append_suffix`: a link with a view behind it is cut behind the same scheme, and has the same path.
* `unpack_pack_entity`: what stands in front of the view of a compact link is enough to read its entity back.
* `view_keeps_entity`: so a view keeps the entity when a link is built, when it is appended to a link, and when a link is
  pinned to it.
-/

namespace Hyperlink

open Locator (ofRest pathChars)

namespace Locator

/-- No view parameter is added to a path, whatever stands in front of it. -/
theorem pathChars_append_suffix (rest : List Char) (v : View) :
    pathChars (rest ++ v.suffix.toList) = pathChars rest := by
  by_cases hend : '?' ∈ rest ∨ '#' ∈ rest
  · exact pathChars_append_of_mem hend _
  · rw [not_or] at hend
    have hrest : pathChars rest = rest := by
      have happ := pathChars_append hend.1 hend.2 []
      rw [List.append_nil] at happ
      rw [happ]
      exact List.append_nil rest
    rw [pathChars_append hend.1 hend.2, View.pathChars_suffix, List.append_nil, hrest]

theorem parse?_append_suffix {link : String} {l : Locator} (h : parse? link = some l) (v : View) :
    ∃ m, parse? (link ++ v.suffix) = some m ∧ m.scheme = l.scheme ∧ m.path = l.path := by
  obtain ⟨scheme, rest, hcut, hne, rfl⟩ := parse?_eq_some h
  have hcut' := Text.cut_append_right hcut v.suffix.toList
  rw [← String.toList_append] at hcut'
  refine ⟨ofRest scheme (rest ++ v.suffix.toList), ?_, rfl, ?_⟩
  · have hne' : rest ++ v.suffix.toList ≠ [] := fun hnil => hne (List.append_eq_nil_iff.mp hnil).1
    unfold parse?
    rw [hcut']
    simp only
    rw [if_neg hne']
  · rw [ofRest_path, ofRest_path, pathChars_append_suffix]

end Locator

namespace Address

/-- Which entity a link names is decided by its scheme and its path. -/
theorem ofLocator?_congr {l m : Locator} (hs : l.scheme = m.scheme) (hp : l.path = m.path) :
    ofLocator? l = ofLocator? m := by
  unfold ofLocator?
  rw [hs, hp]

end Address

namespace Identifier

/-- Two identifiers name the same entity. -/
structure SameEntity (x y : Identifier) : Prop where
  id : x.id = y.id
  entityType : x.entityType = y.entityType
  uid : x.uid = y.uid
  path : x.path = y.path

theorem SameEntity.trans {x y z : Identifier} (h : x.SameEntity y) (h' : y.SameEntity z) : x.SameEntity z :=
  ⟨h.id.trans h'.id, h.entityType.trans h'.entityType, h.uid.trans h'.uid, h.path.trans h'.path⟩

theorem SameLink.sameEntity {x y : Identifier} (h : x.SameLink y) : x.SameEntity y :=
  ⟨h.id, h.entityType, h.uid, h.path⟩

theorem isSegment_segments {x : Identifier} (huid : IsSegment x.uid) (hpath : ∀ s ∈ x.path.getD [], IsSegment s) :
    ∀ s ∈ x.segments, IsSegment s := by
  intro s hs
  unfold segments at hs
  rcases List.mem_append.mp hs with hs | hs
  · split at hs
    · exact List.mem_singleton.mp hs ▸ huid
    · rcases List.mem_cons.mp hs with rfl | hs
      · exact isSegment_key x.entityType
      · exact List.mem_singleton.mp hs ▸ huid
  · exact hpath s hs

/-- **The entity of a compact link is read back**, whatever the view behind it holds. -/
theorem unpack_pack_entity {x : Identifier} (hne : x.uid ≠ "") (hr : ¬ x.IsReserved) (huid : IsSegment x.uid)
    (hpath : ∀ s ∈ x.path.getD [], IsSegment s) :
    ∃ y, unpack x.pack = .ok (some y) ∧ y.SameEntity x.normalized := by
  have hrest := Locator.ofRest_intercalate_append (isSegment_segments huid hpath) x.segments_ne_nil
    (View.pathChars_suffix x.view) Scheme.hypermediaText.toList
  rw [← String.toList_append, ← linkText] at hrest
  rw [unpack_pack, if_neg (linkText_ne_empty hne), ofLocator_compact, hrest, ofSegments?_segments hne hr]
  refine ⟨_, rfl, ?_, rfl, rfl, normalizePath_some_getD x.path⟩
  show baseLink x.entityType x.uid (normalizePath (some (x.path.getD []))) =
    baseLink x.entityType x.uid (normalizePath x.path)
  rw [normalizePath_some_getD]

/-- An identifier whose path is in normal form names the entity of its own normal form. -/
theorem sameEntity_normalized {t : EntityType} {uid : String} {o : Options} :
    (ofParts t uid o).normalized.SameEntity (ofParts t uid o) := by
  have hpath : normalizePath (normalizePath o.path) = normalizePath o.path := normalizePath_normalizePath _
  refine ⟨?_, rfl, rfl, hpath⟩
  show baseLink t uid (normalizePath (normalizePath o.path)) = baseLink t uid (normalizePath o.path)
  rw [hpath]

/-- A view behind a link that is read changes nothing in front of it. -/
theorem unpack_append_suffix {link : String} {a : Identifier} (h : unpack link = .ok (some a)) (v : View) :
    ∃ y, unpack (link ++ v.suffix) = .ok (some y) ∧ y.SameEntity a ∧ y.hostname = a.hostname ∧ y.scheme = a.scheme := by
  obtain ⟨scheme, rest, d, hparse, hd, rfl⟩ := unpack_eq_some h
  obtain ⟨m, hm, hscheme, hpath⟩ := Locator.parse?_append_suffix hparse v
  rw [unpack_of_parse? hm, ofLocator_eq, Address.ofLocator?_congr hscheme hpath, hd]
  exact ⟨_, rfl, ⟨rfl, rfl, rfl, rfl⟩, rfl, congrArg some hscheme⟩

end Identifier

open Identifier

/-- What the parameters of a view leave as it is. -/
structure KeepsEntity (v : View) : Prop where
  /-- The links of an identifier that is built with the view are read as its entity, in both forms. -/
  built : ∀ t uid path hostname, uid ≠ "" → IsSegment uid → (∀ s ∈ path.getD [], IsSegment s) →
    ¬ (t = .document ∧ ∃ k : EntityType, uid = k.key) →
    ∃ x, build t uid { path, view := v, hostname } = .ok x ∧ x.entityType = t ∧ x.uid = uid ∧
      x.path = normalizePath path ∧
      (∃ y, unpack x.pack = .ok (some y) ∧ y.SameEntity x) ∧
      ∀ origin, IsOrigin origin → ∃ y, unpack (x.webUrl (.origin origin)) = .ok (some y) ∧ y.SameEntity x
  /-- A link that is read names the same entity on the same host when the view is appended to it. -/
  appended : ∀ link a, unpack link = .ok (some a) →
    ∃ y, unpack (appendView link v) = .ok (some y) ∧ y.SameEntity a ∧ y.hostname = a.hostname ∧ y.scheme = a.scheme
  /-- A link that is read and not reserved names the same entity when it is pinned to the version and the block. -/
  pinned : ∀ link a, unpack link = .ok (some a) → ¬ a.IsReserved →
    ∃ l y, linkWithVersion (some link) v.version v.blockRef v.blockRange = .ok (some l) ∧
      unpack l = .ok (some y) ∧ y.SameEntity a

theorem linkWithVersion_eq {link : String} {a : Identifier} (h : unpack link = .ok (some a))
    (version blockRef : Option String) (range : Option BlockRange) :
    linkWithVersion (some link) version blockRef range =
      .ok (some (ofParts a.entityType a.uid
        { path := a.path
          view := { version := (View.nonempty version).or a.view.version, blockRef := blockRef,
                    blockRange := range } }).pack) := by
  have hlink : View.nonempty (some link) = some link := by
    refine View.nonempty_eq_some.mpr ⟨rfl, ?_⟩
    rintro rfl
    cases h
  unfold linkWithVersion withVersion
  simp only [hlink, h, bind, Except.bind, build_eq (unpack_uid_ne h), pure, Except.pure]

/-- **View parameters never change the entity that a link names**, whatever characters they hold. -/
theorem view_keeps_entity (v : View) : KeepsEntity v where
  built t uid path hostname hne huid hpath hr := by
    refine ⟨_, build_eq hne t _, rfl, rfl, rfl, ?_⟩
    obtain ⟨y, hy, hsame⟩ := unpack_pack_entity (x := ofParts t uid { path, view := v, hostname }) hne hr huid
      fun s hs => hpath s (mem_of_mem_normalizePath hs)
    refine ⟨⟨y, hy, hsame.trans sameEntity_normalized⟩, fun origin ho => ?_⟩
    obtain ⟨z, hz, hzy⟩ := exists_unpack_webUrl ho hy
    exact ⟨z, hz, hzy.sameEntity.trans (hsame.trans sameEntity_normalized)⟩
  appended link a h := unpack_append_suffix h _
  pinned link a h hr := by
    have hplain := unpack_isPlain h
    have hne : a.uid ≠ "" := unpack_uid_ne h
    obtain ⟨y, hy, hsame⟩ := unpack_pack_entity (x := ofParts a.entityType a.uid
        { path := a.path
          view := { version := (View.nonempty v.version).or a.view.version, blockRef := v.blockRef,
                    blockRange := v.blockRange } })
      hne hr hplain.uid fun s hs => hplain.path s (mem_of_mem_normalizePath hs)
    refine ⟨_, y, linkWithVersion_eq h _ _ _, hy, (hsame.trans sameEntity_normalized).trans ?_⟩
    have hnormal := (unpack_normal h).sameEntity
    exact ⟨hnormal.id.symm, rfl, rfl, hnormal.path.symm⟩

/-- A view whose texts hold all separators of a link. -/
def hostileView : View where
  version := some "1#x?v=2&l/d/hm://"
  latest := true
  blockRef := some "##a/b?c://d"
  blockRange := some (.span 1 2)

theorem view_keeps_entity_hostile :
    (∃ x, build .comment "d" { path := some ["", "a"], view := hostileView } = .ok x ∧
      ∃ y, unpack x.pack = .ok (some y) ∧ y.SameEntity x) ∧
    (∃ y, unpack (appendView "hTTp://h/hm/a/b?v=1#x" hostileView) = .ok (some y) ∧ y.uid = "a" ∧
      y.path = some ["b"] ∧ y.hostname = some "h" ∧ y.scheme = some "hTTp") := by
  refine ⟨?_, ?_⟩
  · obtain ⟨x, hx, -, -, -, hpack, -⟩ := (view_keeps_entity hostileView).built .comment "d" (some ["", "a"]) none
      (by decide) (by decide) (by decide) fun hr => absurd hr.1 (by decide)
    exact ⟨x, hx, hpack⟩
  · obtain ⟨a, ha, huid, hpath, hhost, hscheme⟩ : ∃ a, unpack "hTTp://h/hm/a/b?v=1#x" = .ok (some a) ∧ a.uid = "a" ∧
        a.path = some ["b"] ∧ a.hostname = some "h" ∧ a.scheme = some "hTTp" :=
      ⟨_, rfl, rfl, rfl, rfl, rfl⟩
    obtain ⟨y, hy, hsame, hyhost, hyscheme⟩ := (view_keeps_entity hostileView).appended _ a ha
    exact ⟨y, hy, hsame.uid.trans huid, hsame.path.trans hpath, hyhost.trans hhost, hyscheme.trans hscheme⟩

end Hyperlink
