import Hyperlink.Identifier.Canonical
import Hyperlink.Proofs.Identifier.Forms
import Hyperlink.Proofs.Identifier.RoundTrip

/-!
# Hyperlink.Proofs.Identifier.Canonical — the compact form of a link decides what it names

* `bare`: the identifier without its path and its latest flag, which is what the compact form of a link keeps.
* `IsLinkable`: a plain identifier in normal form. Every identifier that is read is one, and so is its bare one.
* `bare_pack_inj`: the compact links of bare identifiers differ unless these name the same entity and view.
* `normalizeLink_eq_some_iff`: which texts have a compact form, and what it is.
* `normalizeLink_decides`: on a gateway, links with the same compact form are those that agree on type, uid, version
  and block.
-/

namespace Hyperlink

namespace Scheme

theorem textOf?_append {scheme : String} (h : ':' ∉ scheme.toList) (rest : String) :
    textOf? (scheme ++ "://" ++ rest) = some scheme := by
  unfold textOf?
  rw [Locator.cut_scheme h, Option.map_some, String.ofList_toList]

/-- What stands before the first `://` decides, if it holds no colon itself. -/
theorem isHypermediaLink_append {scheme : String} (h : ':' ∉ scheme.toList) (rest : String) :
    isHypermediaLink (scheme ++ "://" ++ rest) = decide (ofText scheme = .hypermedia) := by
  unfold isHypermediaLink
  rw [textOf?_append h]

theorem isHypermediaLink_web {scheme : String} (h : (ofText scheme).isWeb) (rest : String) :
    isHypermediaLink (scheme ++ "://" ++ rest) = false := by
  rw [isHypermediaLink_append (not_mem_of_isWeb h)]
  cases hs : ofText scheme <;> simp [hs, isWeb] at h ⊢

end Scheme

theorem isOnGateway_iff {text gateway : String} : isOnGateway text gateway ↔ ∃ rest, text = gateway ++ rest := by
  unfold isOnGateway
  rw [List.isPrefixOf_iff_prefix]
  constructor
  · rintro ⟨rest, hrest⟩
    exact ⟨String.ofList rest, String.toList_inj.mp (by simp [hrest])⟩
  · rintro ⟨rest, rfl⟩
    exact ⟨rest.toList, by simp⟩

theorem isOnGateway_webUrl (x : Identifier) (origin : String) : isOnGateway (x.webUrl (.origin origin)) origin := by
  rw [isOnGateway_iff, Identifier.webUrl_eq, WebHost.text]
  simp only [String.append_assoc]
  exact ⟨_, rfl⟩

/-- A text that begins with a URL of the web is no compact link. -/
theorem isHypermediaLink_of_isOnGateway {scheme rest text : String} (hs : (Scheme.ofText scheme).isWeb)
    (h : isOnGateway text (scheme ++ "://" ++ rest)) : Scheme.isHypermediaLink text = false := by
  obtain ⟨more, rfl⟩ := isOnGateway_iff.mp h
  rw [String.append_assoc]
  exact Scheme.isHypermediaLink_web hs _

/-- The text of an origin: a scheme of the web and what stands between `://` and the path. -/
def IsOrigin (text : String) : Prop :=
  ∃ scheme host, text = scheme ++ "://" ++ host ∧ (Scheme.ofText scheme).isWeb ∧ IsSegment host

theorem IsOrigin.isHypermediaLink {gateway text : String} (ho : IsOrigin gateway) (h : isOnGateway text gateway) :
    Scheme.isHypermediaLink text = false := by
  obtain ⟨scheme, host, rfl, hs, -⟩ := ho
  exact isHypermediaLink_of_isOnGateway hs h

namespace Identifier

/-! ## Identifiers that links carry -/

/-- The identifier without its path and its latest flag. -/
def bare (x : Identifier) : Identifier :=
  { x with id := baseLink x.entityType x.uid none, path := none, view := { x.view with latest := false } }

/-- A plain identifier in normal form. -/
structure IsLinkable (x : Identifier) : Prop where
  uid_ne : x.uid ≠ ""
  plain : x.IsPlain
  normal : x.SameLink x.normalized

theorem isLinkable_of_unpack {link : String} {x : Identifier} (h : unpack link = .ok (some x)) : x.IsLinkable :=
  ⟨unpack_uid_ne h, unpack_isPlain h, unpack_normal h⟩

theorem IsLinkable.bare {x : Identifier} (h : x.IsLinkable) : x.bare.IsLinkable := by
  refine ⟨h.uid_ne, ⟨h.plain.uid, fun s hs => absurd hs (by simp [Identifier.bare]), ?_⟩, ?_⟩
  · exact ⟨h.plain.view.version, h.plain.view.block⟩
  · refine ⟨rfl, rfl, rfl, rfl, ?_⟩
    have hview : x.view = normalizeView x.view := h.normal.view
    show { x.view with latest := false } = { normalizeView x.view with latest := false }
    rw [← hview]

/-- A linkable identifier is read back from its compact link, unless it is reserved. -/
theorem IsLinkable.unpack_pack {x : Identifier} (h : x.IsLinkable) (hr : ¬ x.IsReserved) :
    ∃ y, unpack x.pack = .ok (some y) ∧ y.SameLink x := by
  obtain ⟨y, hy, hsame⟩ := (unpack_pack_sameLink_iff h.uid_ne).mpr ⟨h.plain.congr h.normal, hr⟩
  exact ⟨y, hy, hsame.trans h.normal.symm⟩

/-- Without a path there is nothing that a reserved uid could be taken for the type of. -/
theorem IsLinkable.sameLink_of_unpack_pack {x y : Identifier} (h : x.IsLinkable) (hpath : x.path = none)
    (hy : unpack x.pack = .ok (some y)) : y.SameLink x := by
  by_cases hr : x.IsReserved
  · obtain ⟨ht, t, hkey⟩ := hr
    rw [unpack_pack_of_isPlain h.uid_ne (h.plain.congr h.normal), ofSegments?_reserved ht hkey, hpath] at hy
    simp at hy
  · obtain ⟨z, hz, hsame⟩ := h.unpack_pack hr
    rw [hz] at hy
    exact Option.some.inj (Except.ok.inj hy) ▸ hsame

/-- The URL on an origin is read like the compact link, with the host and the scheme of the origin. -/
theorem unpack_webUrl_of_unpack_pack {x y : Identifier} {scheme host : String} (hs : (Scheme.ofText scheme).isWeb)
    (hh : IsSegment host) (h : unpack x.pack = .ok (some y)) :
    unpack (x.webUrl (.origin (scheme ++ "://" ++ host))) =
      .ok (some { y with hostname := View.nonempty (some host), scheme := some scheme }) := by
  rw [Identifier.unpack_pack] at h
  split at h
  · simp at h
  · rw [ofLocator_compact] at h
    obtain ⟨a, ha, rfl⟩ := Option.map_eq_some_iff.mp (Except.ok.inj h)
    rw [unpack_webUrl x (Scheme.not_mem_of_isWeb hs) hh, ofLocator_web hs, ha]
    rfl

/-- The URL of an identifier on an origin is read like its compact link. -/
theorem exists_unpack_webUrl {x y : Identifier} {origin : String} (ho : IsOrigin origin)
    (h : unpack x.pack = .ok (some y)) :
    ∃ z, unpack (x.webUrl (.origin origin)) = .ok (some z) ∧ z.SameLink y := by
  obtain ⟨scheme, host, rfl, hs, hh⟩ := ho
  exact ⟨_, unpack_webUrl_of_unpack_pack hs hh h, rfl, rfl, rfl, rfl, rfl⟩

/-! ## Links of bare identifiers -/

theorem bare_sameLink_iff {x y : Identifier} :
    x.bare.SameLink y.bare ↔ x.entityType = y.entityType ∧ x.uid = y.uid ∧ x.view.version = y.view.version ∧
      x.view.blockRef = y.view.blockRef ∧ x.view.blockRange = y.view.blockRange := by
  constructor
  · intro h
    obtain ⟨hversion, -, hblock, hrange⟩ := View.mk.inj h.view
    exact ⟨h.entityType, h.uid, hversion, hblock, hrange⟩
  · rintro ⟨htype, huid, hversion, hblock, hrange⟩
    refine ⟨?_, htype, huid, rfl, ?_⟩
    · show baseLink x.entityType x.uid none = baseLink y.entityType y.uid none
      rw [htype, huid]
    · show View.mk _ _ _ _ = View.mk _ _ _ _
      rw [hversion, hblock, hrange]

/-- The compact link of a bare identifier tells its entity and view. -/
theorem bare_pack_inj {x y : Identifier} (hx : x.IsLinkable) (hy : y.IsLinkable) (hr : ¬ x.IsReserved) :
    x.bare.pack = y.bare.pack ↔ x.bare.SameLink y.bare := by
  refine ⟨fun h => ?_, SameLink.pack_eq⟩
  obtain ⟨z, hz, hzx⟩ := hx.bare.unpack_pack (x := x.bare) hr
  rw [h] at hz
  exact hzx.symm.trans (hy.bare.sameLink_of_unpack_pack rfl hz)

end Identifier

/-! ## The compact form of a text -/

open Identifier

theorem normalizeLink_hypermedia {text : String} (h : Scheme.isHypermediaLink text) (gateway : String) :
    normalizeLink text gateway = .ok (some text) := by
  unfold normalizeLink
  rw [if_pos h]

/-- The compact link of an identifier is its own compact form, whatever the gateway. -/
theorem normalizeLink_pack (x : Identifier) (gateway : String) : normalizeLink x.pack gateway = .ok (some x.pack) := by
  refine normalizeLink_hypermedia ?_ gateway
  rw [pack_eq, Scheme.isHypermediaLink_append (by decide)]
  decide

/-- A text that is no compact link has a compact form iff it begins with the gateway and is a link. What the form keeps
is the bare identifier of the link. -/
theorem normalizeLink_eq_some_iff {text gateway c : String} (h : Scheme.isHypermediaLink text = false) :
    normalizeLink text gateway = .ok (some c) ↔
      isOnGateway text gateway ∧ ∃ x, unpack text = .ok (some x) ∧ x.bare.pack = c := by
  unfold normalizeLink
  rw [if_neg (by simp [h])]
  by_cases hg : isOnGateway text gateway
  · rw [if_neg (not_not.mpr hg)]
    cases hx : unpack text with
    | error e => simp [bind, Except.bind]
    | ok r =>
      cases r with
      | none => simp [bind, Except.bind, pure, Except.pure]
      | some x =>
        have huid : x.uid ≠ "" := unpack_uid_ne hx
        have hpack : (ofParts x.entityType x.uid { view := { x.view with latest := false } }).pack = x.bare.pack := by
          unfold pack ofParts
          rw [View.suffix_normalizeView]
          rfl
        simp [bind, Except.bind, pure, Except.pure, build_eq huid, hpack, hg]
  · rw [if_pos hg]
    simp [hg]

/-! ## Links on a gateway -/

namespace Identifier

/-- An identifier that was built from its parts, none of which leaks into its neighbour in a link: it holds no separator,
its block is one that the fragment of a link can say, and it is not reserved. -/
structure IsWellFormed (x : Identifier) : Prop where
  built : ∃ t uid o, build t uid o = .ok x
  uid : IsSegment x.uid
  path : ∀ s ∈ x.path.getD [], IsSegment s
  version : ∀ w, x.view.version = some w → '&' ∉ w.toList ∧ '#' ∉ w.toList
  block : ∀ b, x.view.blockRef = some b → ∃ text, BlockRef.parse? text = some ⟨b, x.view.blockRange⟩
  unreserved : ¬ x.IsReserved

theorem uid_ne_of_build {t : EntityType} {uid : String} {o : Options} {x : Identifier} (h : build t uid o = .ok x) :
    uid ≠ "" := by
  rintro rfl
  simp [build] at h

theorem IsWellFormed.isLinkable {x : Identifier} (h : x.IsWellFormed) : x.IsLinkable := by
  obtain ⟨t, uid, o, hbuild⟩ := h.built
  have hne := uid_ne_of_build hbuild
  rw [build_eq hne] at hbuild
  obtain rfl := Except.ok.inj hbuild
  refine ⟨hne, ⟨h.uid, h.path, h.version, fun b hb => ?_⟩, ?_⟩
  · obtain ⟨text, htext⟩ := h.block b hb
    exact BlockRef.parse?_render (BlockRef.isStable_of_parse? htext)
  · have hpath : normalizePath (normalizePath o.path) = normalizePath o.path := normalizePath_normalizePath _
    refine ⟨?_, rfl, rfl, hpath.symm, (View.normalizeView_normalizeView o.view).symm⟩
    show baseLink t uid (normalizePath o.path) = baseLink t uid (normalizePath (normalizePath o.path))
    rw [hpath]

/-- The URL of an identifier on an origin has the bare compact link as its compact form, on every gateway whose text
begins the URL. -/
theorem IsWellFormed.normalizeLink_webUrl {x : Identifier} (h : x.IsWellFormed) {origin gateway : String}
    (ho : IsOrigin origin) (hg : isOnGateway (x.webUrl (.origin origin)) gateway) :
    normalizeLink (x.webUrl (.origin origin)) gateway = .ok (some x.bare.pack) := by
  obtain ⟨y, hy, hyx⟩ := h.isLinkable.unpack_pack h.unreserved
  obtain ⟨z, hz, hzy⟩ := exists_unpack_webUrl ho hy
  have hsame := hzy.trans hyx
  have hbare : z.bare.SameLink x.bare := by
    rw [bare_sameLink_iff, hsame.view]
    exact ⟨hsame.entityType, hsame.uid, rfl, rfl, rfl⟩
  have hweb := ho.isHypermediaLink (isOnGateway_webUrl x origin)
  exact (normalizeLink_eq_some_iff hweb).mpr ⟨hg, z, hz, hbare.pack_eq⟩

end Identifier

/-- What the compact forms of links tell on a gateway. -/
structure DecidesLinks (gateway : String) : Prop where
  /-- A link of the web has the bare compact link as its compact form. -/
  web : ∀ x : Identifier, x.IsWellFormed →
    normalizeLink (x.webUrl (.origin gateway)) gateway = .ok (some x.bare.pack)
  /-- A compact form is its own, also on any other gateway. -/
  fixed : ∀ x : Identifier, x.IsWellFormed → ∀ other, normalizeLink x.bare.pack other = .ok (some x.bare.pack)
  /-- A compact link has the same compact form as the link of the web only if it is bare itself. -/
  compact : ∀ x : Identifier, x.IsWellFormed →
    (normalizeLink x.pack gateway = .ok (some x.bare.pack) ↔ x.path = none ∧ x.view.latest = false)
  /-- Two links on the gateway have the same compact form iff they name the same entity, version and block. -/
  same : ∀ s₁ s₂ x₁ x₂, isOnGateway s₁ gateway → isOnGateway s₂ gateway → unpack s₁ = .ok (some x₁) →
    unpack s₂ = .ok (some x₂) → ¬ x₁.IsReserved → ¬ x₂.IsReserved →
    (normalizeLink s₁ gateway = normalizeLink s₂ gateway ↔
      x₁.entityType = x₂.entityType ∧ x₁.uid = x₂.uid ∧ x₁.view.version = x₂.view.version ∧
        x₁.view.blockRef = x₂.view.blockRef ∧ x₁.view.blockRange = x₂.view.blockRange)

/-- A compact link is bare iff it is written without path and latest flag. -/
theorem pack_eq_bare_pack_iff {x : Identifier} (h : x.IsLinkable) (hr : ¬ x.IsReserved) :
    x.pack = x.bare.pack ↔ x.path = none ∧ x.view.latest = false := by
  constructor
  · intro heq
    obtain ⟨y, hy, hyx⟩ := h.unpack_pack hr
    rw [heq] at hy
    have hsame := hyx.symm.trans (h.bare.sameLink_of_unpack_pack rfl hy)
    exact ⟨hsame.path, congrArg View.latest hsame.view⟩
  · rintro ⟨hpath, hlatest⟩
    unfold pack bare
    rw [hpath]
    show _ ++ x.view.suffix = _ ++ View.suffix { x.view with latest := false }
    rw [← hlatest]

/-- **The compact form of a link decides what it names.**  On a gateway that is an origin it is one text for all links
that agree on type, uid, version and block, and only for these. -/
theorem normalizeLink_decides {gateway : String} (ho : IsOrigin gateway) : DecidesLinks gateway where
  web x h := h.normalizeLink_webUrl ho (isOnGateway_webUrl x gateway)
  fixed x _ other := normalizeLink_pack x.bare other
  compact x h := by
    rw [normalizeLink_pack, Except.ok.injEq, Option.some.injEq]
    exact pack_eq_bare_pack_iff h.isLinkable h.unreserved
  same s₁ s₂ x₁ x₂ h₁ h₂ hx₁ hx₂ hr₁ hr₂ := by
    have hform : ∀ {s x}, isOnGateway s gateway → unpack s = .ok (some x) →
        normalizeLink s gateway = .ok (some x.bare.pack) := fun hs hx =>
      (normalizeLink_eq_some_iff (ho.isHypermediaLink hs)).mpr ⟨hs, _, hx, rfl⟩
    rw [hform h₁ hx₁, hform h₂ hx₂, Except.ok.injEq, Option.some.injEq,
      bare_pack_inj (isLinkable_of_unpack hx₁) (isLinkable_of_unpack hx₂) hr₁, bare_sameLink_iff]

/-- A comment with a path, at a part of a block of its latest version. -/
def quotedComment : Identifier where
  id := "hm://comment/xyz/sub"
  entityType := .comment
  uid := "xyz"
  path := some ["sub"]
  view := { version := some "v9", latest := true, blockRef := some "BLOCKID1", blockRange := some (.span 3 8) }
  hostname := none
  scheme := none

theorem normalizeLink_decides_public :
    IsOrigin publicGateway ∧ DecidesLinks publicGateway ∧ quotedComment.IsWellFormed ∧
      normalizeLink "https://hyper.media/hm/comment/xyz/sub?v=v9&l#BLOCKID1[3:8]" publicGateway =
        .ok (some "hm://comment/xyz?v=v9#BLOCKID1[3:8]") := by
  have ho : IsOrigin publicGateway := ⟨"https", "hyper.media", by decide, by decide, by decide⟩
  have hwell : quotedComment.IsWellFormed :=
    { built := ⟨.comment, "xyz", { path := quotedComment.path, view := quotedComment.view }, by decide⟩
      uid := by decide
      path := by decide
      version := by rintro _ ⟨⟩; decide
      block := by rintro _ ⟨⟩; exact ⟨"BLOCKID1[3:8]", by decide⟩
      unreserved := fun h => absurd h.1 (by decide) }
  exact ⟨ho, normalizeLink_decides ho, hwell, (normalizeLink_decides ho).web quotedComment hwell⟩

end Hyperlink
