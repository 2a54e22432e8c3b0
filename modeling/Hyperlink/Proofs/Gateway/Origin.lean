import Hyperlink.Gateway
import Hyperlink.Proofs.Identifier.Canonical
import Hyperlink.Proofs.Url.Authority

/-!
# Hyperlink.Proofs.Gateway.Origin — which gateways recognize their own links

* `GatewayParts`: the text of a gateway cut behind its authority; every gateway that is accepted has such parts.
* `isOrigin_iff`: a gateway is an origin iff nothing stands behind its authority.
* `uid_length_le`: on any other gateway the uid that is read from a link stands in the gateway.
* `gateway_serves_iff`: so the gateways that recognize all links written for them are those that are origins;
  `gateway_with_path_fails`: there are others.
-/

namespace Hyperlink

open Identifier
open Locator (ofRest)

/-! ## The text of a gateway -/

/-- Slashes are dropped from the tail only, if the front ends in another character. -/
theorem dropTrailingSlashes_append {front : List Char} (hne : front ≠ []) (h : front.getLast hne ≠ '/')
    (tail : List Char) : dropTrailingSlashes (front ++ tail) = front ++ dropTrailingSlashes tail := by
  show (front ++ tail).rdropWhile (· = '/') = front ++ tail.rdropWhile (· = '/')
  induction tail using List.reverseRecOn with
  | nil =>
    rw [List.append_nil, List.rdropWhile_nil, List.append_nil, List.rdropWhile_eq_self_iff]
    intro hl
    simpa using h
  | append_singleton tail c ih =>
    rw [← List.append_assoc, List.rdropWhile_concat, List.rdropWhile_concat]
    split
    · exact ih
    · rw [List.append_assoc]

theorem head?_dropTrailingSlashes {cs : List Char} {c : Char} (h : (dropTrailingSlashes cs).head? = some c) :
    cs.head? = some c := by
  obtain ⟨dropped, hcs⟩ : dropTrailingSlashes cs <+: cs := List.rdropWhile_prefix _ cs
  rw [← hcs, List.head?_append, h, Option.some_or]

/-- The text of a gateway, cut behind its authority. What follows it, if anything does, ends the authority. -/
structure GatewayParts (gateway scheme host tail : String) : Prop where
  text : gateway = scheme ++ "://" ++ (host ++ tail)
  web : (Scheme.ofText scheme).isWeb
  host_ne : host ≠ ""
  host : IsSegment host
  tail : ∀ c, tail.toList.head? = some c → Url.endsAuthority false c

theorem isWeb_of_mem_webSchemes {scheme : List Char} (h : scheme ∈ webSchemes) :
    (Scheme.ofText (String.ofList scheme)).isWeb := by
  unfold webSchemes at h
  rcases List.mem_cons.mp h with rfl | h
  · decide
  · obtain rfl := List.mem_singleton.mp h
    decide

/-- A gateway that is accepted has a scheme of the web and an authority. -/
theorem gatewayParts_of_normalizeGateway {raw gateway : String} (h : normalizeGateway raw = .ok gateway) :
    ∃ scheme host tail, GatewayParts gateway scheme host tail := by
  unfold normalizeGateway at h
  split at h
  · simp at h
  · next u hu =>
    obtain ⟨hne, hhost⟩ := Url.parse_authority hu
    have hauthority := Url.unbroken_iff.mp hhost
    split at h
    · next hscheme =>
      have hlast : (u.scheme ++ [':', '/', '/'] ++ u.authority).getLast (by simp) ≠ '/' := by
        rw [List.getLast_append_of_ne_nil _ hne]
        intro hslash
        exact hauthority.1 (hslash ▸ List.getLast_mem hne)
      have hrender : u.render = u.scheme ++ [':', '/', '/'] ++ u.authority ++ u.tail := by
        simp only [Url.render_eq, List.append_assoc]
      rw [hrender, dropTrailingSlashes_append _ hlast] at h
      refine ⟨String.ofList u.scheme, String.ofList u.authority, String.ofList (dropTrailingSlashes u.tail), ?_,
        isWeb_of_mem_webSchemes hscheme, by simpa using hne, ?_, fun c hc => ?_⟩
      · rw [← Except.ok.inj h]
        apply String.toList_inj.mp
        simp
      · simpa only [IsSegment, String.toList_ofList] using hauthority
      · rw [String.toList_ofList] at hc
        exact u.tail_head? (head?_dropTrailingSlashes hc)
    · simp at h
  · simp at h

/-! ## Where the uid of a link stands -/

/-- Behind a front that ends the path there is no uid any more. -/
theorem uid_length_le_of_end {scheme front text : List Char} (h : '?' ∈ front ∨ '#' ∈ front) {a : Address}
    (ha : Address.ofLocator? (ofRest scheme (front ++ text)) = some a) : a.uid.length ≤ front.length := by
  obtain ⟨-, huid, -⟩ := Address.ofLocator?_eq_some ha
  have hle := Locator.length_le_of_mem_path huid
  rw [Locator.pathChars_append_of_mem h, Locator.pathChars_eq_takeWhile] at hle
  exact hle.trans (List.takeWhile_prefix _).length_le

/-- In a link whose path goes on in front of the marker, the uid stands there too, unless it is the marker itself. -/
theorem uid_length_le_of_path {scheme host : String} (hs : (Scheme.ofText scheme).isWeb) (hh : IsSegment host)
    {path text : List Char} (hq : '?' ∉ host.toList ++ '/' :: path) (hf : '#' ∉ host.toList ++ '/' :: path)
    {a : Address}
    (ha : Address.ofLocator? (ofRest scheme.toList
      (host.toList ++ '/' :: path ++ '/' :: (webMarker.toList ++ '/' :: text))) = some a) :
    a.uid.length ≤ path.length + 2 := by
  have hpath := Locator.ofRest_path_append hq hf scheme.toList (webMarker.toList ++ '/' :: text)
  obtain ⟨marker, front, hsplit⟩ := List.exists_cons_of_ne_nil (List.splitOn_ne_nil '/' path)
  rw [Locator.ofRest_segment_append (by decide : IsSegment webMarker),
    List.splitOn_append_cons_self_of_not_mem hh.1, hsplit] at hpath
  rcases Address.ofLocator?_web_uid_mem (by rw [Locator.ofRest_scheme]; exact hs) ha hpath with huid | huid
  · obtain ⟨segment, hsegment, huid⟩ := List.mem_map.mp huid
    have hle := Text.length_le_of_mem_splitOn (hsplit ▸ List.mem_cons_of_mem marker hsegment)
    rw [← huid, String.length_ofList]
    omega
  · rw [huid]
    exact Nat.le_add_left 2 path.length

section Parts

variable {gateway scheme host tail : String}

theorem GatewayParts.exists_tail (h : GatewayParts gateway scheme host tail) (hne : tail ≠ "") :
    ∃ c cs, tail.toList = c :: cs ∧ (c = '/' ∨ c = '?' ∨ c = '#') := by
  obtain ⟨c, cs, htail⟩ := List.exists_cons_of_ne_nil (mt String.toList_eq_nil_iff.mp hne)
  exact ⟨c, cs, htail, Url.endsAuthority_iff.mp (h.tail c (by rw [htail, List.head?_cons]))⟩

/-- A gateway is an origin iff nothing stands behind its authority. -/
theorem GatewayParts.isOrigin_iff (h : GatewayParts gateway scheme host tail) : IsOrigin gateway ↔ tail = "" := by
  constructor
  · rintro ⟨scheme', host', htext, hs', hh'⟩
    have hcut := Locator.cut_scheme (Scheme.not_mem_of_isWeb hs') host'
    rw [htext.symm.trans h.text, Locator.cut_scheme (Scheme.not_mem_of_isWeb h.web), String.toList_append] at hcut
    have hhost : host.toList ++ tail.toList = host'.toList := congrArg Prod.snd (Option.some.inj hcut)
    by_contra hne
    obtain ⟨c, cs, htail, hc⟩ := h.exists_tail hne
    have hmem : c ∈ host'.toList := by simp [← hhost, htail]
    rcases hc with rfl | rfl | rfl
    · exact hh'.1 hmem
    · exact hh'.2.1 hmem
    · exact hh'.2.2 hmem
  · rintro rfl
    exact ⟨scheme, host, by simpa using h.text, h.web, h.host⟩

theorem GatewayParts.isHypermediaLink (h : GatewayParts gateway scheme host tail) {text : String}
    (hon : isOnGateway text gateway) : Scheme.isHypermediaLink text = false :=
  isHypermediaLink_of_isOnGateway h.web (h.text ▸ hon)

theorem GatewayParts.length_eq (h : GatewayParts gateway scheme host tail) :
    gateway.length = scheme.length + 3 + (host.toList ++ tail.toList).length := by
  rw [h.text, String.length_append, String.length_append, String.length_append, List.length_append,
    String.length_toList, String.length_toList]
  rfl

/-- On a gateway that is no origin the uid of a link stands in the gateway, or is the marker. -/
theorem GatewayParts.uid_length_le (h : GatewayParts gateway scheme host tail) (hne : tail ≠ "") {x y : Identifier}
    (hy : unpack (x.webUrl (.origin gateway)) = .ok (some y)) : y.uid.length ≤ gateway.length + 2 := by
  have hread := unpack_webUrl_append x (Scheme.not_mem_of_isWeb h.web) (host ++ tail)
  rw [← h.text, hy, ofLocator_eq, String.toList_append] at hread
  obtain ⟨a, ha, rfl⟩ := Option.map_eq_some_iff.mp (Except.ok.inj hread).symm
  show a.uid.length ≤ gateway.length + 2
  have hlength := h.length_eq
  by_cases hends : '?' ∈ host.toList ++ tail.toList ∨ '#' ∈ host.toList ++ tail.toList
  · have hle := uid_length_le_of_end hends ha
    omega
  · rw [not_or] at hends
    obtain ⟨c, path, htail, hc⟩ := h.exists_tail hne
    have hslash : c = '/' := by
      have hmem : c ∈ host.toList ++ tail.toList := by simp [htail]
      rcases hc with rfl | rfl | rfl
      · rfl
      · exact absurd hmem hends.1
      · exact absurd hmem hends.2
    rw [htail, hslash] at ha hends hlength
    have hle := uid_length_le_of_path h.web h.host hends.1 hends.2 ha
    rw [List.length_append, List.length_cons] at hlength
    omega

end Parts

/-! ## Links that are written for a gateway -/

/-- A document whose uid has `n` characters. -/
def longDocument (n : Nat) : Identifier := ofParts .document (String.ofList (List.replicate n 'x')) {}

theorem length_longDocument_uid (n : Nat) : (longDocument n).uid.length = n := by
  show (String.ofList (List.replicate n 'x')).length = n
  rw [String.length_ofList, List.length_replicate]

theorem longDocument_isWellFormed {n : Nat} (h : 8 ≤ n) : (longDocument n).IsWellFormed := by
  have hlength := length_longDocument_uid n
  have hchar : ∀ c ∈ (longDocument n).uid.toList, c = 'x' := by
    intro c hc
    rw [show (longDocument n).uid = String.ofList (List.replicate n 'x') from rfl, String.toList_ofList] at hc
    exact List.eq_of_mem_replicate hc
  have hne : (longDocument n).uid ≠ "" := by
    intro hempty
    have hzero : 0 = n := by rwa [hempty] at hlength
    omega
  refine ⟨⟨.document, _, {}, build_eq hne .document {}⟩, ?_, ?_, ?_, ?_, ?_⟩
  · refine ⟨fun hc => ?_, fun hc => ?_, fun hc => ?_⟩ <;> exact absurd (hchar _ hc) (by decide)
  · intro s hs
    exact absurd hs (by simp [longDocument, ofParts, normalizePath])
  · intro w hw
    cases hw
  · intro b hb
    cases hb
  · -- no key of a type is that long
    rintro ⟨-, t, hkey⟩
    rw [hkey] at hlength
    have hshort : t.key.length ≤ 7 := by cases t <;> decide
    omega

/-- **A gateway recognizes all links that are written for it** iff it is an origin. -/
theorem gateway_serves_iff {raw gateway : String} (h : normalizeGateway raw = .ok gateway) :
    (∀ x : Identifier, x.IsWellFormed →
      normalizeLink (x.webUrl (.origin gateway)) gateway = .ok (some x.bare.pack)) ↔ IsOrigin gateway := by
  obtain ⟨scheme, host, tail, hparts⟩ := gatewayParts_of_normalizeGateway h
  constructor
  · intro hserves
    by_contra horigin
    have htail : tail ≠ "" := mt hparts.isOrigin_iff.mpr horigin
    -- the uid of this document does not fit into the gateway
    obtain ⟨x, hx, hlong⟩ : ∃ x : Identifier, x.IsWellFormed ∧ gateway.length + 2 < x.uid.length := by
      refine ⟨longDocument (gateway.length + 8), longDocument_isWellFormed (by omega), ?_⟩
      rw [length_longDocument_uid]
      omega
    have hweb := hparts.isHypermediaLink (isOnGateway_webUrl x gateway)
    obtain ⟨-, y, hy, hpack⟩ := (normalizeLink_eq_some_iff hweb).mp (hserves x hx)
    have hsame := (bare_pack_inj hx.isLinkable (isLinkable_of_unpack hy) hx.unreserved).mp hpack.symm
    have huid : x.uid = y.uid := hsame.uid
    have hle := hparts.uid_length_le htail hy
    rw [← huid] at hle
    omega
  · intro horigin x hx
    exact hx.normalizeLink_webUrl horigin (isOnGateway_webUrl x gateway)

theorem gateway_serves_iff_port :
    normalizeGateway " HTTP://User@Hyper.Media:8080//" = .ok "http://User@hyper.media:8080" ∧
      IsOrigin "http://User@hyper.media:8080" ∧
      ((∀ x : Identifier, x.IsWellFormed →
        normalizeLink (x.webUrl (.origin "http://User@hyper.media:8080")) "http://User@hyper.media:8080" =
          .ok (some x.bare.pack)) ↔ IsOrigin "http://User@hyper.media:8080") :=
  have h : normalizeGateway " HTTP://User@Hyper.Media:8080//" = .ok "http://User@hyper.media:8080" := rfl
  ⟨h, ⟨"http", "User@hyper.media:8080", by decide, by decide, by decide⟩, gateway_serves_iff h⟩

/-- A gateway with a path is accepted, but its links are not read. -/
theorem gateway_with_path_fails :
    normalizeGateway "https://example.com/base" = .ok "https://example.com/base" ∧ (longDocument 8).IsWellFormed ∧
      (longDocument 8).webUrl (.origin "https://example.com/base") = "https://example.com/base/hm/xxxxxxxx" ∧
      normalizeLink "https://example.com/base/hm/xxxxxxxx" "https://example.com/base" = .ok none :=
  ⟨rfl, longDocument_isWellFormed (by decide), by decide, by decide +kernel⟩

end Hyperlink
