import Hyperlink.Proofs.Gateway.Origin

/-!
# Hyperlink.Proofs.Gateway.Authority — how much of a gateway a recognized link shares

* `authority?`: the text of a link between `://` and the path.
* `slash_of_unpack`: in a link of the web that is read a slash stands behind the authority.
* `normalizeLink_authority`: the authority of a link that is recognized begins with that of the gateway. It is the same
  unless the gateway is an origin and the link goes on without a slash; `lookalike_recognized`: such links are
  recognized.
-/

namespace Hyperlink

open Identifier
open Locator (ofRest pathChars)

/-- The characters in front of the path. -/
def beforePath (cs : List Char) : List Char := cs.takeWhile (! Url.endsAuthority false ·)

/-- The text between the first `://` and the next slash, question mark or number sign. -/
def authority? (link : String) : Option String :=
  (Text.cut [':', '/', '/'] link.toList).map fun p => String.ofList (beforePath p.2)

theorem beforePath_append {front : List Char} (h : Url.Unbroken front) (rest : List Char) :
    beforePath (front ++ rest) = front ++ beforePath rest :=
  List.takeWhile_append_of_pos fun c hc => by rw [h c hc]; rfl

theorem beforePath_eq_nil_iff {rest : List Char} :
    beforePath rest = [] ↔ ∀ c, rest.head? = some c → Url.endsAuthority false c := by
  unfold beforePath
  cases rest with
  | nil => simp
  | cons c rest => simp [List.takeWhile_cons]

theorem beforePath_append_eq_nil {front : List Char} (hne : front ≠ []) (h : beforePath front = []) (rest : List Char) :
    beforePath (front ++ rest) = [] := by
  rw [beforePath_eq_nil_iff] at h ⊢
  rwa [List.head?_append_of_ne_nil _ hne]

/-- The authority goes on behind a text that can stand in it. -/
theorem authority?_append {scheme host : String} (hs : ':' ∉ scheme.toList) (hh : IsSegment host) (rest : String) :
    authority? (scheme ++ "://" ++ (host ++ rest)) = some (host ++ String.ofList (beforePath rest.toList)) := by
  unfold authority?
  rw [Locator.cut_scheme hs, Option.map_some, String.toList_append, beforePath_append (Url.unbroken_iff.mpr hh),
    String.ofList_append, String.ofList_toList]

/-- A link of the web that is read goes on behind its authority, and with a slash. -/
theorem slash_of_unpack {scheme host rest : String} (hs : (Scheme.ofText scheme).isWeb) (hh : IsSegment host)
    {x : Identifier} (hx : unpack (scheme ++ "://" ++ (host ++ rest)) = .ok (some x))
    (hend : beforePath rest.toList = []) : rest.toList.head? = some '/' := by
  by_contra hslash
  -- otherwise the authority is all of the path
  have hrest : pathChars rest.toList = [] := by
    rw [Locator.pathChars_eq_takeWhile]
    rw [beforePath_eq_nil_iff] at hend
    cases hc : rest.toList with
    | nil => rfl
    | cons c cs =>
      rw [hc, List.head?_cons] at hslash hend
      rcases Url.endsAuthority_iff.mp (hend c rfl) with rfl | rfl | rfl
      · exact absurd rfl hslash
      · rfl
      · rfl
  have hpath : (ofRest scheme.toList (host ++ rest).toList).path = [host] := by
    rw [Locator.ofRest_path, String.toList_append, Locator.pathChars_append hh.2.1 hh.2.2, hrest, List.append_nil,
      List.splitOn_eq_singleton hh.1, List.map_singleton, String.ofList_toList]
  obtain ⟨scheme', rest', a, hparse, ha, -⟩ := unpack_eq_some hx
  rw [Locator.parse?_append (Scheme.not_mem_of_isWeb hs)] at hparse
  split at hparse
  · simp at hparse
  · rw [← Option.some.inj hparse] at ha
    obtain ⟨host', segments, hpath', -⟩ := Address.ofLocator?_web_eq_some (by rw [Locator.ofRest_scheme]; exact hs) ha
    rw [hpath] at hpath'
    simp at hpath'

/-- **The authority of a recognized link begins with that of the gateway.**  It is the same unless the gateway is an
origin and the link goes on behind it without a slash. -/
theorem normalizeLink_authority {raw gateway link c : String} (hg : normalizeGateway raw = .ok gateway)
    (hs : Scheme.isHypermediaLink link = false) (h : normalizeLink link gateway = .ok (some c)) :
    ∃ rest a more, link = gateway ++ rest ∧ Scheme.textOf? link = Scheme.textOf? gateway ∧
      authority? gateway = some a ∧ a ≠ "" ∧ authority? link = some (a ++ more) ∧
      (authority? link = authority? gateway ↔ (IsOrigin gateway → rest.toList.head? = some '/')) := by
  obtain ⟨scheme, host, tail, hparts⟩ := gatewayParts_of_normalizeGateway hg
  obtain ⟨hon, x, hx, -⟩ := (normalizeLink_eq_some_iff hs).mp h
  obtain ⟨rest, rfl⟩ := isOnGateway_iff.mp hon
  have hcolon := Scheme.not_mem_of_isWeb hparts.web
  have htail : beforePath tail.toList = [] := beforePath_eq_nil_iff.mpr hparts.tail
  have hlink : gateway ++ rest = scheme ++ "://" ++ (host ++ (tail ++ rest)) := by
    rw [hparts.text]
    simp only [String.append_assoc]
  have hgateway : authority? gateway = some host := by
    rw [hparts.text, authority?_append hcolon hparts.host, htail, String.ofList_nil, String.append_empty]
  have hauthority := authority?_append hcolon hparts.host (tail ++ rest)
  rw [← hlink] at hauthority
  refine ⟨rest, host, _, rfl, ?_, hgateway, hparts.host_ne, hauthority, ?_⟩
  · rw [hlink, hparts.text, Scheme.textOf?_append hcolon, Scheme.textOf?_append hcolon]
  · rw [hauthority, hgateway, Option.some.injEq, hparts.isOrigin_iff]
    rw [hlink] at hx
    constructor
    · rintro hsame rfl
      rw [String.empty_append] at hsame hx
      refine slash_of_unpack hparts.web hparts.host hx ?_
      have hlists := congrArg String.toList hsame
      simpa using hlists
    · intro hslash
      have hnil : beforePath (tail ++ rest).toList = [] := by
        rw [String.toList_append]
        by_cases ht : tail = ""
        · subst ht
          rw [String.toList_empty, List.nil_append, beforePath_eq_nil_iff, hslash rfl]
          rintro _ ⟨⟩
          decide
        · exact beforePath_append_eq_nil (mt String.toList_eq_nil_iff.mp ht) htail rest.toList
      rw [hnil, String.ofList_nil, String.append_empty]

theorem normalizeLink_authority_path :
    normalizeGateway " HTTPS://Hyper.Media:8443/h/" = .ok "https://hyper.media:8443/h" ∧
      Scheme.isHypermediaLink "https://hyper.media:8443/hm/abc?v=1" = false ∧
      normalizeLink "https://hyper.media:8443/hm/abc?v=1" "https://hyper.media:8443/h" =
        .ok (some "hm://abc?v=1") ∧
      ∃ rest a more, "https://hyper.media:8443/hm/abc?v=1" = "https://hyper.media:8443/h" ++ rest ∧
        Scheme.textOf? "https://hyper.media:8443/hm/abc?v=1" = Scheme.textOf? "https://hyper.media:8443/h" ∧
        authority? "https://hyper.media:8443/h" = some a ∧ a ≠ "" ∧
        authority? "https://hyper.media:8443/hm/abc?v=1" = some (a ++ more) ∧
        (authority? "https://hyper.media:8443/hm/abc?v=1" = authority? "https://hyper.media:8443/h" ↔
          (IsOrigin "https://hyper.media:8443/h" → rest.toList.head? = some '/')) :=
  have hg : normalizeGateway " HTTPS://Hyper.Media:8443/h/" = .ok "https://hyper.media:8443/h" := rfl
  have hs : Scheme.isHypermediaLink "https://hyper.media:8443/hm/abc?v=1" = false := by decide
  have h : normalizeLink "https://hyper.media:8443/hm/abc?v=1" "https://hyper.media:8443/h" =
      .ok (some "hm://abc?v=1") := by decide +kernel
  ⟨hg, hs, h, normalizeLink_authority hg hs h⟩

/-- A gateway is also recognized in a host name that goes on behind it. -/
theorem lookalike_recognized :
    normalizeGateway "https://hyper.media" = .ok "https://hyper.media" ∧
      Scheme.isHypermediaLink "https://hyper.media.example.com/hm/abc" = false ∧
      normalizeLink "https://hyper.media.example.com/hm/abc" "https://hyper.media" = .ok (some "hm://abc") ∧
      authority? "https://hyper.media.example.com/hm/abc" = some "hyper.media.example.com" ∧
      authority? "https://hyper.media" = some "hyper.media" :=
  ⟨rfl, by decide, by decide +kernel, by decide, by decide⟩

end Hyperlink
