import Hyperlink.Proofs.Gateway.Origin
import Hyperlink.Proofs.Url.Rereading
import Mathlib.Data.List.DropRight

/-!
# Hyperlink.Proofs.Gateway.Again — a gateway in normal form stays what it is

* `Url.stripped`: the URL whose text is the one of a URL without the slashes at its end (`renderWith_stripped`). It is in
  normal form if the other one is, and reading its text leads back to it (`stripped_readWith`).
* `isOverlongGateway`: whether the host of a gateway is a name with an overlong label.
* `normalizeGateway_again`: **normalizing a gateway again changes nothing, unless it has such a host; then it is
  refused.**
-/

namespace Hyperlink

/-! ## Slashes at the end -/

theorem dropTrailingSlashes_dropTrailingSlashes (cs : List Char) :
    dropTrailingSlashes (dropTrailingSlashes cs) = dropTrailingSlashes cs :=
  List.rdropWhile_idempotent _ cs

theorem mem_of_mem_dropTrailingSlashes {cs : List Char} {c : Char} (h : c ∈ dropTrailingSlashes cs) : c ∈ cs :=
  (List.rdropWhile_prefix _ cs).subset h

/-- Nothing is dropped in front of another character. -/
theorem dropTrailingSlashes_append_cons {c : Char} (h : c ≠ '/') (front tail : List Char) :
    dropTrailingSlashes (front ++ c :: tail) = front ++ c :: dropTrailingSlashes tail := by
  have hlast : (front ++ [c]).getLast (by simp) ≠ '/' := by
    simpa using h
  have happend := dropTrailingSlashes_append _ hlast tail
  simpa using happend

namespace Url

theorem renderPath_append (path path' : List (List Char)) :
    renderPath (path ++ path') = renderPath path ++ renderPath path' :=
  List.flatMap_append

/-- Without the slashes at its end, a text that ends in a path ends in the path without the empty segments there. -/
theorem dropTrailingSlashes_path {front : List Char} (hfront : dropTrailingSlashes front = front)
    {path : List (List Char)} (h : ∀ s ∈ path, IsNormalSegment s) :
    dropTrailingSlashes (front ++ renderPath path) = front ++ renderPath (path.rdropWhile (· = [])) := by
  induction path using List.reverseRecOn with
  | nil => simpa [renderPath] using hfront
  | append_singleton path s ih =>
    rw [List.forall_mem_append, List.forall_mem_singleton] at h
    rcases List.eq_nil_or_concat s with rfl | ⟨t, c, rfl⟩
    · have hslash : dropTrailingSlashes ((front ++ renderPath path) ++ ['/']) =
          dropTrailingSlashes (front ++ renderPath path) := List.rdropWhile_concat_pos _ _ _ (by decide)
      have hpath : renderPath (path ++ [[]]) = renderPath path ++ ['/'] := renderPath_append path [[]]
      rw [List.rdropWhile_concat_pos _ _ _ (by simp), hpath, ← List.append_assoc, hslash, ih h.1]
    · have hc : c ≠ '/' := by
        rintro rfl
        exact absurd (h.2.noSlash '/' (by simp)) (by decide)
      have hlast : front ++ renderPath (path ++ [t.concat c]) = (front ++ renderPath path ++ '/' :: t) ++ [c] := by
        simp [renderPath]
      rw [List.rdropWhile_concat_neg _ _ _ (by simp), hlast, dropTrailingSlashes_append_cons hc]
      rfl

/-- The URL without the slashes at the end of its last part. -/
def stripped (u : Url) : Url :=
  match u.query, u.fragment with
  | _, some f => { u with fragment := some (dropTrailingSlashes f) }
  | some q, none => { u with query := some (dropTrailingSlashes q) }
  | none, none => { u with path := u.path.rdropWhile (· = []) }

section Stripped

variable {u : Url}

theorem scheme_stripped : u.stripped.scheme = u.scheme := by
  unfold stripped
  split <;> rfl

theorem isNormal_stripped {defaultPort : Nat} (h : u.IsNormal defaultPort) : u.stripped.IsNormal defaultPort := by
  unfold stripped
  split
  · next f hf =>
    refine ⟨h.scheme, h.userinfo, h.port, h.path, h.query, fun f' hf' c hc => ?_⟩
    obtain rfl := Option.some.inj hf'
    exact h.fragment f hf c (mem_of_mem_dropTrailingSlashes hc)
  · next q hq hf =>
    refine ⟨h.scheme, h.userinfo, h.port, h.path, fun q' hq' c hc => ?_, h.fragment⟩
    obtain rfl := Option.some.inj hq'
    exact h.query q hq c (mem_of_mem_dropTrailingSlashes hc)
  · exact ⟨h.scheme, h.userinfo, h.port, fun s hs => h.path s ((List.rdropWhile_prefix _ _).subset hs), h.query,
      h.fragment⟩

/-- What is written in front of the path does not end in a slash. -/
theorem dropTrailingSlashes_front {defaultPort : Nat} (h : u.IsNormal defaultPort) {host : List Char}
    (hhost : HostText host) : dropTrailingSlashes (u.scheme ++ ':' :: '/' :: '/' :: u.authorityWith host) =
      u.scheme ++ ':' :: '/' :: '/' :: u.authorityWith host := by
  obtain ⟨front, c, hauthority⟩ := (List.eq_nil_or_concat _).resolve_left (authorityWith_ne_nil hhost u)
  have hc : c ≠ '/' := by
    rintro rfl
    have hinside := (isAuthorityChar_authorityWith hhost h '/' (by rw [hauthority]; simp)).inside
    exact absurd hinside (by decide)
  have hfront : u.scheme ++ ':' :: '/' :: '/' :: u.authorityWith host =
      (u.scheme ++ ':' :: '/' :: '/' :: front) ++ [c] := by
    rw [hauthority]
    simp
  rw [hfront, dropTrailingSlashes_append_cons hc]
  rfl

/-- Behind such a front, slashes are dropped from the last part that is written. -/
theorem dropTrailingSlashes_tail {front : List Char} (hfront : dropTrailingSlashes front = front)
    (hpath : ∀ s ∈ u.path, IsNormalSegment s) : dropTrailingSlashes (front ++ u.tail) = front ++ u.stripped.tail := by
  unfold stripped
  split
  · next f hf =>
    simp only [tail, hf, Option.elim_some]
    rw [← List.append_assoc, dropTrailingSlashes_append_cons (by decide), List.append_assoc]
  · next q hq hf =>
    simp only [tail, hq, hf, Option.elim_some, Option.elim_none, List.append_nil]
    rw [← List.append_assoc, dropTrailingSlashes_append_cons (by decide), List.append_assoc]
  · next hq hf =>
    simp only [tail, hq, hf, Option.elim_none, List.append_nil]
    rw [dropTrailingSlashes_path hfront hpath]

/-- The text of the URL without the slashes is the text without them. -/
theorem renderWith_stripped {defaultPort : Nat} (h : u.IsNormal defaultPort) {host : List Char}
    (hhost : HostText host) : u.stripped.renderWith host = dropTrailingSlashes (u.renderWith host) := by
  have htext : ∀ v : Url, v.renderWith host = (v.scheme ++ ':' :: '/' :: '/' :: v.authorityWith host) ++ v.tail := by
    intro v
    simp [renderWith]
  have hauthority : u.stripped.authorityWith host = u.authorityWith host := by
    unfold stripped
    split <;> rfl
  rw [htext u, dropTrailingSlashes_tail (dropTrailingSlashes_front h hhost) h.path, htext, scheme_stripped, hauthority]

/-- Reading the text without the slashes leads back to the URL without them. -/
theorem stripped_readWith (hpath : u.path ≠ []) : (u.stripped.readWith u.host).stripped = u.stripped := by
  obtain ⟨scheme, userinfo, host, port, path, query, fragment⟩ := u
  cases fragment with
  | some f => simp [stripped, readWith, hpath, dropTrailingSlashes_dropTrailingSlashes]
  | none =>
    cases query with
    | some q => simp [stripped, readWith, hpath, dropTrailingSlashes_dropTrailingSlashes]
    | none =>
      by_cases hnil : path.rdropWhile (· = []) = []
      · simp [stripped, readWith, hnil]
      · simp [stripped, readWith, hnil, List.rdropWhile_idempotent]

end Stripped

end Url

/-! ## Gateways -/

theorem normalizeGateway_eq_ok {raw gateway : String} (h : normalizeGateway raw = .ok gateway) :
    ∃ u, Url.parse (Text.trim raw.toList) = .ok (.special u) ∧ u.scheme ∈ webSchemes ∧
      gateway = String.ofList (dropTrailingSlashes u.render) := by
  unfold normalizeGateway at h
  split at h
  · cases h
  · next u hu =>
    split at h
    · next hscheme => exact ⟨u, hu, hscheme, (Except.ok.inj h).symm⟩
    · cases h
  · cases h

/-- Whether a text is read as a URL whose host is a name with an overlong label. -/
def isOverlongGateway (raw : String) : Bool :=
  match Url.parse (Text.trim raw.toList) with
  | .ok (.special u) => u.host.isOverlong
  | _ => false

/-- **Normalizing a gateway again changes nothing**, unless its host is a name with an overlong label. -/
theorem normalizeGateway_again {raw gateway : String} (h : normalizeGateway raw = .ok gateway) :
    normalizeGateway gateway =
      if isOverlongGateway raw then .error UrlError.invalidDomain.toError else .ok gateway := by
  obtain ⟨u, hparse, hscheme, rfl⟩ := normalizeGateway_eq_ok h
  obtain ⟨defaultPort, hnormal, hread, hpath⟩ := Url.isNormal_of_parse hparse
  have hhost := Url.hostText_render hread
  have hstripped := Url.isNormal_stripped hnormal
  have htext : dropTrailingSlashes u.render = u.stripped.renderWith u.host.render := by
    rw [Url.renderWith_stripped hnormal hhost, ← Url.render_eq_renderWith]
  have hlong : isOverlongGateway raw = u.host.isOverlong := by
    rw [isOverlongGateway, hparse]
  have hscheme' : (u.stripped.readWith u.host).scheme ∈ webSchemes := by
    show u.stripped.scheme ∈ webSchemes
    rwa [Url.scheme_stripped]
  have hagain : dropTrailingSlashes (u.stripped.readWith u.host).render = u.stripped.renderWith u.host.render := by
    rw [Url.render_eq_renderWith]
    show dropTrailingSlashes ((u.stripped.readWith u.host).renderWith u.host.render) = _
    rw [← Url.renderWith_stripped (Url.isNormal_readWith hstripped u.host) hhost, Url.stripped_readWith hpath]
  rw [hlong, htext, normalizeGateway, String.toList_ofList, Url.trim_eq_self (Url.isSolid_renderWith hstripped hhost),
    Url.parse_renderWith hstripped hhost, Host.parse_render hread]
  by_cases hoverlong : u.host.isOverlong = true
  · rw [if_pos hoverlong, if_pos hoverlong]
    rfl
  · rw [if_neg hoverlong, if_neg hoverlong]
    dsimp only [Except.map]
    rw [if_pos hscheme', hagain]

end Hyperlink
