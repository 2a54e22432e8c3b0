import Hyperlink.Proofs.Identifier.Forms
import Hyperlink.Proofs.Identifier.RoundTrip

/-!
# Hyperlink.Proofs.Identifier.Spelling — the ways to spell a link

One link can be written in several ways: in its compact form or on an origin of the web, with or without the kind of a
document, and with any number of slashes around its path.

* `Spelling`: the choices, and `Spelling.link`, the text that they give.
* `Spelling.link_eq`: the text is made of segments joined by slashes, of which those that were added are empty.
* `normalizePath_padded`: empty segments around a path are not part of it.
* `spellings_collapse`: **all spellings are read as the same identifier**, but for its host and its scheme.
-/

namespace Hyperlink

open Locator (ofRest pathChars)

/-- What stands behind the path of a link: nothing, or a text that begins with the mark of a query or a fragment. -/
def IsBehindPath (text : String) : Prop := ∀ c, text.toList.head? = some c → c = '?' ∨ c = '#'

/-- A run of slashes. -/
def slashes (n : Nat) : String := String.ofList (List.replicate n '/')

/-- How a link is spelled. -/
structure Spelling where
  scheme : String
  /-- The host in a link of the web; a compact link has none. -/
  host : Option String
  /-- Whether the kind of the entity is written. -/
  typed : Bool
  /-- The number of slashes in front of the path. -/
  before : Nat
  /-- The number of slashes behind the path. -/
  behind : Nat

namespace Spelling

/-- The host and the marker of a link of the web, with a slash behind each. -/
def origin (s : Spelling) : String :=
  match s.host with
  | none => ""
  | some host => host ++ "/" ++ webMarker ++ "/"

/-- The entity, with or without its kind. -/
def entity (s : Spelling) (t : EntityType) (uid : String) : String :=
  if s.typed then t.key ++ "/" ++ uid else uid

/-- The link of an entity with a path and a text behind it. -/
def link (s : Spelling) (t : EntityType) (uid : String) (path : List String) (tail : String) : String :=
  s.scheme ++ "://" ++ s.origin ++ s.entity t uid ++ slashes s.before ++ "/".intercalate path ++ slashes s.behind ++ tail

/-- A spelling that can be used for an entity with a path. -/
structure Fits (s : Spelling) (t : EntityType) (uid : String) (path : List String) : Prop where
  compact : s.host = none → Scheme.ofText s.scheme = .hypermedia
  web : ∀ host, s.host = some host → (Scheme.ofText s.scheme).isWeb ∧ IsSegment host
  /-- The kind of a document can be left out if its uid is not the key of a kind. -/
  untyped : s.typed = false → t = .document ∧ EntityType.ofKey? uid = none
  before : path ≠ [] → 1 ≤ s.before

/-! ## Segments -/

/-- The segments of the path with those that the added slashes make. -/
def padded (s : Spelling) (path : List String) : List String :=
  if path = [] then List.replicate (s.before + s.behind) ""
  else List.replicate (s.before - 1) "" ++ path ++ List.replicate s.behind ""

/-- The segments in front of the path. -/
def front (s : Spelling) (t : EntityType) (uid : String) : List String :=
  s.host.elim [] (fun host => [host, webMarker]) ++ if s.typed then [t.key, uid] else [uid]

/-- All segments of a link. -/
def segments (s : Spelling) (t : EntityType) (uid : String) (path : List String) : List String :=
  s.front t uid ++ s.padded path

end Spelling

theorem slashes_succ (n : Nat) : slashes (n + 1) = slashes n ++ "/" := by
  unfold slashes
  rw [List.replicate_succ', String.ofList_append]

theorem slashes_add (m n : Nat) : slashes (m + n) = slashes m ++ slashes n := by
  unfold slashes
  rw [List.replicate_add, String.ofList_append]

/-- Empty segments at the end are written as slashes. -/
theorem intercalate_replicate {ss : List String} (h : ss ≠ []) (n : Nat) :
    "/".intercalate (ss ++ List.replicate n "") = "/".intercalate ss ++ slashes n := by
  induction n with
  | zero => simp [slashes]
  | succ n ih =>
    rw [List.replicate_succ', ← List.append_assoc, String.intercalate_append_of_ne_nil (by simp [h]) (by simp), ih,
      slashes_succ]
    simp [String.append_assoc]

namespace Spelling

variable {s : Spelling} {t : EntityType} {uid : String} {path : List String}

theorem front_ne_nil (s : Spelling) (t : EntityType) (uid : String) : s.front t uid ≠ [] := by
  unfold front
  split <;> simp

theorem intercalate_front (s : Spelling) (t : EntityType) (uid : String) :
    "/".intercalate (s.front t uid) = s.origin ++ s.entity t uid := by
  unfold front origin entity
  cases s.host <;> cases s.typed <;> simp [String.append_assoc]

theorem intercalate_padded {ss : List String} (hss : ss ≠ []) (h : path ≠ [] → 1 ≤ s.before) :
    "/".intercalate (ss ++ s.padded path) =
      "/".intercalate ss ++ slashes s.before ++ "/".intercalate path ++ slashes s.behind := by
  unfold padded
  by_cases hpath : path = []
  · rw [if_pos hpath, intercalate_replicate hss, slashes_add, hpath]
    simp [String.append_assoc]
  · have hbefore : s.before = s.before - 1 + 1 := by have := h hpath; omega
    rw [if_neg hpath, ← List.append_assoc, ← List.append_assoc, intercalate_replicate (by simp [hss]),
      String.intercalate_append_of_ne_nil (by simp [hss]) hpath, intercalate_replicate hss]
    conv_rhs => rw [hbefore, slashes_succ]
    simp only [String.append_assoc]

/-- A link is made of its segments. -/
theorem link_eq (h : path ≠ [] → 1 ≤ s.before) (tail : String) :
    s.link t uid path tail = s.scheme ++ "://" ++ ("/".intercalate (s.segments t uid path) ++ tail) := by
  rw [segments, intercalate_padded (s.front_ne_nil t uid) h, intercalate_front, link]
  simp only [String.append_assoc]

theorem isSegment_of_mem_padded (h : ∀ p ∈ path, IsSegment p) : ∀ p ∈ s.padded path, IsSegment p := by
  have hempty : ∀ {n : Nat} {p : String}, p ∈ List.replicate n "" → IsSegment p := fun hp =>
    List.eq_of_mem_replicate hp ▸ isSegment_empty
  intro p hp
  unfold padded at hp
  split at hp
  · exact hempty hp
  · rcases List.mem_append.mp hp with hp | hp
    · rcases List.mem_append.mp hp with hp | hp
      · exact hempty hp
      · exact h p hp
    · exact hempty hp

theorem isSegment_of_mem_front (hfit : s.Fits t uid path) (huid : IsSegment uid) :
    ∀ p ∈ s.front t uid, IsSegment p := by
  intro p hp
  unfold front at hp
  rcases List.mem_append.mp hp with hp | hp
  · cases hhost : s.host with
    | none => simp [hhost] at hp
    | some host =>
      have hp : p = host ∨ p = webMarker := by simpa [hhost] using hp
      rcases hp with rfl | rfl
      · exact (hfit.web _ hhost).2
      · exact (by decide : IsSegment webMarker)
  · split at hp
    · rcases List.mem_cons.mp hp with rfl | hp
      · exact Identifier.isSegment_key t
      · exact List.mem_singleton.mp hp ▸ huid
    · exact List.mem_singleton.mp hp ▸ huid

/-- Empty segments around a path are not part of it. -/
theorem normalizePath_padded (s : Spelling) (path : List String) :
    Identifier.normalizePath (some (s.padded path)) = Identifier.normalizePath (some path) := by
  have hempty : ∀ n, ∀ p ∈ List.replicate n "", decide (p = "") = true := fun n p hp =>
    decide_eq_true (List.eq_of_mem_replicate hp)
  have hstrip : Text.stripEnds (fun p : String => decide (p = "")) (s.padded path) =
      Text.stripEnds (fun p : String => decide (p = "")) path := by
    unfold padded
    split
    · next hpath =>
      have hadd := Text.stripEnds_append (hempty (s.before + s.behind)) (hempty 0) []
      rw [hpath, ← hadd]
      simp
    · exact Text.stripEnds_append (hempty _) (hempty _) path
  unfold Identifier.normalizePath
  rw [Option.map_some, Option.map_some, hstrip]

/-! ## Reading -/

/-- The segments of every spelling name the same entity. -/
theorem ofSegments?_segments (hfit : s.Fits t uid path) (hne : uid ≠ "") (host : Option String)
    (rest : List String) :
    Address.ofSegments? host ((if s.typed then [t.key, uid] else [uid]) ++ rest) = some ⟨host, t, uid, rest⟩ := by
  unfold Address.ofSegments?
  cases htyped : s.typed with
  | true => simp [hne]
  | false =>
    obtain ⟨rfl, hkey⟩ := hfit.untyped htyped
    simp [hkey, hne]

theorem ofLocator?_segments (hfit : s.Fits t uid path) (hne : uid ≠ "") {l : Locator} (hscheme : l.scheme = s.scheme)
    (hpath : l.path = s.segments t uid path) :
    Address.ofLocator? l = some ⟨s.host, t, uid, s.padded path⟩ := by
  rw [segments, front, List.append_assoc] at hpath
  cases hhost : s.host with
  | none =>
    rw [hhost, Option.elim_none, List.nil_append] at hpath
    rw [Address.ofLocator?_compact (hscheme ▸ hfit.compact hhost), hpath, ofSegments?_segments hfit hne]
  | some host =>
    have hmarked : l.path = host :: webMarker :: ((if s.typed then [t.key, uid] else [uid]) ++ s.padded path) := by
      rw [hpath, hhost]
      rfl
    rw [Address.ofLocator?_web (hscheme ▸ (hfit.web host hhost).1) hmarked, ofSegments?_segments hfit hne]

theorem pathChars_of_isBehindPath {tail : String} (h : IsBehindPath tail) : pathChars tail.toList = [] := by
  rw [Locator.pathChars_eq_takeWhile]
  cases htail : tail.toList with
  | nil => rfl
  | cons c cs =>
    have hc := h c (by rw [htail]; rfl)
    exact List.takeWhile_cons_of_neg (by simpa [or_iff_not_imp_left] using hc)

/-- What the text behind the path says of the view. -/
def viewBehind (tail : String) : View := Identifier.viewOf (ofRest [] tail.toList)

theorem Fits.not_mem_scheme (hfit : s.Fits t uid path) : ':' ∉ s.scheme.toList := by
  refine Scheme.not_mem_of_ne_other fun hother => ?_
  cases hhost : s.host with
  | none =>
    have hcompact := hfit.compact hhost
    rw [hother] at hcompact
    cases hcompact
  | some host =>
    have hweb := (hfit.web host hhost).1
    rw [hother] at hweb
    cases hweb

theorem intercalate_segments_ne (hfit : s.Fits t uid path) (hne : uid ≠ "") (tail : String) :
    "/".intercalate (s.segments t uid path) ++ tail ≠ "" := by
  have hentity : s.entity t uid ≠ "" := by
    unfold entity
    split <;> simp [hne]
  rw [segments, intercalate_padded (s.front_ne_nil t uid) hfit.before, intercalate_front]
  simp [hentity]

/-- Every spelling is cut into its scheme, its segments and what stands behind them. -/
theorem parse?_link (hfit : s.Fits t uid path) (hne : uid ≠ "") (huid : IsSegment uid)
    (hpath : ∀ p ∈ path, IsSegment p) {tail : String} (htail : IsBehindPath tail) :
    Locator.parse? (s.link t uid path tail) =
      some { ofRest s.scheme.toList tail.toList with path := s.segments t uid path } := by
  have hsegments : ∀ p ∈ s.segments t uid path, IsSegment p := by
    intro p hp
    rcases List.mem_append.mp hp with hp | hp
    · exact isSegment_of_mem_front hfit huid p hp
    · exact isSegment_of_mem_padded hpath p hp
  have hnil : s.segments t uid path ≠ [] := List.append_ne_nil_of_left_ne_nil (s.front_ne_nil t uid) _
  rw [link_eq hfit.before, Locator.parse?_append hfit.not_mem_scheme,
    if_neg (intercalate_segments_ne hfit hne tail), String.toList_append,
    Locator.ofRest_intercalate_append hsegments hnil (pathChars_of_isBehindPath htail)]

/-- Every spelling is read as the address that its segments name, with the view that stands behind them. -/
theorem unpack_link (hfit : s.Fits t uid path) (hne : uid ≠ "") (huid : IsSegment uid)
    (hpath : ∀ p ∈ path, IsSegment p) {tail : String} (htail : IsBehindPath tail) :
    Identifier.unpack (s.link t uid path tail) =
      .ok (some ((⟨s.host, t, uid, s.padded path⟩ : Address).identifier (viewBehind tail) s.scheme)) := by
  have hparse := parse?_link hfit hne huid hpath htail
  have hscheme : { ofRest s.scheme.toList tail.toList with path := s.segments t uid path }.scheme = s.scheme :=
    Locator.ofRest_scheme s.scheme tail.toList
  rw [Identifier.unpack_of_parse? hparse, Identifier.ofLocator_eq, ofLocator?_segments hfit hne hscheme rfl,
    Option.map_some, hscheme]
  rfl

end Spelling

namespace Identifier

/-- A path without empty segments at its ends is in normal form. -/
theorem normalizePath_of_ends {path : List String} (h : ∀ hne : path ≠ [], path.head hne ≠ "" ∧ path.getLast hne ≠ "") :
    normalizePath (some path) = if path = [] then none else some path := by
  have hstrip : Text.stripEnds (fun p : String => decide (p = "")) path = path :=
    Text.stripEnds_eq_self fun hne => by simpa using h hne
  rw [normalizePath, Option.map_some, hstrip]
  cases path <;> simp

/-- **All spellings of a link are read as the same identifier**, but for its host and its scheme. -/
theorem spellings_collapse {t : EntityType} {uid : String} (hne : uid ≠ "") (huid : IsSegment uid)
    {path : List String} (hpath : ∀ p ∈ path, IsSegment p)
    (hends : ∀ h : path ≠ [], path.head h ≠ "" ∧ path.getLast h ≠ "") {tail : String} (htail : IsBehindPath tail) :
    ∃ x : Identifier, x.entityType = t ∧ x.uid = uid ∧ x.path = (if path = [] then none else some path) ∧
      ∀ s : Spelling, s.Fits t uid path → ∃ y, unpack (s.link t uid path tail) = .ok (some y) ∧ y.SameLink x ∧
        y.pack = x.pack ∧ y.hostname = View.nonempty s.host ∧ y.scheme = some s.scheme := by
  refine ⟨ofParts t uid { path := some path, view := Spelling.viewBehind tail }, rfl, rfl,
    normalizePath_of_ends hends, fun s hfit => ⟨_, Spelling.unpack_link hfit hne huid hpath htail, ?_⟩⟩
  have hnormal := s.normalizePath_padded path
  have hsame : ((⟨s.host, t, uid, s.padded path⟩ : Address).identifier (Spelling.viewBehind tail) s.scheme).SameLink
      (ofParts t uid { path := some path, view := Spelling.viewBehind tail }) :=
    ⟨congrArg (baseLink t uid) hnormal, rfl, rfl, hnormal, rfl⟩
  exact ⟨hsame, hsame.pack_eq, rfl, rfl⟩

/-- The shortest spelling of the link of a document. -/
def shortSpelling : Spelling where
  scheme := "hm"
  host := none
  typed := false
  before := 1
  behind := 0

/-- A spelling on the web with nothing left out and slashes added. -/
def longSpelling : Spelling where
  scheme := " Https"
  host := some "me@h:80"
  typed := true
  before := 3
  behind := 2

theorem spellings_collapse_long :
    "u:v" ≠ "" ∧ IsSegment "u:v" ∧ (∀ p ∈ ["hm", "", "draft"], IsSegment p) ∧
      (∀ h : ["hm", "", "draft"] ≠ [], ["hm", "", "draft"].head h ≠ "" ∧ ["hm", "", "draft"].getLast h ≠ "") ∧
      IsBehindPath "?l&v=1/2#BLOCKID1[007:9]" ∧
      ∃ x y, unpack "hm://u:v/hm//draft?l&v=1/2#BLOCKID1[007:9]" = .ok (some x) ∧
        unpack " Https://me@h:80/hm/d/u:v///hm//draft//?l&v=1/2#BLOCKID1[007:9]" = .ok (some y) ∧
        y.SameLink x ∧ y.pack = x.pack ∧ x.path = some ["hm", "", "draft"] ∧ y.hostname = some "me@h:80" := by
  have hne : "u:v" ≠ "" := by decide
  have huid : IsSegment "u:v" := by decide
  have hpath : ∀ p ∈ ["hm", "", "draft"], IsSegment p := by decide
  have hends : ∀ h : ["hm", "", "draft"] ≠ [],
      ["hm", "", "draft"].head h ≠ "" ∧ ["hm", "", "draft"].getLast h ≠ "" := fun _ => by simp
  have htail : IsBehindPath "?l&v=1/2#BLOCKID1[007:9]" := by
    intro c hc
    obtain rfl : '?' = c := by simpa using hc
    exact Or.inl rfl
  have hkey : EntityType.ofKey? "u:v" = none := by decide
  have hshort : shortSpelling.Fits .document "u:v" ["hm", "", "draft"] :=
    { compact := fun _ => by decide
      web := fun host h => by simp [shortSpelling] at h
      untyped := fun _ => ⟨rfl, hkey⟩
      before := fun _ => by decide }
  have hlong : longSpelling.Fits .document "u:v" ["hm", "", "draft"] :=
    { compact := fun h => by simp [longSpelling] at h
      web := fun host h => by
        obtain rfl : "me@h:80" = host := Option.some.inj h
        decide
      untyped := fun _ => ⟨rfl, hkey⟩
      before := fun _ => by decide }
  obtain ⟨z, -, -, hz, hread⟩ := spellings_collapse hne huid hpath hends htail
  obtain ⟨x, hx, hxz, -, -⟩ := hread shortSpelling hshort
  obtain ⟨y, hy, hyz, -, hhost, -⟩ := hread longSpelling hlong
  have hsame := hyz.trans hxz.symm
  exact ⟨hne, huid, hpath, hends, htail, x, y, hx, hy, hsame, hsame.pack_eq, hxz.path.trans hz, hhost⟩

end Identifier

end Hyperlink
