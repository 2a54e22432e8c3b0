import Hyperlink.Identifier.Web
import Hyperlink.Proofs.View.Reading

/-!
# Hyperlink.Proofs.Identifier.Normal — normal forms of identifiers and the texts of their links

* `cutPath_eq`: the positions at which a path is cut lie in it, and what is cut out is the path in normal form.
* `ofParts`: the identifier of the given parts in normal form; `build_eq`, `create_eq`: what `build` and `create` give
  for every uid that is not empty.
* `SameLink`: two identifiers that agree on everything but their hosts and schemes.
* `IsPlain`, `IsReserved`: what a link cannot carry. A text that holds a separator leaks into its neighbour, and a
  document whose uid is the key of a type is taken for an entity of that type.
* `pack_eq`, `webUrl_eq`: a link is the segments of the identifier joined by slashes, with its view behind them.
-/

namespace Hyperlink

namespace Identifier

/-! ## Paths -/

/-- The segments that are left are those between the empty ones at either end. -/
theorem getD_normalizePath (path : Option (List String)) :
    (normalizePath path).getD [] = Text.stripEnds (· = "") (path.getD []) := by
  unfold normalizePath
  cases path with
  | none => rfl
  | some ps =>
    rw [Option.map_some, Option.getD_some]
    cases Text.stripEnds (fun s : String => decide (s = "")) ps <;> rfl

theorem normalizePath_some_getD (path : Option (List String)) :
    normalizePath (some (path.getD [])) = normalizePath path := by
  cases path <;> rfl

theorem normalizePath_normalizePath (path : Option (List String)) :
    normalizePath (normalizePath path) = normalizePath path := by
  rw [← normalizePath_some_getD (normalizePath path), getD_normalizePath, ← normalizePath_some_getD path]
  unfold normalizePath
  rw [Option.map_some, Option.map_some, Text.stripEnds_stripEnds]

/-- A segment is empty or kept. -/
theorem eq_or_mem_normalizePath {path : Option (List String)} {s : String} (h : s ∈ path.getD []) :
    s = "" ∨ s ∈ (normalizePath path).getD [] := by
  obtain ⟨before, after, hsplit, hbefore, hafter⟩ :=
    Text.stripEnds_split (fun s : String => decide (s = "")) (path.getD [])
  rw [getD_normalizePath]
  rw [hsplit] at h
  rcases List.mem_append.mp h with h | h
  · rcases List.mem_append.mp h with h | h
    · exact Or.inl (by simpa using hbefore s h)
    · exact Or.inr h
  · exact Or.inl (by simpa using hafter s h)

theorem mem_of_mem_normalizePath {path : Option (List String)} {s : String} (h : s ∈ (normalizePath path).getD []) :
    s ∈ path.getD [] := by
  obtain ⟨before, after, hsplit, -, -⟩ := Text.stripEnds_split (fun s : String => decide (s = "")) (path.getD [])
  rw [getD_normalizePath] at h
  rw [hsplit]
  exact List.mem_append_left _ (List.mem_append_right _ h)

/-- No path gets longer by being brought to its normal form. -/
theorem length_normalizePath_le (path : Option (List String)) :
    ((normalizePath path).getD []).length ≤ (path.getD []).length := by
  obtain ⟨before, after, hsplit, -, -⟩ := Text.stripEnds_split (fun s : String => decide (s = "")) (path.getD [])
  have hlength := congrArg List.length hsplit
  rw [List.length_append, List.length_append] at hlength
  rw [getD_normalizePath]
  omega

theorem normalizePath_ne_nil (path : Option (List String)) : normalizePath path ≠ some [] := by
  unfold normalizePath
  split <;> simp

/-- The normal form keeps the number of segments that are not empty. -/
theorem countP_normalizePath (path : Option (List String)) :
    ((normalizePath path).getD []).countP (· ≠ "") = (path.getD []).countP (· ≠ "") := by
  obtain ⟨before, after, hsplit, hbefore, hafter⟩ :=
    Text.stripEnds_split (fun s : String => decide (s = "")) (path.getD [])
  have hzero : ∀ l : List String, (∀ s ∈ l, decide (s = "") = true) → l.countP (· ≠ "") = 0 := by
    intro l hl
    rw [List.countP_eq_zero]
    intro s hs
    simpa using hl s hs
  rw [getD_normalizePath]
  conv_rhs => rw [hsplit]
  rw [List.countP_append, List.countP_append, hzero before hbefore, hzero after hafter]
  omega

/-- A segment that is not empty is not lost in front of a path. -/
theorem normalizePath_cons_ne {s : String} (h : s ≠ "") (ps : List String) :
    normalizePath (some (s :: ps)) ≠ normalizePath (some ps) := by
  intro heq
  have hcount := countP_normalizePath (some (s :: ps))
  rw [heq, countP_normalizePath, Option.getD_some, Option.getD_some,
    List.countP_cons_of_pos (by simpa using h)] at hcount
  omega

/-! ### Cutting by positions -/

section Positions

variable {p : String → Bool} {before kept after : List String}

/-- The first entry that satisfies `p` stands behind all that do not. -/
theorem findIdx?_front (hbefore : ∀ s ∈ before, p s = false) (hne : kept ≠ []) (hhead : p (kept.head hne))
    (after : List String) : (before ++ kept ++ after).findIdx? p = some before.length := by
  obtain ⟨first, rest, rfl⟩ := List.exists_cons_of_ne_nil hne
  have hfirst : p first = true := hhead
  rw [List.append_assoc, List.findIdx?_append, List.findIdx?_eq_none_iff.mpr hbefore, List.cons_append,
    List.findIdx?_cons, if_pos hfirst]
  simp

/-- From behind, the last entry that satisfies `p` stands in front of all that do not. -/
theorem findIdx?_back (hafter : ∀ s ∈ after, p s = false) (hne : kept ≠ []) (hlast : p (kept.getLast hne))
    (before : List String) : (before ++ kept ++ after).reverse.findIdx? p = some after.length := by
  have hreverse : (before ++ kept ++ after).reverse = after.reverse ++ kept.reverse ++ before.reverse := by simp
  have hback : ∀ s ∈ after.reverse, p s = false := fun s hs => hafter s (List.mem_reverse.mp hs)
  have hne' : kept.reverse ≠ [] := List.reverse_ne_nil_iff.mpr hne
  have hhead : p (kept.reverse.head hne') := by rwa [List.head_reverse]
  rw [hreverse, findIdx?_front hback hne' hhead, List.length_reverse]

end Positions

/-- The positions of the first and of the last segment that is not empty lie in the path in this order, and cut out the
path in normal form. -/
theorem cutPath_eq (path : Option (List String)) : cutPath path = .ok (normalizePath path) := by
  cases path with
  | none => rfl
  | some segments =>
    obtain ⟨before, after, hsplit, hbefore, hafter⟩ := Text.stripEnds_split (fun s : String => decide (s = "")) segments
    have hhead : ∀ hne, ¬ decide ((Text.stripEnds (fun s : String => decide (s = "")) segments).head hne = "") :=
      fun hne => Text.head_stripEnds _ hne
    have hlast : ∀ hne, ¬ decide ((Text.stripEnds (fun s : String => decide (s = "")) segments).getLast hne = "") :=
      fun hne => Text.getLast_stripEnds _ hne
    unfold cutPath normalizePath
    rw [Option.map_some]
    generalize Text.stripEnds (fun s : String => decide (s = "")) segments = kept at *
    subst hsplit
    have hbefore : ∀ s ∈ before, decide (s ≠ "") = false := fun s hs => by simpa using hbefore s hs
    have hafter : ∀ s ∈ after, decide (s ≠ "") = false := fun s hs => by simpa using hafter s hs
    cases kept with
    | nil =>
      have hnone : (before ++ [] ++ after).findIdx? (fun s => decide (s ≠ "")) = none := by
        rw [List.append_nil, List.findIdx?_eq_none_iff]
        exact fun s hs => (List.mem_append.mp hs).elim (hbefore s) (hafter s)
      simp only [hnone]
    | cons first rest =>
      have hne : first :: rest ≠ [] := List.cons_ne_nil first rest
      have hfirst : (first :: rest).head hne ≠ "" := fun h => hhead hne (decide_eq_true h)
      have hend : (first :: rest).getLast hne ≠ "" := fun h => hlast hne (decide_eq_true h)
      have hstart := findIdx?_front hbefore hne (decide_eq_true hfirst) after
      have hstop := findIdx?_back hafter hne (decide_eq_true hend) before
      have hlength : (before ++ first :: rest ++ after).length - after.length = (before ++ first :: rest).length := by
        rw [List.length_append, Nat.add_sub_cancel]
      simp only [hstart, hstop, Option.elim_some, hlength, Fault.slice_append]
      rfl

/-! ## Normal forms -/

/-- The identifier of the given parts in normal form. -/
def ofParts (t : EntityType) (uid : String) (o : Options) : Identifier where
  id := baseLink t uid (normalizePath o.path)
  entityType := t
  uid := uid
  path := normalizePath o.path
  view := normalizeView o.view
  hostname := View.nonempty o.hostname
  scheme := none

theorem build_eq {uid : String} (h : uid ≠ "") (t : EntityType) (o : Options) :
    build t uid o = .ok (ofParts t uid o) := by
  unfold build
  rw [if_neg h, cutPath_eq]
  rfl

theorem create_eq {uid : String} (h : uid ≠ "") (t : EntityType) (o : Options) :
    create t uid o = .ok (.ok (ofParts t uid o)) := by
  unfold create
  rw [if_neg h, build_eq h]
  rfl

/-- The identifier that is built from the entity and the view of `x`, whatever state its fields are in. -/
def normalized (x : Identifier) : Identifier := ofParts x.entityType x.uid { path := x.path, view := x.view }

/-- Two identifiers agree on the entity and the view; host and scheme may differ. -/
structure SameLink (x y : Identifier) : Prop where
  id : x.id = y.id
  entityType : x.entityType = y.entityType
  uid : x.uid = y.uid
  path : x.path = y.path
  view : x.view = y.view

theorem SameLink.symm {x y : Identifier} (h : x.SameLink y) : y.SameLink x :=
  ⟨h.id.symm, h.entityType.symm, h.uid.symm, h.path.symm, h.view.symm⟩

theorem SameLink.trans {x y z : Identifier} (h : x.SameLink y) (h' : y.SameLink z) : x.SameLink z :=
  ⟨h.id.trans h'.id, h.entityType.trans h'.entityType, h.uid.trans h'.uid, h.path.trans h'.path, h.view.trans h'.view⟩

theorem SameLink.pack_eq {x y : Identifier} (h : x.SameLink y) : x.pack = y.pack := by
  unfold pack
  rw [h.entityType, h.uid, h.path, h.view]

/-! ## What a link can carry -/

/-- No text of the identifier holds a character that ends its part of a link. -/
structure IsPlain (x : Identifier) : Prop where
  uid : IsSegment x.uid
  path : ∀ s ∈ x.path.getD [], IsSegment s
  view : x.view.IsPlain

theorem IsPlain.congr {x y : Identifier} (h : x.IsPlain) (hxy : x.SameLink y) : y.IsPlain :=
  ⟨hxy.uid ▸ h.uid, hxy.path ▸ h.path, hxy.view ▸ h.view⟩

/-- A document whose uid is the key of a type. Links leave out the type of a document, so the uid is read as a type. -/
def IsReserved (x : Identifier) : Prop := x.entityType = .document ∧ ∃ t : EntityType, x.uid = t.key

theorem not_isReserved_of_ofKey? {x : Identifier} (h : EntityType.ofKey? x.uid = none) : ¬ x.IsReserved := by
  rintro ⟨-, t, hkey⟩
  rw [hkey, EntityType.ofKey?_key] at h
  cases h

/-! ## The texts of links -/

/-- The segments of the path of a compact link. -/
def segments (x : Identifier) : List String :=
  (if x.entityType.isDefault then [x.uid] else [x.entityType.key, x.uid]) ++ x.path.getD []

theorem uid_mem_segments (x : Identifier) : x.uid ∈ x.segments := by
  unfold segments
  split <;> simp

theorem segments_ne_nil (x : Identifier) : x.segments ≠ [] := List.ne_nil_of_mem x.uid_mem_segments

theorem entityText_append_pathText (x : Identifier) :
    entityText x.entityType x.uid ++ pathText x.path = "/".intercalate x.segments := by
  have hentity : entityText x.entityType x.uid =
      "/".intercalate (if x.entityType.isDefault then [x.uid] else [x.entityType.key, x.uid]) := by
    unfold entityText
    split <;> simp
  unfold segments
  rw [hentity]
  match hp : x.path with
  | none => simp [pathText]
  | some [] => simp [pathText]
  | some (p :: ps) =>
    rw [Option.getD_some, String.intercalate_append_of_ne_nil (by split <;> simp) (by simp), pathText,
      String.append_assoc]

/-- What stands behind `hm://` in the compact link of an identifier, and behind the marker in its URL. -/
def linkText (x : Identifier) : String := "/".intercalate x.segments ++ x.view.suffix

theorem pack_eq (x : Identifier) : x.pack = Scheme.hypermediaText ++ "://" ++ x.linkText := by
  unfold pack baseLink linkText
  rw [← entityText_append_pathText]
  simp only [String.append_assoc]

theorem webUrl_eq (x : Identifier) (host : WebHost) :
    x.webUrl host = host.text ++ "/" ++ webMarker ++ "/" ++ x.linkText := by
  unfold webUrl linkText
  rw [← entityText_append_pathText]
  simp only [String.append_assoc]

theorem linkText_ne_empty {x : Identifier} (h : x.uid ≠ "") : x.linkText ≠ "" := by
  intro hempty
  obtain ⟨c, hc⟩ := List.exists_mem_of_ne_nil x.uid.toList (by simpa using h)
  have hmem : c ∈ ("/".intercalate x.segments).toList := by
    rw [show "/" = String.ofList ['/'] from rfl, intercalate_toList]
    exact Text.mem_intercalate (List.mem_map_of_mem x.uid_mem_segments) hc
  have hnil : x.linkText.toList = [] := by rw [hempty]; rfl
  rw [linkText, String.toList_append] at hnil
  rw [(List.append_eq_nil_iff.mp hnil).1] at hmem
  simp at hmem

end Identifier

end Hyperlink
