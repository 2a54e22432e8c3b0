import Hyperlink.Proofs.Identifier.Canonical

/-!
# Hyperlink.Proofs.Identifier.Settling — packing a link again and again settles

A link that was read need not be read back from its pack: a document whose uid is the key of a type is taken for an
entity of that type, with the first segment of its path as the uid. Such a step costs the path a segment.

* `repack`, `repackTimes`: a link that is read and packed, once and again and again.
* `IsLinkable.unpack_pack_cases`: one step ends, is stable, or leaves a shorter path; the view stays.
* `IsLinkable.settles`: so a run is over after at most one step more than the path has segments;
  `IsLinkable.view_repackTimes`: and no step of it changes the view.
* `repack_settles`: both for every text that is a link.
-/

namespace Hyperlink

namespace Identifier

/-! ## Runs -/

/-- The pack of the identifier that is read from a link. A text that is no link has none. -/
def repack (link : String) : Except Fault (Option String) := do return (← unpack link).map pack

/-- The text after `k` steps of reading and packing. A run is over behind a text that is no link. -/
def repackTimes : Nat → String → Except Fault (Option String)
  | 0, link => .ok (some link)
  | k + 1, link => do
    match ← repack link with
    | some next => repackTimes k next
    | none => return none

theorem repack_of_unpack {link : String} {a : Identifier} (h : unpack link = .ok (some a)) :
    repack link = .ok (some a.pack) := by
  unfold repack
  rw [h]
  rfl

theorem repackTimes_succ {link : String} {a : Identifier} (h : unpack link = .ok (some a)) (k : Nat) :
    repackTimes (k + 1) link = repackTimes k a.pack := by
  rw [repackTimes, repack_of_unpack h]
  rfl

theorem repackTimes_succ_of_none {link : String} (h : unpack link = .ok none) (k : Nat) :
    repackTimes (k + 1) link = .ok none := by
  rw [repackTimes, repack, h]
  rfl

/-! ## One step -/

/-- The number of segments of the path. -/
def depth (x : Identifier) : Nat := (x.path.getD []).length

/-- A reserved document is no link any more, or its path loses a segment to the uid. -/
theorem IsLinkable.unpack_pack_of_isReserved {x : Identifier} (h : x.IsLinkable) (hr : x.IsReserved) :
    unpack x.pack = .ok none ∨ ∃ y, unpack x.pack = .ok (some y) ∧ y.view = x.view ∧ y.depth < x.depth := by
  obtain ⟨ht, t, hkey⟩ := hr
  rw [unpack_pack_of_isPlain h.uid_ne (h.plain.congr h.normal), ofSegments?_reserved ht hkey]
  cases hhead : (x.path.getD []).head?.filter (· ≠ "") with
  | none => exact Or.inl rfl
  | some uid =>
    refine Or.inr ⟨_, rfl, ?_, ?_⟩
    · show normalizeView (normalizeView x.view) = x.view
      rw [View.normalizeView_normalizeView]
      exact h.normal.view.symm
    · show ((normalizePath (some (x.path.getD []).tail)).getD []).length < (x.path.getD []).length
      have hle : ((normalizePath (some (x.path.getD []).tail)).getD []).length ≤ (x.path.getD []).tail.length :=
        length_normalizePath_le (some (x.path.getD []).tail)
      have hcons := List.cons_head?_tail (Option.filter_eq_some_iff.mp hhead).1
      rw [← hcons, List.length_cons]
      exact Nat.lt_succ_of_le hle

/-- **One step of packing and reading** ends, is stable, or shortens the path; the view stays as it is. -/
theorem IsLinkable.unpack_pack_cases {x : Identifier} (h : x.IsLinkable) :
    unpack x.pack = .ok none ∨
      ∃ y, unpack x.pack = .ok (some y) ∧ y.view = x.view ∧ (y.pack = x.pack ∨ y.depth < x.depth) := by
  by_cases hr : x.IsReserved
  · rcases h.unpack_pack_of_isReserved hr with hnone | ⟨y, hy, hview, hdepth⟩
    · exact Or.inl hnone
    · exact Or.inr ⟨y, hy, hview, Or.inr hdepth⟩
  · obtain ⟨y, hy, hsame⟩ := h.unpack_pack hr
    exact Or.inr ⟨y, hy, hsame.view, Or.inl hsame.pack_eq⟩

/-! ## Whole runs -/

/-- The text is no link, or it packs to itself. -/
def IsSettled (text : String) : Prop := unpack text = .ok none ∨ ∃ b, unpack text = .ok (some b) ∧ b.pack = text

/-- The packs of a linkable identifier settle after as many steps as its path has segments. -/
theorem IsLinkable.settles {x : Identifier} (h : x.IsLinkable) :
    ∃ k ≤ x.depth, ∃ text, repackTimes k x.pack = .ok (some text) ∧ IsSettled text := by
  induction hn : x.depth using Nat.strongRecOn generalizing x with
  | ind n ih =>
    rcases h.unpack_pack_cases with hnone | ⟨y, hy, -, hstable | hdepth⟩
    · exact ⟨0, Nat.zero_le n, x.pack, rfl, Or.inl hnone⟩
    · exact ⟨0, Nat.zero_le n, x.pack, rfl, Or.inr ⟨y, hy, hstable⟩⟩
    · obtain ⟨k, hk, text, htext, hsettled⟩ := ih y.depth (hn ▸ hdepth) (isLinkable_of_unpack hy) rfl
      refine ⟨k + 1, by omega, text, ?_, hsettled⟩
      rw [repackTimes_succ hy, htext]

/-- The text is no link, or it is read with the view. -/
def ShowsView (v : View) (text : String) : Prop :=
  unpack text = .ok none ∨ ∃ b, unpack text = .ok (some b) ∧ b.view = v

/-- No step of a run changes the view. -/
theorem IsLinkable.view_repackTimes {x : Identifier} (h : x.IsLinkable) (k : Nat) :
    repackTimes k x.pack = .ok none ∨ ∃ text, repackTimes k x.pack = .ok (some text) ∧ ShowsView x.view text := by
  induction k generalizing x with
  | zero =>
    refine Or.inr ⟨x.pack, rfl, ?_⟩
    rcases h.unpack_pack_cases with hnone | ⟨y, hy, hview, -⟩
    · exact Or.inl hnone
    · exact Or.inr ⟨y, hy, hview⟩
  | succ k ih =>
    rcases h.unpack_pack_cases with hnone | ⟨y, hy, hview, -⟩
    · exact Or.inl (repackTimes_succ_of_none hnone k)
    · rw [repackTimes_succ hy, ← hview]
      exact ih (isLinkable_of_unpack hy)

/-- What reading and packing a link again and again comes to, if the link is read as `a` at first. -/
structure Settles (link : String) (a : Identifier) : Prop where
  /-- The run is over after at most one step more than the path has segments. -/
  ends : ∃ k ≤ a.depth + 1, ∃ text, repackTimes k link = .ok (some text) ∧ IsSettled text
  /-- All identifiers of the run have the view of the first one. -/
  view : ∀ k, repackTimes k link = .ok none ∨ ∃ text, repackTimes k link = .ok (some text) ∧ ShowsView a.view text

/-- **Packing a link again and again settles**, and version, latest flag and block stay as they are. -/
theorem repack_settles {link : String} {a : Identifier} (h : unpack link = .ok (some a)) : Settles link a where
  ends := by
    obtain ⟨k, hk, text, htext, hsettled⟩ := (isLinkable_of_unpack h).settles
    refine ⟨k + 1, Nat.succ_le_succ hk, text, ?_, hsettled⟩
    rw [repackTimes_succ h, htext]
  view k := by
    cases k with
    | zero => exact Or.inr ⟨link, rfl, Or.inr ⟨a, h, rfl⟩⟩
    | succ k =>
      rw [repackTimes_succ h]
      exact (isLinkable_of_unpack h).view_repackTimes k

/-- A link in which keys of types stand one behind the other, as it is read. -/
def nestedDocument : Identifier where
  id := "hm://d/d/comment//x"
  entityType := .document
  uid := "d"
  path := some ["d", "comment", "", "x"]
  view := { version := some "1", latest := true, blockRef := some "BLOCKID1", blockRange := some (.span 2 5) }
  hostname := none
  scheme := some "hm"

theorem repack_settles_nested :
    unpack "hm://d/d/d/comment//x/?l&v=1#BLOCKID1[2:5]" = .ok (some nestedDocument) ∧
      Settles "hm://d/d/d/comment//x/?l&v=1#BLOCKID1[2:5]" nestedDocument ∧
      repackTimes 3 "hm://d/d/d/comment//x/?l&v=1#BLOCKID1[2:5]" = .ok (some "hm://comment/x?v=1&l#BLOCKID1[2:5]") := by
  have h : unpack "hm://d/d/d/comment//x/?l&v=1#BLOCKID1[2:5]" = .ok (some nestedDocument) := by decide +kernel
  exact ⟨h, repack_settles h, by decide +kernel⟩

end Identifier

end Hyperlink
