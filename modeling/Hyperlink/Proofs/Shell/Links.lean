import Hyperlink.Proofs.Identifier.Pinning
import Hyperlink.Shell.Run

/-!
# Hyperlink.Proofs.Shell.Links — the program prints the links that were asked for

The text of a block that a user gives is read like the fragment of a link, written behind the link that is printed, and
read again with it. It may hold any character.

* `Request.Answers`: a request is carried out with a link as its answer; `Invocation.run_of_answers`: a call with such a
  request prints the link.
* `Request.answers_pack`, `Request.answers_withVersion`: which links these are.
* `links_print_as_asked`: they are read as the parts that were given, whatever the text of the block.
-/

namespace Hyperlink.Shell

open Identifier (ofParts normalizePath)

/-! ## Answers -/

/-- The request is carried out, with the link as its answer. -/
def Request.Answers (r : Request) (gateway : String) (files : Files) (link : String) : Prop :=
  ∃ c, r.toCommand gateway files = .ok (.ok c) ∧ c.run gateway = .ok (.ok (.link link))

/-- A call that is answered with a link prints it on a line. -/
theorem Invocation.run_of_answers {i : Invocation} {env : Option String} {before files : Files} {gateway link : String}
    (hgateway : i.resolveGateway env before = .ok gateway) (hsave : i.save gateway before = .ok files)
    (h : i.request.Answers gateway files link) : i.run env before = .ok ⟨files, .ok (link ++ "\n")⟩ := by
  obtain ⟨c, hc, hrun⟩ := h
  unfold Invocation.run
  simp only [hgateway, hsave, hc, hrun, bind, Except.bind]
  rfl

theorem Request.answers_pack {uid : String} (h : uid ≠ "") (t : EntityType) (path version : Option String)
    (latest : Bool) (block : Option String) (gateway : String) (files : Files) :
    (pack t.key uid path version latest block).Answers gateway files
      (ofParts t uid { path := path.map (Text.pieces '/'), view := View.ofFragment version latest block }).pack := by
  have hparse : EntityType.parse t.key = .ok t := by
    unfold EntityType.parse
    rw [EntityType.ofKey?_key]
  refine ⟨.pack (ofParts t uid { path := path.map (Text.pieces '/'), view := View.ofFragment version latest block }),
    ?_, rfl⟩
  simp only [toCommand, hparse, BlockRef.readOptional_eq, Identifier.create_eq h, bind, Except.bind]
  rfl

theorem Request.answers_withVersion {s : String} {a : Identifier} (h : Identifier.unpack s = .ok (some a))
    (version : String) (block : Option String) (gateway : String) (files : Files) :
    (withVersion s version block).Answers gateway files
      (a.pinned (some version) ((block.bind BlockRef.parse?).map BlockRef.blockId)
        ((block.bind BlockRef.parse?).bind BlockRef.range)).pack := by
  refine ⟨.withVersion s (some version) ((block.bind BlockRef.parse?).map BlockRef.blockId)
    ((block.bind BlockRef.parse?).bind BlockRef.range), ?_, ?_⟩
  · simp only [toCommand, BlockRef.readOptional_eq, bind, Except.bind]
    rfl
  simp only [Command.run, Identifier.linkWithVersion_pinned h, bind, Except.bind]
  rfl

/-! ## Links -/

/-- The requests for links are answered with what was asked for. -/
structure PrintsAsAsked (gateway : String) (files : Files) : Prop where
  /-- A link that is put together is read as the given parts: the pieces of the path without the empty ones at its ends,
  and the block that the text for it is read as. -/
  pack : ∀ (t : EntityType) uid path version latest block, uid ≠ "" → IsSegment uid →
    ¬ (t = .document ∧ ∃ k : EntityType, uid = k.key) →
    (∀ p, path = some p → '?' ∉ p.toList ∧ '#' ∉ p.toList) →
    (∀ w, version = some w → '&' ∉ w.toList ∧ '#' ∉ w.toList) →
    ∃ link x, (Request.pack t.key uid path version latest block).Answers gateway files link ∧
      Identifier.unpack link = .ok (some x) ∧ x.entityType = t ∧ x.uid = uid ∧
      x.path.getD [] = Text.stripEnds (· = "") ((path.map (Text.pieces '/')).getD []) ∧ x.path ≠ some [] ∧
      x.view = View.ofFragment (View.nonempty version) latest block
  /-- A link that is pinned is read as the entity of the given one, at the given version if that is not empty, and at the
  block that the text for it is read as. -/
  withVersion : ∀ s a version block, Identifier.unpack s = .ok (some a) → ¬ a.IsReserved →
    '&' ∉ version.toList ∧ '#' ∉ version.toList →
    ∃ link x, (Request.withVersion s version block).Answers gateway files link ∧
      Identifier.unpack link = .ok (some x) ∧ x.entityType = a.entityType ∧ x.uid = a.uid ∧ x.path = a.path ∧
      x.view = View.ofFragment (if version = "" then a.view.version else some version) false block
  /-- A call with this gateway that leaves these files prints the link of its answer. -/
  printed : ∀ (i : Invocation) env before link, i.resolveGateway env before = .ok gateway →
    i.save gateway before = .ok files → i.request.Answers gateway files link →
    i.run env before = .ok ⟨files, .ok (link ++ "\n")⟩

/-- **The program prints the links that were asked for**, for any text of the block. -/
theorem links_print_as_asked (gateway : String) (files : Files) : PrintsAsAsked gateway files where
  pack t uid path version latest block hne huid hr hpath hversion := by
    have hpieces : ∀ s ∈ (path.map (Text.pieces '/')).getD [], IsSegment s := by
      intro s hs
      cases path with
      | none => cases hs
      | some p => exact Locator.isSegment_of_mem_pieces (hpath p rfl).1 (hpath p rfl).2 hs
    have hversion : ∀ w, View.nonempty version = some w → '&' ∉ w.toList ∧ '#' ∉ w.toList :=
      fun w hw => hversion w (View.nonempty_eq_some.mp hw).1
    obtain ⟨x, hx, htype, hxuid, hxpath, hview⟩ :=
      Identifier.unpack_pack_ofFragment hne huid hpieces hr hversion latest block
    refine ⟨_, x, Request.answers_pack hne t path version latest block gateway files, hx, htype, hxuid, ?_, ?_, hview⟩
    · rw [hxpath, Identifier.getD_normalizePath]
    · rw [hxpath]
      exact Identifier.normalizePath_ne_nil _
  withVersion s a version block h hr hversion := by
    have hplain : ∀ w, View.nonempty (some version) = some w → '&' ∉ w.toList ∧ '#' ∉ w.toList := by
      intro w hw
      obtain ⟨hw, -⟩ := View.nonempty_eq_some.mp hw
      exact Option.some.inj hw ▸ hversion
    have hgiven : (View.nonempty (some version)).or a.view.version =
        if version = "" then a.view.version else some version := by
      by_cases hempty : version = ""
      · rw [if_pos hempty, hempty]
        rfl
      · rw [if_neg hempty, View.nonempty_eq_some.mpr ⟨rfl, hempty⟩]
        rfl
    obtain ⟨x, hx, htype, huid, hpath, hview⟩ := Identifier.unpack_pinned h hr hplain block
    rw [hgiven] at hview
    exact ⟨_, x, Request.answers_withVersion h version block gateway files, hx, htype, huid, hpath, hview⟩
  printed _ _ _ _ := Invocation.run_of_answers

/-- A call for a link with slashes around its path and separators in its block. -/
def hostileCall : Invocation where
  request := .pack "comment" "d" (some "//a//b/") (some "1?") true (some "#?[1:2]")
  gateway := none
  config := none
  saveGateway := false

theorem links_print_as_asked_hostile :
    (∃ link x, hostileCall.run none (.ofPairs []) = .ok ⟨.ofPairs [], .ok (link ++ "\n")⟩ ∧
      Identifier.unpack link = .ok (some x) ∧ x.entityType = .comment ∧ x.uid = "d" ∧ x.path.getD [] = ["a", "", "b"] ∧
      x.view = { version := some "1?", latest := true, blockRef := some "#?[1:2]" }) ∧
    ∃ link x, (Request.withVersion "hTTp://h/hm/a/b?v=7&l" "" (some "BLOCKID1[007:8]")).Answers publicGateway (.ofPairs [])
        link ∧ Identifier.unpack link = .ok (some x) ∧ x.uid = "a" ∧ x.path = some ["b"] ∧
      x.view = { version := some "7", blockRef := some "BLOCKID1", blockRange := some (.span 7 8) } := by
  have hprints := links_print_as_asked publicGateway (.ofPairs [])
  constructor
  · obtain ⟨link, x, hanswers, hx, htype, huid, hpath, -, hview⟩ :=
      hprints.pack .comment "d" (some "//a//b/") (some "1?") true (some "#?[1:2]") (by decide) (by decide)
        (fun hr => absurd hr.1 (by decide)) (by rintro _ ⟨⟩; decide) (by rintro _ ⟨⟩; decide)
    exact ⟨link, x, hprints.printed hostileCall none (.ofPairs []) link rfl rfl hanswers, hx, htype, huid,
      hpath.trans (by decide), hview.trans (by decide)⟩
  · obtain ⟨a, ha, huid, hpath, hversion⟩ : ∃ a, Identifier.unpack "hTTp://h/hm/a/b?v=7&l" = .ok (some a) ∧
        a.uid = "a" ∧ a.path = some ["b"] ∧ a.view.version = some "7" :=
      ⟨_, rfl, rfl, rfl, rfl⟩
    have hr : ¬ a.IsReserved := Identifier.not_isReserved_of_ofKey? (huid ▸ by decide)
    obtain ⟨link, x, hanswers, hx, -, hxuid, hxpath, hview⟩ :=
      hprints.withVersion _ a "" (some "BLOCKID1[007:8]") ha hr (by decide)
    rw [if_pos rfl, hversion] at hview
    exact ⟨link, x, hanswers, hx, hxuid.trans huid, hxpath.trans hpath, hview.trans (by decide)⟩

end Hyperlink.Shell
