import Hyperlink.Proofs.Identifier.Forms
import Hyperlink.Proofs.Identifier.Invariant

/-!
# Hyperlink.Proofs.Identifier.Fragment — the block of a link is found in two ways

`BlockRef.ofLink?` reads what stands behind the first `#` of a text, whatever the text is. `unpack` looks for a `#` only
behind `://`, and builds the identifier from what it reads there.

* `ofLink?_append`: a text without `#` in front has no say in the first way.
* `ofLink?_text`: the first `#` of a link begins its fragment, since no scheme of a link holds one.
* `block_found_alike`: **both ways find the same block.** Building keeps a block that was read as it is.
-/

namespace Hyperlink

open Identifier (viewOf normalizeView)

namespace BlockRef

theorem ofLink?_eq (link : String) :
    ofLink? link = ((Locator.cutOptional '#' link.toList).2.map String.ofList).bind parse? := by
  unfold ofLink? Locator.cutOptional
  cases Text.cutAt '#' link.toList <;> rfl

/-- The text in front of the first `#` has no say in the block. -/
theorem ofLink?_append {front : String} (h : '#' ∉ front.toList) (fragment : String) :
    ofLink? (front ++ "#" ++ fragment) = parse? fragment := by
  have hcut : Text.cutAt '#' (front ++ "#" ++ fragment).toList = some (front.toList, fragment.toList) := by
    rw [String.toList_append, String.toList_append, List.append_assoc]
    exact Text.cutAt_append h fragment.toList
  unfold ofLink?
  rw [hcut]
  simp only [String.ofList_toList]

/-- The first `#` of proper parts begins the fragment, unless it stands in the scheme. -/
theorem ofLink?_text {p : Locator.Parts} (h : p.IsProper) (hscheme : '#' ∉ p.scheme.toList) :
    ofLink? p.text = p.fragment.bind parse? := by
  have hfront : '#' ∉ p.scheme.toList ++ ("://".toList ++
      (("/".intercalate p.segments).toList ++ (Locator.marked '?' p.query).toList)) := by
    rw [List.mem_append, List.mem_append, not_or, not_or]
    exact ⟨hscheme, by decide, h.not_mem_front⟩
  have htext : p.text.toList = p.scheme.toList ++ ("://".toList ++
      (("/".intercalate p.segments).toList ++ (Locator.marked '?' p.query).toList)) ++
        (Locator.marked '#' p.fragment).toList := by
    simp only [Locator.Parts.text, Locator.Parts.rest, String.toList_append, List.append_assoc]
  rw [ofLink?_eq, htext, Locator.cutOptional_marked hfront, Option.map_map]
  congr 1
  cases p.fragment <;> simp

end BlockRef

namespace Identifier

/-- What is found behind the first `#` of a link is the block of its identifier. -/
theorem block_of_unpack {link : String} {x : Identifier} (h : unpack link = .ok (some x)) :
    (BlockRef.ofLink? link).map BlockRef.blockId = x.view.blockRef ∧
      (BlockRef.ofLink? link).bind BlockRef.range = x.view.blockRange := by
  obtain ⟨p, a, hp, rfl, ha, rfl⟩ := unpack_parts h
  have hview : (a.identifier (viewOf p.locator) p.scheme).view = viewOf p.locator := View.normalizeView_viewOf p.locator
  rw [BlockRef.ofLink?_text hp (Address.not_mem_scheme ha (by decide) (by decide)), hview]
  exact ⟨rfl, rfl⟩

/-- **The two ways of finding a block agree.** For a link they give the same block and range; and behind any text
without `#` the first one reads the fragment alone. -/
theorem block_found_alike :
    (∀ link : String, ∃ r, unpack link = .ok r ∧ ∀ x, r = some x →
      (BlockRef.ofLink? link).map BlockRef.blockId = x.view.blockRef ∧
        (BlockRef.ofLink? link).bind BlockRef.range = x.view.blockRange) ∧
    ∀ front fragment : String, '#' ∉ front.toList →
      BlockRef.ofLink? (front ++ "#" ++ fragment) = BlockRef.parse? fragment := by
  refine ⟨fun link => ?_, fun front fragment h => BlockRef.ofLink?_append h fragment⟩
  obtain ⟨r, hr⟩ := exists_unpack link
  refine ⟨r, hr, ?_⟩
  rintro x rfl
  exact block_of_unpack hr

/-- A link with more than one `#` and `://`, and a text that is no link. -/
theorem block_found_alike_crowded :
    (∃ x, unpack "hM://d/u?v=://#abcdef#:[07:9]" = .ok (some x) ∧
      (BlockRef.ofLink? "hM://d/u?v=://#abcdef#:[07:9]").map BlockRef.blockId = x.view.blockRef ∧
      (BlockRef.ofLink? "hM://d/u?v=://#abcdef#:[07:9]").bind BlockRef.range = x.view.blockRange ∧
      x.view.blockRef = some "abcdef#:" ∧ x.view.blockRange = some (.span 7 9)) ∧
    '#' ∉ "no link?".toList ∧
      BlockRef.ofLink? ("no link?" ++ "#" ++ "#hm://a") = BlockRef.parse? "#hm://a" := by
  have hfront : '#' ∉ "no link?".toList := by decide
  refine ⟨?_, hfront, block_found_alike.2 "no link?" "#hm://a" hfront⟩
  obtain ⟨x, hx, hblock, hrange⟩ : ∃ x, unpack "hM://d/u?v=://#abcdef#:[07:9]" = .ok (some x) ∧
      x.view.blockRef = some "abcdef#:" ∧ x.view.blockRange = some (.span 7 9) :=
    ⟨_, rfl, rfl, rfl⟩
  obtain ⟨r, hr, hread⟩ := block_found_alike.1 "hM://d/u?v=://#abcdef#:[07:9]"
  obtain ⟨hid, hspan⟩ := hread x (Except.ok.inj (hr.symm.trans hx))
  exact ⟨x, hx, hid, hspan, hblock, hrange⟩

end Identifier

end Hyperlink
