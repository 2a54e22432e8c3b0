import Hyperlink.Json.Value
import Hyperlink.Proofs.Dictionary.Entries

/-!
# Hyperlink.Proofs.Json.Sorting — sorting a value is done once

* `Json.rec_parts`: induction over a value with a hypothesis for each item and for the value of each member.
* `isUsable_sorted`, `sorted_sorted`: **sorting keeps a value usable, and sorting again changes nothing.**
-/

namespace Hyperlink

namespace Json

theorem itemsUsable_iff {items : List Json} : itemsUsable items = true ↔ ∀ v ∈ items, v.isUsable = true := by
  induction items with
  | nil => simp [itemsUsable]
  | cons v vs ih => simp [itemsUsable, ih]

theorem membersUsable_iff {members : List (String × Json)} :
    membersUsable members = true ↔ ∀ m ∈ members, m.2.isUsable = true := by
  induction members with
  | nil => simp [membersUsable]
  | cons m ms ih => simp [membersUsable, ih]

theorem membersUsable_perm {members members' : List (String × Json)} (h : members.Perm members') :
    membersUsable members = membersUsable members' := by
  rw [Bool.eq_iff_iff, membersUsable_iff, membersUsable_iff]
  simp only [h.mem_iff]

theorem sortedItems_eq_map (items : List Json) : sortedItems items = items.map sorted := by
  induction items with
  | nil => rfl
  | cons v vs ih => rw [sortedItems, ih, List.map_cons]

theorem sortedMembers_eq_map (members : List (String × Json)) :
    sortedMembers members = members.map fun m => (m.1, m.2.sorted) := by
  induction members with
  | nil => rfl
  | cons m ms ih => rw [sortedMembers, ih, List.map_cons]

/-- What holds of the members of a sorted object, if it holds of the sorted value of each member. -/
theorem of_mem_sortedMembers {P : Json → Prop} {members : List (String × Json)}
    (h : ∀ m ∈ members, P m.2.sorted) : ∀ m ∈ Dictionary.ofPairs (sortedMembers members), P m.2 := by
  intro m hm
  have hmem := Dictionary.mem_ofPairs hm
  rw [sortedMembers_eq_map] at hmem
  obtain ⟨m', hm', rfl⟩ := List.mem_map.mp hmem
  exact h m' hm'

/-- **Induction over a value** with a hypothesis for each item and for the value of each member. -/
@[elab_as_elim]
theorem rec_parts {motive : Json → Prop} (null : motive null) (bool : ∀ b, motive (bool b))
    (number : ∀ n, motive (number n)) (string : ∀ s, motive (string s))
    (array : ∀ items, (∀ v ∈ items, motive v) → motive (array items))
    (object : ∀ members, (∀ m ∈ members, motive m.2) → motive (object members)) (refused : motive refused) :
    ∀ j, motive j
  | .null => null
  | .bool b => bool b
  | .number n => number n
  | .string s => string s
  | .array items => array items fun v _ => rec_parts null bool number string array object refused v
  | .object members => object members fun m _ => rec_parts null bool number string array object refused m.2
  | .refused => refused
termination_by j => sizeOf j
decreasing_by
  · have hv : sizeOf v < sizeOf items := List.sizeOf_lt_of_mem ‹_›
    simp only [Json.array.sizeOf_spec]
    omega
  · have hm : sizeOf m < sizeOf members := List.sizeOf_lt_of_mem ‹_›
    cases m
    simp only [Prod.mk.sizeOf_spec, Json.object.sizeOf_spec] at hm ⊢
    omega

theorem isUsable_sorted {j : Json} (h : j.isUsable = true) : j.sorted.isUsable = true := by
  induction j using rec_parts with
  | null | bool | number | string => rfl
  | array items ih =>
    rw [sorted, isUsable, sortedItems_eq_map, itemsUsable_iff]
    intro v hv
    obtain ⟨v', hv', rfl⟩ := List.mem_map.mp hv
    exact ih v' hv' (itemsUsable_iff.mp h v' hv')
  | object members ih =>
    rw [sorted, isUsable, membersUsable_iff]
    exact of_mem_sortedMembers (P := fun v => v.isUsable = true) fun m hm => ih m hm (membersUsable_iff.mp h m hm)
  | refused => exact h

/-- **Sorting again changes nothing.** -/
theorem sorted_sorted (j : Json) : j.sorted.sorted = j.sorted := by
  induction j using rec_parts with
  | null | bool | number | string | refused => rfl
  | array items ih =>
    rw [sorted, sorted, sortedItems_eq_map, sortedItems_eq_map, List.map_map]
    exact congrArg Json.array (List.map_congr_left fun v hv => ih v hv)
  | object members ih =>
    -- every value is sorted already, so only the order of the keys could change, and that ascends
    have hvalues : sortedMembers (Dictionary.ofPairs (sortedMembers members)) =
        Dictionary.ofPairs (sortedMembers members) := by
      rw [sortedMembers_eq_map (Dictionary.ofPairs _)]
      have hsorted := of_mem_sortedMembers (P := fun v => v.sorted = v) ih
      calc (Dictionary.ofPairs (sortedMembers members)).map (fun m => (m.1, m.2.sorted))
          = (Dictionary.ofPairs (sortedMembers members)).map id :=
            List.map_congr_left fun m hm => Prod.ext rfl (hsorted m hm)
        _ = Dictionary.ofPairs (sortedMembers members) := List.map_id _
    rw [sorted, sorted, hvalues, Dictionary.ofPairs_eq_self (Dictionary.ascending_ofPairs _)]

end Json

end Hyperlink
