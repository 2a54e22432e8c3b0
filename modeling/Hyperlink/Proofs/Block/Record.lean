import Hyperlink.Proofs.Identifier.Record
import Hyperlink.Proofs.Json.Members
import Hyperlink.Proofs.Json.RoundTrip

/-!
# Hyperlink.Proofs.Block.Record — a range next to a block id

The members of a range stand next to the block id of a reference, without an object of their own.

* `BlockRange.ofMembers?_congr`: a range is read from the members with its keys, wherever they stand and whatever stands
  next to them.
* `BlockRef.ofJson?_object`: a reference is refused if its object cannot be used, and otherwise has the range that the
  object is read as, if any.
* `BlockRef.flat_range_reads_alike`: **so a range next to a block id is read like the range on its own**, and every
  reference is read again from its record.
* `BlockRef.huge_number_refused`: a number beyond every double spoils the reference, not only its range.
-/

namespace Hyperlink

open Json

namespace BlockRange

/-- The keys of both forms of a range. -/
def keys : List String := ["start", "end", "expanded"]

variable {ms ms' : List (String × Json)}

theorem ofMembers?_congr (h : ∀ key ∈ keys, member? ms key = member? ms' key) : ofMembers? ms = ofMembers? ms' := by
  have hrequired : ∀ {α : Type} (read : Json → Option α), ∀ key ∈ keys,
      required ms key read = required ms' key read := by
    intro α read key hkey
    unfold required
    rw [h key hkey]
  unfold ofMembers?
  rw [hrequired uint32? "start" (by decide), hrequired uint32? "end" (by decide),
    hrequired bool? "expanded" (by decide)]

/-- Members with other keys are skipped. -/
theorem ofMembers?_filter {p : String × Json → Bool} (h : ∀ m, m.1 ∈ keys → p m) :
    ofMembers? (ms.filter p) = ofMembers? ms := by
  refine ofMembers?_congr fun key hkey => member?_filter fun m _ heq => ?_
  exact h m (heq ▸ hkey)

theorem ofMembers?_cons {m : String × Json} (h : m.1 ∉ keys) : ofMembers? (m :: ms) = ofMembers? ms := by
  refine ofMembers?_congr fun key hkey => member?_cons_of_ne ?_
  rintro rfl
  exact h hkey

/-- A range is read from its members in any order. -/
theorem ofJson?_perm (h : ms.Perm ms') : ofJson? (.object ms) = ofJson? (.object ms') := by
  rw [ofJson?, ofJson?, membersUsable_perm h, ofMembers?_congr fun key _ => member?_perm h key]

end BlockRange

namespace BlockRef

variable {members : List (String × Json)} {id : String}

/-- Next to a block id that is a text the other members decide whether the object can be used. -/
theorem membersUsable_filter (hid : members.filter (·.1 = "blockId") = [("blockId", .string id)]) :
    membersUsable (members.filter (·.1 ≠ "blockId")) = membersUsable members := by
  rw [Bool.eq_iff_iff, membersUsable_iff, membersUsable_iff]
  constructor
  · intro h m hm
    by_cases hkey : m.1 = "blockId"
    · have hmem : m ∈ members.filter (·.1 = "blockId") := List.mem_filter.mpr ⟨hm, by simpa using hkey⟩
      rw [hid, List.mem_singleton] at hmem
      rw [hmem]
      rfl
    · exact h m (List.mem_filter.mpr ⟨hm, by simpa using hkey⟩)
  · intro h m hm
    exact h m (List.mem_of_mem_filter hm)

/-- **A reference is read** iff its object can be used. Its range is the one that the object is read as. -/
theorem ofJson?_object (hid : members.filter (·.1 = "blockId") = [("blockId", .string id)]) :
    ofJson? (.object members) =
      if membersUsable members then some ⟨id, BlockRange.ofJson? (.object members)⟩ else none := by
  have hblock : required members "blockId" string? = some id := required_of_member? (member?_eq_some_iff.mpr hid)
  have hrange : BlockRange.ofMembers? (members.filter (·.1 ≠ "blockId")) = BlockRange.ofMembers? members := by
    refine BlockRange.ofMembers?_filter fun m hm => ?_
    have hne : m.1 ≠ "blockId" := by
      intro heq
      rw [heq] at hm
      exact absurd hm (by decide)
    simpa using hne
  simp only [ofJson?, hblock, Option.bind_eq_bind, Option.bind_some, membersUsable_filter hid, hrange,
    BlockRange.ofJson?]
  by_cases husable : membersUsable members = true
  · simp only [if_pos husable]
  · simp only [if_neg husable]

/-! ## Records of references -/

/-- A reference is read again from its record. -/
theorem ofJson?_toJson (b : BlockRef) : ofJson? b.toJson = some b := by
  obtain ⟨id, range⟩ := b
  cases range with
  | none => rfl
  | some r =>
    have hid : (("blockId", Json.string id) :: r.toMembers).filter (·.1 = "blockId") = [("blockId", .string id)] := by
      cases r <;> rfl
    have husable : membersUsable (("blockId", .string id) :: r.toMembers) = true := by cases r <;> rfl
    have hkey : "blockId" ∉ BlockRange.keys := by decide
    have hskip : BlockRange.ofMembers? (("blockId", .string id) :: r.toMembers) = some r := by
      rw [BlockRange.ofMembers?_cons hkey, BlockRange.ofMembers?_toMembers]
    rw [toJson, Option.map_some, Option.getD_some, ofJson?_object hid, if_pos husable, BlockRange.ofJson?,
      if_pos husable, hskip]

theorem writable_toJson {depth : Nat} (hdepth : depth < maxDepth) (b : BlockRef) : Writable depth b.toJson := by
  refine .object hdepth (List.forall_mem_cons.mpr ⟨.string b.blockId, ?_⟩)
  cases b.range with
  | none => exact List.forall_mem_nil _
  | some r => exact BlockRange.writable_toMembers r

/-- **A range next to a block id is read like the range on its own.** In an object where the block id occurs once and is
a text, the other members may stand in any order, and any of them may be repeated, missing or of the wrong kind: the
reference has the range that the object is read as, or none if it is read as none. An object with a value that cannot
be held is refused by both readers. And every reference is read again from its record and from the text of that. -/
theorem flat_range_reads_alike :
    (∀ (members : List (String × Json)) (id : String),
      members.filter (·.1 = "blockId") = [("blockId", .string id)] →
      (membersUsable members = true →
        ofJson? (.object members) = some ⟨id, BlockRange.ofJson? (.object members)⟩) ∧
      (membersUsable members = false →
        ofJson? (.object members) = none ∧ BlockRange.ofJson? (.object members) = none)) ∧
    ∀ b : BlockRef, ofJson? b.toJson = some b ∧ (Json.parse? b.toJson.compact).bind ofJson? = some b := by
  constructor
  · intro members id hid
    constructor
    · intro husable
      rw [ofJson?_object hid, if_pos husable]
    · intro hrefused
      have husable : ¬ membersUsable members = true := by
        rw [hrefused]
        exact Bool.false_ne_true
      exact ⟨by rw [ofJson?_object hid, if_neg husable], if_neg husable⟩
  · intro b
    refine ⟨ofJson?_toJson b, ?_⟩
    rw [parse?_compact (writable_toJson (by decide) b)]
    exact ofJson?_toJson b

/-- Members of all kinds next to a block id, from which the second form of a range is read. -/
def muddled : List (String × Json) :=
  [("end", .ofNat 5), ("note", .null), ("start", .ofNat 4294967296), ("blockId", .string "BLOCKID1"),
    ("expanded", .bool true), ("start", .ofNat 2)]

theorem flat_range_reads_alike_muddled :
    muddled.filter (·.1 = "blockId") = [("blockId", .string "BLOCKID1")] ∧ membersUsable muddled = true ∧
      ofJson? (.object muddled) = some ⟨"BLOCKID1", some (.expanded true)⟩ ∧
      membersUsable (("huge", .refused) :: muddled) = false ∧
      ofJson? (.object (("huge", .refused) :: muddled)) = none := by
  have hread := flat_range_reads_alike.1 muddled "BLOCKID1" rfl
  have hrefused := flat_range_reads_alike.1 (("huge", .refused) :: muddled) "BLOCKID1" rfl
  exact ⟨rfl, rfl, hread.1 rfl, rfl, (hrefused.2 rfl).1⟩

/-- The text of an object with a number beyond every double as the start of a range. -/
def hugeStart : String := "\x7b\"blockId\":\"BLOCKID1\",\"start\":1e999,\"end\":5\x7d"

theorem ofChars?_hugeStart : Token.ofChars? hugeStart.toList =
    some [.openObject, .string (some "blockId"), .colon, .string (some "BLOCKID1"), .comma, .string (some "start"),
      .colon, .number none, .comma, .string (some "end"), .colon, .number (some (.integer 5)), .closeObject] := by
  decide +kernel

theorem parse?_hugeStart : Json.parse? hugeStart =
    some (.object [("blockId", .string "BLOCKID1"), ("start", .refused), ("end", .ofNat 5)]) := by
  rw [Json.parse?, ofChars?_hugeStart]
  rfl

/-- Not every object with a block id is read: a number beyond every double is no range, but it spoils the reference. -/
theorem huge_number_refused :
    ¬ ∀ (text : String) (members : List (String × Json)) (id : String), Json.parse? text = some (.object members) →
      members.filter (·.1 = "blockId") = [("blockId", .string id)] →
      ofJson? (.object members) = some ⟨id, BlockRange.ofJson? (.object members)⟩ := by
  intro h
  have hread := h hugeStart _ "BLOCKID1" parse?_hugeStart rfl
  cases hread

end BlockRef

end Hyperlink
