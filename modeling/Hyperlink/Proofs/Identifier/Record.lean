import Hyperlink.Identifier.Json
import Hyperlink.Proofs.Json.Nesting

/-!
# Hyperlink.Proofs.Identifier.Record — an identifier comes back from its JSON record

* `BlockRange.ofJson?_toJson`, `Identifier.ofJson?_toJson`: **what is written as a record is read as the same value.**
* `list?_map`, `nullable_of_ne_null`: lists and values that may be null, from the reader of a single value.
* `Identifier.writable_toJson`: a record takes two levels, so its text can be read back.
-/

namespace Hyperlink

open Json

namespace Json

theorem nullable_of_ne_null {α : Type} {read : Json → Option α} {j : Json} {a : α} (hj : j ≠ null)
    (h : read j = some a) : nullable read j = some (some a) := by
  cases j <;> simp_all [nullable]

@[simp] theorem nullable_ofText? (s : Option String) : nullable string? (ofText? s) = some s := by
  cases s <;> rfl

theorem list?_map {α : Type} {read : Json → Option α} {write : α → Json} {xs : List α}
    (h : ∀ x ∈ xs, read (write x) = some x) : list? read (array (xs.map write)) = some xs := by
  induction xs with
  | nil => rfl
  | cons x xs ih =>
    have hxs := ih fun y hy => h y (List.mem_cons_of_mem x hy)
    rw [list?] at hxs ⊢
    rw [List.map_cons, List.mapM_cons, h x List.mem_cons_self, hxs]
    rfl

end Json

theorem EntityType.ofJson?_toJson (t : EntityType) : EntityType.ofJson? t.toJson = some t := by
  cases t <;> rfl

theorem uint32?_ofNat (n : UInt32) : Json.uint32? (.ofNat n.toNat) = some n := by
  have hlt : (n.toNat : Int) < (UInt32.size : Nat) := Int.ofNat_lt.mpr n.toNat_lt_size
  simp only [Json.ofNat, Json.uint32?, hlt, Int.natCast_nonneg, Int.toNat_natCast, and_self, if_true,
    UInt32.ofNat_toNat]

theorem BlockRange.ofMembers?_span {a b : Json} {start stop : UInt32} (ha : uint32? a = some start)
    (hb : uint32? b = some stop) : BlockRange.ofMembers? [("start", a), ("end", b)] = some (.span start stop) := by
  have hstart : required [("start", a), ("end", b)] "start" uint32? = some start := by
    simp [required, member?, ha]
  have hstop : required [("start", a), ("end", b)] "end" uint32? = some stop := by
    simp [required, member?, hb]
  rw [BlockRange.ofMembers?, hstart, hstop]
  rfl

theorem BlockRange.ofMembers?_toMembers (r : BlockRange) : BlockRange.ofMembers? r.toMembers = some r := by
  cases r with
  | span start stop => exact BlockRange.ofMembers?_span (uint32?_ofNat start) (uint32?_ofNat stop)
  | expanded on => rfl

theorem BlockRange.ofJson?_toJson (r : BlockRange) : BlockRange.ofJson? r.toJson = some r := by
  have husable : membersUsable r.toMembers = true := by cases r <;> rfl
  rw [BlockRange.toJson, BlockRange.ofJson?, if_pos husable, BlockRange.ofMembers?_toMembers]

@[simp] theorem BlockRange.nullable_optionalToJson (r : Option BlockRange) :
    nullable BlockRange.ofJson? (BlockRange.optionalToJson r) = some r := by
  cases r with
  | none => rfl
  | some r =>
    have hnull : r.toJson ≠ null := by simp [BlockRange.toJson]
    exact nullable_of_ne_null hnull (BlockRange.ofJson?_toJson r)

theorem nullable_pathToJson (path : Option (List String)) :
    nullable (list? string?) (Identifier.pathToJson path) = some path := by
  cases path with
  | none => rfl
  | some p =>
    have hlist : list? string? (array (p.map Json.string)) = some p := list?_map fun s _ => rfl
    exact nullable_of_ne_null (fun h => Json.noConfusion h) hlist

/-- **An identifier** is read again from its record. -/
theorem Identifier.ofJson?_toJson (x : Identifier) : Identifier.ofJson? x.toJson = some x := by
  simp [Identifier.toJson, toFields, Identifier.ofJson?, ofMembers?, required, Json.optional, defaulting, member?,
    string?, EntityType.ofJson?_toJson, nullable_pathToJson, bool?]

/-! ## What is written can be read back -/

namespace Json

theorem writable_ofText? (depth : Nat) (s : Option String) : Writable depth (ofText? s) := by
  cases s with
  | none => exact .null
  | some s => exact .string s

theorem writable_ofUInt32 (depth : Nat) (n : UInt32) : Writable depth (ofNat n.toNat) := by
  have hn : n.toNat < 4294967296 := n.toNat_lt
  refine .integer ?_
  simp only [integerFits, Bool.and_eq_true, decide_eq_true_eq]
  omega

end Json

theorem BlockRange.writable_toMembers {depth : Nat} (r : BlockRange) : ∀ m ∈ r.toMembers, Writable depth m.2 := by
  cases r with
  | span start stop =>
    simp only [toMembers, List.forall_mem_cons]
    exact ⟨writable_ofUInt32 _ start, writable_ofUInt32 _ stop, by simp⟩
  | expanded on => simpa [toMembers] using Writable.bool on

theorem BlockRange.writable_optionalToJson {depth : Nat} (hdepth : depth < maxDepth) (r : Option BlockRange) :
    Writable depth (BlockRange.optionalToJson r) := by
  cases r with
  | none => exact .null
  | some r => exact .object hdepth (BlockRange.writable_toMembers r)

theorem Identifier.writable_toJson {depth : Nat} (hdepth : depth + 1 < maxDepth) (x : Identifier) :
    Writable depth x.toJson := by
  have hpath : Writable (depth + 1) (pathToJson x.path) := by
    cases x.path with
    | none => exact .null
    | some p =>
      refine .array hdepth fun v hv => ?_
      obtain ⟨s, -, rfl⟩ := List.mem_map.mp hv
      exact .string s
  refine .object (by omega) ?_
  simp only [toFields, List.forall_mem_cons]
  exact ⟨.string _, .string _, .string _, hpath, writable_ofText? _ _, .bool _, writable_ofText? _ _,
    BlockRange.writable_optionalToJson hdepth _, writable_ofText? _ _, writable_ofText? _ _, by simp⟩

end Hyperlink
