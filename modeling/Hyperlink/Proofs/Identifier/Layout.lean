import Hyperlink.Proofs.Block.Record

/-!
# Hyperlink.Proofs.Identifier.Layout — the layouts of an identifier's record

The object that is written for an identifier can be laid out in other ways: its members, and those of the range in it,
can be put in any order, members that are as their default can be left out, and unknown members can be added.

* `Layout x ms`: the members `ms` are a layout of the record of `x`, reached by any number of such changes.
* `Shows x ms`: what all layouts have in common. Each field of the record is found under its key, or is missing and may
  be. `Shows.reorder`, `Shows.reorderInner`, `Shows.leaveOut` and `Shows.add` are the steps, `Layout.shows` is the
  induction over them.
* `Shows.ofMembers?_eq`: an identifier is read from members that show it.
* `Identifier.read_from_layouts`: **every layout of a record is read as the identifier it was written for**, as is the
  array of its values. An object with a repeated key, or without one of those that have to be there, is refused.
-/

namespace Hyperlink

open Json

namespace Identifier

/-! ## Layouts -/

/-- The keys of a record. -/
def fieldNames : List String :=
  ["id", "type", "uid", "path", "version", "latest", "blockRef", "blockRange", "hostname", "scheme"]

/-- The keys that have to be there. -/
def neededNames : List String := ["id", "type", "uid"]

/-- The keys whose value is null by default. -/
def nullableNames : List String := ["path", "version", "blockRef", "blockRange", "hostname", "scheme"]

/-- The members that say no more than a missing one. -/
inductive MayBeMissing : String × Json → Prop
  | null {key : String} (h : key ∈ nullableNames) : MayBeMissing (key, .null)
  | latest : MayBeMissing ("latest", .bool false)

/-- The members are a layout of the record of an identifier. -/
inductive Layout (x : Identifier) : List (String × Json) → Prop
  /-- The members as they are written. -/
  | written : Layout x x.toFields
  /-- The members in another order. -/
  | reorder {ms ms' : List (String × Json)} : Layout x ms → ms.Perm ms' → Layout x ms'
  /-- The members of a value in another order. -/
  | reorderInner {key : String} {inner inner' ms : List (String × Json)} :
      Layout x ((key, .object inner) :: ms) → inner.Perm inner' → Layout x ((key, .object inner') :: ms)
  /-- A member that may be missing is left out. -/
  | leaveOut {m : String × Json} {ms : List (String × Json)} : Layout x (m :: ms) → MayBeMissing m → Layout x ms
  /-- Any value is added under an unknown key. -/
  | add {key : String} {ms : List (String × Json)} (v : Json) :
      Layout x ms → key ∉ fieldNames → Layout x ((key, v) :: ms)

variable {x : Identifier} {ms ms' : List (String × Json)} {m : String × Json} {key : String} {j v : Json}

theorem map_fst_toFields (x : Identifier) : x.toFields.map Prod.fst = fieldNames := rfl

theorem mem_fieldNames (h : m ∈ x.toFields) : m.1 ∈ fieldNames := map_fst_toFields x ▸ List.mem_map_of_mem h

theorem not_nullable_of_needed : ∀ key ∈ neededNames, key ∉ nullableNames := by decide

namespace Layout

variable {front back inner inner' : List (String × Json)}

/-! The changes of a single member can be made wherever it stands. -/

theorem reorderInner_at (h : Layout x (front ++ (key, .object inner) :: back)) (hperm : inner.Perm inner') :
    Layout x (front ++ (key, .object inner') :: back) :=
  ((h.reorder List.perm_middle).reorderInner hperm).reorder List.perm_middle.symm

theorem leaveOut_at (h : Layout x (front ++ m :: back)) (hm : MayBeMissing m) : Layout x (front ++ back) :=
  (h.reorder List.perm_middle).leaveOut hm

theorem add_at (h : Layout x (front ++ back)) (v : Json) (hkey : key ∉ fieldNames) :
    Layout x (front ++ (key, v) :: back) :=
  (h.add v hkey).reorder List.perm_middle.symm

end Layout

/-! ## What all layouts have in common -/

/-- The second value is the first, up to the order of its members. -/
inductive Rearranged : Json → Json → Prop
  | refl (j : Json) : Rearranged j j
  | object {inner inner' : List (String × Json)} (h : inner.Perm inner') : Rearranged (.object inner) (.object inner')

namespace Rearranged

theorem symm (h : Rearranged j v) : Rearranged v j := by
  cases h with
  | refl => exact .refl j
  | object hperm => exact .object hperm.symm

theorem trans_perm {inner inner' : List (String × Json)} (h : Rearranged j (.object inner))
    (hperm : inner.Perm inner') : Rearranged j (.object inner') := by
  cases h with
  | refl => exact .object hperm
  | object hfirst => exact .object (hfirst.trans hperm)

/-- Only objects can be rearranged. -/
theorem eq (h : Rearranged j v) (hj : ∀ inner, j ≠ .object inner) : v = j := by
  cases h with
  | refl => rfl
  | object => exact absurd rfl (hj _)

end Rearranged

/-- Each field of the record is found under its key, or it is missing and may be. -/
def Shows (x : Identifier) (ms : List (String × Json)) : Prop :=
  ∀ m ∈ x.toFields,
    (∃ v, member? ms m.1 = some (some v) ∧ Rearranged m.2 v) ∨ (member? ms m.1 = some none ∧ MayBeMissing m)

theorem shows_toFields (x : Identifier) : Shows x x.toFields := by
  have hnodup : (x.toFields.map Prod.fst).Nodup := by
    rw [map_fst_toFields]
    decide
  intro m hm
  exact .inl ⟨m.2, member?_of_mem hnodup hm, .refl m.2⟩

namespace Shows

theorem congr (h : Shows x ms) (hmembers : ∀ key ∈ fieldNames, member? ms' key = member? ms key) : Shows x ms' := by
  intro m hm
  rw [hmembers m.1 (mem_fieldNames hm)]
  exact h m hm

theorem reorder (h : Shows x ms) (hperm : ms.Perm ms') : Shows x ms' :=
  h.congr fun key _ => member?_perm hperm.symm key

theorem add (h : Shows x ms) (v : Json) (hkey : key ∉ fieldNames) : Shows x ((key, v) :: ms) := by
  refine h.congr fun key' hkey' => member?_cons_of_ne ?_
  rintro rfl
  exact hkey hkey'

theorem reorderInner {inner inner' : List (String × Json)} (h : Shows x ((key, .object inner) :: ms))
    (hperm : inner.Perm inner') : Shows x ((key, .object inner') :: ms) := by
  intro m hm
  by_cases hkey : key = m.1
  · subst hkey
    rcases h m hm with ⟨v, hv, hrearranged⟩ | ⟨hmissing, -⟩
    · obtain ⟨rfl, hnew⟩ := member?_cons_self.mp hv
      exact .inl ⟨.object inner', member?_cons_self.mpr ⟨rfl, hnew⟩, hrearranged.trans_perm hperm⟩
    · exact absurd List.mem_cons_self (member?_eq_missing_iff.mp hmissing)
  · rw [member?_cons_of_ne hkey]
    have hshown := h m hm
    rwa [member?_cons_of_ne hkey] at hshown

theorem leaveOut (h : Shows x (m :: ms)) (hmissing : MayBeMissing m) : Shows x ms := by
  intro field hfield
  by_cases hkey : m.1 = field.1
  · rcases h field hfield with ⟨v, hv, hrearranged⟩ | ⟨hnone, -⟩
    · rw [← hkey] at hv
      obtain ⟨rfl, hnew⟩ := member?_cons_self.mp hv
      have hvalue : m.2 = field.2 := by
        refine (hrearranged.symm.eq fun inner hinner => ?_).symm
        cases hmissing <;> cases hinner
      have heq : m = field := Prod.ext hkey hvalue
      subst heq
      exact .inr ⟨member?_eq_missing_iff.mpr hnew, hmissing⟩
    · rw [← hkey] at hnone
      exact absurd List.mem_cons_self (member?_eq_missing_iff.mp hnone)
  · have hshown := h field hfield
    rwa [member?_cons_of_ne hkey] at hshown

end Shows

/-- **Every layout shows the fields of its record.** The induction is on the changes that lead to it. -/
theorem Layout.shows (h : Layout x ms) : Shows x ms := by
  induction h with
  | written => exact shows_toFields x
  | reorder _ hperm ih => exact ih.reorder hperm
  | reorderInner _ hperm ih => exact ih.reorderInner hperm
  | leaveOut _ hmissing ih => exact ih.leaveOut hmissing
  | add v _ hkey ih => exact ih.add v hkey

/-! ## Reading the fields that are shown -/

namespace Shows

variable {α : Type} {read : Json → Option α}

/-- A needed field is read as its own value. -/
theorem required (h : Shows x ms) (hm : (key, j) ∈ x.toFields) (hneeded : key ∈ neededNames) {a : α}
    (hread : ∀ v, Rearranged j v → read v = some a) : Json.required ms key read = some a := by
  rcases h _ hm with ⟨v, hv, hrearranged⟩ | ⟨-, hmissing⟩
  · rw [required_of_member? hv, hread v hrearranged]
  · cases hmissing with
    | null hnullable => exact absurd hnullable (not_nullable_of_needed key hneeded)
    | latest => exact absurd hneeded (by decide)

/-- A nullable field is read as its own value, and null stands for a missing one. -/
theorem optional (h : Shows x ms) (hm : (key, j) ∈ x.toFields) (hkey : key ∈ nullableNames) {o : Option α}
    (hread : ∀ v, Rearranged j v → nullable read v = some o) : Json.optional ms key read = some o := by
  rcases h _ hm with ⟨v, hv, hrearranged⟩ | ⟨hnone, hmissing⟩
  · rw [optional_of_member? hv, hread v hrearranged]
  · cases hmissing with
    | null => rw [optional_of_missing hnone, ← hread .null (.refl _)]; rfl
    | latest => exact absurd hkey (by decide)

theorem defaulting {b : Bool} (h : Shows x ms) (hm : ("latest", .bool b) ∈ x.toFields) :
    Json.defaulting ms "latest" false bool? = some b := by
  rcases h _ hm with ⟨v, hv, hrearranged⟩ | ⟨hnone, hmissing⟩
  · cases hrearranged
    rw [defaulting_of_member? hv]
    rfl
  · cases hmissing
    rw [defaulting_of_missing hnone]

theorem text {s : Option String} (h : Shows x ms) (hm : (key, ofText? s) ∈ x.toFields) (hkey : key ∈ nullableNames) :
    Json.optional ms key string? = some s := by
  refine h.optional hm hkey fun v hv => ?_
  have hvalue : v = ofText? s := hv.eq fun inner => by cases s <;> exact Json.noConfusion
  rw [hvalue, nullable_ofText?]

theorem path (h : Shows x ms) : Json.optional ms "path" (list? string?) = some x.path := by
  refine h.optional (j := pathToJson x.path) (by simp [toFields]) (by decide) fun v hv => ?_
  have hvalue : v = pathToJson x.path := hv.eq fun inner => by cases x.path <;> exact Json.noConfusion
  rw [hvalue, nullable_pathToJson]

/-- The range is the only field that can be rearranged. -/
theorem blockRange (h : Shows x ms) : Json.optional ms "blockRange" BlockRange.ofJson? = some x.view.blockRange := by
  refine h.optional (j := BlockRange.optionalToJson x.view.blockRange) (by simp [toFields]) (by decide) ?_
  rcases hrange : x.view.blockRange with _ | r
  · rintro v ⟨⟩
    rfl
  · intro v hv
    have hread : nullable BlockRange.ofJson? r.toJson = some (some r) := BlockRange.nullable_optionalToJson (some r)
    cases hv with
    | refl => exact hread
    | object hperm =>
      have hreordered : BlockRange.ofJson? (.object _) = some r := (BlockRange.ofJson?_perm hperm).symm.trans
        (BlockRange.ofJson?_toJson r)
      exact nullable_of_ne_null (fun heq => Json.noConfusion heq) hreordered

/-- An identifier is read from members that show it. -/
theorem ofMembers?_eq (h : Shows x ms) : ofMembers? ms = some x := by
  have hid : Json.required ms "id" string? = some x.id :=
    h.required (j := .string x.id) (by simp [toFields]) (by decide) fun v hv => by cases hv; rfl
  have htype : Json.required ms "type" EntityType.ofJson? = some x.entityType :=
    h.required (j := x.entityType.toJson) (by simp [toFields]) (by decide) fun v hv => by
      cases hv
      exact EntityType.ofJson?_toJson x.entityType
  have huid : Json.required ms "uid" string? = some x.uid :=
    h.required (j := .string x.uid) (by simp [toFields]) (by decide) fun v hv => by cases hv; rfl
  have hversion : Json.optional ms "version" string? = some x.view.version := h.text (by simp [toFields]) (by decide)
  have hlatest := h.defaulting (b := x.view.latest) (by simp [toFields])
  have hblockRef : Json.optional ms "blockRef" string? = some x.view.blockRef := h.text (by simp [toFields]) (by decide)
  have hhostname : Json.optional ms "hostname" string? = some x.hostname := h.text (by simp [toFields]) (by decide)
  have hscheme : Json.optional ms "scheme" string? = some x.scheme := h.text (by simp [toFields]) (by decide)
  rw [ofMembers?, hid, htype, huid, h.path, hversion, hlatest, hblockRef, h.blockRange, hhostname, hscheme]
  rfl

end Shows

/-! ## What is refused -/

/-- A record is read only if no key is repeated and the needed ones are there. -/
theorem members_of_ofMembers? (h : ofMembers? ms = some x) :
    (∀ key ∈ fieldNames, member? ms key ≠ none) ∧ ∀ key ∈ neededNames, member? ms key ≠ some none := by
  simp only [ofMembers?, Option.bind_eq_bind, Option.bind_eq_some_iff] at h
  obtain ⟨id, hid, entityType, htype, uid, huid, path, hpath, version, hversion, latest, hlatest, blockRef, hblockRef,
    blockRange, hblockRange, hostname, hhostname, scheme, hscheme, -⟩ := h
  simp only [fieldNames, neededNames, List.forall_mem_cons]
  constructor
  · exact ⟨member?_ne_none_of_required hid, member?_ne_none_of_required htype, member?_ne_none_of_required huid,
      member?_ne_none_of_optional hpath, member?_ne_none_of_optional hversion, member?_ne_none_of_defaulting hlatest,
      member?_ne_none_of_optional hblockRef, member?_ne_none_of_optional hblockRange,
      member?_ne_none_of_optional hhostname, member?_ne_none_of_optional hscheme, List.forall_mem_nil _⟩
  · exact ⟨member?_ne_missing_of_required hid, member?_ne_missing_of_required htype,
      member?_ne_missing_of_required huid, List.forall_mem_nil _⟩

/-- An object with a repeated key, or without one of those that have to be there, is refused. -/
theorem ofMembers?_eq_none (h : (∃ key ∈ fieldNames, 2 ≤ (ms.map Prod.fst).count key) ∨
    ∃ key ∈ neededNames, key ∉ ms.map Prod.fst) : ofMembers? ms = none := by
  by_contra hread
  obtain ⟨x, hx⟩ := Option.ne_none_iff_exists'.mp hread
  obtain ⟨hrepeated, hneeded⟩ := members_of_ofMembers? hx
  rcases h with ⟨key, hkey, hcount⟩ | ⟨key, hkey, hmissing⟩
  · exact hrepeated key hkey (member?_eq_none_iff.mpr hcount)
  · exact hneeded key hkey (member?_eq_missing_iff.mpr hmissing)

/-- The values of the fields in order are read as the identifier. -/
theorem ofItems?_values (x : Identifier) : ofItems? (x.toFields.map Prod.snd) = some x := by
  have htype := EntityType.ofJson?_toJson x.entityType
  have hpath := nullable_pathToJson x.path
  have hrange := BlockRange.nullable_optionalToJson x.view.blockRange
  simp only [toFields, List.map_cons, List.map_nil, ofItems?, string?, bool?, htype, hpath, hrange, nullable_ofText?,
    Option.bind_eq_bind, Option.bind_some]
  rfl

/-- **A record is read from every layout.** For every identifier: what is written for it is read as it, as a value and
as a text; so is every object that is reached from it by changing the order of the members, leaving out members that
are null or false by default and adding unknown members; and so is the array of the ten values. An object in which a
known key is repeated, or in which the id, the type or the uid is missing, is refused. -/
theorem read_from_layouts :
    (∀ x : Identifier, ofJson? x.toJson = some x ∧ (Json.parse? x.toJson.compact).bind ofJson? = some x ∧
      (∀ ms, Layout x ms → ofJson? (.object ms) = some x) ∧ ofJson? (.array (x.toFields.map Prod.snd)) = some x) ∧
    ∀ ms : List (String × Json), ((∃ key ∈ fieldNames, 2 ≤ (ms.map Prod.fst).count key) ∨
      ∃ key ∈ neededNames, key ∉ ms.map Prod.fst) → ofJson? (.object ms) = none := by
  refine ⟨fun x => ⟨ofJson?_toJson x, ?_, fun ms h => h.shows.ofMembers?_eq, ofItems?_values x⟩,
    fun ms h => ofMembers?_eq_none h⟩
  rw [parse?_compact (writable_toJson (by decide) x)]
  exact ofJson?_toJson x

/-- An identifier with a block and a range in it. -/
def ranged : Identifier :=
  ⟨"hm://abc", .document, "abc", none, ⟨none, false, some "BLOCKID1", some (.span 1 2)⟩, none, some "hm"⟩

/-- The members of its record but the scheme, in another layout. -/
def rangedFields : List (String × Json) :=
  [("id", .string "hm://abc"), ("type", .string "d"), ("uid", .string "abc"), ("version", .null),
    ("blockRef", .string "BLOCKID1"), ("blockRange", .object [("end", .ofNat 2), ("start", .ofNat 1)]),
    ("hostname", .null)]

/-- Its record in another layout. -/
def rangedMembers : List (String × Json) := ("scheme", .string "hm") :: ("note", .refused) :: rangedFields

theorem layout_rangedMembers : Layout ranged rangedMembers := by
  have hwritten : Layout ranged (ranged.toFields.take 3 ++ ("path", .null) :: ranged.toFields.drop 4) := .written
  have hpath : Layout ranged (ranged.toFields.take 3 ++ [("version", .null)] ++ ("latest", .bool false) ::
      ranged.toFields.drop 6) := hwritten.leaveOut_at (.null (by decide))
  have hlatest : Layout ranged (ranged.toFields.take 3 ++ [("version", .null), ("blockRef", .string "BLOCKID1")] ++
      ("blockRange", .object [("start", .ofNat 1), ("end", .ofNat 2)]) :: ranged.toFields.drop 8) :=
    hpath.leaveOut_at .latest
  have hrange : Layout ranged (rangedFields ++ [("scheme", .string "hm")]) :=
    hlatest.reorderInner_at (.swap ("end", Json.ofNat 2) ("start", Json.ofNat 1) [])
  have hscheme : Layout ranged ([("scheme", .string "hm")] ++ rangedFields) :=
    hrange.reorder (List.perm_append_singleton ("scheme", Json.string "hm") rangedFields)
  exact hscheme.add_at .refused (by decide)

theorem read_from_layouts_ranged :
    Layout ranged rangedMembers ∧ ofJson? (.object rangedMembers) = some ranged ∧
      2 ≤ ((("uid", .null) :: rangedMembers).map Prod.fst).count "uid" ∧
      ofJson? (.object (("uid", .null) :: rangedMembers)) = none ∧
      "uid" ∉ (rangedMembers.filter (·.1 ≠ "uid")).map Prod.fst ∧
      ofJson? (.object (rangedMembers.filter (·.1 ≠ "uid"))) = none := by
  obtain ⟨hread, hrefused⟩ := read_from_layouts
  obtain ⟨-, -, hlayout, -⟩ := hread ranged
  have hcount : 2 ≤ ((("uid", .null) :: rangedMembers).map Prod.fst).count "uid" := by decide
  have hmissing : "uid" ∉ (rangedMembers.filter (·.1 ≠ "uid")).map Prod.fst := by decide
  exact ⟨layout_rangedMembers, hlayout _ layout_rangedMembers, hcount, hrefused _ (.inl ⟨"uid", by decide, hcount⟩),
    hmissing, hrefused _ (.inr ⟨"uid", by decide, hmissing⟩)⟩

end Identifier

end Hyperlink
