import Hyperlink.Command
import Hyperlink.Proofs.Identifier.Record
import Hyperlink.Proofs.Json.RoundTrip

/-!
# Hyperlink.Proofs.Command.RoundTrip — a command comes back from its JSON text

* `StoresContent x`: the content of the comment `x` is a value that a text can hold four levels deep, with the keys of
  its objects sorted.  In every layout of a command the content of a comment lies that deep.
* `storesContent_of_ofJson?`: the comments of a command that was read are of this kind.
* `ofJson?_toJson`: a command with such comments is read again from what it is written as, whatever layout it came in.
* `writable_toJson`: what is written stays within the levels that a reader takes.
* `text_round_trip`: **the command read from any text is written to a text that is read as the same command.**
-/

namespace Hyperlink

open Json

/-! ## Members of records -/

namespace Json

theorem exists_of_member? {ms : List (String × Json)} {key : String} {v : Json}
    (h : member? ms key = some (some v)) : ∃ m ∈ ms, m.2 = v := by
  unfold member? at h
  split at h
  · simp at h
  · next m hm =>
    obtain rfl : m.2 = v := by simpa using h
    have hmem : m ∈ ms.filter (·.1 = key) := hm ▸ List.mem_singleton_self m
    exact ⟨m, List.mem_of_mem_filter hmem, rfl⟩
  · simp at h

theorem exists_of_required {α : Type} {ms : List (String × Json)} {key : String} {read : Json → Option α} {a : α}
    (h : required ms key read = some a) : ∃ m ∈ ms, read m.2 = some a := by
  simp only [required, Option.bind_eq_bind, Option.bind_eq_some_iff] at h
  obtain ⟨w, hw, v, hv, hread⟩ := h
  rw [hv] at hw
  obtain ⟨m, hm, rfl⟩ := exists_of_member? hw
  exact ⟨m, hm, hread⟩

theorem exists_of_defaulting {α : Type} {ms : List (String × Json)} {key : String} {default : α}
    {read : Json → Option α} {a : α} (h : defaulting ms key default read = some a) :
    a = default ∨ ∃ m ∈ ms, read m.2 = some a := by
  simp only [defaulting, Option.bind_eq_bind, Option.bind_eq_some_iff] at h
  obtain ⟨w, hw, hread⟩ := h
  cases w with
  | none => exact Or.inl (Option.some.inj hread).symm
  | some v =>
    obtain ⟨m, hm, rfl⟩ := exists_of_member? hw
    exact Or.inr ⟨m, hm, hread⟩

theorem exists_of_list? {α : Type} {read : Json → Option α} {j : Json} {xs : List α}
    (h : list? read j = some xs) : ∃ items, j = array items ∧ ∀ x ∈ xs, ∃ v ∈ items, read v = some x := by
  cases j with
  | array items => exact ⟨items, rfl, fun x hx => exists_of_mem_mapM h hx⟩
  | _ => simp [list?] at h

end Json

/-! ## The content of a comment -/

/-- The content of the comment is usable, has the keys of its objects sorted, and fits four levels deep. -/
structure StoresContent (x : Comment) : Prop where
  usable : x.content.isUsable = true
  sorted : x.content.sorted = x.content
  nests : Nests 4 x.content

namespace StoresContent

theorem of_any? {x : Comment} {v : Json} (hv : Nests 4 v) (h : any? v = some x.content) : StoresContent x := by
  unfold any? at h
  split_ifs at h with husable
  obtain heq : v.sorted = x.content := Option.some.inj h
  exact ⟨heq ▸ isUsable_sorted husable, heq ▸ sorted_sorted v, heq ▸ hv.sorted⟩

theorem of_null {x : Comment} (h : x.content = .null) : StoresContent x :=
  ⟨by rw [h]; rfl, by rw [h]; rfl, by rw [h]; exact .null⟩

/-- Content of this kind is read as it is. -/
theorem any?_content {x : Comment} (h : StoresContent x) : any? x.content = some x.content := by
  rw [any?, if_pos h.usable, h.sorted]

end StoresContent

namespace Comment

theorem exists_of_nextItem {α : Type} {default : α} {read : Json → Option α} {items rest : List Json} {a : α}
    (h : nextItem default read items = some (a, rest)) :
    (a = default ∨ ∃ v ∈ items, read v = some a) ∧ rest ⊆ items := by
  cases items with
  | nil =>
    obtain ⟨rfl, rfl⟩ : default = a ∧ [] = rest := by simpa [nextItem] using h
    exact ⟨Or.inl rfl, List.Subset.refl _⟩
  | cons v items =>
    obtain ⟨a', hread, heq⟩ := Option.map_eq_some_iff.mp h
    obtain ⟨rfl, rfl⟩ : a' = a ∧ items = rest := by simpa using heq
    exact ⟨Or.inr ⟨v, List.mem_cons_self, hread⟩, List.subset_cons_self v items⟩

/-- **A comment that was read** three levels deep, from an object or an array, stores its content. -/
theorem storesContent_of_ofJson? {j : Json} {x : Comment} (hj : Nests 3 j) (h : Comment.ofJson? j = some x) :
    StoresContent x := by
  cases j with
  | object ms =>
    simp only [Comment.ofJson?, ofMembers?, Option.bind_eq_bind, Option.bind_eq_some_iff] at h
    obtain ⟨id, -, target, -, replied, -, author, -, content, hcontent, createTime, -, heq⟩ := h
    obtain rfl := Option.some.inj heq
    rcases exists_of_defaulting hcontent with hnull | ⟨m, hm, hany⟩
    · exact .of_null hnull
    · exact .of_any? (hj.of_mem_members hm) hany
  | array items =>
    cases items with
    | nil => simp [Comment.ofJson?, ofItems?] at h
    | cons first items =>
      simp only [Comment.ofJson?, ofItems?, Option.bind_eq_bind, Option.bind_eq_some_iff] at h
      obtain ⟨id, -, ⟨target, items₁⟩, h₁, ⟨replied, items₂⟩, h₂, ⟨author, items₃⟩, h₃, ⟨content, items₄⟩, hcontent,
        ⟨createTime, items₅⟩, -, heq⟩ := h
      have hsub : items₃ ⊆ items :=
        List.Subset.trans (exists_of_nextItem h₃).2 (List.Subset.trans (exists_of_nextItem h₂).2 (exists_of_nextItem h₁).2)
      split_ifs at heq
      obtain rfl := Option.some.inj heq
      rcases (exists_of_nextItem hcontent).1 with hnull | ⟨v, hv, hany⟩
      · exact .of_null hnull
      · exact .of_any? (hj.of_mem_items (List.mem_cons_of_mem first (hsub hv))) hany
  | _ => simp [Comment.ofJson?] at h

theorem storesContent_of_listOfJson? {j : Json} {xs : List Comment} (hj : Nests 2 j)
    (h : listOfJson? j = some xs) : ∀ x ∈ xs, StoresContent x := by
  obtain ⟨items, rfl, hitems⟩ := exists_of_list? h
  intro x hx
  obtain ⟨v, hv, hread⟩ := hitems x hx
  exact storesContent_of_ofJson? (hj.of_mem_items hv) hread

/-- A comment is read again from its record. -/
theorem ofJson?_toJson {x : Comment} (h : StoresContent x) : Comment.ofJson? x.toJson = some x := by
  simp [Comment.toJson, Comment.ofJson?, ofMembers?, required, defaulting, Json.optional, member?, string?,
    h.any?_content]

theorem listOfJson?_commentsToJson {xs : List Comment} (h : ∀ x ∈ xs, StoresContent x) :
    listOfJson? (Command.commentsToJson xs) = some xs :=
  list?_map fun x hx => ofJson?_toJson (h x hx)

theorem writable_toJson {x : Comment} (h : StoresContent x) (hintegral : x.content.isIntegral = true) :
    Writable 3 x.toJson := by
  have hcontent := h.nests.writable h.usable hintegral
  refine .object (by decide) ?_
  simp only [List.forall_mem_cons]
  exact ⟨.string _, .string _, .string _, .string _, hcontent, writable_ofText? _ _, by simp⟩

theorem writable_commentsToJson {xs : List Comment} (h : ∀ x ∈ xs, StoresContent x)
    (hintegral : ∀ x ∈ xs, x.content.isIntegral = true) : Writable 2 (Command.commentsToJson xs) := by
  refine .array (by decide) fun v hv => ?_
  obtain ⟨x, hx, rfl⟩ := List.mem_map.mp hv
  exact writable_toJson (h x hx) (hintegral x hx)

end Comment

/-! ## Commands -/

namespace Command

/-- The comments that a command carries. -/
def comments : Command → List Comment
  | groups comments _ => comments
  | replies comments _ => comments
  | _ => []

theorem storesContent_of_groupsOfJson? {j : Json} {c : Command} (hj : Nests 1 j) (h : groupsOfJson? j = some c) :
    ∀ x ∈ c.comments, StoresContent x := by
  unfold groupsOfJson? at h
  split at h
  · simp only [Option.bind_eq_bind, Option.bind_eq_some_iff] at h
    obtain ⟨xs, hxs, target, -, heq⟩ := h
    obtain rfl := Option.some.inj heq
    obtain ⟨m, hm, hread⟩ := exists_of_required hxs
    exact Comment.storesContent_of_listOfJson? (hj.of_mem_members hm) hread
  · simp only [Option.bind_eq_bind, Option.bind_eq_some_iff] at h
    obtain ⟨xs, hxs, target, -, heq⟩ := h
    obtain rfl := Option.some.inj heq
    exact Comment.storesContent_of_listOfJson? (hj.of_mem_items List.mem_cons_self) hxs
  · simp at h

theorem storesContent_of_repliesOfJson? {j : Json} {c : Command} (hj : Nests 1 j) (h : repliesOfJson? j = some c) :
    ∀ x ∈ c.comments, StoresContent x := by
  unfold repliesOfJson? at h
  split at h
  · simp only [Option.bind_eq_bind, Option.bind_eq_some_iff] at h
    obtain ⟨xs, hxs, target, -, heq⟩ := h
    obtain rfl := Option.some.inj heq
    obtain ⟨m, hm, hread⟩ := exists_of_required hxs
    exact Comment.storesContent_of_listOfJson? (hj.of_mem_members hm) hread
  · simp only [Option.bind_eq_bind, Option.bind_eq_some_iff] at h
    obtain ⟨xs, hxs, target, -, heq⟩ := h
    obtain rfl := Option.some.inj heq
    exact Comment.storesContent_of_listOfJson? (hj.of_mem_items List.mem_cons_self) hxs
  · simp at h

theorem comments_of_webUrlOfJson? {j : Json} {c : Command} (h : webUrlOfJson? j = some c) : c.comments = [] := by
  unfold webUrlOfJson? at h
  split at h
  · simp only [Option.bind_eq_bind, Option.bind_eq_some_iff] at h
    obtain ⟨x, -, host, -, heq⟩ := h
    obtain rfl := Option.some.inj heq
    rfl
  · simp at h

theorem comments_of_withVersionOfJson? {j : Json} {c : Command} (h : withVersionOfJson? j = some c) :
    c.comments = [] := by
  unfold withVersionOfJson? at h
  split at h
  · simp only [Option.bind_eq_bind, Option.bind_eq_some_iff] at h
    obtain ⟨id, -, version, -, blockRef, -, range, -, heq⟩ := h
    obtain rfl := Option.some.inj heq
    rfl
  · simp only [Option.bind_eq_bind, Option.bind_eq_some_iff] at h
    obtain ⟨id, -, version, -, blockRef, -, range, -, heq⟩ := h
    obtain rfl := Option.some.inj heq
    rfl
  · simp at h

/-- **The comments of a command that was read** store their contents. -/
theorem storesContent_of_ofJson? {j : Json} {c : Command} (hj : Nests 0 j) (h : Command.ofJson? j = some c) :
    ∀ x ∈ c.comments, StoresContent x := by
  have hnone : c.comments = [] → ∀ x ∈ c.comments, StoresContent x := by
    intro hc x hx
    rw [hc] at hx
    exact absurd hx List.not_mem_nil
  simp only [ofJson?, Option.bind_eq_bind, Option.bind_eq_some_iff] at h
  obtain ⟨⟨name, arguments⟩, htagged, h⟩ := h
  have hargs : Nests 1 arguments := by
    unfold tagged? at htagged
    split at htagged
    · next m =>
      obtain rfl := Option.some.inj htagged
      exact hj.of_mem_members List.mem_cons_self
    · simp at htagged
  simp only at h
  split at h
  · obtain ⟨link, -, rfl⟩ := Option.map_eq_some_iff.mp h
    exact hnone rfl
  · obtain ⟨x, -, rfl⟩ := Option.map_eq_some_iff.mp h
    exact hnone rfl
  · exact hnone (comments_of_webUrlOfJson? h)
  · obtain ⟨link, -, rfl⟩ := Option.map_eq_some_iff.mp h
    exact hnone rfl
  · exact hnone (comments_of_withVersionOfJson? h)
  · exact storesContent_of_groupsOfJson? hargs h
  · exact storesContent_of_repliesOfJson? hargs h
  · simp at h

/-- **A command** is read again from what it is written as. -/
theorem ofJson?_toJson {c : Command} (h : ∀ x ∈ c.comments, StoresContent x) :
    Command.ofJson? c.toJson = some c := by
  cases c with
  | unpack link => rfl
  | pack x => simp [toJson, toTagged, ofJson?, tagged?, Identifier.ofJson?_toJson]
  | webUrl x host => simp [toJson, toTagged, ofJson?, tagged?, webUrlOfJson?, Identifier.ofJson?_toJson]
  | normalize link => rfl
  | withVersion id version blockRef range =>
    simp [toJson, toTagged, ofJson?, tagged?, withVersionOfJson?, required, Json.optional, member?, string?]
  | groups xs target =>
    have hcomments : Comment.listOfJson? (commentsToJson xs) = some xs := Comment.listOfJson?_commentsToJson h
    simp [toJson, toTagged, ofJson?, tagged?, groupsOfJson?, required, Json.optional, member?, hcomments]
  | replies xs target =>
    have hcomments : Comment.listOfJson? (commentsToJson xs) = some xs := Comment.listOfJson?_commentsToJson h
    simp [toJson, toTagged, ofJson?, tagged?, repliesOfJson?, required, member?, string?, hcomments]

theorem writable_toJson {c : Command} (h : ∀ x ∈ c.comments, StoresContent x)
    (hintegral : ∀ x ∈ c.comments, x.content.isIntegral = true) : Writable 0 c.toJson := by
  have htagged : Writable 1 c.toTagged.2 := by
    cases c with
    | unpack link => exact .string _
    | pack x => exact Identifier.writable_toJson (by decide) x
    | webUrl x host =>
      refine .array (by decide) ?_
      simp only [List.forall_mem_cons]
      exact ⟨Identifier.writable_toJson (by decide) x, writable_ofText? _ _, by simp⟩
    | normalize link => exact .string _
    | withVersion id version blockRef range =>
      refine .object (by decide) ?_
      simp only [List.forall_mem_cons]
      exact ⟨.string _, writable_ofText? _ _, writable_ofText? _ _,
        BlockRange.writable_optionalToJson (by decide) range, by simp⟩
    | groups comments target =>
      refine .object (by decide) ?_
      simp only [List.forall_mem_cons]
      exact ⟨Comment.writable_commentsToJson h hintegral, writable_ofText? _ _, by simp⟩
    | replies comments target =>
      refine .object (by decide) ?_
      simp only [List.forall_mem_cons]
      exact ⟨Comment.writable_commentsToJson h hintegral, .string _, by simp⟩
  exact .object (by decide) (List.forall_mem_singleton.mpr htagged)

/-- **The command read from any text** is written to a text that is read as the same command, and that is what it is
written to again. -/
theorem text_round_trip {text : String} {c : Command} (hread : (Json.parse? text).bind Command.ofJson? = some c)
    (hintegral : ∀ x ∈ c.comments, x.content.isIntegral = true) :
    ∃ c', (Json.parse? c.toJson.compact).bind Command.ofJson? = some c' ∧ c' = c ∧
      c'.toJson.compact = c.toJson.compact := by
  obtain ⟨j, hj, hc⟩ := Option.bind_eq_some_iff.mp hread
  have hcomments := storesContent_of_ofJson? (nests_of_parse? hj) hc
  have hwritten := parse?_compact (writable_toJson hcomments hintegral)
  refine ⟨c, ?_, rfl, rfl⟩
  rw [hwritten, Option.bind_some, ofJson?_toJson hcomments]

/-- A command in arrays, with a blank, an escape and a repeated key in the content of its comment. -/
theorem text_round_trip_arrays :
    ∃ c c', (Json.parse? "\x7b\"Groups\": [[[\"c\",\"\",\"\",\"\\u0061\",\x7b\"b\":1,\"a\":[-7],\"b\":null\x7d]],null]\x7d").bind
        Command.ofJson? = some c ∧
      c.comments.map Comment.author = ["a"] ∧
      (Json.parse? c.toJson.compact).bind Command.ofJson? = some c' ∧ c' = c ∧
      c'.toJson.compact = c.toJson.compact := by
  have hrun : ((Json.parse? "\x7b\"Groups\": [[[\"c\",\"\",\"\",\"\\u0061\",\x7b\"b\":1,\"a\":[-7],\"b\":null\x7d]],null]\x7d").bind
      Command.ofJson?).map (fun c => (c.comments.map Comment.author, c.comments.all (·.content.isIntegral))) =
      some (["a"], true) := by decide +kernel
  obtain ⟨c, hc, hpair⟩ := Option.map_eq_some_iff.mp hrun
  obtain ⟨hauthors, hintegral⟩ := Prod.mk.inj hpair
  obtain ⟨c', hread, heq, hagain⟩ := text_round_trip hc (List.all_eq_true.mp hintegral)
  exact ⟨c, c', hc, hauthors, hread, heq, hagain⟩

end Command

end Hyperlink
