import Hyperlink.Json.Record
import Hyperlink.Proofs.Json.Scanning
import Hyperlink.Proofs.Json.Sorting

/-!
# Hyperlink.Proofs.Json.Nesting — what a value read from a text is made of

* `Nests depth j`: the arrays and objects of `j` stay within the levels that can be used, where `depth` of them
  enclose it, and its integers have at most 64 bits.  Parts that cannot be used may occur.
* `nests_of_value?_step`: one step of the reader gives only such values, if the steps before it do (`readsNested`);
  `nests_of_parse?`: **so does every text.**
* `isIntegral`: all numbers of a value are integers.
* `Nests.writable`: a usable, integral value of this kind can be read back from what is written.
-/

namespace Hyperlink.Json

/-! ## Values as they are read -/

/-- A value whose arrays and objects stay within the levels that can be used, where `depth` of them enclose it, and
whose integers have at most 64 bits. -/
inductive Nests : Nat → Json → Prop
  | null {depth : Nat} : Nests depth null
  | bool {depth : Nat} (b : Bool) : Nests depth (bool b)
  | integer {depth : Nat} {n : Int} (hfit : integerFits n = true) : Nests depth (number (.integer n))
  | decimal {depth : Nat} (text : String) : Nests depth (number (.decimal text))
  | string {depth : Nat} (s : String) : Nests depth (string s)
  | array {depth : Nat} {items : List Json} (hdepth : depth < maxDepth) (hitems : ∀ v ∈ items, Nests (depth + 1) v) :
      Nests depth (array items)
  | object {depth : Nat} {members : List (String × Json)} (hdepth : depth < maxDepth)
      (hmembers : ∀ m ∈ members, Nests (depth + 1) m.2) : Nests depth (object members)
  | refused {depth : Nat} : Nests depth refused

namespace Nests

theorem of_mem_items {depth : Nat} {items : List Json} (h : Nests depth (.array items)) {v : Json} (hv : v ∈ items) :
    Nests (depth + 1) v := by
  cases h with
  | array _ hitems => exact hitems v hv

theorem of_mem_members {depth : Nat} {members : List (String × Json)} (h : Nests depth (.object members))
    {m : String × Json} (hm : m ∈ members) : Nests (depth + 1) m.2 := by
  cases h with
  | object _ hmembers => exact hmembers m hm

end Nests

/-- A token whose integer, if it is one, has at most 64 bits. -/
def Token.Fits (t : Token) : Prop := ∀ n, t = .number (some (.integer n)) → integerFits n = true

theorem numberOf?_fits {negative : Bool} {whole fraction : List Char} {exponent : Option Int} {n : Int}
    (h : numberOf? negative whole fraction exponent = some (.integer n)) : integerFits n = true := by
  simp only [numberOf?, ite_eq_iff (c := some (Number.integer n))] at h
  rcases h with ⟨hfit, hn⟩ | ⟨-, hdecimal⟩
  · obtain rfl := Number.integer.inj (Option.some.inj hn)
    exact hfit.2.2.1
  · obtain ⟨d, -, hd⟩ := Option.map_eq_some_iff.mp hdecimal
    exact absurd hd (by simp)

theorem number?_fits {word : List Char} {n : Int} (h : number? word = some (some (.integer n))) :
    integerFits n = true := by
  unfold number? at h
  split at h
  next negative cs hsign =>
  obtain ⟨⟨whole, cs⟩, -, h⟩ := Option.bind_eq_some_iff.mp h
  obtain ⟨⟨fraction, cs⟩, -, h⟩ := Option.bind_eq_some_iff.mp h
  obtain ⟨exponent, -, h⟩ := Option.bind_eq_some_iff.mp h
  have hvalue : numberOf? negative whole fraction exponent = some (.integer n) := by simpa using h
  exact numberOf?_fits hvalue

theorem word?_fits {word : List Char} {t : Token} (h : word? word = some t) : t.Fits := by
  rintro n rfl
  unfold word? at h
  split_ifs at h
  · exact absurd (Option.some.inj h) (by simp)
  · exact absurd (Option.some.inj h) (by simp)
  · exact absurd (Option.some.inj h) (by simp)
  · obtain ⟨v, hv, hnumber⟩ := Option.map_eq_some_iff.mp h
    obtain rfl := Token.number.inj hnumber
    exact number?_fits hv

theorem mark?_fits {c : Char} {t : Token} (h : mark? c = some t) : t.Fits := by
  rintro n rfl
  unfold mark? at h
  split at h <;> simp at h

theorem ofChars?_fits {cs : List Char} {ts : List Token} (h : Token.ofChars? cs = some ts) : ∀ t ∈ ts, t.Fits := by
  fun_induction Token.ofChars? cs generalizing ts with
  | case1 => simp_all
  | case2 c rest hspace ih => exact ih h
  | case3 rest ps rest' hscan hspace ih =>
    obtain ⟨ts', hts', rfl⟩ := Option.map_eq_some_iff.mp h
    exact List.forall_mem_cons.mpr ⟨fun n hn => by simp at hn, ih hts'⟩
  | case4 => simp at h
  | case5 c rest hspace hquote t hmark ih =>
    obtain ⟨ts', hts', rfl⟩ := Option.map_eq_some_iff.mp h
    exact List.forall_mem_cons.mpr ⟨mark?_fits hmark, ih hts'⟩
  | case6 c rest hspace hquote hmark t hword ih =>
    obtain ⟨ts', hts', rfl⟩ := Option.map_eq_some_iff.mp h
    exact List.forall_mem_cons.mpr ⟨word?_fits hword, ih hts'⟩
  | case7 => simp at h

theorem Nests.enclosed {depth : Nat} {j : Json} (h : depth < maxDepth → Nests depth j) :
    Nests depth (if depth < maxDepth then j else Json.refused) := by
  split
  · next hdepth => exact h hdepth
  · exact .refused

theorem exists_of_mem_mapM {α β : Type} {f : α → Option β} {xs : List α} {ys : List β} (h : xs.mapM f = some ys)
    {y : β} (hy : y ∈ ys) : ∃ x ∈ xs, f x = some y := by
  induction xs generalizing ys with
  | nil =>
    obtain rfl : [] = ys := by simpa using h
    simp at hy
  | cons x xs ih =>
    simp only [List.mapM_cons, Option.bind_eq_bind, Option.bind_eq_some_iff] at h
    obtain ⟨z, hz, zs, hzs, heq⟩ := h
    obtain rfl : z :: zs = ys := by simpa using heq
    rcases List.mem_cons.mp hy with rfl | hy
    · exact ⟨x, List.mem_cons_self, hz⟩
    · obtain ⟨x', hx', hread⟩ := ih hzs hy
      exact ⟨x', List.mem_cons_of_mem x hx', hread⟩

theorem Nests.ofMembers {depth : Nat} {members : List (Option String × Json)} (hdepth : depth < maxDepth)
    (h : ∀ m ∈ members, Nests (depth + 1) m.2) : Nests depth (Json.ofMembers members) := by
  unfold Json.ofMembers
  split
  · next ms hms =>
    refine .object hdepth fun m hm => ?_
    obtain ⟨m', hm', hkey⟩ := exists_of_mem_mapM hms hm
    obtain ⟨k, -, rfl⟩ := Option.map_eq_some_iff.mp hkey
    exact h m' hm'
  · exact .refused

/-- What the three readers give after the same number of steps: entries that nest, and tokens that were there. -/
structure ReadsNested (fuel : Nat) : Prop where
  value : ∀ {depth ts j rest}, (∀ t ∈ ts, t.Fits) → value? fuel depth ts = some (j, rest) →
    Nests depth j ∧ ∀ t ∈ rest, t.Fits
  items : ∀ {depth ts vs rest}, (∀ t ∈ ts, t.Fits) → items? fuel depth ts = some (vs, rest) →
    (∀ v ∈ vs, Nests depth v) ∧ ∀ t ∈ rest, t.Fits
  members : ∀ {depth ts ms rest}, (∀ t ∈ ts, t.Fits) → members? fuel depth ts = some (ms, rest) →
    (∀ m ∈ ms, Nests depth m.2) ∧ ∀ t ∈ rest, t.Fits

/-- One step reads a value that nests, if what it leaves to the three readers does. -/
theorem nests_of_value?_step {fuel depth : Nat} {ts rest : List Token} {j : Json} (ih : ReadsNested fuel)
    (hts : ∀ t ∈ ts, t.Fits) (h : value? (fuel + 1) depth ts = some (j, rest)) :
    Nests depth j ∧ ∀ t ∈ rest, t.Fits := by
  have tail : ∀ {t : Token} {us : List Token}, (∀ u ∈ t :: us, u.Fits) → ∀ u ∈ us, u.Fits :=
    fun h => (List.forall_mem_cons.mp h).2
  rw [value?.eq_def] at h
  simp only at h
  split at h
  · obtain ⟨rfl, rfl⟩ : null = j ∧ _ = rest := by simpa using h
    exact ⟨.null, tail hts⟩
  · next b _ =>
    obtain ⟨rfl, rfl⟩ : Json.bool b = j ∧ _ = rest := by simpa using h
    exact ⟨.bool b, tail hts⟩
  · next n us =>
    obtain ⟨rfl, rfl⟩ : n.elim refused number = j ∧ us = rest := by simpa using h
    refine ⟨?_, tail hts⟩
    match n with
    | none => exact .refused
    | some (.decimal text) => exact .decimal text
    | some (.integer i) => exact .integer (hts _ List.mem_cons_self i rfl)
  · next s us =>
    obtain ⟨rfl, rfl⟩ : s.elim refused string = j ∧ us = rest := by simpa using h
    refine ⟨?_, tail hts⟩
    cases s with
    | none => exact .refused
    | some s => exact .string s
  · next us =>
    obtain ⟨rfl, rfl⟩ : (if depth < maxDepth then array [] else refused) = j ∧ us = rest := by simpa using h
    exact ⟨.enclosed fun hdepth => .array hdepth (by simp), tail (tail hts)⟩
  · next us _ =>
    obtain ⟨⟨items, rest'⟩, hitems, heq⟩ := Option.map_eq_some_iff.mp h
    obtain ⟨rfl, rfl⟩ : (if depth < maxDepth then array items else refused) = j ∧ rest' = rest := by simpa using heq
    obtain ⟨hnests, hrest⟩ := ih.items (tail hts) hitems
    exact ⟨.enclosed fun hdepth => .array hdepth hnests, hrest⟩
  · next us =>
    obtain ⟨rfl, rfl⟩ : (if depth < maxDepth then object [] else refused) = j ∧ us = rest := by simpa using h
    exact ⟨.enclosed fun hdepth => .object hdepth (by simp), tail (tail hts)⟩
  · next us _ =>
    obtain ⟨⟨members, rest'⟩, hmembers, heq⟩ := Option.map_eq_some_iff.mp h
    obtain ⟨rfl, rfl⟩ : (if depth < maxDepth then ofMembers members else refused) = j ∧ rest' = rest := by
      simpa using heq
    obtain ⟨hnests, hrest⟩ := ih.members (tail hts) hmembers
    exact ⟨.enclosed fun hdepth => .ofMembers hdepth hnests, hrest⟩
  · simp at h

theorem readsNested (fuel : Nat) : ReadsNested fuel := by
  induction fuel with
  | zero => constructor <;> intros <;> simp_all [value?, items?, members?]
  | succ fuel ih =>
    refine ⟨nests_of_value?_step ih, ?_, ?_⟩
    · intro depth ts vs rest hts h
      unfold items? at h
      split at h
      · next v rest' hv =>
        obtain ⟨hnests, hrest'⟩ := ih.value hts hv
        obtain ⟨⟨ws, rest''⟩, hws, heq⟩ := Option.map_eq_some_iff.mp h
        obtain ⟨rfl, rfl⟩ : v :: ws = vs ∧ rest'' = rest := by simpa using heq
        obtain ⟨hnests', hrest''⟩ := ih.items (List.forall_mem_cons.mp hrest').2 hws
        exact ⟨List.forall_mem_cons.mpr ⟨hnests, hnests'⟩, hrest''⟩
      · next v rest' hv =>
        obtain ⟨hnests, hrest'⟩ := ih.value hts hv
        obtain ⟨rfl, rfl⟩ : [v] = vs ∧ rest' = rest := by simpa using h
        exact ⟨List.forall_mem_singleton.mpr hnests, (List.forall_mem_cons.mp hrest').2⟩
      · simp at h
    · intro depth ts ms rest hts h
      rw [members?.eq_def] at h
      simp only at h
      split at h
      · next k us =>
        have hus := (List.forall_mem_cons.mp (List.forall_mem_cons.mp hts).2).2
        split at h
        · next v rest' hv =>
          obtain ⟨hnests, hrest'⟩ := ih.value hus hv
          obtain ⟨⟨ps, rest''⟩, hps, heq⟩ := Option.map_eq_some_iff.mp h
          obtain ⟨rfl, rfl⟩ : (k, v) :: ps = ms ∧ rest'' = rest := by simpa using heq
          obtain ⟨hnests', hrest''⟩ := ih.members (List.forall_mem_cons.mp hrest').2 hps
          exact ⟨List.forall_mem_cons.mpr ⟨hnests, hnests'⟩, hrest''⟩
        · next v rest' hv =>
          obtain ⟨hnests, hrest'⟩ := ih.value hus hv
          obtain ⟨rfl, rfl⟩ : [(k, v)] = ms ∧ rest' = rest := by simpa using h
          exact ⟨List.forall_mem_singleton.mpr hnests, (List.forall_mem_cons.mp hrest').2⟩
        · simp at h
      · simp at h

/-- **A value read from a text** stays within the levels that can be used. -/
theorem nests_of_parse? {text : String} {j : Json} (h : parse? text = some j) : Nests 0 j := by
  obtain ⟨ts, hts, hj⟩ := Option.bind_eq_some_iff.mp h
  unfold ofTokens? at hj
  split at hj
  · next v hv =>
    obtain rfl : v = j := by simpa using hj
    exact ((readsNested _).value (ofChars?_fits hts) hv).1
  · simp at hj

/-! ## Values that can be written and read again -/

mutual

/-- Whether all numbers of the value are integers. -/
def isIntegral : Json → Bool
  | number (.decimal _) => false
  | array items => itemsIntegral items
  | object members => membersIntegral members
  | _ => true

/-- Whether all numbers of the items are integers. -/
def itemsIntegral : List Json → Bool
  | [] => true
  | v :: vs => isIntegral v && itemsIntegral vs

/-- Whether all numbers in the values of the members are integers. -/
def membersIntegral : List (String × Json) → Bool
  | [] => true
  | (_, v) :: ms => isIntegral v && membersIntegral ms

end

theorem itemsIntegral_iff {items : List Json} : itemsIntegral items = true ↔ ∀ v ∈ items, v.isIntegral = true := by
  induction items with
  | nil => simp [itemsIntegral]
  | cons v vs ih => simp [itemsIntegral, ih]

theorem membersIntegral_iff {members : List (String × Json)} :
    membersIntegral members = true ↔ ∀ m ∈ members, m.2.isIntegral = true := by
  induction members with
  | nil => simp [membersIntegral]
  | cons m ms ih => simp [membersIntegral, ih]

/-- A usable value of integers that was read can be read back from what is written. -/
theorem Nests.writable {depth : Nat} {j : Json} (h : Nests depth j) (husable : j.isUsable = true)
    (hintegral : j.isIntegral = true) : Writable depth j := by
  induction h with
  | null => exact .null
  | bool b => exact .bool b
  | integer hfit => exact .integer hfit
  | decimal text => simp [isIntegral] at hintegral
  | string s => exact .string s
  | array hdepth hitems ih =>
    refine .array hdepth fun v hv => ih v hv (itemsUsable_iff.mp husable v hv) (itemsIntegral_iff.mp hintegral v hv)
  | object hdepth hmembers ih =>
    refine .object hdepth fun m hm =>
      ih m hm (membersUsable_iff.mp husable m hm) (membersIntegral_iff.mp hintegral m hm)
  | refused => simp [isUsable] at husable

theorem Nests.sorted {depth : Nat} {j : Json} (h : Nests depth j) : Nests depth j.sorted := by
  induction h with
  | null => exact .null
  | bool b => exact .bool b
  | integer hfit => exact .integer hfit
  | decimal text => exact .decimal text
  | string s => exact .string s
  | array hdepth hitems ih =>
    rw [Json.sorted, sortedItems_eq_map]
    refine .array hdepth fun v hv => ?_
    obtain ⟨v', hv', rfl⟩ := List.mem_map.mp hv
    exact ih v' hv'
  | object hdepth hmembers ih => exact .object hdepth (of_mem_sortedMembers ih)
  | refused => exact .refused

end Hyperlink.Json
