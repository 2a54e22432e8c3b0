import Hyperlink.Proofs.Json.Scanning

/-!
# Hyperlink.Proofs.Json.RoundTrip — a written value is read again

* `value?_tokens`: the reader gets the value back from its tokens, with two steps to spare per token.  The induction
  is on the value; `items?_tokens` and `members?_tokens` read what stands between the brackets, given that each
  entry is read.
* `parse?_compact`: **a writable value is read back from its text.**
-/

namespace Hyperlink.Json

theorem head?_tokens_ne (j : Json) (rest : List Token) : (j.tokens ++ rest).head? ≠ some .closeArray := by
  cases j <;> simp [tokens]

theorem value?_openArray {fuel depth : Nat} {ts rest : List Token} {items : List Json}
    (hts : ts.head? ≠ some .closeArray) (h : items? fuel (depth + 1) ts = some (items, rest))
    (hdepth : depth < maxDepth) : value? (fuel + 1) depth (.openArray :: ts) = some (array items, rest) := by
  cases ts with
  | nil => simp [value?, h, hdepth]
  | cons t ts =>
    have ht : t ≠ .closeArray := by simpa using hts
    rw [value?]
    · simp [h, hdepth]
    · rintro rest' ⟨⟩
      exact ht rfl

/-- The reader gets the value back from its tokens, whatever follows them. -/
def Reads (depth : Nat) (j : Json) : Prop :=
  ∀ fuel rest, 2 * j.tokens.length ≤ fuel → value? fuel depth (j.tokens ++ rest) = some (j, rest)

theorem items?_tokens {depth : Nat} {items : List Json} (hitems : ∀ v ∈ items, Reads depth v) (hne : items ≠ [])
    (fuel : Nat) (hfuel : 2 * ([Token.comma].intercalate (items.map tokens)).length + 1 ≤ fuel) (rest : List Token) :
    items? fuel depth ([Token.comma].intercalate (items.map tokens) ++ .closeArray :: rest) = some (items, rest) := by
  induction items generalizing fuel with
  | nil => exact absurd rfl hne
  | cons v vs ih =>
    obtain ⟨fuel, rfl⟩ : ∃ n, fuel = n + 1 := ⟨fuel - 1, by omega⟩
    have hv := hitems v List.mem_cons_self
    cases vs with
    | nil =>
      simp only [List.map_cons, List.map_nil, List.intercalate_singleton] at hfuel ⊢
      rw [items?, hv fuel _ (by omega)]
    | cons w ws =>
      simp only [List.map_cons, List.intercalate_cons_cons, List.length_append, List.length_singleton] at hfuel ⊢
      have hws := ih (fun x hx => hitems x (List.mem_cons_of_mem v hx)) (by simp) fuel
        (by simp only [List.map_cons]; omega)
      rw [List.map_cons] at hws
      rw [List.append_assoc, List.append_assoc, items?, hv fuel _ (by omega)]
      simp only [List.cons_append, List.nil_append]
      rw [hws]
      rfl

theorem members?_tokens {depth : Nat} {members : List (String × Json)} (hmembers : ∀ m ∈ members, Reads depth m.2)
    (hne : members ≠ []) (fuel : Nat)
    (hfuel : 2 * ([Token.comma].intercalate (memberTokens members)).length + 1 ≤ fuel) (rest : List Token) :
    members? fuel depth ([Token.comma].intercalate (memberTokens members) ++ .closeObject :: rest) =
      some (members.map fun m => (some m.1, m.2), rest) := by
  induction members generalizing fuel with
  | nil => exact absurd rfl hne
  | cons m ms ih =>
    obtain ⟨fuel, rfl⟩ : ∃ n, fuel = n + 1 := ⟨fuel - 1, by omega⟩
    have hm := hmembers m List.mem_cons_self
    cases ms with
    | nil =>
      simp only [memberTokens, List.intercalate_singleton, List.length_cons, List.cons_append] at hfuel ⊢
      rw [members?, hm fuel _ (by omega)]
      rfl
    | cons w ws =>
      have hrest := ih (fun x hx => hmembers x (List.mem_cons_of_mem m hx)) (by simp) fuel
      simp only [memberTokens, List.intercalate_cons_cons, List.length_append, List.length_cons,
        List.cons_append, List.append_assoc] at hfuel hrest ⊢
      rw [members?, hm fuel _ (by omega)]
      simp only [List.nil_append]
      rw [hrest (by omega)]
      rfl

theorem ofMembers_some (members : List (String × Json)) :
    ofMembers (members.map fun m => (some m.1, m.2)) = object members := by
  have hmap : (members.map fun m => (some m.1, m.2)).mapM (fun m : Option String × Json => m.1.map (·, m.2)) =
      some members := by
    induction members with
    | nil => rfl
    | cons m ms ih =>
      rw [List.map_cons, List.mapM_cons, ih]
      rfl
  rw [ofMembers, hmap]

/-- **The reader inverts the tokens of a value.** -/
theorem value?_tokens {depth : Nat} {j : Json} (h : Writable depth j) : Reads depth j := by
  induction h with
  | null | bool | integer | string =>
    intro fuel rest hfuel
    obtain ⟨fuel, rfl⟩ : ∃ n, fuel = n + 1 := ⟨fuel - 1, by simp [tokens] at hfuel; omega⟩
    rfl
  | @array depth items hdepth hitems ih =>
    intro fuel rest hfuel
    rw [tokens, itemTokens_eq_map, List.length_cons, List.length_append, List.length_singleton] at hfuel
    rw [tokens, itemTokens_eq_map, List.cons_append, List.append_assoc, List.cons_append, List.nil_append]
    obtain ⟨fuel, rfl⟩ : ∃ n, fuel = n + 1 := ⟨fuel - 1, by omega⟩
    cases items with
    | nil => simp [value?, hdepth]
    | cons v vs =>
      have hfront : ∃ ts, [Token.comma].intercalate ((v :: vs).map tokens) ++ .closeArray :: rest = v.tokens ++ ts := by
        cases vs <;> simp
      have hhead : ([Token.comma].intercalate ((v :: vs).map tokens) ++ .closeArray :: rest).head? ≠
          some .closeArray := by
        obtain ⟨ts, hts⟩ := hfront
        rw [hts]
        exact head?_tokens_ne v ts
      exact value?_openArray hhead (items?_tokens ih (by simp) fuel (by omega) rest) hdepth
  | @object depth members hdepth hmembers ih =>
    intro fuel rest hfuel
    rw [tokens, List.length_cons, List.length_append, List.length_singleton] at hfuel
    rw [tokens, List.cons_append, List.append_assoc, List.cons_append, List.nil_append]
    obtain ⟨fuel, rfl⟩ : ∃ n, fuel = n + 1 := ⟨fuel - 1, by omega⟩
    cases members with
    | nil => simp [value?, memberTokens, hdepth]
    | cons m ms =>
      have hread := members?_tokens ih (by simp) fuel (by omega) rest
      have hfront : ∃ ts, [Token.comma].intercalate (memberTokens (m :: ms)) ++ .closeObject :: rest =
          .string (some m.1) :: ts := by
        cases ms <;> simp [memberTokens]
      obtain ⟨ts, hts⟩ := hfront
      rw [hts] at hread ⊢
      rw [value?]
      · rw [hread, Option.map_some, ofMembers_some]
        simp only [if_pos hdepth]
      · simp

/-- **A written value is read again** from its text on one line. -/
theorem parse?_compact {j : Json} (h : Writable 0 j) : parse? j.compact = some j := by
  have hscan := scans_compact h [] (by simp [Ends])
  rw [List.append_nil] at hscan
  have hvalue := value?_tokens h (2 * j.tokens.length + 1) [] (by omega)
  rw [List.append_nil] at hvalue
  rw [parse?, hscan]
  simp [Token.ofChars?, ofTokens?, hvalue]

end Hyperlink.Json
