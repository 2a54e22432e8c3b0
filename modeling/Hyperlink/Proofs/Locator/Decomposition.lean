import Hyperlink.Proofs.Locator.Reading

/-!
# Hyperlink.Proofs.Locator.Decomposition — a text is made up of the parts that are read from it

* `Parts`: the parts of a text with the query in one piece. `Parts.text` puts them together; `Parts.IsProper`: none of
  them holds the separator that ends it, and there is something behind `://`.
* `rest_ofRest`, `isProper_ofRest`: cutting what stands behind `://` loses nothing and gives proper parts;
  `ofRest_rest`: and putting proper parts together and cutting again gives the same parts.
* `GivesLast`: the last piece of a query with a key gives the value. `readAs_locator`: a locator has one value per key,
  and it is this one.
* `text_is_its_parts`: so a text is read if and only if it has proper parts, which are then the only ones.
-/

namespace Hyperlink.Locator

/-! ## Putting parts together -/

/-- The parts of a text, its query in one piece. -/
structure Parts where
  scheme : String
  segments : List String
  query : Option String
  fragment : Option String
  deriving DecidableEq

namespace Parts

/-- What stands behind `://`. -/
def rest (p : Parts) : String := "/".intercalate p.segments ++ marked '?' p.query ++ marked '#' p.fragment

/-- The whole text. -/
def text (p : Parts) : String := p.scheme ++ "://" ++ p.rest

/-- No part holds a separator that would end it, and something stands behind `://`. -/
structure IsProper (p : Parts) : Prop where
  scheme : ¬ "://".toList <:+: p.scheme.toList
  segments_ne : p.segments ≠ []
  segments : ∀ s ∈ p.segments, IsSegment s
  query : ∀ q, p.query = some q → '#' ∉ q.toList
  rest_ne : p.rest ≠ ""

/-! ## Cutting and putting together again -/

/-- The parts of a text with `rest` behind `://`. -/
def ofRest (scheme rest : List Char) : Parts where
  scheme := String.ofList scheme
  segments := ((pathChars rest).splitOn '/').map String.ofList
  query := (cutOptional '?' (cutOptional '#' rest).1).2.map String.ofList
  fragment := (cutOptional '#' rest).2.map String.ofList

theorem rest_ofRest (scheme rest : List Char) : (ofRest scheme rest).rest.toList = rest := by
  have hpath : ("/".intercalate (ofRest scheme rest).segments).toList = pathChars rest := by
    rw [show "/" = String.ofList ['/'] from rfl, intercalate_toList, ofRest, List.map_map]
    simp
  rw [Parts.rest, String.toList_append, String.toList_append, hpath, pathChars, ofRest, marked_cutOptional,
    marked_cutOptional]

theorem isProper_ofRest {text scheme rest : List Char} (h : Text.StandsFirst "://".toList text scheme rest)
    (hne : rest ≠ []) : (ofRest scheme rest).IsProper where
  scheme := by
    have hscheme : (ofRest scheme rest).scheme.toList = scheme := String.toList_ofList
    rw [hscheme]
    exact h.not_occurs_before (by decide)
  segments_ne := by simp [ofRest, List.splitOn_ne_nil]
  segments s hs := by
    have hmem : s ∈ (Locator.ofRest scheme rest).path := hs
    exact isSegment_of_mem_path hmem
  query q hq := by
    obtain ⟨q, hcut, rfl⟩ := Option.map_eq_some_iff.mp hq
    rw [String.toList_ofList]
    intro hmem
    have hquery : '#' ∈ (cutOptional '?' (cutOptional '#' rest).1).2.getD [] := by rwa [hcut]
    exact not_mem_cutOptional '#' rest (mem_of_mem_cutOptional (Or.inr hquery))
  rest_ne := by
    rw [← String.toList_eq_nil_iff.ne, rest_ofRest]
    exact hne

/-- No number sign stands in front of the fragment of proper parts, but in the scheme. -/
theorem IsProper.not_mem_front {p : Parts} (h : p.IsProper) :
    '#' ∉ ("/".intercalate p.segments).toList ++ (marked '?' p.query).toList := by
  rw [toList_marked, List.mem_append, not_or]
  refine ⟨not_mem_intercalate h.segments (Or.inr rfl), ?_⟩
  cases hq : p.query with
  | none => simp
  | some q => simpa using h.query q hq

theorem IsProper.ofRest_rest {p : Parts} (h : p.IsProper) : ofRest p.scheme.toList p.rest.toList = p := by
  have hfragment := cutOptional_marked h.not_mem_front p.fragment
  have hquery := cutOptional_marked (not_mem_intercalate h.segments (Or.inl rfl)) p.query
  have hsegments := splitOn_segments h.segments h.segments_ne
  obtain ⟨scheme, segments, query, fragment⟩ := p
  simp only at hfragment hquery hsegments
  rw [ofRest, pathChars, Parts.rest, String.toList_append, String.toList_append, hfragment, hquery, hsegments]
  simp

/-- A text has its proper parts around the first `://`. -/
theorem IsProper.standsFirst {p : Parts} (h : p.IsProper) :
    Text.StandsFirst "://".toList p.text.toList p.scheme.toList p.rest.toList := by
  rw [text, String.toList_append, String.toList_append, List.append_assoc]
  exact Text.standsFirst_append (by decide) h.scheme p.rest.toList

theorem IsProper.unique {p p' : Parts} (h : p.IsProper) (h' : p'.IsProper) (htext : p.text = p'.text) : p = p' := by
  obtain ⟨hscheme, hrest⟩ := h.standsFirst.unique (htext ▸ h'.standsFirst)
  rw [← h.ofRest_rest, ← h'.ofRest_rest, hscheme, hrest]

theorem text_ofRest {text : String} {scheme rest : List Char}
    (h : Text.StandsFirst "://".toList text.toList scheme rest) : (ofRest scheme rest).text = text := by
  apply String.toList_injective
  rw [Parts.text, String.toList_append, String.toList_append, rest_ofRest, h.eq, List.append_assoc, ofRest,
    String.toList_ofList]

end Parts

/-! ## The values of a query -/

/-- The piece has the key in front of its first `=`, and the value behind it; without a `=` it is the key. -/
def Gives (piece key value : String) : Prop :=
  '=' ∉ key.toList ∧ (piece = key ++ "=" ++ value ∨ piece = key ∧ value = "")

/-- The last of the pieces with the key gives the value. -/
def GivesLast (pieces : List String) (key value : String) : Prop :=
  ∃ before piece after, pieces = before ++ piece :: after ∧ Gives piece key value ∧
    ∀ other ∈ after, ∀ v, ¬ Gives other key v

theorem keyValue_eq_iff {piece key value : String} : keyValue piece.toList = (key, value) ↔ Gives piece key value := by
  unfold keyValue Gives
  constructor
  · intro h
    cases hcut : Text.cutAt '=' piece.toList with
    | none =>
      rw [hcut] at h
      obtain ⟨rfl, rfl⟩ : piece = key ∧ "" = value := by simpa using h
      exact ⟨Text.cutAt_eq_none.mp hcut, Or.inr ⟨rfl, rfl⟩⟩
    | some q =>
      rw [hcut] at h
      obtain ⟨k, v⟩ := q
      obtain ⟨rfl, rfl⟩ : String.ofList k = key ∧ String.ofList v = value := by simpa using h
      obtain ⟨hpiece, hk⟩ := Text.cutAt_eq_some hcut
      refine ⟨by rwa [String.toList_ofList], Or.inl (String.toList_injective ?_)⟩
      rw [hpiece]
      simp
  · rintro ⟨hkey, rfl | ⟨rfl, rfl⟩⟩
    · have hcut : Text.cutAt '=' (key ++ "=" ++ value).toList = some (key.toList, value.toList) := by
        rw [String.toList_append, String.toList_append, List.append_assoc]
        exact Text.cutAt_append hkey value.toList
      rw [hcut]
      simp
    · simp [Text.cutAt_eq_none.mpr hkey]

theorem exists_gives_iff {piece key : String} : (∃ value, Gives piece key value) ↔ (keyValue piece.toList).1 = key := by
  simp only [← keyValue_eq_iff, Prod.ext_iff]
  exact ⟨fun ⟨_, h, _⟩ => h, fun h => ⟨_, h, rfl⟩⟩

theorem queryPairs_eq (query : String) :
    queryPairs query.toList = ((Text.pieces '&' query).filter (· ≠ "")).map fun p => keyValue p.toList := by
  rw [queryPairs, Text.pieces, List.filter_map, List.map_map]
  have hpred : ((fun s : String => decide (s ≠ "")) ∘ String.ofList) = fun l : List Char => decide (l ≠ []) := by
    funext l
    simp
  rw [hpred]
  congr 1
  funext l
  simp

/-- A pair of the dictionary is given by the last piece with its key. -/
theorem mem_ofPairs_keyValue_iff {pieces : List String} {key value : String} :
    (key, value) ∈ Dictionary.ofPairs (pieces.map fun p => keyValue p.toList) ↔ GivesLast pieces key value := by
  rw [Dictionary.mem_ofPairs_iff]
  constructor
  · rintro ⟨before, after, hsplit, hafter⟩
    obtain ⟨before, rest, rfl, -, hrest⟩ := List.map_eq_append_iff.mp hsplit
    obtain ⟨piece, after, rfl, hpiece, rfl⟩ := List.map_eq_cons_iff.mp hrest
    refine ⟨before, piece, after, rfl, keyValue_eq_iff.mp hpiece, fun other hother v hgives => ?_⟩
    exact hafter _ (List.mem_map_of_mem hother) (exists_gives_iff.mp ⟨v, hgives⟩)
  · rintro ⟨before, piece, after, rfl, hgives, hafter⟩
    refine ⟨before.map fun p => keyValue p.toList, after.map fun p => keyValue p.toList, ?_, ?_⟩
    · rw [List.map_append, List.map_cons, keyValue_eq_iff.mpr hgives]
    · intro q hq hkey
      obtain ⟨other, hother, rfl⟩ := List.mem_map.mp hq
      obtain ⟨v, hv⟩ := exists_gives_iff.mpr hkey
      exact hafter other hother v hv

/-! ## What is read -/

namespace Parts

/-- The pieces of the query that are not empty. -/
def pieces (p : Parts) : List String := (Text.pieces '&' (p.query.getD "")).filter (· ≠ "")

/-- The locator that is read from the text of the parts. -/
def locator (p : Parts) : Locator where
  scheme := p.scheme
  path := p.segments
  query := p.pieces.map fun piece => keyValue piece.toList
  fragment := p.fragment

/-- The locator holds the parts as they are, and for each key of the query the value that the last piece with the key
gives. -/
structure ReadAs (p : Parts) (l : Locator) : Prop where
  scheme : l.scheme = p.scheme
  path : l.path = p.segments
  fragment : l.fragment = p.fragment
  /-- Each key has one value. -/
  ascending : Dictionary.Ascending l.entries
  mem_keys_iff : ∀ key, key ∈ l.entries.map Prod.fst ↔ ∃ piece ∈ p.pieces, ∃ value, Gives piece key value
  mem_entries_iff : ∀ key value, (key, value) ∈ l.entries ↔ GivesLast p.pieces key value
  hasKey_iff : ∀ key, l.hasKey key = true ↔ key ∈ l.entries.map Prod.fst
  /-- An empty value counts as none. -/
  value?_iff : ∀ key value, l.value? key = some value ↔ value ≠ "" ∧ (key, value) ∈ l.entries

theorem readAs_locator (p : Parts) : p.ReadAs p.locator where
  scheme := rfl
  path := rfl
  fragment := rfl
  ascending := Dictionary.ascending_ofPairs _
  mem_keys_iff key := by
    rw [entries, Dictionary.mem_keys_ofPairs, locator, List.map_map]
    simp only [List.mem_map, Function.comp_apply, exists_gives_iff]
  mem_entries_iff _ _ := mem_ofPairs_keyValue_iff
  hasKey_iff _ := Locator.hasKey_iff
  value?_iff _ _ := Locator.value?_iff

theorem locator_ofRest (scheme rest : List Char) : (ofRest scheme rest).locator = Locator.ofRest scheme rest := by
  have hquery : ((ofRest scheme rest).query.getD "").toList = (cutOptional '?' (cutOptional '#' rest).1).2.getD [] := by
    rw [ofRest]
    cases (cutOptional '?' (cutOptional '#' rest).1).2 <;> simp
  rw [locator, pieces, ← queryPairs_eq, hquery]
  rfl

/-- Proper parts are read from their text. -/
theorem IsProper.parse?_text {p : Parts} (h : p.IsProper) : parse? p.text = some p.locator := by
  have hcut : Text.cut [':', '/', '/'] p.text.toList = some (p.scheme.toList, p.rest.toList) :=
    Text.cut_eq_some_iff.mpr h.standsFirst
  have hne : p.rest.toList ≠ [] := String.toList_eq_nil_iff.ne.mpr h.rest_ne
  rw [parse?, hcut]
  simp only
  rw [if_neg hne, ← locator_ofRest, h.ofRest_rest]

end Parts

/-- A text that is read is that of proper parts. -/
theorem exists_parts {text : String} {l : Locator} (h : parse? text = some l) :
    ∃ p : Parts, p.IsProper ∧ p.text = text ∧ p.locator = l := by
  obtain ⟨scheme, rest, hcut, hne, rfl⟩ := parse?_eq_some h
  have hfirst : Text.StandsFirst "://".toList text.toList scheme rest := Text.cut_eq_some_iff.mp hcut
  exact ⟨.ofRest scheme rest, Parts.isProper_ofRest hfirst hne, Parts.text_ofRest hfirst,
    Parts.locator_ofRest scheme rest⟩

theorem exists_parse?_iff {text : String} :
    (∃ l, parse? text = some l) ↔
      ∃ before after, Text.StandsFirst "://".toList text.toList before after ∧ after ≠ [] := by
  constructor
  · rintro ⟨l, h⟩
    obtain ⟨scheme, rest, hcut, hne, -⟩ := parse?_eq_some h
    exact ⟨scheme, rest, Text.cut_eq_some_iff.mp hcut, hne⟩
  · rintro ⟨before, after, hfirst, hne⟩
    have hcut : Text.cut [':', '/', '/'] text.toList = some (before, after) := Text.cut_eq_some_iff.mpr hfirst
    refine ⟨Locator.ofRest before after, ?_⟩
    rw [parse?, hcut]
    simp [hne]

/-- **A text is its parts.** It is read if something stands behind its first `://`. What is read are its proper parts,
which are the only ones with this text, and all proper parts are read from their text. -/
theorem text_is_its_parts :
    (∀ text : String, (∃ l, parse? text = some l) ↔
      ∃ before after, Text.StandsFirst "://".toList text.toList before after ∧ after ≠ []) ∧
    (∀ (text : String) (l : Locator), parse? text = some l →
      ∃ p : Parts, (p.IsProper ∧ p.text = text ∧ p.ReadAs l) ∧ ∀ p' : Parts, p'.IsProper → p'.text = text → p' = p) ∧
    ∀ p : Parts, p.IsProper → ∃ l, parse? p.text = some l ∧ p.ReadAs l := by
  refine ⟨fun text => exists_parse?_iff, fun text l h => ?_, fun p hp => ?_⟩
  · obtain ⟨p, hp, htext, rfl⟩ := exists_parts h
    exact ⟨p, ⟨hp, htext, p.readAs_locator⟩, fun p' hp' htext' => hp'.unique hp (htext'.trans htext.symm)⟩
  · exact ⟨p.locator, hp.parse?_text, p.readAs_locator⟩

/-- Parts that hold each other's separators wherever they may. -/
def crowdedParts : Parts where
  scheme := "a:/?#b:"
  segments := ["p:", "", "q"]
  query := some "a=1&&a=2&b&=c&d=e=f?/g"
  fragment := some "z#y?://"

theorem text_is_its_parts_crowded :
    crowdedParts.IsProper ∧ crowdedParts.text = "a:/?#b:://p://q?a=1&&a=2&b&=c&d=e=f?/g#z#y?://" ∧
      ∃ l, parse? crowdedParts.text = some l ∧ crowdedParts.ReadAs l ∧
        l.entries = [("", "c"), ("a", "2"), ("b", ""), ("d", "e=f?/g")] := by
  have hproper : crowdedParts.IsProper := by
    refine ⟨by decide +kernel, by decide, by decide, fun q hq => ?_, by decide +kernel⟩
    obtain rfl : "a=1&&a=2&b&=c&d=e=f?/g" = q := Option.some.inj hq
    decide
  obtain ⟨l, hparse, hread⟩ := text_is_its_parts.2.2 crowdedParts hproper
  have hentries : (parse? crowdedParts.text).map entries =
      some [("", "c"), ("a", "2"), ("b", ""), ("d", "e=f?/g")] := by decide +kernel
  rw [hparse] at hentries
  exact ⟨hproper, by decide +kernel, l, hparse, hread, Option.some.inj hentries⟩

end Hyperlink.Locator
