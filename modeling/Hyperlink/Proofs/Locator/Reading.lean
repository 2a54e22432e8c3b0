import Hyperlink.Proofs.Dictionary.Entries
import Hyperlink.Proofs.Text.Cutting
import Hyperlink.Proofs.Text.Occurrence

/-!
# Hyperlink.Proofs.Locator.Reading — the parts that are read from assembled texts

* `IsSegment`: a text that can stand between two slashes of a path.
* `parse?_append`: a text `scheme://rest` is cut behind its scheme.
* `marked`: a part with its separator in front, if it is there; `cutOptional_marked`: a cut finds it where it was put.
* `ofRest_append`: a front without `?` and `#` only adds to the path; `ofRest_intercalate_append`: segments joined by
  slashes are read back as the path.
* `queryPairs_intercalate`: pieces joined by `&` are read back as the query.
* `isSegment_of_mem_path`, `not_mem_value`: what every path segment and every value that is read satisfies.
* `hasKey_iff`, `value?_iff`: keys and values are those of the dictionary of the pairs.
-/

namespace Hyperlink

/-- A text that can stand between two slashes of a path: none of its characters ends a segment. -/
def IsSegment (s : String) : Prop := '/' ∉ s.toList ∧ '?' ∉ s.toList ∧ '#' ∉ s.toList

instance (s : String) : Decidable (IsSegment s) := inferInstanceAs (Decidable (_ ∧ _))

theorem isSegment_empty : IsSegment "" := by decide

theorem intercalate_toList (sep : Char) (ss : List String) :
    ((String.ofList [sep]).intercalate ss).toList = [sep].intercalate (ss.map String.toList) := by
  rw [String.toList_intercalate, String.toList_ofList]

theorem map_ofList_map_toList (ss : List String) : (ss.map String.toList).map String.ofList = ss := by
  rw [List.map_map]
  exact List.map_id'' (fun s => String.ofList_toList) ss

/-- Texts without the separator are the pieces between the separators that join them. -/
theorem splitOn_intercalate {sep : Char} {ss : List String} (h : ∀ s ∈ ss, sep ∉ s.toList) (hne : ss ≠ []) :
    ((String.ofList [sep]).intercalate ss).toList.splitOn sep = ss.map String.toList := by
  rw [intercalate_toList, List.splitOn_intercalate]
  · intro l hl
    obtain ⟨s, hs, rfl⟩ := List.mem_map.mp hl
    exact h s hs
  · simpa using hne

namespace Locator

/-! ## The scheme -/

theorem cut_scheme {scheme : String} (h : ':' ∉ scheme.toList) (rest : String) :
    Text.cut [':', '/', '/'] (scheme ++ "://" ++ rest).toList = some (scheme.toList, rest.toList) := by
  rw [String.toList_append, String.toList_append, List.append_assoc]
  exact Text.cut_append h rest.toList

theorem parse?_append {scheme : String} (h : ':' ∉ scheme.toList) (rest : String) :
    parse? (scheme ++ "://" ++ rest) =
      if rest = "" then none else some (ofRest scheme.toList rest.toList) := by
  unfold parse?
  rw [cut_scheme h]
  simp only [String.toList_eq_nil_iff]

/-- A text that is read has the parts of what stands behind its first `://`. -/
theorem parse?_eq_some {text : String} {l : Locator} (h : parse? text = some l) :
    ∃ scheme rest, Text.cut [':', '/', '/'] text.toList = some (scheme, rest) ∧ rest ≠ [] ∧ l = ofRest scheme rest := by
  unfold parse? at h
  split at h
  · next scheme rest hcut =>
    split at h
    · simp at h
    · next hne => exact ⟨scheme, rest, hcut, hne, (Option.some.inj h).symm⟩
  · simp at h

/-! ## Parts that need not be there -/

/-- A part that need not be there, with its separator in front of it. -/
def marked (sep : Char) : Option String → String
  | none => ""
  | some part => String.ofList [sep] ++ part

theorem toList_marked (sep : Char) (part : Option String) :
    (marked sep part).toList = part.elim [] fun t => sep :: t.toList := by
  cases part <;> simp [marked]

/-- A cut finds the part where it was put, if what stands in front does not hold the separator. -/
theorem cutOptional_marked {sep : Char} {front : List Char} (h : sep ∉ front) (part : Option String) :
    cutOptional sep (front ++ (marked sep part).toList) = (front, part.map String.toList) := by
  rw [cutOptional_append h, toList_marked]
  cases part with
  | none => simp [cutOptional, Text.cutAt]
  | some t => simp

theorem cutOptional_marked_nil (sep : Char) (part : Option String) :
    cutOptional sep (marked sep part).toList = ([], part.map String.toList) := by
  have hcut := cutOptional_marked (List.not_mem_nil : sep ∉ []) part
  rwa [List.nil_append] at hcut

/-- A cut loses nothing. -/
theorem marked_cutOptional (sep : Char) (text : List Char) :
    (cutOptional sep text).1 ++ (marked sep ((cutOptional sep text).2.map String.ofList)).toList = text := by
  rw [toList_marked]
  unfold cutOptional
  cases hcut : Text.cutAt sep text with
  | none => simp
  | some q => simp [(Text.cutAt_eq_some hcut).1]

/-! ## The path -/

/-- The characters of the path in what stands behind `://`. -/
def pathChars (rest : List Char) : List Char := (cutOptional '?' (cutOptional '#' rest).1).1

theorem ofRest_scheme (scheme : String) (rest : List Char) : (ofRest scheme.toList rest).scheme = scheme :=
  String.ofList_toList

theorem ofRest_path (scheme rest : List Char) :
    (ofRest scheme rest).path = ((pathChars rest).splitOn '/').map String.ofList := rfl

theorem ofRest_query (scheme rest : List Char) :
    (ofRest scheme rest).query = queryPairs ((cutOptional '?' (cutOptional '#' rest).1).2.getD []) := rfl

theorem ofRest_fragment (scheme rest : List Char) :
    (ofRest scheme rest).fragment = (cutOptional '#' rest).2.map String.ofList := rfl

theorem pathChars_append {front : List Char} (hq : '?' ∉ front) (hf : '#' ∉ front) (text : List Char) :
    pathChars (front ++ text) = front ++ pathChars text := by
  unfold pathChars
  rw [cutOptional_append hf, cutOptional_append hq]

/-- The path ends where the query or the fragment begins. -/
theorem pathChars_eq_takeWhile (rest : List Char) : pathChars rest = rest.takeWhile fun c => c ≠ '?' ∧ c ≠ '#' := by
  unfold pathChars
  rw [cutOptional_fst, cutOptional_fst, List.takeWhile_takeWhile]
  congr 1
  funext c
  simp

/-- Behind a front with `?` or `#` nothing belongs to the path any more. -/
theorem pathChars_append_of_mem {front : List Char} (h : '?' ∈ front ∨ '#' ∈ front) (text : List Char) :
    pathChars (front ++ text) = pathChars front := by
  rw [pathChars_eq_takeWhile, pathChars_eq_takeWhile, List.takeWhile_append, if_neg]
  intro hlen
  have hall := List.takeWhile_eq_self_iff.mp ((List.takeWhile_prefix _).eq_of_length hlen)
  rcases h with h | h
  · exact absurd (hall _ h) (by decide)
  · exact absurd (hall _ h) (by decide)

/-- A front without `?` and `#` only adds to the path. -/
theorem ofRest_append {front : List Char} (hq : '?' ∉ front) (hf : '#' ∉ front) (scheme text : List Char) :
    ofRest scheme (front ++ text) =
      { ofRest scheme text with path := ((front ++ pathChars text).splitOn '/').map String.ofList } := by
  unfold ofRest
  rw [← pathChars_append hq hf]
  simp only [pathChars, cutOptional_append hf, cutOptional_append hq]

/-- A front without `?` and `#` and with a slash behind it adds its own parts to the path. -/
theorem ofRest_path_append {front : List Char} (hq : '?' ∉ front) (hf : '#' ∉ front) (scheme text : List Char) :
    (ofRest scheme (front ++ '/' :: text)).path =
      (front.splitOn '/').map String.ofList ++ (ofRest scheme text).path := by
  have hslash : pathChars ('/' :: text) = '/' :: pathChars text := by
    show pathChars (['/'] ++ text) = ['/'] ++ pathChars text
    exact pathChars_append (by decide) (by decide) text
  rw [ofRest_append hq hf, hslash, List.splitOn_append_cons_self, List.map_append, ofRest_path]

/-- A segment with a slash behind it is read as the first part of the path. -/
theorem ofRest_segment_append {s : String} (h : IsSegment s) (scheme text : List Char) :
    ofRest scheme (s.toList ++ '/' :: text) =
      { ofRest scheme text with path := s :: (ofRest scheme text).path } := by
  obtain ⟨hs, hq, hf⟩ := h
  have happ : s.toList ++ '/' :: text = (s.toList ++ ['/']) ++ text := by simp
  rw [happ, ofRest_append (by simp [hq]) (by simp [hf]), ofRest_path, List.append_assoc, List.singleton_append,
    List.splitOn_append_cons_self_of_not_mem hs, List.map_cons, String.ofList_toList]

/-- Segments joined by slashes hold no separator but the slashes. -/
theorem not_mem_intercalate {segments : List String} (h : ∀ s ∈ segments, IsSegment s) {c : Char}
    (hc : c = '?' ∨ c = '#') : c ∉ ("/".intercalate segments).toList := by
  rw [show "/" = String.ofList ['/'] from rfl, intercalate_toList]
  intro hmem
  rcases Text.eq_or_mem_of_mem_intercalate hmem with rfl | ⟨l, hl, hcl⟩
  · revert hc
    decide
  · obtain ⟨s, hs, rfl⟩ := List.mem_map.mp hl
    rcases hc with rfl | rfl
    · exact (h s hs).2.1 hcl
    · exact (h s hs).2.2 hcl

/-- Segments joined by slashes are the pieces between the slashes. -/
theorem splitOn_segments {segments : List String} (h : ∀ s ∈ segments, IsSegment s) (hne : segments ≠ []) :
    (("/".intercalate segments).toList.splitOn '/').map String.ofList = segments := by
  rw [show "/" = String.ofList ['/'] from rfl, splitOn_intercalate (fun s hs => (h s hs).1) hne, map_ofList_map_toList]

/-- Segments joined by slashes are read back, if what stands behind them does not belong to the path. -/
theorem ofRest_intercalate_append {segments : List String} (h : ∀ s ∈ segments, IsSegment s) (hne : segments ≠ [])
    {text : List Char} (ht : pathChars text = []) (scheme : List Char) :
    ofRest scheme (("/".intercalate segments).toList ++ text) = { ofRest scheme text with path := segments } := by
  rw [ofRest_append (not_mem_intercalate h (Or.inl rfl)) (not_mem_intercalate h (Or.inr rfl)), ht, List.append_nil,
    splitOn_segments h hne]

/-- Every part of a path that is read can stand between two slashes. -/
theorem isSegment_of_mem_path {scheme rest : List Char} {s : String} (h : s ∈ (ofRest scheme rest).path) :
    IsSegment s := by
  rw [ofRest_path] at h
  obtain ⟨l, hl, rfl⟩ := List.mem_map.mp h
  rw [IsSegment, String.toList_ofList]
  refine ⟨Text.not_mem_of_mem_splitOn hl, fun hq => ?_, fun hf => ?_⟩
  · exact not_mem_cutOptional '?' _ (Text.mem_of_mem_splitOn hl hq)
  · exact not_mem_cutOptional '#' rest (mem_of_mem_cutOptional (Or.inl (Text.mem_of_mem_splitOn hl hf)))

/-- The pieces of a text between its slashes are segments, if it holds no other separator. -/
theorem isSegment_of_mem_pieces {text s : String} (hq : '?' ∉ text.toList) (hf : '#' ∉ text.toList)
    (hs : s ∈ Text.pieces '/' text) : IsSegment s := by
  obtain ⟨l, hl, rfl⟩ := List.mem_map.mp hs
  rw [IsSegment, String.toList_ofList]
  exact ⟨Text.not_mem_of_mem_splitOn hl, fun h => hq (Text.mem_of_mem_splitOn hl h),
    fun h => hf (Text.mem_of_mem_splitOn hl h)⟩

theorem length_le_of_mem_path {scheme rest : List Char} {s : String} (h : s ∈ (ofRest scheme rest).path) :
    s.length ≤ (pathChars rest).length := by
  rw [ofRest_path] at h
  obtain ⟨l, hl, rfl⟩ := List.mem_map.mp h
  rw [String.length_ofList]
  exact Text.length_le_of_mem_splitOn hl

/-! ## The query -/

/-- Pieces joined by `&` are read back. -/
theorem queryPairs_intercalate {pieces : List String} (h : ∀ p ∈ pieces, p ≠ "" ∧ '&' ∉ p.toList) :
    queryPairs ("&".intercalate pieces).toList = pieces.map fun p => keyValue p.toList := by
  by_cases hne : pieces = []
  · subst hne
    rfl
  · unfold queryPairs
    rw [show "&" = String.ofList ['&'] from rfl, splitOn_intercalate (fun p hp => (h p hp).2) hne,
      List.filter_eq_self.mpr, List.map_map]
    · rfl
    · intro l hl
      obtain ⟨p, hp, rfl⟩ := List.mem_map.mp hl
      simpa using (h p hp).1

/-- The key and the value of a piece are parts of it. -/
theorem mem_of_mem_keyValue {piece : List Char} {c : Char} (h : c ∈ (keyValue piece).2.toList) : c ∈ piece := by
  unfold keyValue at h
  split at h
  · next key value hc =>
    rw [(Text.cutAt_eq_some hc).1]
    simp only [String.toList_ofList] at h
    simp [h]
  · simp at h

/-- No value of a query that is read holds the separator of the pairs or of the fragment. -/
theorem not_mem_value {scheme rest : List Char} {pair : String × String} (h : pair ∈ (ofRest scheme rest).query) :
    '&' ∉ pair.2.toList ∧ '#' ∉ pair.2.toList := by
  rw [ofRest_query, queryPairs] at h
  obtain ⟨piece, hp, rfl⟩ := List.mem_map.mp h
  have hp := (List.mem_filter.mp hp).1
  refine ⟨fun hm => Text.not_mem_of_mem_splitOn hp (mem_of_mem_keyValue hm), fun hm => ?_⟩
  have hfront := mem_of_mem_cutOptional (Or.inr (Text.mem_of_mem_splitOn hp (mem_of_mem_keyValue hm)))
  exact not_mem_cutOptional '#' rest hfront

/-- A key is asked for in the dictionary of the pairs. -/
theorem hasKey_iff {l : Locator} {key : String} : l.hasKey key = true ↔ key ∈ l.entries.map Prod.fst := by
  rw [entries, Dictionary.mem_keys_ofPairs]
  simp [hasKey]

theorem findRev?_eq_some_iff {l : Locator} {key : String} {p : String × String} :
    l.query.findRev? (·.1 = key) = some p ↔ p.1 = key ∧ p ∈ l.entries := by
  rw [List.findRev?_eq_find?_reverse, List.find?_eq_some_iff_append, entries, Dictionary.mem_ofPairs_iff]
  constructor
  · rintro ⟨hkey, behind, front, hsplit, hbehind⟩
    obtain rfl : p.1 = key := by simpa using hkey
    refine ⟨rfl, front.reverse, behind.reverse, ?_, fun q hq => ?_⟩
    · rw [← l.query.reverse_reverse, hsplit]
      simp
    · simpa using hbehind q (List.mem_reverse.mp hq)
  · rintro ⟨rfl, front, behind, hsplit, hbehind⟩
    refine ⟨by simp, behind.reverse, front.reverse, by rw [hsplit]; simp, fun q hq => ?_⟩
    simpa using hbehind q (List.mem_reverse.mp hq)

/-- A value is looked up in the dictionary of the pairs; an empty one counts as none. -/
theorem value?_iff {l : Locator} {key value : String} :
    l.value? key = some value ↔ value ≠ "" ∧ (key, value) ∈ l.entries := by
  unfold value?
  constructor
  · intro h
    cases hfind : l.query.findRev? (·.1 = key) with
    | none =>
      rw [hfind] at h
      simp at h
    | some p =>
      obtain ⟨rfl, hmem⟩ := findRev?_eq_some_iff.mp hfind
      rw [hfind] at h
      by_cases hempty : p.2 = ""
      · simp [hempty] at h
      · obtain rfl : p.2 = value := by simpa [hempty] using h
        exact ⟨hempty, hmem⟩
  · rintro ⟨hne, hmem⟩
    rw [findRev?_eq_some_iff.mpr ⟨rfl, hmem⟩]
    simp [hne]

/-- The value of a key stands behind it in the query, and is not empty. -/
theorem value?_eq_some {l : Locator} {key w : String} (h : l.value? key = some w) : w ≠ "" ∧ ∃ k, (k, w) ∈ l.query := by
  obtain ⟨hne, hmem⟩ := value?_iff.mp h
  exact ⟨hne, key, Dictionary.mem_ofPairs hmem⟩

end Locator

end Hyperlink
