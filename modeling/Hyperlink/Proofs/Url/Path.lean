import Hyperlink.Proofs.Url.Percent
import Hyperlink.Url.Path

/-!
# Hyperlink.Proofs.Url.Path — a path in normal form is read again

* `plainPoints_percentEncode`: encoding a segment neither makes points nor hides them.
* `IsNormalSegment`: an encoded segment without slashes that is no point and no two points; every segment of a path that
  is read is one (`isNormalSegment_of_mem_pathOf`).
* `pathOf_renderPath`: **a path of such segments is read as itself** from what it is written as. The empty path is read
  as one empty segment.
-/

namespace Hyperlink.Url

/-! ## Points -/

/-- A byte of a character that is ASCII is the character itself. -/
theorem toNat_of_mem_utf8EncodeChar {c : Char} {b : UInt8} (h : b ∈ String.utf8EncodeChar c) :
    b.toNat = c.toNat ∨ 128 ≤ b.toNat := by
  have hsize : ∀ n, (UInt8.ofNat n).toNat = n % 256 := fun n => UInt8.toNat_ofNat'
  have hval : c.val.toNat = c.toNat := rfl
  rw [String.utf8EncodeChar.eq_def, hval] at h
  generalize c.toNat = n at h ⊢
  dsimp only at h
  split at h
  · rw [List.mem_singleton] at h
    rw [h, hsize]
    omega
  right
  split at h
  · rcases List.mem_pair.mp h with rfl | rfl <;> rw [hsize] <;> omega
  split at h
  · simp only [List.mem_cons, List.not_mem_nil, or_false] at h
    rcases h with rfl | rfl | rfl <;> rw [hsize] <;> omega
  · simp only [List.mem_cons, List.not_mem_nil, or_false] at h
    rcases h with rfl | rfl | rfl | rfl <;> rw [hsize] <;> omega

theorem plainPoints_cons {c : Char} {cs : List Char}
    (h : ∀ ds, c = '%' → cs ≠ '2' :: 'e' :: ds ∧ cs ≠ '2' :: 'E' :: ds) :
    plainPoints (c :: cs) = c :: plainPoints cs := by
  rw [plainPoints]
  · exact fun ds hc => (h ds hc).1
  · exact fun ds hc => (h ds hc).2

theorem plainPoints_cons_of_ne {c : Char} (h : c ≠ '%') (cs : List Char) :
    plainPoints (c :: cs) = c :: plainPoints cs :=
  plainPoints_cons fun _ hc => absurd hc h

/-- The text of a byte is not the one of a point, unless it is a point. -/
theorem hexByte_point : ∀ n < 256, '%' ∉ Text.hexByte (UInt8.ofNat n) ∧
    (n ≠ 0x2e → Text.hexByte (UInt8.ofNat n) ≠ ['2', 'e'] ∧ Text.hexByte (UInt8.ofNat n) ≠ ['2', 'E']) := by
  decide +kernel

theorem plainPoints_byte {b : UInt8} (h : b.toNat ≠ 0x2e) (cs : List Char) :
    plainPoints ('%' :: Text.hexByte b ++ cs) = '%' :: Text.hexByte b ++ plainPoints cs := by
  obtain ⟨hpercent, hpoint⟩ := hexByte_point b.toNat b.toNat_lt
  obtain ⟨he, hE⟩ := hpoint h
  obtain ⟨x, y, hxy⟩ : ∃ x y, Text.hexByte b = [x, y] := ⟨_, _, rfl⟩
  rw [UInt8.ofNat_toNat, hxy] at hpercent he hE
  simp only [List.mem_cons, List.not_mem_nil, or_false, not_or] at hpercent
  rw [hxy]
  simp only [List.cons_append, List.nil_append]
  rw [plainPoints_cons, plainPoints_cons_of_ne (Ne.symm hpercent.1), plainPoints_cons_of_ne (Ne.symm hpercent.2)]
  intro ds _
  constructor
  · rintro ⟨⟩
    exact he rfl
  · rintro ⟨⟩
    exact hE rfl

theorem plainPoints_encodeChar {c : Char} (h : pathSet c = true) (cs : List Char) :
    plainPoints (encodeChar c ++ cs) = encodeChar c ++ plainPoints cs := by
  have hbytes : ∀ b ∈ String.utf8EncodeChar c, b.toNat ≠ 0x2e := by
    intro b hb hpoint
    rcases toNat_of_mem_utf8EncodeChar hb with hc | hc
    · have hdot : c = '.' := Char.toNat_inj.mp (hc ▸ hpoint)
      rw [hdot] at h
      exact absurd h (by decide)
    · omega
  unfold encodeChar
  generalize String.utf8EncodeChar c = bs at hbytes ⊢
  induction bs with
  | nil => rfl
  | cons b bs ih =>
    rw [List.forall_mem_cons] at hbytes
    rw [List.flatMap_cons, List.append_assoc, plainPoints_byte hbytes.1, ih hbytes.2, List.append_assoc]

theorem percentEncode_cons_of_not {set : Char → Bool} {c : Char} (h : set c = false) (cs : List Char) :
    percentEncode set (c :: cs) = c :: percentEncode set cs := by
  rw [percentEncode, List.flatMap_cons, if_neg (by simp [h])]
  rfl

theorem percentEncode_cons_of_mem {set : Char → Bool} {c : Char} (h : set c = true) (cs : List Char) :
    percentEncode set (c :: cs) = encodeChar c ++ percentEncode set cs := by
  rw [percentEncode, List.flatMap_cons, if_pos h]
  rfl

/-- The first character of an encoded text stands in the text, unless it is a percent sign. -/
theorem eq_cons_of_percentEncode {set : Char → Bool} {c : Char} (hc : c ≠ '%') {cs ds : List Char}
    (h : percentEncode set cs = c :: ds) : ∃ cs', cs = c :: cs' ∧ percentEncode set cs' = ds := by
  cases cs with
  | nil => cases h
  | cons d cs =>
    by_cases hd : set d = true
    · rw [percentEncode_cons_of_mem hd] at h
      obtain ⟨b, bs, hb⟩ := List.exists_cons_of_ne_nil (String.utf8EncodeChar_ne_nil (c := d))
      rw [encodeChar, hb, List.flatMap_cons, List.cons_append, List.cons_append] at h
      exact absurd (List.cons.inj h).1.symm hc
    · rw [percentEncode_cons_of_not (by simpa using hd)] at h
      obtain ⟨rfl, rfl⟩ := List.cons.inj h
      exact ⟨cs, rfl, rfl⟩

/-- Encoding a segment neither makes points nor hides them. -/
theorem plainPoints_percentEncode (cs : List Char) :
    plainPoints (percentEncode pathSet cs) = percentEncode pathSet (plainPoints cs) := by
  have hpercent : pathSet '%' = false := by decide
  have htwo : pathSet '2' = false := by decide
  have he : pathSet 'e' = false := by decide
  have hE : pathSet 'E' = false := by decide
  have hpoint : pathSet '.' = false := by decide
  fun_induction plainPoints cs with
  | case1 cs ih =>
    rw [percentEncode_cons_of_not hpercent, percentEncode_cons_of_not htwo, percentEncode_cons_of_not he,
      percentEncode_cons_of_not hpoint, plainPoints, ih]
  | case2 cs ih =>
    rw [percentEncode_cons_of_not hpercent, percentEncode_cons_of_not htwo, percentEncode_cons_of_not hE,
      percentEncode_cons_of_not hpoint, plainPoints, ih]
  | case3 c cs hsmall hcapital ih =>
    by_cases hc : pathSet c = true
    · rw [percentEncode_cons_of_mem hc, percentEncode_cons_of_mem hc, plainPoints_encodeChar hc, ih]
    · rw [Bool.not_eq_true] at hc
      rw [percentEncode_cons_of_not hc, percentEncode_cons_of_not hc, plainPoints_cons, ih]
      -- a point that stands there encoded stood there before
      intro ds hd
      constructor
      · intro h
        obtain ⟨cs', rfl, h'⟩ := eq_cons_of_percentEncode (by decide) h
        obtain ⟨cs'', rfl, -⟩ := eq_cons_of_percentEncode (by decide) h'
        exact hsmall cs'' hd rfl
      · intro h
        obtain ⟨cs', rfl, h'⟩ := eq_cons_of_percentEncode (by decide) h
        obtain ⟨cs'', rfl, -⟩ := eq_cons_of_percentEncode (by decide) h'
        exact hcapital cs'' hd rfl
  | case4 => rfl

/-- An encoded text without a percent sign is the text itself. -/
theorem eq_of_percentEncode {set : Char → Bool} {cs ds : List Char} (hds : '%' ∉ ds)
    (h : percentEncode set cs = ds) : cs = ds := by
  induction ds generalizing cs with
  | nil =>
    cases cs with
    | nil => rfl
    | cons c cs =>
      obtain ⟨b, bs, hb⟩ := List.exists_cons_of_ne_nil (String.utf8EncodeChar_ne_nil (c := c))
      rw [percentEncode, List.flatMap_cons, encodeChar, hb, List.flatMap_cons] at h
      split at h <;> simp at h
  | cons d ds ih =>
    rw [List.mem_cons, not_or] at hds
    obtain ⟨cs', rfl, h'⟩ := eq_cons_of_percentEncode (Ne.symm hds.1) h
    rw [ih hds.2 h']

theorem plainPoints_percentEncode_eq_iff (s : List Char) {points : List Char} (hpoints : ∀ c ∈ points, c = '.') :
    plainPoints (percentEncode pathSet s) = points ↔ plainPoints s = points := by
  have hplain : ∀ c ∈ points, pathSet c = false := by
    intro c hc
    rw [hpoints c hc]
    decide
  have hpercent : '%' ∉ points := fun h => absurd (hpoints _ h) (by decide)
  rw [plainPoints_percentEncode]
  constructor
  · intro h
    exact eq_of_percentEncode hpercent h
  · intro h
    rw [h, percentEncode_eq_self hplain]

theorem isHere_percentEncode (s : List Char) : isHere (percentEncode pathSet s) = isHere s := by
  have hpoint : ∀ c ∈ ['.'], c = '.' := by simp
  have hiff := plainPoints_percentEncode_eq_iff s hpoint
  simp only [isHere, hiff]

theorem isUp_percentEncode (s : List Char) : isUp (percentEncode pathSet s) = isUp s := by
  have hpoints : ∀ c ∈ ['.', '.'], c = '.' := by simp
  have hiff := plainPoints_percentEncode_eq_iff s hpoints
  simp only [isUp, hiff]

/-! ## Segments in normal form -/

/-- A segment in normal form. -/
structure IsNormalSegment (s : List Char) : Prop where
  encoded : ∀ c ∈ s, pathSet c = false
  noSlash : ∀ c ∈ s, isSlash c = false
  notHere : isHere s = false
  notUp : isUp s = false

theorem isNormalSegment_nil : IsNormalSegment [] where
  encoded := List.forall_mem_nil _
  noSlash := List.forall_mem_nil _
  notHere := by decide
  notUp := by decide

theorem isNormalSegment_percentEncode {s : List Char} (hslash : ∀ c ∈ s, isSlash c = false) (hhere : isHere s = false)
    (hup : isUp s = false) : IsNormalSegment (percentEncode pathSet s) where
  encoded c hc := percentEncode_avoids isPartSet_path hc
  noSlash c hc := by
    obtain ⟨d, hd, hc⟩ := List.mem_flatMap.mp hc
    split at hc
    · have hcodes : ∀ x ∈ codeChars, isSlash x = false := List.forall_iff_forall_mem.mp (by decide)
      exact hcodes c (mem_codeChars_of_encodeChar hc)
    · rw [List.mem_singleton] at hc
      rw [hc]
      exact hslash d hd
  notHere := by rw [isHere_percentEncode, hhere]
  notUp := by rw [isUp_percentEncode, hup]

/-! ## Reading paths -/

theorem mem_up {before : List (List Char)} {s : List Char} (h : s ∈ up before) : s ∈ before := by
  cases before with
  | nil => exact h
  | cons t before =>
    rw [up] at h
    split at h
    · exact h
    · exact List.mem_cons_of_mem t h

theorem isNormalSegment_of_mem_resolve {before rest : List (List Char)} (hbefore : ∀ s ∈ before, IsNormalSegment s)
    (hrest : ∀ s ∈ rest, ∀ c ∈ s, isSlash c = false) : ∀ s ∈ resolve before rest, IsNormalSegment s := by
  induction rest generalizing before with
  | nil => simpa [resolve] using hbefore
  | cons t rest ih =>
    rw [List.forall_mem_cons] at hrest
    have hending : ∀ s ∈ (if rest = [] then [[]] else [] : List (List Char)), IsNormalSegment s := by
      split
      · simpa using isNormalSegment_nil
      · exact List.forall_mem_nil _
    rw [resolve]
    split
    · refine ih (List.forall_mem_append.mpr ⟨hending, fun s hs => hbefore s (mem_up hs)⟩) hrest.2
    · next hup =>
      split
      · exact ih (List.forall_mem_append.mpr ⟨hending, hbefore⟩) hrest.2
      · next hhere =>
        rw [Bool.not_eq_true] at hup hhere
        exact ih (List.forall_mem_cons.mpr ⟨isNormalSegment_percentEncode hrest.1 hhere hup, hbefore⟩) hrest.2

theorem resolve_ne_nil {before rest : List (List Char)} (h : before ≠ [] ∨ rest ≠ []) : resolve before rest ≠ [] := by
  induction rest generalizing before with
  | nil => simpa [resolve] using h
  | cons t rest ih =>
    have hnext : ∀ before', (if rest = [] then [[]] else [] : List (List Char)) ++ before' ≠ [] ∨ rest ≠ [] := by
      intro before'
      by_cases hrest : rest = []
      · simp [hrest]
      · exact Or.inr hrest
    rw [resolve]
    split
    · exact ih (hnext _)
    · split
      · exact ih (hnext _)
      · exact ih (Or.inl (List.cons_ne_nil _ _))

theorem mem_cutSlashes {cs s : List Char} (h : s ∈ cutSlashes cs) : ∀ c ∈ s, isSlash c = false := by
  induction cs generalizing s with
  | nil =>
    obtain rfl : s = [] := by simpa [cutSlashes, List.splitOnP_nil] using h
    exact List.forall_mem_nil _
  | cons d cs ih =>
    rw [cutSlashes, List.splitOnP_cons_eq_if_modifyHead] at h
    split at h
    · rcases List.mem_cons.mp h with rfl | h
      · exact List.forall_mem_nil _
      · exact ih h
    · next hd =>
      obtain ⟨k, ks, hk⟩ := List.exists_cons_of_ne_nil (List.splitOnP_ne_nil isSlash cs)
      have hall : ∀ s ∈ k :: ks, ∀ c ∈ s, isSlash c = false := fun s hs => ih (by rw [cutSlashes, hk]; exact hs)
      rw [List.forall_mem_cons] at hall
      rw [hk, List.modifyHead_cons] at h
      rcases List.mem_cons.mp h with rfl | h
      · exact List.forall_mem_cons.mpr ⟨by simpa using hd, hall.1⟩
      · exact hall.2 s h

theorem isNormalSegment_of_mem_pathOf {cs s : List Char} (h : s ∈ pathOf cs) : IsNormalSegment s :=
  isNormalSegment_of_mem_resolve (List.forall_mem_nil _) (fun _ hs => mem_cutSlashes hs) s h

theorem pathOf_ne_nil (cs : List Char) : pathOf cs ≠ [] := resolve_ne_nil (Or.inr (List.splitOnP_ne_nil _ _))

/-! ## Reading what was written -/

theorem resolve_eq {before rest : List (List Char)} (h : ∀ s ∈ rest, IsNormalSegment s) :
    resolve before rest = before.reverse ++ rest := by
  induction rest generalizing before with
  | nil => rw [resolve, List.append_nil]
  | cons t rest ih =>
    rw [List.forall_mem_cons] at h
    rw [resolve, if_neg (by simp [h.1.notUp]), if_neg (by simp [h.1.notHere]), percentEncode_eq_self h.1.encoded,
      ih h.2, List.reverse_cons, List.append_assoc, List.singleton_append]

theorem cutSlashes_renderPath {s : List Char} {path : List (List Char)}
    (h : ∀ t ∈ s :: path, ∀ c ∈ t, isSlash c = false) : cutSlashes (s ++ renderPath path) = s :: path := by
  induction path generalizing s with
  | nil =>
    rw [List.forall_mem_cons] at h
    rw [renderPath, List.flatMap_nil, List.append_nil]
    exact List.splitOnP_eq_singleton h.1
  | cons t path ih =>
    rw [List.forall_mem_cons] at h
    have hpath : (t :: path).flatMap ('/' :: ·) = '/' :: (t ++ renderPath path) := rfl
    rw [renderPath, hpath, cutSlashes, List.splitOnP_append_cons_of_forall_mem h.1 '/' rfl]
    exact congrArg (s :: ·) (ih h.2)

/-- **A path in normal form is read as itself**, and the empty path as one empty segment. -/
theorem pathOf_renderPath {path : List (List Char)} (h : ∀ s ∈ path, IsNormalSegment s) :
    pathOf (renderPath path) = if path = [] then [[]] else path := by
  cases path with
  | nil => rfl
  | cons s path =>
    have hdrop : (renderPath (s :: path)).drop 1 = s ++ renderPath path := rfl
    rw [pathOf, hdrop, cutSlashes_renderPath fun t ht => (h t ht).noSlash, resolve_eq h, if_neg (List.cons_ne_nil _ _)]
    rfl

end Hyperlink.Url
