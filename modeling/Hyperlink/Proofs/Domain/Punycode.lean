import Hyperlink.Domain.Punycode
import Mathlib.Data.List.Basic

/-!
# Hyperlink.Proofs.Domain.Punycode — Punycode is read as what it writes

* `readNumber_numberDigits`: a distance is read from its digits, whatever follows them.
* `shown`: the part of a text that stands already while it is written. `Written` is the invariant of the writer: what
  it has written so far takes the reader to the part that stands (`Written.pass`, `Written.fold`, `Written.writeCodes`).
* `decode?_encode`: so **every text is read again**, and `encode?` always succeeds.
* `encode_isWritten`: a text in Punycode has no other characters than digits, hyphens and those of the text.
* `length_le_encode`: distances that are not small take three digits, so a text in Punycode can be longer than the text.
-/

namespace Hyperlink.Domain.Punycode

/-! ## Digits -/

theorem digitValue?_digitChar : ∀ d < 36, digitValue? (digitChar d) = some d := by
  decide

/-- A letter or digit that a distance is written with. -/
def IsDigit (c : Char) : Prop := ∃ d < 36, c = digitChar d

theorem digit_lt (place bias q : Nat) :
    threshold place bias + (q - threshold place bias) % (36 - threshold place bias) < 36 := by
  have hle := threshold_le place bias
  have hmod := Nat.mod_lt (q - threshold place bias) (show 0 < 36 - threshold place bias by omega)
  omega

theorem isDigit_of_mem_numberDigits {bias place q : Nat} {c : Char} (h : c ∈ numberDigits bias place q) :
    IsDigit c := by
  fun_induction numberDigits bias place q with
  | case1 place q t hlt =>
    have hle : t ≤ 26 := threshold_le place bias
    exact ⟨q, by omega, List.mem_singleton.mp h⟩
  | case2 place q t hge ih =>
    rcases List.mem_cons.mp h with rfl | h
    · exact ⟨_, digit_lt place bias q, rfl⟩
    · exact ih h

/-- A distance is read from its digits. -/
theorem readNumber_numberDigits (bias value weight place q : Nat) (rest : List Char) :
    readNumber bias value weight place (numberDigits bias place q ++ rest) = some (value + q * weight, rest) := by
  fun_induction numberDigits bias place q generalizing value weight with
  | case1 place q t hlt =>
    have hle : t ≤ 26 := threshold_le place bias
    rw [List.singleton_append, readNumber, digitValue?_digitChar q (by omega)]
    exact if_pos hlt
  | case2 place q t hge ih =>
    have hdigit := digitValue?_digitChar _ (digit_lt place bias q)
    have hmore : ¬ t + (q - t) % (36 - t) < t := by omega
    have hvalue : t + (q - t) % (36 - t) + (q - t) / (36 - t) * (36 - t) = q := by
      have hmod := Nat.mod_add_div' (q - t) (36 - t)
      omega
    rw [List.cons_append, readNumber, hdigit]
    dsimp only
    rw [if_neg hmore, ih, Nat.add_assoc, ← Nat.mul_assoc, Nat.mul_right_comm, ← Nat.add_mul, hvalue]

theorem numberDigits_ne_nil (bias place q : Nat) : numberDigits bias place q ≠ [] := by
  rw [numberDigits]
  split <;> exact List.cons_ne_nil _ _

/-! ## Code points in ascending order -/

theorem mem_insertCode {n m : Nat} {ms : List Nat} : m ∈ insertCode n ms ↔ m = n ∨ m ∈ ms := by
  induction ms with
  | nil => simp [insertCode]
  | cons k ms ih =>
    rw [insertCode]
    split
    · exact List.mem_cons
    · split
      · rw [List.mem_cons, ih, List.mem_cons]
        exact or_left_comm
      · have hnk : n = k := by omega
        rw [hnk, List.mem_cons]
        simp

theorem pairwise_insertCode (n : Nat) {ms : List Nat} (h : ms.Pairwise (· < ·)) :
    (insertCode n ms).Pairwise (· < ·) := by
  induction ms with
  | nil => exact List.pairwise_singleton _ n
  | cons k ms ih =>
    obtain ⟨hk, hms⟩ := List.pairwise_cons.mp h
    rw [insertCode]
    split
    · next hlt =>
      refine List.pairwise_cons.mpr ⟨fun m hm => ?_, h⟩
      rcases List.mem_cons.mp hm with rfl | hm
      · exact hlt
      · exact Nat.lt_trans hlt (hk m hm)
    · split
      · next hlt =>
        refine List.pairwise_cons.mpr ⟨fun m hm => ?_, ih hms⟩
        rcases mem_insertCode.mp hm with rfl | hm
        · exact hlt
        · exact hk m hm
      · exact h

theorem mem_codes {text : List Char} {n : Nat} : n ∈ codes text ↔ firstCode ≤ n ∧ ∃ c ∈ text, c.toNat = n := by
  have hfold : ∀ ns : List Nat, n ∈ ns.foldr insertCode [] ↔ n ∈ ns := by
    intro ns
    induction ns with
    | nil => exact Iff.rfl
    | cons m ns ih => rw [List.foldr_cons, mem_insertCode, ih, List.mem_cons]
  rw [codes, hfold, List.mem_filter, List.mem_map, decide_eq_true_eq, and_comm]

theorem pairwise_codes (text : List Char) : (codes text).Pairwise (· < ·) := by
  rw [codes]
  generalize (text.map Char.toNat).filter (firstCode ≤ ·) = ns
  induction ns with
  | nil => exact List.Pairwise.nil
  | cons n ns ih => exact pairwise_insertCode n ih

theorem foldr_insertCode {ns : List Nat} (h : ns.Pairwise (· < ·)) : ns.foldr insertCode [] = ns := by
  induction ns with
  | nil => rfl
  | cons n ns ih =>
    obtain ⟨hn, hns⟩ := List.pairwise_cons.mp h
    rw [List.foldr_cons, ih hns]
    cases ns with
    | nil => rfl
    | cons m ns => exact if_pos (hn m List.mem_cons_self)

/-- Code points that stand in ascending order are kept as they stand. -/
theorem codes_of_pairwise {text : List Char}
    (h : ((text.map Char.toNat).filter (firstCode ≤ ·)).Pairwise (· < ·)) :
    codes text = (text.map Char.toNat).filter (firstCode ≤ ·) :=
  foldr_insertCode h

/-! ## The invariant of the writer -/

/-- The part of a text that stands when the code point `code` has been written in `before`, and not yet in `after`. -/
def shown (code : Nat) (before after : List Char) : List Char :=
  before.filter (·.toNat ≤ code) ++ after.filter (·.toNat < code)

/-- The place in that part where `after` begins. -/
def placeOf (code : Nat) (before : List Char) : Nat := (before.filter (·.toNat ≤ code)).length

/-- What the writer has written takes the reader to the part of the text that stands. The distance is the one from the
place where the reader is to the place where the writer is. -/
structure Written (code : Nat) (before after : List Char) (s : WriterState) : Prop where
  digits : ∀ c ∈ s.output, IsDigit c
  count : s.count = (shown code before after).length
  reads : ∃ last place, last * (s.count + 1) + place + s.distance = code * (s.count + 1) + placeOf code before ∧
    ∀ rest, readCodes firstCode 0 initialBias (asciiPart (before ++ after)) (s.output ++ rest) =
      readCodes last place s.bias (shown code before after) rest

/-- A distance leads from one pair of a code point and a place to another. -/
theorem place_of_distance {last place distance code position size : Nat}
    (h : last * size + place + distance = code * size + position) (hlt : position < size) :
    last + (place + distance) / size = code ∧ (place + distance) % size = position := by
  have hsize : 0 < size := by omega
  have hsum : place + distance + last * size = position + code * size := by omega
  constructor
  · have hdiv := Nat.add_mul_div_right (place + distance) last hsize
    rw [hsum, Nat.add_mul_div_right _ _ hsize, Nat.div_eq_of_lt hlt] at hdiv
    omega
  · have hmod := Nat.add_mul_mod_self_right (place + distance) last size
    rwa [hsum, Nat.add_mul_mod_self_right, Nat.mod_eq_of_lt hlt, eq_comm] at hmod

/-- The reader puts the next character where the distance leads. -/
theorem readCodes_numberDigits {last place bias distance code position : Nat} {text : List Char} {c : Char}
    (hdistance : last * (text.length + 1) + place + distance = code * (text.length + 1) + position)
    (hposition : position ≤ text.length) (hc : c.toNat = code) (rest : List Char) :
    readCodes last place bias text (numberDigits bias 36 distance ++ rest) =
      readCodes code (position + 1) (adapt distance (text.length + 1) (text.all (·.toNat < firstCode)))
        (text.take position ++ c :: text.drop position) rest := by
  have hne : numberDigits bias 36 distance ++ rest ≠ [] := by
    simp [numberDigits_ne_nil]
  have hnumber : readNumber bias 0 1 36 (numberDigits bias 36 distance ++ rest) = some (distance, rest) := by
    rw [readNumber_numberDigits, Nat.zero_add, Nat.mul_one]
  obtain ⟨hcode, hplace⟩ := place_of_distance hdistance (by omega)
  have hchar : charOf? code = some c := by
    have hvalid : c.toNat.isValidChar := c.valid
    rw [charOf?, ← hc, if_pos hvalid, Char.ofNat_toNat]
  rw [readCodes, if_neg hne]
  split
  · next h => simp [hnumber] at h
  · next d r h =>
    obtain ⟨rfl, rfl⟩ : distance = d ∧ rest = r := by simpa [hnumber] using h
    dsimp only
    rw [hcode, hplace, hchar]

theorem filter_ascii_shown {code : Nat} (hcode : firstCode ≤ code) (before after : List Char) :
    (shown code before after).filter (·.toNat < firstCode) = asciiPart (before ++ after) := by
  have hbefore : ∀ c : Char, (decide (c.toNat < firstCode) && decide (c.toNat ≤ code)) = decide (c.toNat < firstCode) := by
    intro c
    rw [← Bool.decide_and, decide_eq_decide]
    omega
  have hafter : ∀ c : Char, (decide (c.toNat < firstCode) && decide (c.toNat < code)) = decide (c.toNat < firstCode) := by
    intro c
    rw [← Bool.decide_and, decide_eq_decide]
    omega
  rw [shown, asciiPart, List.filter_append, List.filter_append, List.filter_filter, List.filter_filter]
  simp only [hbefore, hafter]

/-- The part that stands is ASCII iff it is as long as the ASCII part of the text: no code point has been put in yet. -/
theorem all_ascii_shown {code : Nat} (hcode : firstCode ≤ code) (before after : List Char) :
    (shown code before after).all (·.toNat < firstCode) =
      decide ((shown code before after).length = (asciiPart (before ++ after)).length) := by
  rw [← filter_ascii_shown hcode, Bool.eq_iff_iff, List.all_eq_true, decide_eq_true_iff, eq_comm,
    List.length_filter_eq_length_iff]

section Passing

variable {code : Nat} (before after : List Char) {s : WriterState} {c : Char}

theorem shown_cons (h : c.toNat < code) :
    shown code before (c :: after) = before.filter (·.toNat ≤ code) ++ c :: after.filter (·.toNat < code) := by
  rw [shown, List.filter_cons_of_pos (by simpa using h)]

theorem shown_cons_of_le (h : code ≤ c.toNat) : shown code before (c :: after) = shown code before after := by
  rw [shown, List.filter_cons_of_neg (by simpa using h), shown]

theorem shown_concat (h : c.toNat ≤ code) :
    shown code (before ++ [c]) after = before.filter (·.toNat ≤ code) ++ c :: after.filter (·.toNat < code) := by
  rw [shown, List.filter_append, List.filter_cons_of_pos (by simpa using h), List.filter_nil, List.append_assoc,
    List.singleton_append]

theorem placeOf_concat (h : c.toNat ≤ code) : placeOf code (before ++ [c]) = placeOf code before + 1 := by
  rw [placeOf, List.filter_append, List.filter_cons_of_pos (by simpa using h), List.filter_nil, List.length_append,
    placeOf]
  rfl

theorem shown_concat_of_lt (h : code < c.toNat) : shown code (before ++ [c]) after = shown code before after := by
  rw [shown, List.filter_append, List.filter_cons_of_neg (by simpa using h), List.filter_nil, List.append_nil, shown]

theorem placeOf_concat_of_lt (h : code < c.toNat) : placeOf code (before ++ [c]) = placeOf code before := by
  rw [placeOf, List.filter_append, List.filter_cons_of_neg (by simpa using h), List.filter_nil, List.append_nil, placeOf]

variable {before after}

/-- A smaller character stands already: the distance grows with the place. -/
theorem Written.passSmaller (h : Written code before (c :: after) s) (hlt : c.toNat < code) :
    Written code (before ++ [c]) after { s with distance := s.distance + 1 } := by
  obtain ⟨last, place, hdistance, hreads⟩ := h.reads
  have hshown : shown code (before ++ [c]) after = shown code before (c :: after) := by
    rw [shown_concat before after (Nat.le_of_lt hlt), shown_cons before after hlt]
  have hplace := placeOf_concat before (Nat.le_of_lt hlt)
  refine ⟨h.digits, by rw [hshown]; exact h.count, last, place, ?_, ?_⟩
  · dsimp only
    omega
  · rw [List.append_assoc, List.singleton_append, hshown]
    exact hreads

/-- A larger character comes later: nothing stands or is passed that did not before. -/
theorem Written.passLarger (h : Written code before (c :: after) s) (hlt : code < c.toNat) :
    Written code (before ++ [c]) after s := by
  obtain ⟨last, place, hdistance, hreads⟩ := h.reads
  have hshown : shown code (before ++ [c]) after = shown code before (c :: after) := by
    rw [shown_cons_of_le before after (Nat.le_of_lt hlt), shown_concat_of_lt before after hlt]
  refine ⟨h.digits, by rw [hshown]; exact h.count, last, place, ?_, ?_⟩
  · rw [placeOf_concat_of_lt before hlt]
    exact hdistance
  · rw [List.append_assoc, List.singleton_append, hshown]
    exact hreads

/-- A character of the code point is written, and the reader puts it in its place. -/
theorem Written.passSame (h : Written code before (c :: after) s) (hcode : firstCode ≤ code) (heq : c.toNat = code) :
    Written code (before ++ [c]) after
      { distance := 0
        bias := adapt s.distance (s.count + 1) (s.count = (asciiPart (before ++ c :: after)).length)
        count := s.count + 1
        output := s.output ++ numberDigits s.bias 36 s.distance } := by
  obtain ⟨last, place, hdistance, hreads⟩ := h.reads
  have hcount := h.count
  have hparts : shown code before (c :: after) = before.filter (·.toNat ≤ code) ++ after.filter (·.toNat < code) :=
    shown_cons_of_le before after (Nat.le_of_eq heq.symm)
  have hback := shown_concat before after (Nat.le_of_eq heq)
  have hplace := placeOf_concat before (Nat.le_of_eq heq)
  have hflag : (shown code before (c :: after)).all (·.toNat < firstCode) =
      decide (s.count = (asciiPart (before ++ c :: after)).length) := by
    rw [all_ascii_shown hcode, hcount]
  refine ⟨?_, ?_, code, placeOf code before + 1, ?_, fun rest => ?_⟩
  · exact List.forall_mem_append.mpr ⟨h.digits, fun d hd => isDigit_of_mem_numberDigits hd⟩
  · rw [hback, hcount, hparts]
    simp only [List.length_append, List.length_cons]
    omega
  · dsimp only
    rw [hplace]
    omega
  · rw [List.append_assoc, List.singleton_append, List.append_assoc, hreads, hback]
    rw [hcount] at hdistance
    rw [readCodes_numberDigits hdistance (by rw [hparts, placeOf, List.length_append]; omega) heq, hflag, hcount]
    congr 1
    rw [hparts, placeOf, List.take_left, List.drop_left]

/-- **One step of the writer keeps the invariant.** -/
theorem Written.pass (h : Written code before (c :: after) s) (hcode : firstCode ≤ code) :
    Written code (before ++ [c]) after (pass (asciiPart (before ++ c :: after)).length code s c) := by
  unfold Punycode.pass
  split
  · next hlt => exact h.passSmaller hlt
  · split
    · next heq => exact h.passSame hcode heq
    · next hge hne => exact h.passLarger (by omega)

end Passing

/-- Passing the whole text keeps the invariant. -/
theorem Written.fold {code : Nat} (hcode : firstCode ≤ code) {before after : List Char} {s : WriterState}
    (h : Written code before after s) :
    Written code (before ++ after) [] (after.foldl (Punycode.pass (asciiPart (before ++ after)).length code) s) := by
  induction after generalizing before s with
  | nil => simpa using h
  | cons c after ih =>
    have hstep := ih (h.pass hcode)
    rwa [List.append_assoc, List.singleton_append] at hstep

/-! ## The whole text -/

theorem placeOf_nil (code : Nat) : placeOf code [] = 0 := rfl

/-- Behind the end of the text, the writer starts over with the next code point. -/
theorem Written.next {code : Nat} {text : List Char} {s : WriterState} (h : Written code text [] s) :
    Written (code + 1) [] text { s with distance := s.distance + 1 } := by
  have hle : ∀ c : Char, decide (c.toNat < code + 1) = decide (c.toNat ≤ code) := by
    intro c
    rw [decide_eq_decide]
    omega
  have hshown : shown (code + 1) [] text = shown code text [] := by
    simp only [shown, List.filter_nil, List.nil_append, List.append_nil, hle]
  have hlength : placeOf code text = s.count := by
    rw [h.count, placeOf, shown, List.filter_nil, List.append_nil]
  obtain ⟨last, place, hdistance, hreads⟩ := h.reads
  refine ⟨h.digits, by rw [hshown]; exact h.count, last, place, ?_, ?_⟩
  · dsimp only
    rw [placeOf_nil, Nat.add_mul]
    omega
  · rw [hshown]
    rwa [List.append_nil] at hreads

/-- Code points that the text does not hold are stepped over. -/
theorem Written.skip {code code' : Nat} (hle : code ≤ code') {text : List Char}
    (hskip : ∀ c ∈ text, code ≤ c.toNat → code' ≤ c.toNat) {s : WriterState} (h : Written code [] text s) :
    Written code' [] text { s with distance := s.distance + (code' - code) * (s.count + 1) } := by
  have hshown : shown code' [] text = shown code [] text := by
    rw [shown, shown, List.filter_nil, List.filter_nil, List.nil_append, List.nil_append]
    refine List.filter_congr fun c hc => ?_
    have hc := hskip c hc
    rw [decide_eq_decide]
    omega
  obtain ⟨last, place, hdistance, hreads⟩ := h.reads
  refine ⟨h.digits, by rw [hshown]; exact h.count, last, place, ?_, ?_⟩
  · have hsplit : code' * (s.count + 1) = code * (s.count + 1) + (code' - code) * (s.count + 1) := by
      rw [← Nat.add_mul, Nat.add_sub_cancel' hle]
    dsimp only
    rw [placeOf_nil] at hdistance ⊢
    omega
  · rw [hshown]
    exact hreads

/-- **Writing all code points keeps the invariant.** -/
theorem Written.writeCodes {text : List Char} {next : Nat} {ns : List Nat} (hfirst : firstCode ≤ next)
    (hns : ns.Pairwise (· < ·)) (hnext : ∀ n ∈ ns, next ≤ n) (hmem : ∀ c ∈ text, next ≤ c.toNat → c.toNat ∈ ns)
    {s : WriterState} (h : Written next [] text s) :
    ∃ last, (∀ c ∈ text, c.toNat < last) ∧
      Written last [] text (Punycode.writeCodes text (asciiPart text).length next ns s) := by
  induction ns generalizing next s with
  | nil =>
    refine ⟨next, fun c hc => ?_, h⟩
    by_contra hge
    exact absurd (hmem c hc (by omega)) List.not_mem_nil
  | cons n ns ih =>
    obtain ⟨hn, hns⟩ := List.pairwise_cons.mp hns
    obtain ⟨hle, -⟩ := List.forall_mem_cons.mp hnext
    have hskip : ∀ c ∈ text, next ≤ c.toNat → n ≤ c.toNat := by
      intro c hc hge
      rcases List.mem_cons.mp (hmem c hc hge) with heq | hlt
      · omega
      · have hless := hn _ hlt
        omega
    have hafter : ∀ c ∈ text, n + 1 ≤ c.toNat → c.toNat ∈ ns := by
      intro c hc hge
      rcases List.mem_cons.mp (hmem c hc (by omega)) with heq | hlt
      · omega
      · exact hlt
    exact ih (by omega) hns (fun m hm => hn m hm) hafter ((h.skip hle hskip).fold (by omega)).next

/-- What is written before the first code point. -/
theorem written_start (text : List Char) :
    Written firstCode [] text ⟨0, initialBias, (asciiPart text).length, []⟩ where
  digits := List.forall_mem_nil _
  count := by
    rw [shown, List.filter_nil, List.nil_append]
    rfl
  reads := by
    refine ⟨firstCode, 0, rfl, fun rest => ?_⟩
    rw [shown, List.filter_nil, List.nil_append]
    rfl

theorem written_end (text : List Char) : ∃ last, (∀ c ∈ text, c.toNat < last) ∧ Written last [] text
    (writeCodes text (asciiPart text).length firstCode (codes text) ⟨0, initialBias, (asciiPart text).length, []⟩) :=
  (written_start text).writeCodes (Nat.le_refl _) (pairwise_codes text) (fun _ hn => (mem_codes.mp hn).1)
    fun c hc hge => mem_codes.mpr ⟨hge, c, hc, rfl⟩

/-! ## The two parts -/

theorem isDigit_ne_hyphen {c : Char} (h : IsDigit c) : c ≠ '-' := by
  obtain ⟨d, hd, rfl⟩ := h
  have hall : ∀ d < 36, digitChar d ≠ '-' := by decide
  exact hall d hd

theorem isDigit_ascii {c : Char} (h : IsDigit c) : c.toNat < firstCode := by
  obtain ⟨d, hd, rfl⟩ := h
  have hall : ∀ d < 36, (digitChar d).toNat < firstCode := by decide
  exact hall d hd

theorem takeWhile_reverse_digits {digits : List Char} (h : ∀ c ∈ digits, IsDigit c) (front : List Char)
    (hfront : front.head? = none ∨ front.head? = some '-') :
    (digits.reverse ++ front).takeWhile (· ≠ '-') = digits.reverse := by
  rw [List.takeWhile_append_of_pos]
  · cases front with
    | nil => rw [List.takeWhile_nil, List.append_nil]
    | cons c front =>
      have hc : c = '-' := by simpa using hfront
      rw [List.takeWhile_cons_of_neg (by simp [hc]), List.append_nil]
  · intro c hc
    simpa using isDigit_ne_hyphen (h c (List.mem_reverse.mp hc))

/-- The two parts of a text in Punycode are told by the last hyphen. -/
theorem separate_append {ascii digits : List Char} (h : ∀ c ∈ digits, IsDigit c) :
    separate ((if ascii = [] then [] else ascii ++ ['-']) ++ digits) = (ascii, digits) := by
  by_cases hascii : ascii = []
  · have hdigits := takeWhile_reverse_digits h [] (Or.inl rfl)
    rw [List.append_nil] at hdigits
    rw [if_pos hascii, List.nil_append, separate, hdigits, List.reverse_reverse, Nat.sub_self, hascii]
    rfl
  · have hreverse : (ascii ++ ['-'] ++ digits).reverse = digits.reverse ++ '-' :: ascii.reverse := by
      simp
    have hdigits := takeWhile_reverse_digits h ('-' :: ascii.reverse) (Or.inr rfl)
    have htake : (ascii ++ ['-'] ++ digits).take ((ascii ++ ['-'] ++ digits).length - digits.length) =
        ascii ++ ['-'] := by
      rw [List.length_append, Nat.add_sub_cancel, List.take_left]
    rw [if_neg hascii, separate, hreverse, hdigits, List.reverse_reverse, htake, List.dropLast_concat]
    exact if_neg hascii

/-- A character that a text in Punycode may hold, if it writes the text. -/
def IsWritten (text : List Char) (c : Char) : Prop := c ∈ asciiPart text ∨ c = '-' ∨ IsDigit c

theorem encode_isWritten {text : List Char} {c : Char} (h : c ∈ encode text) : IsWritten text c := by
  obtain ⟨last, -, hwritten⟩ := written_end text
  rw [encode] at h
  rcases List.mem_append.mp h with h | h
  · split at h
    · cases h
    · rcases List.mem_append.mp h with h | h
      · exact Or.inl h
      · exact Or.inr (Or.inl (List.mem_singleton.mp h))
  · exact Or.inr (Or.inr (hwritten.digits c h))

theorem isWritten_ascii {text : List Char} {c : Char} (h : IsWritten text c) : c.toNat < firstCode := by
  rcases h with h | rfl | h
  · simpa using (List.mem_filter.mp h).2
  · decide
  · exact isDigit_ascii h

/-- **Every text is read again** from what it is written as. -/
theorem decode?_encode (text : List Char) : decode? (encode text) = some text := by
  obtain ⟨last, hlast, hwritten⟩ := written_end text
  obtain ⟨code, place, -, hreads⟩ := hwritten.reads
  have hall : (encode text).all (·.toNat < firstCode) = true :=
    List.all_eq_true.mpr fun c hc => by simpa using isWritten_ascii (encode_isWritten hc)
  have hshown : shown last [] text = text := by
    rw [shown, List.filter_nil, List.nil_append, List.filter_eq_self]
    intro c hc
    simpa using hlast c hc
  have hread := hreads []
  rw [List.append_nil, List.nil_append, hshown, readCodes.eq_def _ _ _ _ [], if_pos rfl] at hread
  rw [decode?, if_pos hall, encode]
  dsimp only
  rw [separate_append hwritten.digits]
  exact hread

theorem encode?_eq_some (text : List Char) : encode? text = some (encode text) := by
  rw [encode?]
  exact if_pos (decode?_encode text)

/-! ## How long a text in Punycode is -/

/-- A distance that is not small takes three digits, whatever the bias is. -/
theorem three_le_numberDigits (bias : Nat) {q : Nat} (h : 911 ≤ q) : 3 ≤ (numberDigits bias 36 q).length := by
  have hpos := threshold_pos 36 bias
  have hle := threshold_le 36 bias
  have hle' := threshold_le (36 + 36) bias
  generalize ht : threshold 36 bias = t at hpos hle
  have hquotient : 26 ≤ (q - t) / (36 - t) := by
    rw [Nat.le_div_iff_mul_le (by omega)]
    omega
  have hfirst : ¬ q < threshold 36 bias := by omega
  have hsecond : ¬ (q - t) / (36 - t) < threshold (36 + 36) bias := by omega
  rw [numberDigits, if_neg hfirst, ht, numberDigits, if_neg hsecond]
  have hrest := List.length_pos_iff.mpr (numberDigits_ne_nil bias (36 + 36 + 36)
    (((q - t) / (36 - t) - threshold (36 + 36) bias) / (36 - threshold (36 + 36) bias)))
  simp only [List.length_cons]
  omega

section Length

variable {text : List Char} (ascii code : Nat)

theorem pass_length (s : WriterState) (c : Char) :
    s.output.length ≤ (pass ascii code s c).output.length ∧ s.count ≤ (pass ascii code s c).count := by
  unfold pass
  split
  · exact ⟨Nat.le_refl _, Nat.le_refl _⟩
  · split
    · dsimp only
      rw [List.length_append]
      exact ⟨Nat.le_add_right _ _, Nat.le_succ _⟩
    · exact ⟨Nat.le_refl _, Nat.le_refl _⟩

theorem foldl_pass_length (text : List Char) (s : WriterState) :
    s.output.length ≤ (text.foldl (pass ascii code) s).output.length ∧ s.count ≤ (text.foldl (pass ascii code) s).count := by
  induction text generalizing s with
  | nil => exact ⟨Nat.le_refl _, Nat.le_refl _⟩
  | cons c text ih =>
    obtain ⟨hlength, hcount⟩ := pass_length ascii code s c
    obtain ⟨hlength', hcount'⟩ := ih (pass ascii code s c)
    exact ⟨Nat.le_trans hlength hlength', Nat.le_trans hcount hcount'⟩

/-- A code point that the text holds is written with three digits, if the distance is not small. -/
theorem foldl_pass_three {s : WriterState} (hmem : ∃ c ∈ text, c.toNat = code) (h : 911 ≤ s.distance) :
    s.output.length + 3 ≤ (text.foldl (pass ascii code) s).output.length ∧
      s.count + 1 ≤ (text.foldl (pass ascii code) s).count := by
  induction text generalizing s with
  | nil =>
    obtain ⟨c, hc, -⟩ := hmem
    cases hc
  | cons c text ih =>
    rw [List.foldl_cons]
    by_cases hc : c.toNat = code
    · obtain ⟨hlength, hcount⟩ := foldl_pass_length ascii code text (pass ascii code s c)
      have hdigits := three_le_numberDigits s.bias h
      have hpass : pass ascii code s c =
          ⟨0, adapt s.distance (s.count + 1) (s.count = ascii), s.count + 1,
            s.output ++ numberDigits s.bias 36 s.distance⟩ := by
        rw [pass, if_neg (by omega), if_pos hc]
      rw [hpass] at hlength hcount ⊢
      dsimp only at hlength hcount
      rw [List.length_append] at hlength
      exact ⟨by omega, by omega⟩
    · have hrest : ∃ d ∈ text, d.toNat = code := by
        obtain ⟨d, hd, heq⟩ := hmem
        rcases List.mem_cons.mp hd with rfl | hd
        · exact absurd heq hc
        · exact ⟨d, hd, heq⟩
      unfold pass
      split
      · exact ih (s := { s with distance := s.distance + 1 }) hrest (Nat.le_succ_of_le h)
      · exact ih hrest h

/-- The code points from `next` on lie at least `gap` apart. -/
inductive Spaced (gap : Nat) : Nat → List Nat → Prop
  | nil (next : Nat) : Spaced gap next []
  | cons {next n : Nat} {ns : List Nat} (hn : next + gap ≤ n) (hns : Spaced gap (n + 1) ns) : Spaced gap next (n :: ns)

theorem spaced_range' {gap next start : Nat} (h : next + gap ≤ start) (n : Nat) :
    Spaced gap next (List.range' start n (gap + 1)) := by
  induction n generalizing next start with
  | zero => exact .nil next
  | succ n ih => exact .cons h (ih (by omega))

theorem writeCodes_length {gap next : Nat} {ns : List Nat} (hmem : ∀ n ∈ ns, ∃ c ∈ text, c.toNat = n)
    (hspaced : Spaced gap next ns) {s : WriterState} (h : 911 ≤ gap * (s.count + 1)) :
    s.output.length + 3 * ns.length ≤ (writeCodes text ascii next ns s).output.length := by
  induction ns generalizing next s with
  | nil => exact Nat.le_refl _
  | cons n ns ih =>
    rw [List.forall_mem_cons] at hmem
    obtain _ | ⟨hn, hns⟩ := hspaced
    have hdistance : 911 ≤ s.distance + (n - next) * (s.count + 1) := by
      have hgap : gap * (s.count + 1) ≤ (n - next) * (s.count + 1) :=
        Nat.mul_le_mul_right _ (by omega)
      omega
    let start : WriterState := { s with distance := s.distance + (n - next) * (s.count + 1) }
    have hthree := foldl_pass_three ascii n (s := start) hmem.1 hdistance
    rw [writeCodes, List.length_cons]
    show _ ≤ (writeCodes text ascii (n + 1) ns { text.foldl (pass ascii n) start with distance := _ }).output.length
    generalize text.foldl (pass ascii n) start = s' at hthree ⊢
    obtain ⟨hlength, hcount⟩ := hthree
    have hgrown : gap * (s.count + 1) ≤ gap * (s'.count + 1) := Nat.mul_le_mul_left gap (by dsimp only [start] at hcount; omega)
    have hrest := ih (s := { s' with distance := s'.distance + 1 }) hmem.2 hns (Nat.le_trans h hgrown)
    dsimp only [start] at hlength hrest ⊢
    omega

/-- A text whose code points lie far apart takes three digits for each. -/
theorem length_le_encode {text : List Char} {gap ascii : Nat} (hspaced : Spaced gap firstCode (codes text))
    (hascii : ascii ≤ (asciiPart text).length) (h : 911 ≤ gap * (ascii + 1)) :
    3 * (codes text).length ≤ (encode text).length := by
  have hwide : 911 ≤ gap * ((asciiPart text).length + 1) :=
    Nat.le_trans h (Nat.mul_le_mul_left gap (Nat.succ_le_succ hascii))
  have hmem : ∀ n ∈ codes text, ∃ c ∈ text, c.toNat = n := fun n hn => (mem_codes.mp hn).2
  have hlength := writeCodes_length (asciiPart text).length hmem hspaced
    (s := ⟨0, initialBias, (asciiPart text).length, []⟩) hwide
  rw [encode, List.length_append]
  dsimp only at hlength ⊢
  rw [List.length_nil] at hlength
  omega

end Length

end Hyperlink.Domain.Punycode
