import Hyperlink.Json.Printer
import Hyperlink.Json.Reader
import Hyperlink.Proofs.Text.Digits
import Mathlib.Data.List.Basic
import Mathlib.Data.List.TakeWhile

/-!
# Hyperlink.Proofs.Json.Scanning — the tokens of a written text

`tokens j` are the tokens that the text of a value on one line consists of.

* `Escapes`: the ways to write a character; `scanString_escape`: a string in quotes is scanned to parts that assemble to
  the string again.
* `number?_toString`: an integer is read as the number it was written for, if it has at most 64 bits.
* `Scans cs ts`: the characters `cs` are taken apart into the tokens `ts` whatever follows them, as long as no word
  goes on.  `Scans.append_mark`, `Scans.separated`: how the texts of arrays and objects are put together.
* `Writable depth j`: a value whose text can be read back where `depth` arrays and objects enclose it.
* `scans_compact`: **the text of a writable value is taken apart into its tokens.**
-/

namespace Hyperlink.Json

/-! ## Strings -/

theorem unit?_control : ∀ n < 32, unit? '0' '0' (hexDigit (n / 16)) (hexDigit (n % 16)) = some n := by
  decide

/-- A single unit that is no surrogate stands for its character, whatever follows it. -/
theorem assemble_unit {n : Nat} (hn : n < 0xd800) (ps : List StringPart) :
    assemble (.unit n :: ps) = (assemble ps).map (Char.ofNat n :: ·) := by
  have hhigh : isHighSurrogate n = false := by
    simp only [isHighSurrogate, Bool.and_eq_false_iff, decide_eq_false_iff_not]
    omega
  have hlow : isLowSurrogate n = false := by
    simp only [isLowSurrogate, Bool.and_eq_false_iff, decide_eq_false_iff_not]
    omega
  cases ps with
  | nil => simp [assemble, hhigh, hlow]
  | cons p ps => cases p <;> simp [assemble, hhigh, hlow]

/-- The ways to write a character in a string. -/
inductive Escapes (c : Char) : List Char → Prop
  | short {mark : Char} (hmark : escaped? mark = some c) : Escapes c ['\\', mark]
  | digits (hcontrol : c < ' ') :
      Escapes c ['\\', 'u', '0', '0', hexDigit (c.toNat / 16), hexDigit (c.toNat % 16)]
  | plain (hquote : c ≠ '"') (hback : c ≠ '\\') (hcontrol : ¬ c < ' ') : Escapes c [c]

theorem escapes_escapeChar (c : Char) : Escapes c (escapeChar c) := by
  unfold escapeChar
  split_ifs with hquote hback hbackspace hfeed hline hreturn htab hcontrol
  · exact .short (by subst hquote; rfl)
  · exact .short (by subst hback; rfl)
  · exact .short (by subst hbackspace; rfl)
  · exact .short (by subst hfeed; rfl)
  · exact .short (by subst hline; rfl)
  · exact .short (by subst hreturn; rfl)
  · exact .short (by subst htab; rfl)
  · exact .digits hcontrol
  · exact .plain hquote hback hcontrol

/-- A written character is scanned to one part, which stands for the character. -/
theorem scanString_escapeChar (c : Char) :
    ∃ p, (∀ rest, scanString (escapeChar c ++ rest) = (scanString rest).map fun q => (p :: q.1, q.2)) ∧
      ∀ ps, assemble (p :: ps) = (assemble ps).map (c :: ·) := by
  have hescapes := escapes_escapeChar c
  generalize escapeChar c = text at hescapes ⊢
  cases hescapes with
  | short hmark =>
    refine ⟨.char c, fun rest => ?_, fun ps => rfl⟩
    rw [List.cons_append, List.cons_append, List.nil_append, scanString, hmark]
    -- four digits follow only a mark that is no short one
    rintro _ _ _ _ _ rfl
    cases hmark
  | digits hcontrol =>
    have hlt : c.toNat < 32 := hcontrol
    refine ⟨.unit c.toNat, fun rest => ?_, fun ps => ?_⟩
    · simp only [List.cons_append, List.nil_append]
      rw [scanString, unit?_control _ hlt]
    · rw [assemble_unit (by omega), Char.ofNat_toNat]
  | plain hquote hback hcontrol =>
    refine ⟨.char c, fun rest => ?_, fun ps => rfl⟩
    rw [List.cons_append, List.nil_append, scanString, if_neg (by simp [hcontrol, hback])]
    all_goals simp_all

/-- **A string in quotes** is scanned up to its closing quote, and its parts assemble to the string again. -/
theorem scanString_escape (cs rest : List Char) :
    ∃ ps, scanString (cs.flatMap escapeChar ++ '"' :: rest) = some (ps, rest) ∧ assemble ps = some cs := by
  induction cs with
  | nil => exact ⟨[], by simp [scanString], rfl⟩
  | cons c cs ih =>
    obtain ⟨ps, hscan, hps⟩ := ih
    obtain ⟨p, hstep, hp⟩ := scanString_escapeChar c
    refine ⟨p :: ps, ?_, ?_⟩
    · rw [List.flatMap_cons, List.append_assoc, hstep, hscan]
      rfl
    · rw [hp, hps]
      rfl

/-! ## Numbers -/

theorem digits?_toDigits (n : Nat) : digits? (Nat.toDigits 10 n) = some (Nat.toDigits 10 n, []) := by
  have hall : ∀ c ∈ Nat.toDigits 10 n, c.isDigit = true :=
    fun c hc => Nat.isDigit_of_mem_toDigits (by decide) (by decide) hc
  have htake : (Nat.toDigits 10 n).takeWhile Char.isDigit = Nat.toDigits 10 n := List.takeWhile_eq_self_iff.mpr hall
  have hdrop : (Nat.toDigits 10 n).dropWhile Char.isDigit = [] := List.dropWhile_eq_nil_iff.mpr hall
  unfold digits?
  rw [htake, hdrop]
  split
  · next h => exact absurd h Nat.toDigits_ne_nil
  · rfl

theorem wholePart?_toDigits (n : Nat) : wholePart? (Nat.toDigits 10 n) = some (Nat.toDigits 10 n, []) := by
  rw [wholePart?, digits?_toDigits]
  simp only
  rw [if_neg]
  rintro ⟨hlen, hhead⟩
  exact hlen (Text.toDigits_head n hhead)

theorem number?_of_ne_minus {word : List Char} (h : ∀ cs, word ≠ '-' :: cs) :
    number? word = (do
      let (whole, cs) ← wholePart? word
      let (fraction, cs) ← fraction? cs
      let exponent ← exponent? cs
      return numberOf? false whole fraction exponent) := by
  unfold number?
  split
  next negative cs hsign =>
  split at hsign
  · next cs' => exact absurd rfl (h cs')
  · cases hsign
    rfl

theorem number?_minus (cs : List Char) :
    number? ('-' :: cs) = (do
      let (whole, cs) ← wholePart? cs
      let (fraction, cs) ← fraction? cs
      let exponent ← exponent? cs
      return numberOf? true whole fraction exponent) :=
  rfl

theorem toList_toString_ofNat (m : Nat) : (toString (Int.ofNat m)).toList = Nat.toDigits 10 m :=
  String.toList_ofList

theorem toList_toString_negSucc (m : Nat) :
    (toString (Int.negSucc m)).toList = '-' :: Nat.toDigits 10 (m + 1) := by
  show (String.ofList ['-'] ++ String.ofList (Nat.toDigits 10 (m + 1))).toList = _
  rw [String.toList_append, String.toList_ofList, String.toList_ofList]
  rfl

theorem numberOf?_toDigits {negative : Bool} {m : Nat} {n : Int} (hn : (if negative then -m else m : Int) = n)
    (hzero : ¬ (negative = true ∧ m = 0)) (hfit : integerFits n = true) :
    numberOf? negative (Nat.toDigits 10 m) [] none = some (.integer n) := by
  unfold numberOf?
  rw [List.append_nil, Nat.ofDigitChars_ten_toDigits]
  simp only [hn]
  rw [if_pos ⟨trivial, trivial, hfit, hzero⟩]

/-- **An integer** is read as the number it was written for, if it has at most 64 bits. -/
theorem number?_toString {n : Int} (hfit : integerFits n = true) :
    number? (toString n).toList = some (some (.integer n)) := by
  cases n with
  | ofNat m =>
    have hminus : ∀ cs, Nat.toDigits 10 m ≠ '-' :: cs := by
      intro cs hcs
      have hmem : '-' ∈ Nat.toDigits 10 m := hcs ▸ List.mem_cons_self
      exact absurd (Nat.isDigit_of_mem_toDigits (by decide) (by decide) hmem) (by decide)
    have hsigned : (if false = true then -(m : Int) else m) = Int.ofNat m := rfl
    rw [toList_toString_ofNat, number?_of_ne_minus hminus, wholePart?_toDigits]
    simp only [fraction?, exponent?, Option.bind_eq_bind, Option.bind_some,
      numberOf?_toDigits hsigned (by simp) hfit]
    rfl
  | negSucc m =>
    have hsigned : (if true = true then -((m + 1 : Nat) : Int) else (m + 1 : Nat)) = Int.negSucc m := rfl
    rw [toList_toString_negSucc, number?_minus, wholePart?_toDigits]
    simp only [fraction?, exponent?, Option.bind_eq_bind, Option.bind_some,
      numberOf?_toDigits hsigned (by simp) hfit]
    rfl

/-! ## Words -/

/-- What can follow a word: nothing, or a character that no word holds. -/
def Ends (rest : List Char) : Prop := ∀ c ∈ rest.head?, isWordChar c = false

theorem isWordChar_of_isDigit {c : Char} (h : c.isDigit = true) : isWordChar c = true := by
  have hmark : mark? c = none := by
    unfold mark?
    split <;> first | rfl | exact absurd h (by decide)
  have hspace : ∀ d, d.isDigit = false → c ≠ d := by
    rintro d hd rfl
    rw [h] at hd
    exact absurd hd (by decide)
  simp [isWordChar, isSpace, hmark, hspace]

theorem isWordChar_of_mem_toString {n : Int} {c : Char} (h : c ∈ (toString n).toList) : isWordChar c = true := by
  have hdigits : ∀ m, c ∈ Nat.toDigits 10 m → isWordChar c = true :=
    fun m hc => isWordChar_of_isDigit (Nat.isDigit_of_mem_toDigits (by decide) (by decide) hc)
  cases n with
  | ofNat m => exact hdigits m (toList_toString_ofNat m ▸ h)
  | negSucc m =>
    rw [toList_toString_negSucc] at h
    rcases List.mem_cons.mp h with rfl | h
    · decide
    · exact hdigits _ h

theorem word?_nil : word? [] = none := rfl

theorem word?_toString {n : Int} (hfit : integerFits n = true) :
    word? (toString n).toList = some (.number (some (.integer n))) := by
  have hnumber : ∀ {word : List Char}, number? word = none → (toString n).toList ≠ word := by
    rintro word hnone rfl
    rw [number?_toString hfit] at hnone
    exact absurd hnone (Option.some_ne_none _)
  rw [word?, if_neg (hnumber (by decide)), if_neg (hnumber (by decide)), if_neg (hnumber (by decide)),
    number?_toString hfit]
  rfl

/-! ## Tokens -/

theorem isSpace_of_mark? {c : Char} {t : Token} (h : mark? c = some t) : isSpace c = false ∧ c ≠ '"' := by
  unfold mark? at h
  split at h <;> first | exact ⟨by decide, by decide⟩ | exact absurd h (by simp)

theorem ofChars?_mark {c : Char} {t : Token} (h : mark? c = some t) (rest : List Char) :
    Token.ofChars? (c :: rest) = (Token.ofChars? rest).map (t :: ·) := by
  obtain ⟨hspace, hquote⟩ := isSpace_of_mark? h
  rw [Token.ofChars?, if_neg (by simp [hspace]), if_neg hquote, h]

theorem ends_mark {c : Char} {t : Token} (h : mark? c = some t) (rest : List Char) : Ends (c :: rest) := by
  intro d hd
  obtain rfl : c = d := by simpa using hd
  simp [isWordChar, h]

theorem ofChars?_word {c : Char} {cs : List Char} {t : Token} (hc : ∀ d ∈ c :: cs, isWordChar d = true)
    (hword : word? (c :: cs) = some t) {rest : List Char} (hrest : Ends rest) :
    Token.ofChars? (c :: cs ++ rest) = (Token.ofChars? rest).map (t :: ·) := by
  have hhead : isWordChar c = true := hc c List.mem_cons_self
  simp only [isWordChar, Bool.and_eq_true, Bool.not_eq_true', decide_eq_true_eq] at hhead
  obtain ⟨⟨hspace, hquote⟩, hmark⟩ := hhead
  have hcs : ∀ d ∈ cs, isWordChar d = true := fun d hd => hc d (List.mem_cons_of_mem c hd)
  have htake : (cs ++ rest).takeWhile isWordChar = cs := by
    rw [List.takeWhile_append_of_pos hcs]
    cases rest with
    | nil => simp
    | cons d rest => simp [hrest d rfl]
  have hdrop : (cs ++ rest).dropWhile isWordChar = rest := by
    rw [List.dropWhile_append_of_pos hcs]
    cases rest with
    | nil => simp
    | cons d rest => simp [hrest d rfl]
  rw [List.cons_append, Token.ofChars?, if_neg (by simp [hspace]), if_neg hquote, Option.isNone_iff_eq_none.mp hmark]
  simp only
  rw [htake, hdrop, hword]

theorem ofChars?_quote (s : String) (rest : List Char) :
    Token.ofChars? ((quote s).toList ++ rest) = (Token.ofChars? rest).map (.string (some s) :: ·) := by
  obtain ⟨ps, hscan, hps⟩ := scanString_escape s.toList rest
  have htext : (quote s).toList ++ rest = '"' :: (s.toList.flatMap escapeChar ++ '"' :: rest) := by
    simp [quote, String.toList_ofList]
  rw [htext, Token.ofChars?, if_neg (by decide), if_pos rfl]
  split
  · next ps' rest' h =>
    rw [hscan] at h
    obtain ⟨rfl, rfl⟩ : ps = ps' ∧ rest = rest' := by simpa using h
    rw [hps, Option.map_some, String.ofList_toList]
  · next h =>
    rw [hscan] at h
    exact absurd h (Option.some_ne_none _)

/-- The characters are taken apart into the tokens whatever follows them, as long as no word goes on. -/
def Scans (cs : List Char) (ts : List Token) : Prop :=
  ∀ rest, Ends rest → Token.ofChars? (cs ++ rest) = (Token.ofChars? rest).map (ts ++ ·)

namespace Scans

theorem nil : Scans [] [] := by
  intro rest _
  simp

theorem word {c : Char} {cs : List Char} {t : Token} (hc : ∀ d ∈ c :: cs, isWordChar d = true)
    (hword : word? (c :: cs) = some t) : Scans (c :: cs) [t] :=
  fun _ hrest => ofChars?_word hc hword hrest

theorem string (s : String) : Scans (quote s).toList [.string (some s)] :=
  fun rest _ => ofChars?_quote s rest

/-- A bracket or separator ends what stands in front of it. -/
theorem append_mark {cs cs' : List Char} {ts ts' : List Token} {c : Char} {t : Token} (hcs : Scans cs ts)
    (hc : mark? c = some t) (hcs' : Scans cs' ts') : Scans (cs ++ c :: cs') (ts ++ t :: ts') := by
  intro rest hrest
  rw [List.append_assoc, List.cons_append, hcs _ (ends_mark hc _), ofChars?_mark hc, hcs' rest hrest]
  simp [Option.map_map, Function.comp_def]

/-- Texts with commas between them. -/
theorem separated {α : Type} {text : α → List Char} {spelling : α → List Token} {xs : List α}
    (h : ∀ x ∈ xs, Scans (text x) (spelling x)) :
    Scans ([','].intercalate (xs.map text)) ([Token.comma].intercalate (xs.map spelling)) := by
  induction xs with
  | nil => exact nil
  | cons x xs ih =>
    have hx := h x List.mem_cons_self
    cases xs with
    | nil => simpa using hx
    | cons y ys =>
      have hrest := ih fun z hz => h z (List.mem_cons_of_mem x hz)
      simpa [List.intercalate_cons_of_ne_nil] using hx.append_mark (c := ',') rfl hrest

end Scans

/-! ## Values -/

mutual

/-- The tokens of a value. -/
def tokens : Json → List Token
  | null => [.null]
  | bool b => [.bool b]
  | number n => [.number (some n)]
  | string s => [.string (some s)]
  | array items => .openArray :: ([Token.comma].intercalate (itemTokens items) ++ [.closeArray])
  | object members => .openObject :: ([Token.comma].intercalate (memberTokens members) ++ [.closeObject])
  | refused => [.null]

/-- The tokens of each item. -/
def itemTokens : List Json → List (List Token)
  | [] => []
  | v :: vs => tokens v :: itemTokens vs

/-- The tokens of each member. -/
def memberTokens : List (String × Json) → List (List Token)
  | [] => []
  | (k, v) :: ms => (.string (some k) :: .colon :: tokens v) :: memberTokens ms

end

theorem itemTokens_eq_map (items : List Json) : itemTokens items = items.map tokens := by
  induction items with
  | nil => rfl
  | cons v vs ih => rw [itemTokens, ih, List.map_cons]

theorem memberTokens_eq_map (members : List (String × Json)) :
    memberTokens members = members.map fun m => .string (some m.1) :: .colon :: tokens m.2 := by
  induction members with
  | nil => rfl
  | cons m ms ih => rw [memberTokens, ih, List.map_cons]

theorem compactItems_eq_map (items : List Json) : compactItems items = items.map compact := by
  induction items with
  | nil => rfl
  | cons v vs ih => rw [compactItems, ih, List.map_cons]

theorem compactMembers_eq_map (members : List (String × Json)) :
    compactMembers members = members.map fun m => quote m.1 ++ ":" ++ compact m.2 := by
  induction members with
  | nil => rfl
  | cons m ms ih => rw [compactMembers, ih, List.map_cons]

/-- A value whose text can be read back where `depth` arrays and objects enclose it: its numbers are integers of at
most 64 bits, no part is refused, and it does not go too deep. -/
inductive Writable : Nat → Json → Prop
  | null {depth : Nat} : Writable depth null
  | bool {depth : Nat} (b : Bool) : Writable depth (bool b)
  | integer {depth : Nat} {n : Int} (hfit : integerFits n = true) : Writable depth (number (.integer n))
  | string {depth : Nat} (s : String) : Writable depth (string s)
  | array {depth : Nat} {items : List Json} (hdepth : depth < maxDepth)
      (hitems : ∀ v ∈ items, Writable (depth + 1) v) : Writable depth (array items)
  | object {depth : Nat} {members : List (String × Json)} (hdepth : depth < maxDepth)
      (hmembers : ∀ m ∈ members, Writable (depth + 1) m.2) : Writable depth (object members)

theorem toList_intercalate_comma (texts : List String) :
    (",".intercalate texts).toList = [','].intercalate (texts.map String.toList) := by
  rw [String.toList_intercalate]
  rfl

/-- **The text of a value** is taken apart into its tokens. -/
theorem scans_compact {depth : Nat} {j : Json} (h : Writable depth j) : Scans j.compact.toList j.tokens := by
  induction h with
  | null => exact Scans.word (List.forall_iff_forall_mem.mp (by decide)) rfl
  | bool b => cases b <;> exact Scans.word (List.forall_iff_forall_mem.mp (by decide)) rfl
  | @integer depth n hfit =>
    have hword := word?_toString hfit
    have hchars : ∀ c ∈ (toString n).toList, isWordChar c = true := fun c hc => isWordChar_of_mem_toString hc
    show Scans (toString n).toList [.number (some (.integer n))]
    cases htext : (toString n).toList with
    | nil =>
      rw [htext] at hword
      exact absurd (word?_nil.symm.trans hword) (Option.some_ne_none _).symm
    | cons c cs =>
      rw [htext] at hword hchars
      exact Scans.word hchars hword
  | string s => exact Scans.string s
  | @array depth items hdepth hitems ih =>
    rw [tokens, itemTokens_eq_map, compact, compactItems_eq_map]
    simp only [String.toList_append, toList_intercalate_comma, List.map_map]
    exact (Scans.nil.append_mark (c := '[') rfl (Scans.separated ih)).append_mark (c := ']') rfl Scans.nil
  | @object depth members hdepth hmembers ih =>
    have hmember : ∀ m ∈ members, Scans (String.toList (quote m.1 ++ ":" ++ compact m.2))
        (.string (some m.1) :: .colon :: tokens m.2) := by
      intro m hm
      rw [String.toList_append, String.toList_append, List.append_assoc]
      exact (Scans.string m.1).append_mark (c := ':') rfl (ih m hm)
    rw [tokens, memberTokens_eq_map, compact, compactMembers_eq_map]
    simp only [String.toList_append, toList_intercalate_comma, List.map_map]
    exact (Scans.nil.append_mark (c := '\x7b') rfl (Scans.separated hmember)).append_mark (c := '\x7d') rfl Scans.nil

end Hyperlink.Json
