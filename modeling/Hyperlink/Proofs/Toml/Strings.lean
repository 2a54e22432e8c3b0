import Hyperlink.Toml.Text
import Mathlib

/-!
# Hyperlink.Proofs.Toml.Strings — a written string is read again

* `basic?_plain`, `literal?_plain`: what stands between quotes or apostrophes as it is.
* `closing?_append`: behind a text without a run of three quotes, the closing quotes are met where the text ends, or
  one or two quotes earlier; `multiBasic?_plain`, `multiLiteral?_plain`.
* `Escapes`: the ways to write a character; `basic?_escape`: what stands between quotes with escapes.
* `string?_quote`: **every string is read again from what it is written as**, whatever kind of quotes was chosen.
-/

namespace Hyperlink.Toml

/-! ## Plain texts -/

/-- A character that can stand in a string as it is begins no line end. -/
theorem ne_of_isText {c : Char} (h : isText c = true) : c ≠ '\n' ∧ c ≠ '\r' := by
  constructor <;> rintro rfl <;> exact absurd h (by decide)

theorem basic?_plain {cs : List Char} (htext : ∀ c ∈ cs, isText c = true) (hquote : '"' ∉ cs) (hback : '\\' ∉ cs)
    (rest : List Char) : basic? (cs ++ '"' :: rest) = some (cs, rest) := by
  induction cs with
  | nil => rw [List.nil_append, basic?]
  | cons c cs ih =>
    rw [List.forall_mem_cons] at htext
    simp only [List.mem_cons, not_or] at hquote hback
    rw [List.cons_append, basic?, if_pos htext.1, ih htext.2 hquote.2 hback.2]
    · rfl
    · rintro rfl
      exact hquote.1 rfl
    · rintro rfl
      exact hback.1 rfl

theorem literal?_plain {cs : List Char} (htext : ∀ c ∈ cs, isText c = true) (hquote : '\'' ∉ cs) (rest : List Char) :
    literal? (cs ++ '\'' :: rest) = some (cs, rest) := by
  induction cs with
  | nil => rw [List.nil_append, literal?]
  | cons c cs ih =>
    rw [List.forall_mem_cons] at htext
    rw [List.mem_cons, not_or] at hquote
    rw [List.cons_append, literal?, if_pos htext.1, ih htext.2 hquote.2]
    · rfl
    · rintro rfl
      exact hquote.1 rfl

/-! ## Runs of quotes -/

theorem run_le_longestRun (q : Char) (run : Nat) (cs : List Char) : run ≤ longestRun q run cs := by
  induction cs generalizing run with
  | nil => exact le_refl run
  | cons c cs ih =>
    unfold longestRun
    split
    · exact (Nat.le_succ run).trans (ih (run + 1))
    · exact le_max_left _ _

theorem longestRun_mono (q : Char) {run run' : Nat} (h : run ≤ run') (cs : List Char) :
    longestRun q run cs ≤ longestRun q run' cs := by
  induction cs generalizing run run' with
  | nil => exact h
  | cons c cs ih =>
    unfold longestRun
    split
    · exact ih (Nat.succ_le_succ h)
    · omega

theorem longestRun_tail (q c : Char) (cs : List Char) : longestRun q 0 cs ≤ longestRun q 0 (c :: cs) := by
  rw [longestRun.eq_def q 0 (c :: cs)]
  simp only
  split
  · exact longestRun_mono q (Nat.zero_le 1) cs
  · exact le_max_right _ _

theorem not_mem_of_longestRun {q : Char} {cs : List Char} (h : longestRun q 0 cs ≤ 0) : q ∉ cs := by
  induction cs with
  | nil => exact List.not_mem_nil
  | cons c cs ih =>
    have hcs := ih ((longestRun_tail q c cs).trans h)
    rw [longestRun] at h
    split at h
    · have hrun := (run_le_longestRun q 1 cs).trans h
      omega
    · next hc =>
      rw [List.mem_cons, not_or]
      exact ⟨Ne.symm hc, hcs⟩

/-- Behind a text without a run of three quotes and in front of something else, three quotes close a string where the
text ends, or where one or two quotes of it are left. -/
theorem closing?_append {q : Char} {cs rest : List Char} (hrun : longestRun q 0 cs ≤ 2) (hrest : rest.head? ≠ some q) :
    closing? q (cs ++ q :: q :: q :: rest) = if cs.length ≤ 2 ∧ ∀ c ∈ cs, c = q then some (cs, rest) else none := by
  match cs with
  | [] =>
    match rest with
    | [] => simp [closing?]
    | [d] => simp_all [closing?]
    | d :: e :: rest => simp_all [closing?]
  | [a] =>
    by_cases ha : a = q
    · subst ha
      match rest with
      | [] => simp [closing?]
      | d :: rest => simp_all [closing?]
    · simp [closing?, ha]
  | [a, b] =>
    by_cases ha : a = q
    · by_cases hb : b = q
      · subst ha hb
        simp [closing?]
      · simp [closing?, hb]
    · simp [closing?, ha]
  | a :: b :: c :: cs =>
    have hnone : ¬ (a = q ∧ b = q ∧ c = q) := by
      rintro ⟨rfl, rfl, rfl⟩
      simp only [longestRun, if_true] at hrun
      have hthree := (run_le_longestRun _ 3 cs).trans hrun
      omega
    simp [closing?, hnone]

theorem multiBasic?_cons {c : Char} {cs : List Char} (htext : isText c = true) (hback : c ≠ '\\')
    (hclosing : closing? '"' (c :: cs) = none) :
    multiBasic? (c :: cs) = (multiBasic? cs).map fun p => (c :: p.1, p.2) := by
  obtain ⟨hfeed, hreturn⟩ := ne_of_isText htext
  rw [multiBasic?.eq_def, hclosing]
  simp only
  split
  · next heq => exact absurd heq (List.cons_ne_nil _ _)
  · next heq => exact absurd (List.cons.inj heq).1 hreturn
  · next heq => exact absurd (List.cons.inj heq).1 hback
  · next heq =>
    obtain ⟨rfl, rfl⟩ := List.cons.inj heq
    rw [if_pos (Or.inl htext)]

theorem multiBasic?_plain {cs rest : List Char} (htext : ∀ c ∈ cs, isText c = true) (hback : '\\' ∉ cs)
    (hrun : longestRun '"' 0 cs ≤ 2) (hrest : rest.head? ≠ some '"') :
    multiBasic? (cs ++ '"' :: '"' :: '"' :: rest) = some (cs, rest) := by
  induction cs with
  | nil =>
    rw [multiBasic?.eq_def, closing?_append hrun hrest, if_pos (by simp)]
  | cons c cs ih =>
    have hclosing := closing?_append hrun hrest
    split at hclosing
    · rw [multiBasic?.eq_def, hclosing]
    · rw [List.forall_mem_cons] at htext
      rw [List.mem_cons, not_or] at hback
      have hcs := ih htext.2 hback.2 ((longestRun_tail _ c cs).trans hrun)
      rw [List.cons_append] at hclosing ⊢
      rw [multiBasic?_cons htext.1 (Ne.symm hback.1) hclosing, hcs]
      rfl

theorem multiLiteral?_cons {c : Char} {cs : List Char} (htext : isText c = true)
    (hclosing : closing? '\'' (c :: cs) = none) :
    multiLiteral? (c :: cs) = (multiLiteral? cs).map fun p => (c :: p.1, p.2) := by
  rw [multiLiteral?.eq_def, hclosing]
  simp only
  split
  · next heq => exact absurd heq (List.cons_ne_nil _ _)
  · next heq => exact absurd (List.cons.inj heq).1 (ne_of_isText htext).2
  · next heq =>
    obtain ⟨rfl, rfl⟩ := List.cons.inj heq
    rw [if_pos (Or.inl htext)]

theorem multiLiteral?_plain {cs rest : List Char} (htext : ∀ c ∈ cs, isText c = true)
    (hrun : longestRun '\'' 0 cs ≤ 2) (hrest : rest.head? ≠ some '\'') :
    multiLiteral? (cs ++ '\'' :: '\'' :: '\'' :: rest) = some (cs, rest) := by
  induction cs with
  | nil =>
    rw [multiLiteral?.eq_def, closing?_append hrun hrest, if_pos (by simp)]
  | cons c cs ih =>
    have hclosing := closing?_append hrun hrest
    split at hclosing
    · rw [multiLiteral?.eq_def, hclosing]
    · rw [List.forall_mem_cons] at htext
      have hcs := ih htext.2 ((longestRun_tail _ c cs).trans hrun)
      rw [List.cons_append] at hclosing ⊢
      rw [multiLiteral?_cons htext.1 hclosing, hcs]
      rfl

/-! ## Escapes -/

theorem hexChar?_control : ∀ n < 128, n < 32 ∨ n = 127 →
    hexChar? ('0' :: '0' :: Text.hexByte (UInt8.ofNat n)) = some (Char.ofNat n) := by
  decide

/-- The ways to write a character between quotes. -/
inductive Escapes (c : Char) : List Char → Prop
  | short {mark : Char} (hmark : escaped? mark = some c) : Escapes c ['\\', mark]
  | digits (hcontrol : c < ' ' ∨ c = '\x7f') :
      Escapes c (['\\', 'u', '0', '0'] ++ Text.hexByte (UInt8.ofNat c.toNat))
  | plain (hquote : c ≠ '"') (hback : c ≠ '\\') (htext : isText c = true) : Escapes c [c]

theorem escapes_escapeChar (c : Char) : Escapes c (escapeChar c) := by
  unfold escapeChar
  split_ifs with hquote hback hbackspace htab hline hfeed hreturn hcontrol
  · exact .short (by subst hquote; rfl)
  · exact .short (by subst hback; rfl)
  · exact .short (by subst hbackspace; rfl)
  · exact .short (by subst htab; rfl)
  · exact .short (by subst hline; rfl)
  · exact .short (by subst hfeed; rfl)
  · exact .short (by subst hreturn; rfl)
  · exact .digits hcontrol
  · rw [not_or] at hcontrol
    exact .plain hquote hback (by simp [isText, hcontrol.2, Char.not_lt.mp hcontrol.1])

/-- What is written for a character does not begin with a quote. -/
theorem Escapes.exists_cons {c : Char} {text : List Char} (h : Escapes c text) : ∃ d ds, text = d :: ds ∧ d ≠ '"' := by
  cases h with
  | short _ => exact ⟨'\\', _, rfl, by decide⟩
  | digits _ => exact ⟨'\\', _, rfl, by decide⟩
  | plain hquote _ _ => exact ⟨c, [], rfl, hquote⟩

/-- The mark of a short escape is not that of an escape of digits. -/
theorem escape?_short {mark c : Char} (h : escaped? mark = some c) (rest : List Char) :
    escape? (mark :: rest) = some (c, 1) := by
  rw [escape?]
  · rw [h]
    rfl
  · rintro rfl
    cases h
  · rintro rfl
    cases h

/-- Four digits write a control character. -/
theorem escape?_control {c : Char} (h : c < ' ' ∨ c = '\x7f') (rest : List Char) :
    escape? ('u' :: '0' :: '0' :: (Text.hexByte (UInt8.ofNat c.toNat) ++ rest)) = some (c, 5) := by
  have hrange : c.toNat < 32 ∨ c.toNat = 127 := h.imp id (congrArg Char.toNat)
  have hdigits := hexChar?_control c.toNat (by omega) hrange
  rw [Char.ofNat_toNat] at hdigits
  show (if ('0' :: '0' :: Text.hexByte (UInt8.ofNat c.toNat)).length = 4 then
    (hexChar? ('0' :: '0' :: Text.hexByte (UInt8.ofNat c.toNat))).map (·, 5) else none) = _
  rw [hdigits]
  rfl

/-- A written character is read as itself, whatever follows it. -/
theorem basic?_escapeChar (c : Char) (rest : List Char) :
    basic? (escapeChar c ++ rest) = (basic? rest).map fun p => (c :: p.1, p.2) := by
  have hescapes := escapes_escapeChar c
  generalize escapeChar c = text at hescapes ⊢
  cases hescapes with
  | short hmark =>
    rw [List.cons_append, List.cons_append, List.nil_append, basic?, escape?_short hmark]
    rfl
  | digits hcontrol =>
    simp only [List.cons_append, List.nil_append]
    rw [basic?, escape?_control hcontrol]
    rfl
  | plain hquote hback htext =>
    rw [List.cons_append, List.nil_append, basic?, if_pos htext]
    · exact hquote
    · exact hback

theorem basic?_escape (cs rest : List Char) :
    basic? (cs.flatMap escapeChar ++ '"' :: rest) = some (cs, rest) := by
  induction cs with
  | nil => rw [List.flatMap_nil, List.nil_append, basic?]
  | cons c cs ih =>
    rw [List.flatMap_cons, List.append_assoc, basic?_escapeChar, ih]
    rfl

/-! ## Strings of any kind -/

theorem isPlain_iff {q : Char} {most : Nat} {cs : List Char} :
    isPlain q most cs = true ↔ (∀ c ∈ cs, isText c = true) ∧ longestRun q 0 cs ≤ most := by
  simp [isPlain]

theorem string?_basic {cs : List Char} (h : ∀ rest, cs ≠ '"' :: '"' :: rest) : string? ('"' :: cs) = basic? cs := by
  rw [string?]
  exact h

theorem string?_literal {cs : List Char} (h : ∀ rest, cs ≠ '\'' :: '\'' :: rest) :
    string? ('\'' :: cs) = literal? cs := by
  rw [string?]
  exact h

/-- Text that does not begin with the quote, up to the next one, is not taken for two more opening quotes. -/
theorem append_ne_quotes {q : Char} {cs rest : List Char} (hhead : cs.head? ≠ some q) (hrest : rest.head? ≠ some q)
    (rest' : List Char) : cs ++ q :: rest ≠ q :: q :: rest' := by
  intro h
  cases cs with
  | nil =>
    have htail : rest = q :: rest' := (List.cons.inj h).2
    exact hrest (by rw [htail, List.head?_cons])
  | cons c cs =>
    have hc : c = q := (List.cons.inj h).1
    exact hhead (by rw [hc, List.head?_cons])

theorem head?_ne_of_not_mem {q : Char} {cs : List Char} (h : q ∉ cs) : cs.head? ≠ some q :=
  fun hq => h (List.mem_of_head? hq)

theorem head?_flatMap_escapeChar (cs : List Char) : (cs.flatMap escapeChar).head? ≠ some '"' := by
  cases cs with
  | nil => exact nofun
  | cons c cs =>
    obtain ⟨d, ds, hd, hne⟩ := (escapes_escapeChar c).exists_cons
    rw [List.flatMap_cons, hd, List.cons_append, List.head?_cons]
    simpa using hne

/-- Plain text begins with no line end. -/
theorem dropLineEnd_plain {cs rest : List Char} {q : Char} (htext : ∀ c ∈ cs, isText c = true) (hq : isText q = true) :
    dropLineEnd (cs ++ q :: rest) = cs ++ q :: rest := by
  have hfirst : ∀ c ds, isText c = true → dropLineEnd (c :: ds) = c :: ds := by
    intro c ds hc
    obtain ⟨hfeed, hreturn⟩ := ne_of_isText hc
    unfold dropLineEnd
    split
    · next heq => exact absurd (List.cons.inj heq).1 hfeed
    · next heq => exact absurd (List.cons.inj heq).1 hreturn
    · rfl
  cases cs with
  | nil => exact hfirst q rest hq
  | cons c cs => exact hfirst c _ (htext c List.mem_cons_self)

/-- **Every string is read again** from what it is written as, if no quote stands behind it. -/
theorem string?_quote (cs : List Char) {rest : List Char} (hquote : rest.head? ≠ some '"')
    (hliteral : rest.head? ≠ some '\'') : string? (quote cs ++ rest) = some (cs, rest) := by
  unfold quote
  split_ifs with hbasic hapostrophe hmulti hmultiLiteral
  · obtain ⟨htext, hrun⟩ := isPlain_iff.mp hbasic.2
    have hno := not_mem_of_longestRun hrun
    rw [List.append_assoc, List.cons_append, List.singleton_append,
      string?_basic (append_ne_quotes (head?_ne_of_not_mem hno) hquote), basic?_plain htext hno hbasic.1]
  · obtain ⟨htext, hrun⟩ := isPlain_iff.mp hapostrophe
    have hno := not_mem_of_longestRun hrun
    rw [List.append_assoc, List.cons_append, List.singleton_append,
      string?_literal (append_ne_quotes (head?_ne_of_not_mem hno) hliteral), literal?_plain htext hno]
  · obtain ⟨htext, hrun⟩ := isPlain_iff.mp hmulti.2
    rw [List.append_assoc, List.append_assoc]
    show multiBasic? (dropLineEnd (cs ++ '"' :: '"' :: '"' :: rest)) = some (cs, rest)
    rw [dropLineEnd_plain htext (by decide), multiBasic?_plain htext hmulti.1 hrun hquote]
  · obtain ⟨htext, hrun⟩ := isPlain_iff.mp hmultiLiteral
    rw [List.append_assoc, List.append_assoc]
    show multiLiteral? (dropLineEnd (cs ++ '\'' :: '\'' :: '\'' :: rest)) = some (cs, rest)
    rw [dropLineEnd_plain htext (by decide), multiLiteral?_plain htext hrun hliteral]
  · rw [List.append_assoc, List.cons_append, List.singleton_append,
      string?_basic (append_ne_quotes (head?_flatMap_escapeChar cs) hquote), basic?_escape]

end Hyperlink.Toml
