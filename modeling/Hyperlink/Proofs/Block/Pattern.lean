import Hyperlink.Block.Pattern
import Hyperlink.Proofs.Block.Grammar

/-!
# Hyperlink.Proofs.Block.Pattern — a match names the parts that are asked for

* `ofParts_suffix`: the parts behind a block id form the reference that `readSuffix` finds; those of two numbers in
  brackets that of `span?` (`ofParts_brackets`).
* `read_eq`: so reading by the named parts keeps its promise for every text, and agrees with `BlockRef.parse?`.
-/

namespace Hyperlink

open BlockRange (number? span? readSuffix)

namespace BlockRef

/-- Characters that are no digits write no number. -/
theorem number?_eq_none {cs : List Char} (h : ¬ (cs ≠ [] ∧ cs.all Char.isDigit)) : number? cs = none := by
  unfold number?
  rw [if_pos]
  by_cases hne : cs = []
  · exact Or.inl hne
  · exact Or.inr fun hall => h ⟨hne, hall⟩

/-- The part of the id is asked for in front of all others, and is there. -/
theorem ofParts_cons (text : String) (id : List Char) (parts : NamedParts) :
    ofParts text (("block_id", id) :: parts) =
      .ok (withParts text (String.ofList id) (("block_id", id) :: parts)) := rfl

/-- The two numbers are found behind the id, which is no plus. -/
theorem withParts_brackets (text id : String) (block start stop : List Char) :
    withParts text id [("block_id", block), ("start", start), ("end", stop)] =
      match number? start, number? stop with
      | some a, some b => ⟨id, some (.span a b)⟩
      | _, _ => ⟨text, none⟩ := rfl

theorem ofParts_brackets (text : String) (id cs : List Char) :
    ((bracketParts? cs).elim (.ok ⟨text, none⟩) fun parts => ofParts text (("block_id", id) :: parts)) =
      .ok ((span? cs).elim ⟨text, none⟩ fun r => ⟨String.ofList id, some r⟩) := by
  unfold bracketParts? span?
  rcases Text.cutAt ':' cs with _ | ⟨start, rest⟩
  · rfl
  dsimp only
  rcases Text.cutAt ']' rest with _ | ⟨stop, _ | ⟨c, behind⟩⟩
  · rfl
  · dsimp only
    by_cases hdigits : (start ≠ [] ∧ start.all Char.isDigit) ∧ stop ≠ [] ∧ stop.all Char.isDigit
    · rw [if_pos hdigits, Option.elim_some, ofParts_cons, withParts_brackets]
      cases number? start <;> cases number? stop <;> rfl
    · rw [if_neg hdigits]
      rcases not_and_or.mp hdigits with hstart | hstop
      · simp [number?_eq_none hstart]
      · cases number? start <;> simp [number?_eq_none hstop]
  · rfl

/-- Whatever stands behind a block id, its named parts form the reference that is found in it. -/
theorem ofParts_suffix (text : String) (id suffix : List Char) :
    ((suffixParts? suffix).elim (.ok ⟨text, none⟩) fun parts => ofParts text (("block_id", id) :: parts)) =
      .ok ((readSuffix suffix).elim ⟨text, none⟩ fun r => ⟨String.ofList id, r⟩) := by
  unfold suffixParts?
  split
  · rfl
  · rfl
  · next cs =>
    have hsuffix : readSuffix ('[' :: cs) = (span? cs).map some := rfl
    rw [ofParts_brackets, hsuffix, Option.elim_map]
    rfl
  · next hnil hplus hbracket =>
    have hsuffix : readSuffix suffix = none := by
      rw [readSuffix] <;> assumption
    rw [hsuffix]
    rfl

/-- **Reading by the named parts finds the part that it asks for**, and what it gives is the reference of the text. -/
theorem read_eq (text : String) : read text = .ok (parse? text) := by
  unfold read
  by_cases hempty : text = ""
  · rw [if_pos hempty, hempty, parse?_empty]
  have hne : text.toList ≠ [] := by simpa using hempty
  have hparts := ofParts_suffix text (text.toList.take idLength) (text.toList.drop idLength)
  simp only [if_neg hempty, parse?, if_neg hne, parts?]
  by_cases hid : isId (text.toList.take idLength)
  · rw [if_pos hid, if_pos hid]
    cases hsuffix : suffixParts? (text.toList.drop idLength) with
    | none =>
      rw [hsuffix, Option.elim_none, Except.ok.injEq] at hparts
      cases hread : readSuffix (text.toList.drop idLength) with
      | none => rfl
      | some range =>
        rw [hread, Option.elim_some] at hparts
        rw [hparts]
        rfl
    | some parts =>
      rw [hsuffix, Option.elim_some] at hparts
      rw [Option.map_some]
      simp only [hparts]
      cases readSuffix (text.toList.drop idLength) <;> rfl
  · rw [if_neg hid, if_neg hid]

theorem readOptional_eq (text : Option String) : readOptional text = .ok (text.bind parse?) := by
  cases text with
  | none => rfl
  | some text => exact read_eq text

end BlockRef

end Hyperlink
