import Hyperlink.Proofs.Text.Cutting
import Hyperlink.Proofs.Text.Digits
import Hyperlink.Url.Ipv4
import Hyperlink.Url.Ipv6

/-!
# Hyperlink.Proofs.Url.Address — addresses are read again

* `Ipv4.parse?_render`: **an address of four bytes is read from what it is written as**, and its text ends in a number
  (`Ipv4.endsInNumber_render`).
* `Ipv6.longestRun_zeros`: the run that `::` stands for is made of zeros.
* `Ipv6.parse?_render`: **an address of eight pieces is read from what it is written as.** All addresses that are read
  have eight pieces (`Ipv6.length_of_parse?`).
-/

namespace Hyperlink.Url

/-! ## Four bytes -/

namespace Ipv4

theorem number?_toDigits (n : Nat) : number? (Nat.toDigits 10 n) = some n := by
  have hdigits : ∀ c ∈ Nat.toDigits 10 n, c.isDigit := fun c hc => Nat.isDigit_of_mem_toDigits (by decide) (by decide) hc
  have hhead := Text.toDigits_head n
  have hnumber : Nat.ofDigitChars 10 (Nat.toDigits 10 n) 0 = n := Nat.ofDigitChars_ten_toDigits
  generalize hcs : Nat.toDigits 10 n = cs at hdigits hhead hnumber
  have hne : cs ≠ [] := hcs ▸ Nat.toDigits_ne_nil
  unfold number?
  split
  · exact absurd rfl hne
  · exact absurd (hhead rfl) (by simp)
  · exact absurd (hhead rfl) (by simp)
  · exact absurd (hhead rfl) (by simp)
  · rw [if_pos (List.all_eq_true.mpr hdigits), hnumber]

theorem splitOn_render (address : UInt32) :
    (render address).splitOn '.' = (bytes address).map (Nat.toDigits 10) := by
  refine List.splitOn_intercalate '.' (fun l hl => ?_) (by simp [bytes])
  obtain ⟨n, -, rfl⟩ := List.mem_map.mp hl
  intro hpoint
  exact absurd (Nat.isDigit_of_mem_toDigits (by decide) (by decide) hpoint) (by decide)

theorem parts_render (address : UInt32) : parts (render address) = (bytes address).map (Nat.toDigits 10) := by
  have hlast : ((bytes address).map (Nat.toDigits 10)).getLast? ≠ some [] := by
    simp [bytes, Nat.toDigits_ne_nil]
  simp only [parts, splitOn_render]
  rw [if_neg hlast]

theorem endsInNumber_render (address : UInt32) : endsInNumber (render address) = true := by
  have hlast : (parts (render address)).getLast? = some (Nat.toDigits 10 (address.toNat % 256)) := by
    simp [parts_render, bytes]
  unfold endsInNumber
  rw [hlast]
  simp [number?_toDigits]

theorem mapM_number?_render (address : UInt32) : (parts (render address)).mapM number? = some (bytes address) := by
  rw [parts_render]
  simp [bytes, number?_toDigits]

/-- **An address is read from what it is written as.** -/
theorem parse?_render (address : UInt32) : parse? (render address) = some address := by
  have hlt := address.toNat_lt
  have hnumbers : ofNumbers? (bytes address).dropLast (address.toNat % 256) = some address := by
    have hfront : (bytes address).dropLast =
        [address.toNat / 0x1000000, address.toNat / 0x10000 % 256, address.toNat / 0x100 % 256] := rfl
    have hall : [address.toNat / 0x1000000, address.toNat / 0x10000 % 256, address.toNat / 0x100 % 256].all (· < 256) := by
      simp only [List.all_cons, List.all_nil, Bool.and_true, Bool.and_eq_true, decide_eq_true_eq]
      omega
    have hbytes : ofBytes [address.toNat / 0x1000000, address.toNat / 0x10000 % 256, address.toNat / 0x100 % 256] *
        Nat.pow 256 (4 - 3) + address.toNat % 256 = address.toNat := by
      simp only [ofBytes, List.foldl_cons, List.foldl_nil]
      show _ * 256 + _ = _
      omega
    have hlast : ¬ Nat.pow 256 (4 - 3) ≤ address.toNat % 256 := by
      show ¬ 256 ≤ _
      omega
    rw [ofNumbers?, hfront, if_neg]
    · simp only [List.length_cons, List.length_nil]
      rw [hbytes, UInt32.ofNat_toNat]
    · rintro (h | h | h)
      · simp at h
      · exact h hall
      · exact hlast h
  have hlast : (bytes address).getLast? = some (address.toNat % 256) := rfl
  rw [parse?, mapM_number?_render]
  simp only [Option.bind_eq_bind, Option.bind_some, hlast, hnumbers]

end Ipv4

/-! ## Eight pieces -/

namespace Ipv6

variable (pieces : List UInt16)

theorem piece?_hexDigits (p : UInt16) : piece? (Text.hexDigits p.toNat) = some p := by
  have hlength : (Text.hexDigits p.toNat).length ≤ 4 :=
    (Nat.length_toDigits_le_iff (by decide) (by decide)).mpr p.toNat_lt
  have hall : (Text.hexDigits p.toNat).all Text.isHexDigit :=
    List.all_eq_true.mpr fun c hc => Text.isHexDigit_of_mem_hexDigits hc
  rw [piece?, if_pos ⟨Nat.toDigits_ne_nil, hlength, hall⟩, Text.hexNumber_hexDigits, UInt16.ofNat_toNat]

theorem not_mem_hexDigits {c : Char} (h : Text.isHexDigit c = false) (n : Nat) : c ∉ Text.hexDigits n := by
  intro hc
  rw [Text.isHexDigit_of_mem_hexDigits hc] at h
  exact absurd h (by decide)

theorem mapM_piece? : (pieces.map fun p => Text.hexDigits p.toNat).mapM piece? = some pieces := by
  induction pieces with
  | nil => rfl
  | cons p pieces ih => simp [piece?_hexDigits, ih]

theorem pieces?_hexDigits : pieces? (pieces.map fun p => Text.hexDigits p.toNat) = some pieces := by
  induction pieces with
  | nil => rfl
  | cons p pieces ih =>
    cases pieces with
    | nil =>
      rw [List.map_singleton, pieces?, lastPieces?, if_neg (not_mem_hexDigits (by decide) _), piece?_hexDigits]
      rfl
    | cons q pieces =>
      rw [List.map_cons, pieces?, piece?_hexDigits, ih]
      · rfl
      · simp

theorem splitOn_renderRow (h : pieces ≠ []) :
    (renderRow pieces).splitOn ':' = pieces.map fun p => Text.hexDigits p.toNat := by
  refine List.splitOn_intercalate ':' (fun l hl => ?_) (by simpa using h)
  obtain ⟨p, -, rfl⟩ := List.mem_map.mp hl
  exact not_mem_hexDigits (by decide) _

theorem renderRow_ne_nil (h : pieces ≠ []) : renderRow pieces ≠ [] := by
  intro hnil
  have hsplit := splitOn_renderRow pieces h
  cases pieces with
  | nil => exact h rfl
  | cons p pieces =>
    rw [hnil, List.splitOn_nil, List.map_cons] at hsplit
    exact Nat.toDigits_ne_nil (List.cons.inj hsplit).1.symm

theorem row?_renderRow : row? (renderRow pieces) = some pieces := by
  by_cases h : pieces = []
  · subst h
    rfl
  · rw [row?, if_neg (renderRow_ne_nil pieces h), splitOn_renderRow pieces h, pieces?_hexDigits]

theorem front?_renderRow : front? (renderRow pieces) = some pieces := by
  by_cases h : pieces = []
  · subst h
    rfl
  · rw [front?, if_neg (renderRow_ne_nil pieces h), splitOn_renderRow pieces h, mapM_piece?]

/-! ### Where two colons stand -/

theorem cutDouble_cons_of_ne {c : Char} (h : c ≠ ':') (cs : List Char) :
    cutDouble (c :: cs) = (cutDouble cs).map fun p => (c :: p.1, p.2) := by
  rw [cutDouble]
  intro ds hc
  exact absurd hc h

theorem cutDouble_append {ds : List Char} (h : ':' ∉ ds) (cs : List Char) :
    cutDouble (ds ++ cs) = (cutDouble cs).map fun p => (ds ++ p.1, p.2) := by
  induction ds with
  | nil => simp
  | cons d ds ih =>
    rw [List.mem_cons, not_or] at h
    rw [List.cons_append, cutDouble_cons_of_ne (Ne.symm h.1), ih h.2, Option.map_map]
    rfl

theorem cutDouble_colon {cs : List Char} (h : cs.head? ≠ some ':') :
    cutDouble (':' :: cs) = (cutDouble cs).map fun p => (':' :: p.1, p.2) := by
  rw [cutDouble]
  rintro ds - rfl
  exact h rfl

theorem head?_renderRow_cons (p : UInt16) (cs : List Char) : (renderRow (p :: pieces) ++ cs).head? ≠ some ':' := by
  obtain ⟨c, ds, hc⟩ := List.exists_cons_of_ne_nil (Nat.toDigits_ne_nil (b := 16) (n := p.toNat))
  have hne : c ≠ ':' := by
    rintro rfl
    exact not_mem_hexDigits (c := ':') (by decide) p.toNat (by rw [Text.hexDigits, hc]; exact List.mem_cons_self)
  have hrow : ∃ rest, renderRow (p :: pieces) = c :: rest := by
    cases pieces with
    | nil => exact ⟨ds, by simp [renderRow, Text.hexDigits, hc]⟩
    | cons q pieces => exact ⟨_, by rw [renderRow, List.map_cons, List.map_cons, List.intercalate_cons_cons,
        Text.hexDigits, hc, List.cons_append, List.cons_append]⟩
  obtain ⟨rest, hrest⟩ := hrow
  rw [hrest, List.cons_append, List.head?_cons]
  simpa using hne

/-- No two colons follow each other in a row of pieces, so the first two in a text stand behind it. -/
theorem cutDouble_renderRow (cs : List Char) :
    cutDouble (renderRow pieces ++ cs) = (cutDouble cs).map fun p => (renderRow pieces ++ p.1, p.2) := by
  induction pieces with
  | nil =>
    have hnil : renderRow [] = [] := rfl
    simp [hnil]
  | cons p pieces ih =>
    have hp : ':' ∉ Text.hexDigits p.toNat := not_mem_hexDigits (by decide) _
    cases pieces with
    | nil =>
      have hone : renderRow [p] = Text.hexDigits p.toNat := by simp [renderRow]
      rw [hone, cutDouble_append hp]
    | cons q pieces =>
      have hrow : renderRow (p :: q :: pieces) = Text.hexDigits p.toNat ++ ':' :: renderRow (q :: pieces) := by
        rw [renderRow, List.map_cons, List.map_cons, List.intercalate_cons_cons, List.append_assoc]
        rfl
      rw [hrow, List.append_assoc, cutDouble_append hp, List.cons_append,
        cutDouble_colon (head?_renderRow_cons pieces q cs), ih, Option.map_map, Option.map_map]
      congr 1
      funext x
      simp

/-! ### Runs of zeros -/

theorem leadingZeros_le : leadingZeros pieces ≤ pieces.length :=
  (List.takeWhile_prefix _).length_le

theorem take_leadingZeros : pieces.take (leadingZeros pieces) = List.replicate (leadingZeros pieces) 0 := by
  rw [leadingZeros, (List.prefix_iff_eq_take.mp (List.takeWhile_prefix _)).symm, List.eq_replicate_iff]
  refine ⟨rfl, fun p hp => ?_⟩
  simpa using List.mem_takeWhile_imp hp

/-- The run that is found lies in the row and is made of zeros. -/
theorem longestRun_zeros (start : Nat) : ∃ place length, longestRun start pieces = (start + place, length) ∧
    place + length ≤ pieces.length ∧ (pieces.drop place).take length = List.replicate length 0 := by
  induction pieces generalizing start with
  | nil => exact ⟨0, 0, rfl, le_refl 0, rfl⟩
  | cons p pieces ih =>
    obtain ⟨place, length, hrun, hle, hzeros⟩ := ih (start + 1)
    rw [longestRun, hrun]
    dsimp only
    split
    · refine ⟨0, leadingZeros (p :: pieces), rfl, ?_, ?_⟩
      · rw [Nat.zero_add]
        exact leadingZeros_le _
      · rw [List.drop_zero]
        exact take_leadingZeros _
    · refine ⟨place + 1, length, by rw [Nat.add_assoc, Nat.add_comm 1], ?_, hzeros⟩
      rw [List.length_cons]
      omega

/-! ### The whole address -/

theorem length_of_parse? {cs : List Char} {pieces : List UInt16} (h : parse? cs = some pieces) :
    pieces.length = pieceCount := by
  unfold parse? at h
  split at h
  · simp only [Option.bind_eq_bind, Option.bind_eq_some_iff] at h
    obtain ⟨ps, -, h⟩ := h
    split at h
    · next hlength => rw [← Option.some.inj h, hlength]
    · cases h
  · simp only [Option.bind_eq_bind, Option.bind_eq_some_iff] at h
    obtain ⟨front, -, back, -, h⟩ := h
    split at h
    · next hlength =>
      rw [← Option.some.inj h]
      simp only [List.length_append, List.length_replicate]
      omega
    · cases h

/-- **An address is read from what it is written as.** -/
theorem parse?_render {pieces : List UInt16} (h : pieces.length = pieceCount) : parse? (render pieces) = some pieces := by
  obtain ⟨place, length, hrun, hle, hzeros⟩ := longestRun_zeros pieces 0
  rw [Nat.zero_add] at hrun
  rw [render, hrun]
  dsimp only
  split
  · have hne : pieces ≠ [] := by
      rintro rfl
      exact absurd h (by decide)
    have hcut : cutDouble (renderRow pieces) = none := by
      have hend := cutDouble_renderRow pieces []
      rwa [List.append_nil] at hend
    rw [parse?, hcut]
    dsimp only
    rw [splitOn_renderRow pieces hne, pieces?_hexDigits]
    simp [h]
  · next hlength =>
    have hcut : cutDouble (renderRow (pieces.take place) ++ [':', ':'] ++ renderRow (pieces.drop (place + length))) =
        some (renderRow (pieces.take place), renderRow (pieces.drop (place + length))) := by
      rw [List.append_assoc, cutDouble_renderRow]
      simp [cutDouble]
    have hfront : (pieces.take place).length = place := by
      rw [List.length_take]
      omega
    have hback : (pieces.drop (place + length)).length = pieceCount - (place + length) := by
      rw [List.length_drop, h]
    have hmiddle : pieceCount - place - (pieceCount - (place + length)) = length := by omega
    have hparts : pieces.take place ++ List.replicate length 0 ++ pieces.drop (place + length) = pieces := by
      rw [← hzeros, List.append_assoc, ← List.drop_drop, List.take_append_drop, List.take_append_drop]
    rw [parse?, hcut]
    dsimp only
    rw [front?_renderRow, row?_renderRow]
    simp only [Option.bind_eq_bind, Option.bind_some]
    rw [hfront, hback, if_pos (by omega), hmiddle, hparts]

end Ipv6

end Hyperlink.Url
