import Hyperlink.Proofs.Domain.Name
import Hyperlink.Proofs.Url.Address
import Hyperlink.Proofs.Url.Percent
import Hyperlink.Url.Host

/-!
# Hyperlink.Proofs.Url.Host — a host is read again

* `IsRead`: the hosts that are read: names in ASCII that do not end in a number, and addresses (`isRead_of_parse`).
* `IsNameChar`: a visible character that separates no parts of a URL. Names and addresses of four bytes are made of such
  characters, and addresses of eight pieces of digits and colons in brackets.
* `parse_render`: **a host that is read is read again from what it is written as, unless it is a name with an overlong
  label**; then it is refused.
-/

namespace Hyperlink.Host

open Url

/-! ## Hosts that are read -/

/-- A host that reading can give. -/
inductive IsRead : Host → Prop
  | domain {name : List Char} (text : List Char) (hname : Domain.toAscii? text = some name) (hne : name ≠ [])
      (hnumber : Ipv4.endsInNumber name = false) : IsRead (.domain name)
  | ipv4 (address : UInt32) : IsRead (.ipv4 address)
  | ipv6 {pieces : List UInt16} (hlength : pieces.length = Ipv6.pieceCount) : IsRead (.ipv6 pieces)

theorem isRead_of_ofName {cs : List Char} {host : Host} (h : ofName cs = .ok host) : IsRead host := by
  unfold ofName at h
  split at h
  · cases h
  · next name hname =>
    obtain ⟨text, -, hascii⟩ := Option.bind_eq_some_iff.mp hname
    split at h
    · cases h
    · next hne =>
      split at h
      · split at h
        · next address _ =>
          obtain rfl := Except.ok.inj h
          exact .ipv4 address
        · cases h
      · next hnumber =>
        obtain rfl := Except.ok.inj h
        exact .domain text hascii hne (by simpa using hnumber)

theorem isRead_of_ofBrackets {inner : Except UrlError (List Char)} {host : Host} (h : ofBrackets inner = .ok host) :
    IsRead host := by
  unfold ofBrackets at h
  cases inner with
  | error e => cases h
  | ok cs =>
    simp only [bind, Except.bind] at h
    split at h
    · next pieces hpieces =>
      obtain rfl := Except.ok.inj h
      exact .ipv6 (Ipv6.length_of_parse? hpieces)
    · cases h

theorem isRead_of_parse {cs : List Char} {host : Host} (h : parse cs = .ok host) : IsRead host := by
  unfold parse at h
  split at h
  · exact isRead_of_ofBrackets h
  · exact isRead_of_ofName h

/-! ## The characters of a host -/

/-- A visible character that separates no parts of a URL. -/
structure IsNameChar (c : Char) : Prop where
  visible : IsVisible c
  noSeparator : Domain.isForbidden c = false

theorem isNameChar_of_decide {c : Char} (h : IsVisible c ∧ Domain.isForbidden c = false) : IsNameChar c := ⟨h.1, h.2⟩

theorem isNameChar_domain {text name : List Char} (h : Domain.toAscii? text = some name) :
    ∀ c ∈ name, IsNameChar c := by
  obtain ⟨-, -, -, hforbidden⟩ := Domain.toAscii?_eq_some h
  intro c hc
  have hno : Domain.isForbidden c = false := by simpa using List.any_eq_false.mp hforbidden c hc
  have hascii : c.toNat < 128 := (Domain.toAscii?_small h c hc).ascii
  have hrange : ¬ c.toNat ≤ 0x20 ∧ ¬ c.toNat = 0x7f := by
    simp only [Domain.isForbidden, Bool.or_eq_false_iff, decide_eq_false_iff_not] at hno
    exact hno.1
  refine ⟨⟨?_, ?_⟩, hno⟩
  · show 33 ≤ c.toNat
    omega
  · show c.toNat ≤ 126
    omega

theorem isNameChar_ipv4 (address : UInt32) : ∀ c ∈ Ipv4.render address, IsNameChar c := by
  have hdigit : ∀ d < 10, IsVisible (Nat.digitChar d) ∧ Domain.isForbidden (Nat.digitChar d) = false := by decide
  intro c hc
  rcases Text.eq_or_mem_of_mem_intercalate hc with rfl | ⟨l, hl, hc⟩
  · exact isNameChar_of_decide (by decide)
  · obtain ⟨n, -, rfl⟩ := List.mem_map.mp hl
    obtain ⟨d, hd, rfl⟩ := Text.exists_digit_of_mem_toDigits (by decide) hc
    exact isNameChar_of_decide (hdigit d hd)

/-- A character of an address between brackets. -/
def IsAddressChar (c : Char) : Prop := c = ':' ∨ ∃ d < 16, c = Nat.digitChar d

theorem isAddressChar_renderRow {pieces : List UInt16} {c : Char} (h : c ∈ Ipv6.renderRow pieces) : IsAddressChar c := by
  rcases Text.eq_or_mem_of_mem_intercalate h with rfl | ⟨l, hl, hc⟩
  · exact Or.inl rfl
  · obtain ⟨p, -, rfl⟩ := List.mem_map.mp hl
    exact Or.inr (Text.exists_digit_of_mem_toDigits (by decide) hc)

theorem isAddressChar_ipv6 (pieces : List UInt16) : ∀ c ∈ Ipv6.render pieces, IsAddressChar c := by
  intro c hc
  unfold Ipv6.render at hc
  dsimp only at hc
  split at hc
  · exact isAddressChar_renderRow hc
  · rcases List.mem_append.mp hc with hc | hc
    · rcases List.mem_append.mp hc with hc | hc
      · exact isAddressChar_renderRow hc
      · refine Or.inl ?_
        simpa using hc
    · exact isAddressChar_renderRow hc

/-- What a decidable property of colons and digits says of an address between brackets. -/
theorem IsAddressChar.all {p : Char → Bool} (hcolon : p ':' = true) (hdigits : ∀ d < 16, p (Nat.digitChar d) = true)
    {c : Char} (h : IsAddressChar c) : p c = true := by
  rcases h with rfl | ⟨d, hd, rfl⟩
  · exact hcolon
  · exact hdigits d hd

/-- The characters that stand in no host. -/
def outsideHost : List Char := ['/', '?', '#', '@', '\\', '%']

/-- The text of a host is visible and separates no other parts of a URL. -/
theorem render_visible {host : Host} (h : IsRead host) : ∀ c ∈ host.render, IsVisible c ∧ c ∉ outsideHost := by
  have hname : ∀ c, IsNameChar c → IsVisible c ∧ c ∉ outsideHost := by
    intro c hc
    refine ⟨hc.visible, fun hmem => ?_⟩
    have hall : ∀ c ∈ outsideHost, Domain.isForbidden c = true :=
      List.forall_iff_forall_mem.mp (by decide)
    have hforbidden := hc.noSeparator
    rw [hall c hmem] at hforbidden
    cases hforbidden
  cases h with
  | domain text hascii => exact fun c hc => hname c (isNameChar_domain hascii c hc)
  | ipv4 address => exact fun c hc => hname c (isNameChar_ipv4 address c hc)
  | @ipv6 pieces hlength =>
    have haddress : ∀ c, IsAddressChar c → decide (IsVisible c ∧ c ∉ outsideHost) = true := by
      intro c
      refine IsAddressChar.all (p := fun c => decide (IsVisible c ∧ c ∉ outsideHost)) ?_ ?_ <;> decide
    intro c hc
    rcases List.mem_append.mp (show c ∈ ('[' :: Ipv6.render pieces) ++ [']'] from hc) with hc | hc
    · rcases List.mem_cons.mp hc with rfl | hc
      · decide
      · simpa using haddress c (isAddressChar_ipv6 pieces c hc)
    · rw [List.mem_singleton] at hc
      rw [hc]
      decide

/-! ## Reading what was written -/

/-- Whether a host is a name with an overlong label. -/
def isOverlong : Host → Bool
  | domain name => (name.splitOn '.').any Domain.isOverlong
  | _ => false

theorem bracketed?_of_ne {cs : List Char} (h : cs.head? ≠ some '[') : bracketed? cs = none := by
  unfold bracketed?
  split
  · exact absurd rfl h
  · rfl

theorem percentDecode?_of_no_percent {cs : List Char} (h : '%' ∉ cs) : percentDecode? cs = some cs := if_neg h

/-- A text of such characters is no address in brackets, and stands for itself. -/
theorem parse_of_nameChars {cs : List Char} (h : ∀ c ∈ cs, IsNameChar c) : parse cs =
    match Domain.toAscii? cs with
    | none => .error .invalidDomain
    | some name =>
      if name = [] then .error .emptyHost
      else if Ipv4.endsInNumber name then
        match Ipv4.parse? name with
        | some address => .ok (ipv4 address)
        | none => .error .invalidIpv4
      else .ok (domain name) := by
  have hbracket : cs.head? ≠ some '[' := by
    intro hhead
    have hforbidden := (h '[' (List.mem_of_head? hhead)).noSeparator
    exact absurd hforbidden (by decide)
  have hpercent : '%' ∉ cs := fun hmem => absurd (h '%' hmem).noSeparator (by decide)
  rw [parse, bracketed?_of_ne hbracket, ofName, percentDecode?_of_no_percent hpercent]
  rfl

/-- A text that is brought into ASCII as a name, and as no address, is read as the name. -/
theorem parse_of_toAscii? {cs name : List Char} (h : Domain.toAscii? cs = some name) (hbracket : cs.head? ≠ some '[')
    (hpercent : '%' ∉ cs) (hne : name ≠ []) (hnumber : Ipv4.endsInNumber name = false) :
    parse cs = .ok (domain name) := by
  rw [parse, bracketed?_of_ne hbracket]
  dsimp only
  rw [ofName, percentDecode?_of_no_percent hpercent, Option.bind_some, h]
  dsimp only
  rw [if_neg hne, if_neg (by simp [hnumber])]

theorem parse_ipv4 (address : UInt32) : parse (Ipv4.render address) = .ok (ipv4 address) := by
  have hdigit : ∀ l ∈ (Ipv4.bytes address).map (Nat.toDigits 10), ∀ c ∈ l, ∃ d < 10, c = Nat.digitChar d := by
    intro l hl c hc
    obtain ⟨n, -, rfl⟩ := List.mem_map.mp hl
    exact Text.exists_digit_of_mem_toDigits (by decide) hc
  have hsmall : ∀ c ∈ Ipv4.render address, Domain.IsSmall c := by
    have hall : ∀ d < 10, (Nat.digitChar d).toNat < 128 ∧ (Nat.digitChar d).isUpper = false := by decide
    intro c hc
    rcases Text.eq_or_mem_of_mem_intercalate hc with rfl | ⟨l, hl, hc⟩
    · exact Domain.isSmall_of_decide (by decide)
    · obtain ⟨d, hd, rfl⟩ := hdigit l hl c hc
      exact Domain.isSmall_of_decide (hall d hd)
  have hforbidden : (Ipv4.render address).any Domain.isForbidden = false :=
    List.any_eq_false.mpr fun c hc => by simp [(isNameChar_ipv4 address c hc).noSeparator]
  have hmark : ∀ l ∈ (Ipv4.render address).splitOn '.', Domain.punycodeMark.isPrefixOf? l = none := by
    rw [Ipv4.splitOn_render]
    intro l hl
    rw [Option.eq_none_iff_forall_ne_some]
    intro rest hrest
    have hl' := List.isPrefixOf?_eq_some_iff_append_eq.mp hrest
    obtain ⟨d, hd, hx⟩ := hdigit l hl 'x' (by rw [← hl']; exact List.mem_cons_self)
    have hall : ∀ d < 10, 'x' ≠ Nat.digitChar d := by decide
    exact hall d hd hx
  have hne : Ipv4.render address ≠ [] := by
    intro hnil
    have hsplit := Ipv4.splitOn_render address
    rw [hnil] at hsplit
    exact absurd (congrArg List.length hsplit) (by simp [Ipv4.bytes])
  rw [parse_of_nameChars (isNameChar_ipv4 address), Domain.toAscii?_of_small hsmall hforbidden hmark]
  dsimp only
  rw [if_neg hne, if_pos (Ipv4.endsInNumber_render address), Ipv4.parse?_render]

theorem parse_ipv6 {pieces : List UInt16} (h : pieces.length = Ipv6.pieceCount) :
    parse ('[' :: Ipv6.render pieces ++ [']']) = .ok (ipv6 pieces) := by
  have hbracket : bracketed? ('[' :: Ipv6.render pieces ++ [']']) = some (.ok (Ipv6.render pieces)) := by
    rw [List.cons_append, bracketed?, if_pos (by simp), List.dropLast_concat]
  rw [parse, hbracket]
  simp only [ofBrackets, bind, Except.bind, Ipv6.parse?_render h]
  rfl

/-- **A host that is read is read again from what it is written as**, unless it is a name with an overlong label. -/
theorem parse_render {host : Host} (h : IsRead host) :
    parse host.render = if host.isOverlong then .error .invalidDomain else .ok host := by
  cases h with
  | @domain name text hascii hne hnumber =>
    rw [render, parse_of_nameChars (isNameChar_domain hascii), Domain.toAscii?_again hascii, isOverlong]
    by_cases hlong : (name.splitOn '.').any Domain.isOverlong = true
    · rw [if_pos hlong, if_pos hlong]
    · rw [if_neg hlong, if_neg hlong]
      dsimp only
      rw [if_neg hne, if_neg (by simp [hnumber])]
  | ipv4 address => exact parse_ipv4 address
  | ipv6 hlength => exact parse_ipv6 hlength

/-- A name behind the mark of Punycode is no address. -/
theorem endsInNumber_punycode {encoded : List Char} (h : '.' ∉ encoded) :
    Ipv4.endsInNumber (Domain.punycodeMark ++ encoded) = false := by
  have hparts : Ipv4.parts (Domain.punycodeMark ++ encoded) = [Domain.punycodeMark ++ encoded] := by
    have hpoint : '.' ∉ Domain.punycodeMark ++ encoded := by
      rw [List.mem_append, not_or]
      exact ⟨by decide, h⟩
    rw [Ipv4.parts, List.splitOn_eq_singleton hpoint]
    exact if_neg (by simp [Domain.punycodeMark])
  rw [Ipv4.endsInNumber, hparts]
  simp [Domain.punycodeMark, Ipv4.number?, Char.isDigit]

theorem isOverlong_punycode {encoded : List Char} (h : '.' ∉ encoded) (hlong : Domain.maxEncoded < encoded.length) :
    (domain (Domain.punycodeMark ++ encoded)).isOverlong = true := by
  have hpoint : '.' ∉ Domain.punycodeMark ++ encoded := by
    rw [List.mem_append, not_or]
    exact ⟨by decide, h⟩
  rw [isOverlong, List.splitOn_eq_singleton hpoint, List.any_cons, List.any_nil, Bool.or_false, Domain.isOverlong,
    List.isPrefixOf?_eq_some_iff_append_eq.mpr rfl]
  exact decide_eq_true hlong

end Hyperlink.Host
