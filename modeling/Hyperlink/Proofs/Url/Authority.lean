import Hyperlink.Proofs.Text.Digits
import Hyperlink.Url.Basic
import Mathlib.Data.List.Basic

/-!
# Hyperlink.Proofs.Url.Authority — where the authority of a URL ends

* `Unbroken`: a text without a slash, a question mark or a number sign. Names of users, hosts and ports are written so.
* `Url.authority`, `Url.tail`: the text of a URL behind `://`, cut where the path begins (`render_eq`).
* `IsParsed`: what a URL of a special scheme is put together from when it is read (`isParsed_of_parse`).
* `parse_authority`: the authority of such a URL is unbroken and not empty.
* `tail_head?`: what stands behind it begins with a character that ends it.
-/

namespace Hyperlink

namespace Url

/-- None of the characters ends an authority. -/
def Unbroken (cs : List Char) : Prop := ∀ c ∈ cs, endsAuthority false c = false

theorem endsAuthority_iff {c : Char} : endsAuthority false c ↔ c = '/' ∨ c = '?' ∨ c = '#' := by
  simp [endsAuthority, or_assoc]

theorem unbroken_iff {cs : List Char} : Unbroken cs ↔ '/' ∉ cs ∧ '?' ∉ cs ∧ '#' ∉ cs := by
  constructor
  · intro h
    refine ⟨fun hc => ?_, fun hc => ?_, fun hc => ?_⟩ <;> exact absurd (h _ hc) (by decide)
  · rintro ⟨hslash, hquery, hfragment⟩ c hc
    refine Bool.eq_false_iff.mpr fun hend => ?_
    rcases endsAuthority_iff.mp hend with rfl | rfl | rfl
    · exact hslash hc
    · exact hquery hc
    · exact hfragment hc

@[simp] theorem unbroken_nil : Unbroken [] := List.forall_mem_nil _

@[simp] theorem unbroken_append {cs ds : List Char} : Unbroken (cs ++ ds) ↔ Unbroken cs ∧ Unbroken ds :=
  List.forall_mem_append

@[simp] theorem unbroken_cons {c : Char} {cs : List Char} :
    Unbroken (c :: cs) ↔ endsAuthority false c = false ∧ Unbroken cs :=
  List.forall_mem_cons

theorem unbroken_intercalate {sep : Char} (h : endsAuthority false sep = false) {ls : List (List Char)}
    (hls : ∀ l ∈ ls, Unbroken l) : Unbroken ([sep].intercalate ls) := by
  induction ls with
  | nil => simp
  | cons l ls ih =>
    obtain ⟨hl, hls⟩ := List.forall_mem_cons.mp hls
    cases ls with
    | nil => simpa using hl
    | cons k ls =>
      rw [List.intercalate_cons_cons]
      simp [hl, h, ih hls]

/-! ## Numbers -/

theorem digitChar_not_end (n : Nat) : endsAuthority false (Nat.digitChar n) = false := by
  refine Bool.eq_false_iff.mpr fun h => ?_
  rcases endsAuthority_iff.mp h with h | h | h <;> exact absurd h (Nat.digitChar_ne _ (by decide))

theorem unbroken_toDigits {b : Nat} (hb : 1 < b) (n : Nat) : Unbroken (Nat.toDigits b n) := by
  intro c hc
  obtain ⟨m, -, rfl⟩ := Text.exists_digit_of_mem_toDigits hb hc
  exact digitChar_not_end m

/-! ## Users -/

theorem unbroken_hexByte (b : UInt8) : Unbroken (Text.hexByte b) := by
  have hdigit : ∀ n < 16, endsAuthority false (Nat.digitChar n).toUpper = false := by decide
  have hb := b.toNat_lt
  simp [Text.hexByte, hdigit (b.toNat / 16) (by omega), hdigit (b.toNat % 16) (by omega)]

theorem unbroken_encodeChar (c : Char) : Unbroken (encodeChar c) := by
  intro d hd
  obtain ⟨b, -, hd⟩ := List.mem_flatMap.mp hd
  rcases List.mem_cons.mp hd with rfl | hd
  · decide
  · exact unbroken_hexByte b d hd

/-- A text is unbroken when all characters that end an authority are encoded. -/
theorem unbroken_percentEncode {set : Char → Bool} (h : ∀ c, endsAuthority false c → set c) (cs : List Char) :
    Unbroken (percentEncode set cs) := by
  intro d hd
  obtain ⟨c, -, hd⟩ := List.mem_flatMap.mp hd
  split at hd
  · exact unbroken_encodeChar c d hd
  · next hset =>
    obtain rfl := List.mem_singleton.mp hd
    exact Bool.eq_false_iff.mpr fun hend => hset (h d hend)

theorem unbroken_encodeUser (user : List Char) : Unbroken (encodeUser user) := by
  have hset : ∀ c, endsAuthority false c → userinfoSet c := by
    intro c hc
    rcases endsAuthority_iff.mp hc with rfl | rfl | rfl <;> decide
  have hcolon : endsAuthority false ':' = false := by decide
  unfold encodeUser
  split <;> simp [unbroken_percentEncode hset, hcolon]

/-! ## Hosts -/

theorem unbroken_ipv4 (address : UInt32) : Unbroken (Ipv4.render address) := by
  refine unbroken_intercalate (by decide) fun l hl => ?_
  obtain ⟨n, -, rfl⟩ := List.mem_map.mp hl
  exact unbroken_toDigits (by decide) n

theorem ipv4_ne_nil (address : UInt32) : Ipv4.render address ≠ [] := by
  intro h
  simp [Ipv4.render, Ipv4.bytes, Nat.toDigits_ne_nil] at h

theorem unbroken_renderRow (pieces : List UInt16) : Unbroken (Ipv6.renderRow pieces) := by
  refine unbroken_intercalate (by decide) fun l hl => ?_
  obtain ⟨p, -, rfl⟩ := List.mem_map.mp hl
  exact unbroken_toDigits (by decide) p.toNat

theorem unbroken_ipv6 (pieces : List UInt16) : Unbroken (Ipv6.render pieces) := by
  have hcolon : endsAuthority false ':' = false := by decide
  unfold Ipv6.render
  simp only
  split <;> simp [unbroken_renderRow, hcolon]

/-- A domain name holds no character that separates the parts of a URL. -/
theorem unbroken_toAscii? {name result : List Char} (h : Domain.toAscii? name = some result) : Unbroken result := by
  unfold Domain.toAscii? at h
  simp only [bind, Option.bind_eq_some_iff] at h
  obtain ⟨checked, -, h⟩ := h
  split at h
  · simp at h
  · next hforbidden =>
    obtain rfl := Option.some.inj h
    intro c hc
    refine Bool.eq_false_iff.mpr fun hend => hforbidden (List.any_eq_true.mpr ⟨c, hc, ?_⟩)
    rcases endsAuthority_iff.mp hend with rfl | rfl | rfl <;> decide

theorem ofName_host {cs : List Char} {host : Host} (h : Host.ofName cs = .ok host) :
    host.render ≠ [] ∧ Unbroken host.render := by
  unfold Host.ofName at h
  split at h
  · simp at h
  · next name hname =>
    obtain ⟨decoded, -, hascii⟩ := Option.bind_eq_some_iff.mp hname
    split at h
    · simp at h
    · next hne =>
      split at h
      · split at h
        · next address _ =>
          obtain rfl := Except.ok.inj h
          exact ⟨ipv4_ne_nil address, unbroken_ipv4 address⟩
        · simp at h
      · obtain rfl := Except.ok.inj h
        exact ⟨hne, unbroken_toAscii? hascii⟩

theorem ofBrackets_host {inner : Except UrlError (List Char)} {host : Host} (h : Host.ofBrackets inner = .ok host) :
    host.render ≠ [] ∧ Unbroken host.render := by
  unfold Host.ofBrackets at h
  cases inner with
  | error e => simp [bind, Except.bind] at h
  | ok cs =>
    simp only [bind, Except.bind] at h
    split at h
    · next pieces _ =>
      obtain rfl := Except.ok.inj h
      have hopen : endsAuthority false '[' = false := by decide
      have hclose : endsAuthority false ']' = false := by decide
      refine ⟨List.cons_ne_nil _ _, ?_⟩
      simp [Host.render, unbroken_ipv6, hopen, hclose]
    · cases h

/-- The text of a host that is read is unbroken and not empty. -/
theorem host_of_parse {cs : List Char} {host : Host} (h : Host.parse cs = .ok host) :
    host.render ≠ [] ∧ Unbroken host.render := by
  unfold Host.parse at h
  split at h
  · exact ofBrackets_host h
  · exact ofName_host h

/-! ## The parts of a URL -/

/-- The text of the user, the host and the port. -/
def authority (u : Url) : List Char :=
  (if u.userinfo = [] then [] else u.userinfo ++ ['@']) ++ u.host.render ++
    u.port.elim [] fun p => ':' :: Nat.toDigits 10 p

/-- The text of the path, the query and the fragment. -/
def tail (u : Url) : List Char := renderPath u.path ++ u.query.elim [] ('?' :: ·) ++ u.fragment.elim [] ('#' :: ·)

theorem render_eq (u : Url) : u.render = u.scheme ++ ([':', '/', '/'] ++ (u.authority ++ u.tail)) := by
  simp only [render, authority, tail, List.append_assoc]

/-- What stands behind the authority begins with a character that ends it. -/
theorem tail_head? (u : Url) {c : Char} (hc : u.tail.head? = some c) : endsAuthority false c := by
  unfold tail renderPath at hc
  cases hpath : u.path with
  | cons s path =>
    obtain rfl : '/' = c := by simpa [hpath] using hc
    decide
  | nil =>
    cases hquery : u.query with
    | some q =>
      obtain rfl : '?' = c := by simpa [hpath, hquery] using hc
      decide
    | none =>
      cases hfragment : u.fragment with
      | some f =>
        obtain rfl : '#' = c := by simpa [hpath, hquery, hfragment] using hc
        decide
      | none => simp [hpath, hquery, hfragment] at hc

theorem exists_of_map_eq_ok {ε α β : Type} {f : α → β} {x : Except ε α} {b : β} (h : x.map f = .ok b) :
    ∃ a, x = .ok a ∧ f a = b := by
  cases x with
  | error e => simp [Except.map] at h
  | ok a => exact ⟨a, rfl, Except.ok.inj h⟩

/-- What a special URL is put together from when it is read. -/
inductive IsParsed (defaultPort : Nat) : Url → Prop
  | of {scheme user hostText portText path tail : List Char} {host : Host} {port : Option Nat}
      (hscheme : specialSchemes.lookup scheme = some defaultPort) (hhost : Host.parse hostText = .ok host)
      (hport : port? true portText = .ok port) :
      IsParsed defaultPort
        { scheme := scheme
          userinfo := encodeUser user
          host := host
          port := port.filter (· ≠ defaultPort)
          path := pathOf path
          query := queryOf tail
          fragment := fragmentOf tail }

theorem isParsed_of_parseSpecial {scheme : List Char} {defaultPort : Nat} {cs : List Char} {u : Url}
    (hscheme : specialSchemes.lookup scheme = some defaultPort) (h : parseSpecial scheme defaultPort cs = .ok u) :
    IsParsed defaultPort u := by
  unfold parseSpecial at h
  simp only [bind, Except.bind] at h
  split at h
  · cases h
  · split at h
    · cases h
    · next host hhost =>
      split at h
      · cases h
      · next port hport =>
        obtain rfl := Except.ok.inj h
        exact .of hscheme hhost hport

/-- Every special URL that is read is put together in this way. -/
theorem isParsed_of_parse {text : List Char} {u : Url} (h : parse text = .ok (.special u)) :
    ∃ defaultPort, IsParsed defaultPort u := by
  unfold parse at h
  split at h
  · cases h
  · split at h
    · next defaultPort hscheme =>
      obtain ⟨v, hv, hvu⟩ := exists_of_map_eq_ok h
      obtain rfl := AnyUrl.special.inj hvu
      exact ⟨defaultPort, isParsed_of_parseSpecial hscheme hv⟩
    · obtain ⟨-, -, hother⟩ := exists_of_map_eq_ok h
      cases hother

/-- The authority of a URL that is read is unbroken and not empty. -/
theorem parse_authority {text : List Char} {u : Url} (h : parse text = .ok (.special u)) :
    u.authority ≠ [] ∧ Unbroken u.authority := by
  obtain ⟨defaultPort, ⟨-, hhost, -⟩⟩ := isParsed_of_parse h
  obtain ⟨hne, hhost⟩ := host_of_parse hhost
  have hat : endsAuthority false '@' = false := by decide
  have hcolon : endsAuthority false ':' = false := by decide
  have hport : ∀ port : Option Nat, Unbroken (port.elim [] fun p => ':' :: Nat.toDigits 10 p) := by
    intro port
    cases port <;> simp [hcolon, unbroken_toDigits]
  constructor
  · simp [authority, hne]
  · unfold authority
    rw [unbroken_append, unbroken_append]
    refine ⟨⟨?_, hhost⟩, hport _⟩
    split <;> simp [unbroken_encodeUser, hat]

end Url

end Hyperlink
