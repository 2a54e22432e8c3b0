import Hyperlink.Proofs.Url.Authority
import Hyperlink.Proofs.Url.Host
import Hyperlink.Proofs.Url.Path

/-!
# Hyperlink.Proofs.Url.Rereading — a URL in normal form is read again

* `IsNormal`: the URLs in normal form, their hosts apart; all that are read are of this kind (`isNormal_of_parse`).
* `HostText`: a text that is cut as the host of a URL; the hosts that are read are written so (`hostText_render`).
* `renderWith`: the text of a URL with any text in place of its host.
* `parse_renderWith`: **such a text is read as the URL with the host that its text is read as.** Only an empty path
  becomes one empty segment.
-/

namespace Hyperlink.Url

/-! ## Users -/

theorem mem_encodeUser {user : List Char} {c : Char} (h : c ∈ encodeUser user) : c = ':' ∨ userinfoSet c = false := by
  have hpart : ∀ cs, c ∈ percentEncode userinfoSet cs → userinfoSet c = false :=
    fun cs hc => percentEncode_avoids isPartSet_userinfo hc
  unfold encodeUser at h
  split at h
  · exact Or.inr (hpart _ h)
  · rcases List.mem_append.mp h with h | h
    · exact Or.inr (hpart _ h)
    · rcases List.mem_cons.mp h with rfl | h
      · exact Or.inl rfl
      · exact Or.inr (hpart _ h)
  · exact Or.inr (hpart _ h)

theorem not_mem_percentEncode_userinfo {c : Char} (hc : userinfoSet c = true) (cs : List Char) :
    c ∉ percentEncode userinfoSet cs := by
  intro hmem
  rw [percentEncode_avoids isPartSet_userinfo hmem] at hc
  cases hc

/-- Encoding an encoded user changes nothing. -/
theorem encodeUser_encodeUser (user : List Char) : encodeUser (encodeUser user) = encodeUser user := by
  have hcolon : ∀ cs, ':' ∉ percentEncode userinfoSet cs := not_mem_percentEncode_userinfo (by decide)
  have hplain : ∀ cs, encodeUser (percentEncode userinfoSet cs) = percentEncode userinfoSet cs := by
    intro cs
    rw [encodeUser, Text.cutAt_eq_none.mpr (hcolon cs)]
    exact percentEncode_percentEncode isPartSet_userinfo cs
  rw [encodeUser.eq_def user]
  split
  · exact hplain _
  · next name password hpassword hcut =>
    have hne : percentEncode userinfoSet password ≠ [] := by
      intro hnil
      exact hpassword (eq_of_percentEncode List.not_mem_nil hnil)
    rw [encodeUser, Text.cutAt_append (hcolon name)]
    split
    · next heq =>
      have hpair := Option.some.inj heq
      exact absurd (Prod.mk.inj hpair).2 hne
    · next heq =>
      obtain ⟨rfl, rfl⟩ := Prod.mk.inj (Option.some.inj heq)
      rw [percentEncode_percentEncode isPartSet_userinfo, percentEncode_percentEncode isPartSet_userinfo]
    · next heq => cases heq
  · exact hplain _

/-! ## URLs in normal form -/

/-- A URL in normal form, whatever its host is. -/
structure IsNormal (u : Url) (defaultPort : Nat) : Prop where
  scheme : specialSchemes.lookup u.scheme = some defaultPort
  userinfo : ∃ user, u.userinfo = encodeUser user
  port : ∀ p, u.port = some p → p ≤ 65535 ∧ p ≠ defaultPort
  path : ∀ s ∈ u.path, IsNormalSegment s
  query : ∀ q, u.query = some q → ∀ c ∈ q, querySet c = false
  fragment : ∀ f, u.fragment = some f → ∀ c ∈ f, fragmentSet c = false

theorem port?_le {special : Bool} {cs : List Char} {p : Nat} (h : port? special cs = .ok (some p)) : p ≤ 65535 := by
  unfold port? at h
  split at h
  · dsimp only at h
    split at h
    · cases h
    · next hrange =>
      split at h
      · cases h
      · obtain rfl := Option.some.inj (Except.ok.inj h)
        omega
  · cases h

theorem querySet_of_queryOf {cs q : List Char} (h : queryOf cs = some q) {c : Char} (hc : c ∈ q) :
    querySet c = false := by
  unfold queryOf at h
  split at h
  · obtain rfl := Option.some.inj h
    exact percentEncode_avoids isPartSet_query hc
  · cases h

theorem fragmentSet_of_fragmentOf {cs f : List Char} (h : fragmentOf cs = some f) {c : Char} (hc : c ∈ f) :
    fragmentSet c = false := by
  obtain ⟨p, -, rfl⟩ := Option.map_eq_some_iff.mp h
  exact percentEncode_avoids isPartSet_fragment hc

/-- A special URL that is read is in normal form, its host is one that is read, and its path is not empty. -/
theorem isNormal_of_parse {text : List Char} {u : Url} (h : parse text = .ok (.special u)) :
    ∃ defaultPort, u.IsNormal defaultPort ∧ u.host.IsRead ∧ u.path ≠ [] := by
  obtain ⟨defaultPort, ⟨hscheme, hhost, hport⟩⟩ := isParsed_of_parse h
  refine ⟨defaultPort, ?_, Host.isRead_of_parse hhost, pathOf_ne_nil _⟩
  exact {
    scheme := hscheme
    userinfo := ⟨_, rfl⟩
    port := fun p hp => by
      obtain ⟨rfl, hne⟩ := Option.filter_eq_some_iff.mp hp
      exact ⟨port?_le hport, by simpa using hne⟩
    path := fun s hs => isNormalSegment_of_mem_pathOf hs
    query := fun q hq c hc => querySet_of_queryOf hq hc
    fragment := fun f hf c hc => fragmentSet_of_fragmentOf hf hc }

/-! ## Texts of hosts -/

/-- A text that is cut as the host of a URL. -/
structure HostText (cs : List Char) : Prop where
  ne : cs ≠ []
  chars : ∀ c ∈ cs, IsSolid c ∧ c ≠ '/' ∧ c ≠ '?' ∧ c ≠ '#' ∧ c ≠ '@' ∧ c ≠ '\\'
  cut : ∀ rest, rest = [] ∨ rest.head? = some ':' → cutHost false (cs ++ rest) = (cs, rest)

theorem cutHost_end {rest : List Char} (h : rest = [] ∨ rest.head? = some ':') : cutHost false rest = ([], rest) := by
  cases rest with
  | nil => rfl
  | cons c rest =>
    obtain rfl : c = ':' := by simpa using h
    rw [cutHost, if_pos (by decide)]

theorem cutHost_names {cs : List Char} (h : ∀ c ∈ cs, c ≠ ':' ∧ c ≠ '[' ∧ c ≠ ']') {rest : List Char}
    (hrest : rest = [] ∨ rest.head? = some ':') : cutHost false (cs ++ rest) = (cs, rest) := by
  induction cs with
  | nil => exact cutHost_end hrest
  | cons c cs ih =>
    rw [List.forall_mem_cons] at h
    rw [List.cons_append, cutHost, if_neg (fun hc => h.1.1 hc.1)]
    dsimp only
    rw [if_neg h.1.2.1, if_neg h.1.2.2, ih h.2]

theorem cutHost_inside {cs : List Char} (h : ']' ∉ cs) {rest : List Char} (hrest : rest = [] ∨ rest.head? = some ':') :
    cutHost true (cs ++ ']' :: rest) = (cs ++ [']'], rest) := by
  induction cs with
  | nil =>
    rw [List.nil_append, cutHost, if_neg (by decide)]
    dsimp only
    rw [if_neg (by decide), if_pos rfl, cutHost_end hrest]
    rfl
  | cons c cs ih =>
    rw [List.mem_cons, not_or] at h
    have hinside : (if c = '[' then true else if c = ']' then false else true) = true := by
      rw [if_neg (Ne.symm h.1)]
      split <;> rfl
    rw [List.cons_append, cutHost, if_neg (by simp)]
    dsimp only
    rw [hinside, ih h.2]
    rfl

/-- Hosts that are read are written so. -/
theorem hostText_render {host : Host} (h : host.IsRead) : HostText host.render where
  ne := by
    cases h with
    | domain text hascii hne => exact hne
    | ipv4 address => exact ipv4_ne_nil address
    | ipv6 hlength => exact List.cons_ne_nil _ _
  chars c hc := by
    obtain ⟨hvisible, hout⟩ := Host.render_visible h c hc
    simp only [Host.outsideHost, List.mem_cons, List.not_mem_nil, or_false, not_or] at hout
    exact ⟨hvisible.solid, hout.1, hout.2.1, hout.2.2.1, hout.2.2.2.1, hout.2.2.2.2.1⟩
  cut rest hrest := by
    have hname : ∀ c, Host.IsNameChar c → c ≠ ':' ∧ c ≠ '[' ∧ c ≠ ']' := by
      intro c hc
      have hno := hc.noSeparator
      refine ⟨?_, ?_, ?_⟩ <;> rintro rfl <;> exact absurd hno (by decide)
    cases h with
    | domain text hascii => exact cutHost_names (fun c hc => hname c (Host.isNameChar_domain hascii c hc)) hrest
    | ipv4 address => exact cutHost_names (fun c hc => hname c (Host.isNameChar_ipv4 address c hc)) hrest
    | @ipv6 pieces hlength =>
      have hclose : ']' ∉ Ipv6.render pieces := by
        intro hc
        have haddress := Host.isAddressChar_ipv6 pieces _ hc
        have hno := haddress.all (p := fun c => c ≠ ']') (by decide) (by decide)
        simp at hno
      have htext : (Host.ipv6 pieces).render ++ rest = '[' :: (Ipv6.render pieces ++ ']' :: rest) := by
        simp [Host.render]
      rw [htext, cutHost, if_neg (by decide)]
      dsimp only
      rw [if_pos rfl, cutHost_inside hclose hrest]
      rfl

/-! ## The text of a URL -/

/-- The text of a URL behind the slashes and in front of the path, with a text in place of the host. -/
def authorityWith (u : Url) (host : List Char) : List Char :=
  (if u.userinfo = [] then [] else u.userinfo ++ ['@']) ++ (host ++ u.port.elim [] fun p => ':' :: Nat.toDigits 10 p)

/-- The text of a URL, with a text in place of the host. -/
def renderWith (u : Url) (host : List Char) : List Char :=
  u.scheme ++ ':' :: '/' :: '/' :: (u.authorityWith host ++ u.tail)

/-- The URL that such a text is read as, given what the text of its host is read as. No path is empty. -/
def readWith (u : Url) (host : Host) : Url :=
  { u with host := host, path := if u.path = [] then [[]] else u.path }

theorem isNormal_readWith {u : Url} {defaultPort : Nat} (h : u.IsNormal defaultPort) (host : Host) :
    (u.readWith host).IsNormal defaultPort := by
  refine ⟨h.scheme, h.userinfo, h.port, fun s hs => ?_, h.query, h.fragment⟩
  unfold readWith at hs
  dsimp only at hs
  split at hs
  · rw [List.mem_singleton.mp hs]
    exact isNormalSegment_nil
  · exact h.path s hs

theorem render_eq_renderWith (u : Url) : u.render = u.renderWith u.host.render := by
  simp only [render_eq, renderWith, authority, authorityWith, List.append_assoc, List.cons_append, List.nil_append]

/-- A character that stands in the authority of a URL and does not end it. -/
structure IsAuthorityChar (c : Char) : Prop where
  solid : IsSolid c
  inside : endsAuthority true c = false

theorem isAuthorityChar_of_ne {c : Char} (hsolid : IsSolid c) (hne : c ≠ '/' ∧ c ≠ '?' ∧ c ≠ '#' ∧ c ≠ '\\') :
    IsAuthorityChar c := ⟨hsolid, by simp [endsAuthority, hne]⟩

theorem isAuthorityChar_of_decide {c : Char} (h : IsVisible c ∧ endsAuthority true c = false) : IsAuthorityChar c :=
  ⟨h.1.solid, h.2⟩

section Normal

variable {host : List Char} (hhost : HostText host)

theorem isAuthorityChar_port (port : Option Nat) {c : Char}
    (hc : c ∈ port.elim [] fun p => ':' :: Nat.toDigits 10 p) : IsAuthorityChar c ∧ c ≠ '@' := by
  have hdigit : ∀ d < 10, (IsVisible (Nat.digitChar d) ∧ endsAuthority true (Nat.digitChar d) = false) ∧
      Nat.digitChar d ≠ '@' := by decide
  cases port with
  | none => cases hc
  | some p =>
    rcases List.mem_cons.mp hc with rfl | hc
    · exact ⟨isAuthorityChar_of_decide (by decide), by decide⟩
    · obtain ⟨d, hd, rfl⟩ := Text.exists_digit_of_mem_toDigits (by decide) hc
      exact ⟨isAuthorityChar_of_decide (hdigit d hd).1, (hdigit d hd).2⟩

include hhost

theorem isAuthorityChar_hostAndPort (port : Option Nat) {c : Char}
    (hc : c ∈ host ++ port.elim [] fun p => ':' :: Nat.toDigits 10 p) : IsAuthorityChar c ∧ c ≠ '@' := by
  rcases List.mem_append.mp hc with hc | hc
  · obtain ⟨hsolid, hslash, hquery, hfragment, hat, hback⟩ := hhost.chars c hc
    exact ⟨isAuthorityChar_of_ne hsolid ⟨hslash, hquery, hfragment, hback⟩, hat⟩
  · exact isAuthorityChar_port port hc

theorem authorityWith_ne_nil (u : Url) : u.authorityWith host ≠ [] := by
  simp [authorityWith, hhost.ne]

/-- The user of an authority is told by the sign behind it. -/
theorem cutUser_authorityWith (u : Url) : ∃ user, cutUser (u.authorityWith host) =
    (user, host ++ u.port.elim [] fun p => ':' :: Nat.toDigits 10 p) ∧ user.getD [] = u.userinfo := by
  have hat : '@' ∉ (host ++ u.port.elim [] fun p => ':' :: Nat.toDigits 10 p).reverse := by
    rw [List.mem_reverse]
    exact fun hc => (isAuthorityChar_hostAndPort hhost u.port hc).2 rfl
  unfold authorityWith cutUser
  generalize host ++ u.port.elim [] (fun p => ':' :: Nat.toDigits 10 p) = hostAndPort at hat ⊢
  by_cases huser : u.userinfo = []
  · refine ⟨none, ?_, huser.symm⟩
    rw [if_pos huser, List.nil_append, Text.cutAt_eq_none.mpr hat]
  · refine ⟨some u.userinfo, ?_, rfl⟩
    have hreverse : (u.userinfo ++ ['@'] ++ hostAndPort).reverse = hostAndPort.reverse ++ '@' :: u.userinfo.reverse := by
      simp
    rw [if_neg huser, hreverse, Text.cutAt_append hat]
    simp

variable {u : Url} {defaultPort : Nat} (h : u.IsNormal defaultPort)

include h

omit hhost in
theorem isAuthorityChar_userinfo {c : Char} (hc : c ∈ u.userinfo) : IsAuthorityChar c ∧ c ≠ '@' := by
  obtain ⟨user, huser⟩ := h.userinfo
  rw [huser] at hc
  rcases mem_encodeUser hc with rfl | hset
  · exact ⟨isAuthorityChar_of_decide (by decide), by decide⟩
  · have hsolid := (isPartSet_userinfo.visible c hset).solid
    have hne : ∀ d, userinfoSet d = true → c ≠ d := by
      rintro d hd rfl
      rw [hset] at hd
      cases hd
    exact ⟨isAuthorityChar_of_ne hsolid
      ⟨hne _ (by decide), hne _ (by decide), hne _ (by decide), hne _ (by decide)⟩, hne _ (by decide)⟩

theorem isAuthorityChar_authorityWith : ∀ c ∈ u.authorityWith host, IsAuthorityChar c := by
  refine List.forall_mem_append.mpr ⟨fun c hc => ?_, fun c hc => (isAuthorityChar_hostAndPort hhost u.port hc).1⟩
  split at hc
  · cases hc
  · rcases List.mem_append.mp hc with hc | hc
    · exact (isAuthorityChar_userinfo h hc).1
    · rw [List.mem_singleton] at hc
      rw [hc]
      exact isAuthorityChar_of_decide (by decide)

end Normal

theorem port?_toDigits {p : Nat} (h : p ≤ 65535) : port? true (':' :: Nat.toDigits 10 p) = .ok (some p) := by
  have hdigits : ∀ c ∈ Nat.toDigits 10 p, c.isDigit = true :=
    fun c hc => Nat.isDigit_of_mem_toDigits (by decide) (by decide) hc
  have htake : (Nat.toDigits 10 p).takeWhile Char.isDigit = Nat.toDigits 10 p :=
    List.takeWhile_eq_self_iff.mpr hdigits
  have hdrop : (Nat.toDigits 10 p).dropWhile Char.isDigit = [] := List.dropWhile_eq_nil_iff.mpr hdigits
  rw [port?, htake, hdrop, Nat.ofDigitChars_ten_toDigits, if_neg (by simp; omega), if_neg Nat.toDigits_ne_nil]

/-- The port of a URL is read again. -/
theorem port?_elim {u : Url} {defaultPort : Nat} (h : u.IsNormal defaultPort) :
    ∃ port, port? true (u.port.elim [] fun p => ':' :: Nat.toDigits 10 p) = .ok port ∧
      port.filter (· ≠ defaultPort) = u.port := by
  cases hp : u.port with
  | none => exact ⟨none, rfl, rfl⟩
  | some p =>
    obtain ⟨hle, hne⟩ := h.port p hp
    exact ⟨some p, port?_toDigits hle, by simp [hne]⟩

/-! ## What follows the authority -/

section Tail

variable {u : Url} {defaultPort : Nat} (h : u.IsNormal defaultPort)

include h

theorem mem_renderPath {c : Char} (hc : c ∈ renderPath u.path) : IsVisible c ∧ c ≠ '?' ∧ c ≠ '#' := by
  obtain ⟨s, hs, hc⟩ := List.mem_flatMap.mp hc
  rcases List.mem_cons.mp hc with rfl | hc
  · decide
  · have hset := (h.path s hs).encoded c hc
    refine ⟨isPartSet_path.visible c hset, ?_, ?_⟩ <;> rintro rfl <;> exact absurd hset (by decide)

theorem mem_query {c : Char} (hc : c ∈ u.query.elim [] ('?' :: ·)) : IsVisible c ∧ c ≠ '#' := by
  cases hq : u.query with
  | none =>
    rw [hq] at hc
    cases hc
  | some q =>
    rw [hq] at hc
    rcases List.mem_cons.mp hc with rfl | hc
    · decide
    · have hset := h.query q hq c hc
      refine ⟨isPartSet_query.visible c hset, ?_⟩
      rintro rfl
      exact absurd hset (by decide)

theorem mem_fragment {c : Char} (hc : c ∈ u.fragment.elim [] ('#' :: ·)) : IsVisible c := by
  cases hf : u.fragment with
  | none =>
    rw [hf] at hc
    cases hc
  | some f =>
    rw [hf] at hc
    rcases List.mem_cons.mp hc with rfl | hc
    · decide
    · exact isPartSet_fragment.visible c (h.fragment f hf c hc)

theorem tail_visible : ∀ c ∈ u.tail, IsVisible c :=
  List.forall_mem_append.mpr ⟨List.forall_mem_append.mpr
    ⟨fun _ hc => (mem_renderPath h hc).1, fun _ hc => (mem_query h hc).1⟩, fun _ hc => mem_fragment h hc⟩

/-- The path of a tail ends where the query or the fragment begins. -/
theorem cut_tail : u.tail.takeWhile (fun c => c ≠ '?' ∧ c ≠ '#') = renderPath u.path ∧
    u.tail.dropWhile (fun c => c ≠ '?' ∧ c ≠ '#') = u.query.elim [] ('?' :: ·) ++ u.fragment.elim [] ('#' :: ·) := by
  have hpath : ∀ c ∈ renderPath u.path, decide (c ≠ '?' ∧ c ≠ '#') = true := by
    intro c hc
    simpa using (mem_renderPath h hc).2
  have hhead : ∀ c, (u.query.elim [] ('?' :: ·) ++ u.fragment.elim [] ('#' :: ·)).head? = some c →
      decide (c ≠ '?' ∧ c ≠ '#') = false := by
    intro c hc
    cases hq : u.query with
    | some q =>
      obtain rfl : '?' = c := by simpa [hq] using hc
      decide
    | none =>
      cases hf : u.fragment with
      | some f =>
        obtain rfl : '#' = c := by simpa [hq, hf] using hc
        decide
      | none => simp [hq, hf] at hc
  rw [tail, List.append_assoc, List.takeWhile_append_of_pos hpath, List.dropWhile_append_of_pos hpath]
  generalize u.query.elim [] ('?' :: ·) ++ u.fragment.elim [] ('#' :: ·) = rest at hhead
  cases rest with
  | nil => simp
  | cons c rest =>
    have hc := hhead c rfl
    rw [List.takeWhile_cons_of_neg (by simp [hc]), List.dropWhile_cons_of_neg (by simp [hc]), List.append_nil]
    exact ⟨rfl, rfl⟩

theorem queryOf_tail : queryOf (u.query.elim [] ('?' :: ·) ++ u.fragment.elim [] ('#' :: ·)) = u.query := by
  cases hq : u.query with
  | none => cases u.fragment <;> rfl
  | some q =>
    have hset := h.query q hq
    have hno : ∀ c ∈ q, decide (c ≠ '#') = true := by
      intro c hc
      have hmem := (mem_query h (c := c) (by rw [hq]; exact List.mem_cons_of_mem _ hc)).2
      simpa using hmem
    have htake : (q ++ u.fragment.elim [] ('#' :: ·)).takeWhile (· ≠ '#') = q := by
      rw [List.takeWhile_append_of_pos hno]
      cases u.fragment <;> simp
    show some (percentEncode querySet ((q ++ u.fragment.elim [] ('#' :: ·)).takeWhile (· ≠ '#'))) = some q
    rw [htake, percentEncode_eq_self hset]

theorem fragmentOf_tail : fragmentOf (u.query.elim [] ('?' :: ·) ++ u.fragment.elim [] ('#' :: ·)) = u.fragment := by
  have hno : '#' ∉ u.query.elim [] ('?' :: ·) := fun hc => (mem_query h hc).2 rfl
  cases hf : u.fragment with
  | none =>
    have hnone : '#' ∉ u.query.elim [] ('?' :: ·) ++ [] := by rwa [List.append_nil]
    rw [fragmentOf, Option.elim_none, Text.cutAt_eq_none.mpr hnone]
    rfl
  | some f =>
    rw [fragmentOf, Option.elim_some, Text.cutAt_append hno]
    exact congrArg some (percentEncode_eq_self (h.fragment f hf))

end Tail

/-! ## The whole text -/

theorem stripEnds_of_forall {α : Type} {p : α → Bool} {xs : List α} (h : ∀ x ∈ xs, p x = false) :
    Text.stripEnds p xs = xs := by
  refine Text.stripEnds_eq_self fun hne => ?_
  rw [h _ (List.head_mem hne), h _ (List.getLast_mem hne)]
  simp

theorem trim_eq_self {cs : List Char} (h : ∀ c ∈ cs, IsSolid c) : Text.trim cs = cs :=
  stripEnds_of_forall fun c hc => (h c hc).notBlank

theorem clean_eq_self {cs : List Char} (h : ∀ c ∈ cs, IsSolid c) : clean cs = cs := by
  have hends : ∀ c ∈ cs, decide (c ≤ ' ') = false := by
    intro c hc
    simpa using (h c hc).space_lt
  rw [clean, stripEnds_of_forall hends, List.filter_eq_self]
  intro c hc
  have hspace := (h c hc).space_lt
  have hne : ∀ d, ¬ ' ' < d → c ≠ d := by
    rintro d hd rfl
    exact hd hspace
  simpa using ⟨hne '\t' (by decide), hne '\n' (by decide), hne '\r' (by decide)⟩

/-- The special schemes are read as they are. -/
theorem scheme?_special {scheme : List Char} {defaultPort : Nat} (h : specialSchemes.lookup scheme = some defaultPort)
    (rest : List Char) : scheme? (scheme ++ ':' :: rest) = some (scheme, rest) ∧ ∀ c ∈ scheme, IsVisible c := by
  have hmem : scheme ∈ specialSchemes.map Prod.fst := by
    obtain ⟨front, back, heq, -⟩ := List.lookup_eq_some_iff.mp h
    rw [heq]
    simp
  simp only [specialSchemes, List.map_cons, List.map_nil, List.mem_cons, List.not_mem_nil, or_false] at hmem
  rcases hmem with rfl | rfl | rfl | rfl | rfl
  · exact ⟨rfl, List.forall_iff_forall_mem.mp (by decide)⟩
  · exact ⟨rfl, List.forall_iff_forall_mem.mp (by decide)⟩
  · exact ⟨rfl, List.forall_iff_forall_mem.mp (by decide)⟩
  · exact ⟨rfl, List.forall_iff_forall_mem.mp (by decide)⟩
  · exact ⟨rfl, List.forall_iff_forall_mem.mp (by decide)⟩

theorem takeWhile_authority {cs tail : List Char} (hcs : ∀ c ∈ cs, IsAuthorityChar c)
    (htail : ∀ c, tail.head? = some c → endsAuthority false c = true) :
    (cs ++ tail).takeWhile (!endsAuthority true ·) = cs ∧ (cs ++ tail).dropWhile (!endsAuthority true ·) = tail := by
  have hinside : ∀ c ∈ cs, (!endsAuthority true c) = true := by
    intro c hc
    rw [(hcs c hc).inside]
    rfl
  rw [List.takeWhile_append_of_pos hinside, List.dropWhile_append_of_pos hinside]
  cases tail with
  | nil => simp
  | cons c tail =>
    have hc : endsAuthority true c = true := by
      rcases endsAuthority_iff.mp (htail c rfl) with rfl | rfl | rfl <;> decide
    rw [List.takeWhile_cons_of_neg (by simp [hc]), List.dropWhile_cons_of_neg (by simp [hc]), List.append_nil]
    exact ⟨rfl, rfl⟩

section Whole

variable {u : Url} {defaultPort : Nat} (h : u.IsNormal defaultPort) {host : List Char} (hhost : HostText host)

include h hhost

/-- Nothing is taken off the ends of the text. -/
theorem isSolid_renderWith : ∀ c ∈ u.renderWith host, IsSolid c := by
  obtain ⟨-, hscheme⟩ := scheme?_special h.scheme []
  have hrest : ∀ c ∈ u.authorityWith host ++ u.tail, IsSolid c :=
    List.forall_mem_append.mpr ⟨fun c hc => (isAuthorityChar_authorityWith hhost h c hc).solid,
      fun c hc => (tail_visible h c hc).solid⟩
  refine List.forall_mem_append.mpr ⟨fun c hc => (hscheme c hc).solid, ?_⟩
  rw [List.forall_mem_cons, List.forall_mem_cons, List.forall_mem_cons]
  have hmark : ∀ c, IsVisible c → IsSolid c := fun _ hc => hc.solid
  exact ⟨hmark _ (by decide), hmark _ (by decide), hmark _ (by decide), hrest⟩

/-- The two slashes behind the scheme are passed, and nothing else. -/
theorem dropWhile_slashes : ('/' :: '/' :: (u.authorityWith host ++ u.tail)).dropWhile isSlash =
    u.authorityWith host ++ u.tail := by
  obtain ⟨c, cs, hc⟩ := List.exists_cons_of_ne_nil (authorityWith_ne_nil hhost u)
  have hinside := (isAuthorityChar_authorityWith hhost h c (by rw [hc]; exact List.mem_cons_self)).inside
  have hslash : isSlash c = false := by
    refine Bool.eq_false_iff.mpr fun hslash => ?_
    rw [isSlash, Bool.or_eq_true, decide_eq_true_iff, decide_eq_true_iff] at hslash
    rcases hslash with rfl | rfl <;> exact absurd hinside (by decide)
  rw [List.dropWhile_cons_of_pos (by decide), List.dropWhile_cons_of_pos (by decide), hc, List.cons_append,
    List.dropWhile_cons_of_neg (by simp [hslash])]

/-- **The text of a URL in normal form is read as the URL**, with the host that its text is read as. -/
theorem parse_renderWith :
    parse (u.renderWith host) = (Host.parse host).map fun host => .special (u.readWith host) := by
  have hauthority := isAuthorityChar_authorityWith hhost h
  obtain ⟨hscheme, -⟩ := scheme?_special h.scheme ('/' :: '/' :: (u.authorityWith host ++ u.tail))
  obtain ⟨htake, hdrop⟩ := takeWhile_authority hauthority fun _ hc => u.tail_head? hc
  obtain ⟨user, hcut, huser⟩ := cutUser_authorityWith hhost u
  obtain ⟨port, hport, hfilter⟩ := port?_elim h
  obtain ⟨hpath, hrest⟩ := cut_tail h
  obtain ⟨name, hname⟩ := h.userinfo
  have hports : u.port.elim [] (fun p => ':' :: Nat.toDigits 10 p) = [] ∨
      (u.port.elim [] fun p => ':' :: Nat.toDigits 10 p).head? = some ':' := by
    cases u.port with
    | none => exact Or.inl rfl
    | some p => exact Or.inr rfl
  have hencoded : encodeUser u.userinfo = u.userinfo := by
    rw [hname, encodeUser_encodeUser]
  rw [parse, clean_eq_self (isSolid_renderWith h hhost), renderWith, hscheme]
  dsimp only
  rw [h.scheme]
  dsimp only
  rw [dropWhile_slashes h hhost, parseSpecial]
  rw [htake, hdrop, hcut]
  dsimp only
  rw [hhost.cut _ hports]
  dsimp only
  rw [if_neg hhost.ne]
  cases Host.parse host with
  | error e => rfl
  | ok host =>
    rw [hport, hpath, hrest, queryOf_tail h, fragmentOf_tail h, pathOf_renderPath h.path, huser, hencoded]
    simp only [bind, Except.bind, pure, Except.pure, Except.map, readWith, hfilter]

end Whole

end Hyperlink.Url
