import Hyperlink.Proofs.Config.Document
import Hyperlink.Proofs.Gateway.Again
import Hyperlink.Shell.Run

/-!
# Hyperlink.Proofs.Config.Store — the gateway that is kept in a file

A run is a list of calls that set, get or load the gateway, made one after another on what a path leads to.

* `StoreCall.after_of_saved?_eq_none`, `StoreCall.holds_of_saved?`: what one call does. It changes nothing, or it sets
  the gateway, and then the file holds that gateway in normal form.
* `afterRun_cases`: what a run does, by induction over its calls.
* `Shell.Invocation.resolveGateway_of_saved`: what one call of the program saves is what a later one settles on.
* `store_consistent`: **a run leads to the gateway that was set last**, and what is read is in normal form, unless the
  host is a name with an overlong label. `long_gateway_lost`: such a gateway can be set, but not be read.
-/

namespace Hyperlink

/-! ## Calls -/

/-- A call on the store of the gateway. -/
inductive StoreCall
  | set (url : String)
  | get
  | load
  deriving DecidableEq, Repr

/-- The file holds the gateway that a text writes, in normal form. -/
def Config.Holds (s : FileState) (url : String) : Prop :=
  ∃ gateway, normalizeGateway url = .ok gateway ∧ load s = .ok ⟨gateway⟩

namespace StoreCall

/-- What the path leads to after a call. -/
def after (s : FileState) : StoreCall → FileState
  | set url => Config.afterSet s url
  | get | load => s

/-- The argument of a call, if it has set the gateway. -/
def saved? (s : FileState) : StoreCall → Option String
  | set url => if (Config.setGateway s url).isOk then some url else none
  | get | load => none

/-- A call that sets no gateway changes nothing. -/
theorem after_of_saved?_eq_none {s : FileState} {c : StoreCall} (h : c.saved? s = none) : c.after s = s := by
  cases c with
  | get | load => rfl
  | set url =>
    unfold saved? at h
    rw [after, Config.afterSet]
    cases hset : Config.setGateway s url with
    | ok s' => simp [hset, Except.isOk, Except.toBool] at h
    | error e => rfl

end StoreCall

namespace Config

theorem setGateway_of_normal {url gateway : String} (h : normalizeGateway url = .ok gateway) (s : FileState) :
    setGateway s url = ofSystem (s.write (⟨gateway⟩ : Config).toToml.toUTF8) := by
  rw [setGateway, h]
  simp only [bind, Except.bind]

theorem setGateway_eq_ok {s s' : FileState} {url : String} (h : setGateway s url = .ok s') :
    ∃ gateway, normalizeGateway url = .ok gateway ∧ s.write (⟨gateway⟩ : Config).toToml.toUTF8 = .ok s' := by
  cases hurl : normalizeGateway url with
  | error e =>
    rw [setGateway, hurl] at h
    cases h
  | ok gateway =>
    rw [setGateway_of_normal hurl] at h
    refine ⟨gateway, rfl, ?_⟩
    cases hwrite : s.write (⟨gateway⟩ : Config).toToml.toUTF8 with
    | error e =>
      rw [hwrite] at h
      cases h
    | ok s'' =>
      rw [hwrite] at h
      rw [Except.ok.inj h]

theorem holds_of_setGateway {s s' : FileState} {url : String} (h : setGateway s url = .ok s') : Holds s' url := by
  obtain ⟨gateway, hurl, hwrite⟩ := setGateway_eq_ok h
  exact ⟨gateway, hurl, load_write hwrite⟩

theorem gateway_of_load {s : FileState} {c : Config} (h : load s = .ok c) :
    gateway s = normalizeGateway c.gatewayUrl := by
  rw [gateway, h]
  simp only [bind, Except.bind]

/-- What a file holds is read in normal form again, unless it is refused. -/
theorem Holds.gateway {s : FileState} {url : String} (h : Holds s url) :
    ∃ g, normalizeGateway url = .ok g ∧ load s = .ok ⟨g⟩ ∧
      Config.gateway s = if isOverlongGateway url then .error UrlError.invalidDomain.toError else .ok g := by
  obtain ⟨g, hurl, hload⟩ := h
  exact ⟨g, hurl, hload, (gateway_of_load hload).trans (normalizeGateway_again hurl)⟩

end Config

/-- A call that sets the gateway leaves a file that holds it. -/
theorem StoreCall.holds_of_saved? {s : FileState} {c : StoreCall} {url : String} (h : c.saved? s = some url) :
    Config.Holds (c.after s) url := by
  cases c with
  | get | load => cases h
  | set url' =>
    unfold saved? at h
    cases hset : Config.setGateway s url' with
    | error e => simp [hset, Except.isOk, Except.toBool] at h
    | ok s' =>
      obtain rfl : url' = url := by simpa [hset, Except.isOk, Except.toBool] using h
      rw [after, Config.afterSet, hset]
      exact Config.holds_of_setGateway hset

/-! ## Runs -/

/-- What the path leads to after the calls. -/
def afterRun (s : FileState) (calls : List StoreCall) : FileState := calls.foldl StoreCall.after s

/-- The argument of the last call that has set the gateway. -/
def lastSaved? : FileState → List StoreCall → Option String
  | _, [] => none
  | s, c :: calls => (lastSaved? (c.after s) calls).or (c.saved? s)

/-- A run changes nothing, or leads to a file that holds the gateway that was set last. -/
theorem afterRun_cases (s : FileState) (calls : List StoreCall) :
    match lastSaved? s calls with
    | none => afterRun s calls = s
    | some url => Config.Holds (afterRun s calls) url := by
  induction calls generalizing s with
  | nil => rfl
  | cons c calls ih =>
    have hrest := ih (c.after s)
    have hrun : afterRun s (c :: calls) = afterRun (c.after s) calls := rfl
    rw [lastSaved?, hrun]
    cases hlast : lastSaved? (c.after s) calls with
    | some url =>
      rw [hlast] at hrest
      exact hrest
    | none =>
      rw [hlast] at hrest
      dsimp only at hrest
      rw [Option.none_or, hrest]
      cases hsaved : c.saved? s with
      | none => exact StoreCall.after_of_saved?_eq_none hsaved
      | some url => exact StoreCall.holds_of_saved? hsaved

/-! ## Calls of the program -/

namespace Shell

/-- After the gateway is saved, a call of the program leaves the files as they are. -/
theorem Invocation.files_of_run {i : Invocation} {env : Option String} {files files' : Files} {gateway : String}
    {o : Outcome} (hresolve : i.resolveGateway env files = .ok gateway) (hsave : i.save gateway files = .ok files')
    (hrun : i.run env files = .ok o) : o.files = files' := by
  unfold Invocation.run at hrun
  rw [hresolve] at hrun
  dsimp only at hrun
  rw [hsave] at hrun
  dsimp only at hrun
  cases hcommand : i.request.toCommand gateway files' with
  | error fault =>
    rw [hcommand] at hrun
    cases hrun
  | ok command =>
    rw [hcommand] at hrun
    cases command with
    | error e =>
      obtain rfl := Except.ok.inj hrun
      rfl
    | ok command =>
      simp only [bind, Except.bind, pure, Except.pure] at hrun
      split at hrun
      · cases hrun
      · obtain rfl := Except.ok.inj hrun
        rfl

/-- A gateway that a call has saved is the one that a later call with only the file settles on. -/
theorem Invocation.resolveGateway_of_saved {i j : Invocation} {env : Option String} {files : Files}
    {url path gateway : String} {o : Outcome} (hurl : i.gateway = some url) (hpath : i.config = some path)
    (hasked : i.saveGateway = true) (hresolve : i.resolveGateway env files = .ok gateway)
    (hsave : (i.save gateway files).isOk = true) (hrun : i.run env files = .ok o) (hurl' : j.gateway = none)
    (hpath' : j.config = some path) : j.resolveGateway none o.files = .ok gateway := by
  have hnormal : normalizeGateway url = .ok gateway := by
    rw [Invocation.resolveGateway, hurl, hpath, Option.some_or] at hresolve
    exact hresolve
  have hwritten : i.save gateway files = (Config.setGateway (files path) gateway).map (files.set path) := by
    rw [Invocation.save, hasked, hpath]
  cases hset : Config.setGateway (files path) gateway with
  | error e =>
    rw [hwritten, hset] at hsave
    cases hsave
  | ok s' =>
    obtain ⟨gateway', hagain, hload⟩ := Config.holds_of_setGateway hset
    obtain rfl : gateway' = gateway := by
      rw [normalizeGateway_again hnormal] at hagain
      split at hagain
      · cases hagain
      · exact (Except.ok.inj hagain).symm
    have hfiles : o.files path = s' := by
      rw [Invocation.files_of_run hresolve (hwritten.trans (congrArg _ hset)) hrun]
      exact if_pos rfl
    rw [Invocation.resolveGateway, hurl', hpath']
    show Config.gateway (o.files path) = .ok gateway'
    rw [hfiles, Config.gateway_of_load hload, hagain]

end Shell

/-! ## The store -/

/-- **A run leads to the gateway that was set last**: a call that fails to set one changes nothing, the last one that was
set is read in normal form, and what is read is in normal form. A host with an overlong label is refused when it is read
again. And a gateway that a call of the program saves is the one of a later call. -/
theorem store_consistent (start : FileState) (calls : List StoreCall) :
    (∀ url e, Config.setGateway (afterRun start calls) url = .error e →
      (StoreCall.set url).after (afterRun start calls) = afterRun start calls) ∧
    (∀ url, lastSaved? start calls = some url → ∃ gateway, normalizeGateway url = .ok gateway ∧
      Config.load (afterRun start calls) = .ok ⟨gateway⟩ ∧
      Config.gateway (afterRun start calls) =
        if isOverlongGateway url then .error UrlError.invalidDomain.toError else .ok gateway) ∧
    (∀ gateway, Config.gateway (afterRun start calls) = .ok gateway →
      (∃ c, Config.load (afterRun start calls) = .ok c ∧ normalizeGateway gateway =
        if isOverlongGateway c.gatewayUrl then .error UrlError.invalidDomain.toError else .ok gateway) ∧
      ((lastSaved? start calls).isSome → normalizeGateway gateway = .ok gateway)) ∧
    ∀ (i j : Shell.Invocation) (env : Option String) (files : Files) (url path gateway : String) (o : Shell.Outcome),
      i.gateway = some url → i.config = some path → i.saveGateway = true →
      i.resolveGateway env files = .ok gateway → (i.save gateway files).isOk = true → i.run env files = .ok o →
      j.gateway = none → j.config = some path → j.resolveGateway none o.files = .ok gateway := by
  have hrun := afterRun_cases start calls
  generalize afterRun start calls = now at hrun
  have hsaved : ∀ url, lastSaved? start calls = some url → Config.Holds now url := by
    intro url hlast
    rwa [hlast] at hrun
  refine ⟨fun url e herror => ?_, fun url hlast => (hsaved url hlast).gateway,
    fun gateway hget => ⟨?_, fun hlast => ?_⟩, ?_⟩
  · rw [StoreCall.after, Config.afterSet, herror]
    rfl
  · cases hload : Config.load now with
    | error e =>
      rw [Config.gateway, hload] at hget
      cases hget
    | ok c => exact ⟨c, rfl, normalizeGateway_again ((Config.gateway_of_load hload).symm.trans hget)⟩
  · obtain ⟨url, hlast⟩ := Option.isSome_iff_exists.mp hlast
    obtain ⟨g, hurl, hload, hgateway⟩ := (hsaved url hlast).gateway
    rw [hget] at hgateway
    split at hgateway
    · cases hgateway
    · obtain rfl := Except.ok.inj hgateway
      rw [← Config.gateway_of_load hload, hget]
  · intro i j env files url path gateway o hurl hpath hasked hresolve hsave hrun hurl' hpath'
    exact Shell.Invocation.resolveGateway_of_saved hurl hpath hasked hresolve hsave hrun hurl' hpath'

/-- A run that sets a gateway and then fails to set another one. -/
def sampleRun : List StoreCall := [.set " HTTP://Hyper.Media:80//", .get, .set "hyper.media"]

/-- A call that saves a gateway. -/
def savingCall : Shell.Invocation := ⟨.normalize "hm://uid", some "https://Hyper.Media/", some "hm.toml", true⟩

/-- A call with the file of that gateway only. -/
def laterCall : Shell.Invocation := ⟨.normalize "hm://uid", none, some "hm.toml", false⟩

theorem store_consistent_sample :
    Config.setGateway (afterRun .absent sampleRun) "hyper.media" = .error UrlError.missingBase.toError ∧
      (StoreCall.set "hyper.media").after (afterRun .absent sampleRun) = afterRun .absent sampleRun ∧
      lastSaved? .absent sampleRun = some " HTTP://Hyper.Media:80//" ∧
      Config.gateway (afterRun .absent sampleRun) = .ok "http://hyper.media" ∧
      normalizeGateway "http://hyper.media" = .ok "http://hyper.media" ∧
      ∃ o, savingCall.run none (fun _ => .absent) = .ok o ∧
        laterCall.resolveGateway none o.files = .ok "https://hyper.media" := by
  obtain ⟨hfail, hlast, hget, hcall⟩ := store_consistent .absent sampleRun
  have hsaved : lastSaved? .absent sampleRun = some " HTTP://Hyper.Media:80//" := rfl
  have herror : Config.setGateway (afterRun .absent sampleRun) "hyper.media" = .error UrlError.missingBase.toError := rfl
  obtain ⟨gateway, hnormal, -, hgateway⟩ := hlast _ hsaved
  obtain rfl : gateway = "http://hyper.media" := by
    have hvalue : normalizeGateway " HTTP://Hyper.Media:80//" = .ok "http://hyper.media" := rfl
    exact Except.ok.inj (hnormal.symm.trans hvalue)
  have hlong : isOverlongGateway " HTTP://Hyper.Media:80//" = false := rfl
  rw [hlong] at hgateway
  exact ⟨herror, hfail _ _ herror, hsaved, hgateway, (hget _ hgateway).2 (by rw [hsaved]; rfl), _, rfl,
    hcall savingCall laterCall none (fun _ => .absent) "https://Hyper.Media/" "hm.toml" _ _ rfl rfl rfl rfl rfl rfl rfl rfl⟩

/-! ## A gateway that can be set, but not be read -/

/-- A label of twenty letters and of ideographs that lie far apart. -/
def longLabel : List Char := List.replicate 20 'a' ++ (List.range' 0x20000 680 60).map Char.ofNat

/-- A gateway with this label as its host. -/
def longGateway : String := "https://" ++ String.ofList longLabel ++ "/"

section Long

open Domain Unicode

theorem toNat_ofNat_of_mem_range' {n : Nat} (h : n ∈ List.range' 0x20000 680 60) :
    (Char.ofNat n).toNat = n ∧ 0x20000 ≤ n ∧ n ≤ 0x2a6df := by
  obtain ⟨i, hi, rfl⟩ := List.mem_range'.mp h
  have hvalid : (0x20000 + 60 * i).isValidChar := Or.inr ⟨by omega, by omega⟩
  have hcode : (Char.ofNat (0x20000 + 60 * i)).toNat = 0x20000 + 60 * i := by
    rw [Char.ofNat, dif_pos hvalid]
    rfl
  exact ⟨hcode, by omega, by omega⟩

theorem mem_longLabel {c : Char} (h : c ∈ longLabel) : c = 'a' ∨ IsIdeograph c := by
  rcases List.mem_append.mp h with h | h
  · exact Or.inl (List.eq_of_mem_replicate h)
  · obtain ⟨n, hn, rfl⟩ := List.mem_map.mp h
    obtain ⟨hcode, hlow, hhigh⟩ := toNat_ofNat_of_mem_range' hn
    exact Or.inr ⟨by omega, by omega⟩

theorem not_mem_longLabel {c : Char} (hascii : c.toNat < Punycode.firstCode) (ha : c ≠ 'a') : c ∉ longLabel := by
  intro h
  rcases mem_longLabel h with rfl | hc
  · exact ha rfl
  · have hlow := hc.1
    have hfirst : Punycode.firstCode = 128 := rfl
    omega

theorem toNat_longLabel : longLabel.map Char.toNat = List.replicate 20 0x61 ++ List.range' 0x20000 680 60 := by
  have hcodes : ((List.range' 0x20000 680 60).map Char.ofNat).map Char.toNat = List.range' 0x20000 680 60 := by
    rw [List.map_map]
    exact (List.map_congr_left fun n hn => (toNat_ofNat_of_mem_range' hn).1).trans (List.map_id _)
  rw [longLabel, List.map_append, hcodes, List.map_replicate]
  rfl

theorem codes_longLabel : Punycode.codes longLabel = List.range' 0x20000 680 60 := by
  have hfilter : (longLabel.map Char.toNat).filter (Punycode.firstCode ≤ ·) = List.range' 0x20000 680 60 := by
    have hlarge : ∀ n ∈ List.range' 0x20000 680 60, decide (Punycode.firstCode ≤ n) = true := by
      intro n hn
      have hlow := (toNat_ofNat_of_mem_range' hn).2.1
      exact decide_eq_true (Nat.le_trans (by decide) hlow)
    rw [toNat_longLabel, List.filter_append, List.filter_eq_self.mpr hlarge]
    rfl
  rw [Punycode.codes_of_pairwise] <;> rw [hfilter]
  exact List.pairwise_lt_range' 60 (by decide)

theorem maxEncoded_lt_longLabel : maxEncoded < (Punycode.encode longLabel).length := by
  have hascii : 20 ≤ (Punycode.asciiPart longLabel).length := by
    have hletters : (List.replicate 20 'a').filter (·.toNat < Punycode.firstCode) = List.replicate 20 'a' := rfl
    rw [Punycode.asciiPart, longLabel, List.filter_append, List.length_append, hletters, List.length_replicate]
    exact Nat.le_add_right 20 _
  have hspaced : Punycode.Spaced 59 Punycode.firstCode (Punycode.codes longLabel) := by
    rw [codes_longLabel]
    exact Punycode.spaced_range' (by decide) 680
  have hlength := Punycode.length_le_encode hspaced hascii (by decide)
  rw [codes_longLabel, List.length_range'] at hlength
  exact Nat.lt_of_lt_of_le (by decide) hlength

/-- The label is short enough to be written in Punycode. -/
theorem toAscii?_longLabel : toAscii? longLabel = some (punycodeMark ++ Punycode.encode longLabel) := by
  have hpasses : ∀ c ∈ longLabel, Passes c := by
    intro c hc
    rcases mem_longLabel hc with rfl | hc
    · exact (isSmall_of_decide (by decide)).passes
    · exact passes_ideograph hc
  have hforbidden : ∀ c ∈ longLabel, isForbidden c = false := by
    intro c hc
    refine Bool.eq_false_iff.mpr fun hforbidden => ?_
    exact not_mem_longLabel (ascii_of_isForbidden hforbidden) (by rintro rfl; exact absurd hforbidden (by decide)) hc
  have hascii : longLabel.all isAscii = false := by
    have hmem : Char.ofNat 0x20000 ∈ longLabel := List.mem_append_right _ (List.mem_map_of_mem (List.mem_range'.mpr ⟨0, by decide, rfl⟩))
    exact List.all_eq_false.mpr ⟨_, hmem, by decide⟩
  have hlength : longLabel.length ≤ maxPlain := by
    rw [longLabel, List.length_append, List.length_map, List.length_range', List.length_replicate]
    decide
  exact toAscii?_of_passes hpasses (not_mem_longLabel (by decide) (by decide)) hforbidden rfl
    (fun c hc => by obtain rfl := Option.some.inj hc; decide) hascii hlength

theorem point_not_mem_encode : '.' ∉ Punycode.encode longLabel := by
  intro h
  rcases Punycode.encode_isWritten h with h | h | ⟨d, hd, h⟩
  · exact not_mem_longLabel (by decide) (by decide) (List.mem_filter.mp h).1
  · exact absurd h (by decide)
  · have hall : ∀ d < 36, '.' ≠ Punycode.digitChar d := by decide
    exact hall d hd h

theorem parse_longLabel : Host.parse longLabel = .ok (.domain (punycodeMark ++ Punycode.encode longLabel)) :=
  Host.parse_of_toAscii? toAscii?_longLabel (by decide) (not_mem_longLabel (by decide) (by decide))
    (List.append_ne_nil_of_left_ne_nil (by decide) _) (Host.endsInNumber_punycode point_not_mem_encode)

theorem isSolid_ideograph {c : Char} (h : IsIdeograph c) : Url.IsSolid c := by
  have hlow := h.1
  constructor
  · show 32 < c.toNat
    omega
  · simp [Text.isBlank, Text.inRanges, Text.blankRanges]
    omega

theorem hostText_longLabel : Url.HostText longLabel where
  ne := List.append_ne_nil_of_left_ne_nil (by decide) _
  chars c hc := by
    have hne : ∀ d : Char, d.toNat < Punycode.firstCode → d ≠ 'a' → c ≠ d := by
      rintro d hascii ha rfl
      exact not_mem_longLabel hascii ha hc
    refine ⟨?_, hne _ (by decide) (by decide), hne _ (by decide) (by decide), hne _ (by decide) (by decide),
      hne _ (by decide) (by decide), hne _ (by decide) (by decide)⟩
    rcases mem_longLabel hc with rfl | hc
    · exact Url.IsVisible.solid (by decide)
    · exact isSolid_ideograph hc
  cut rest hrest := by
    refine Url.cutHost_names (fun c hc => ⟨?_, ?_, ?_⟩) hrest <;> rintro rfl <;>
      exact not_mem_longLabel (by decide) (by decide) hc

/-- The URL of the gateway, with any host. -/
def longUrl : Url :=
  { scheme := "https".toList, userinfo := [], host := .domain [], port := none, path := [[]], query := none
    fragment := none }

theorem isNormal_longUrl : longUrl.IsNormal 443 where
  scheme := rfl
  userinfo := ⟨[], rfl⟩
  port _ h := by cases h
  path s hs := by
    rw [List.mem_singleton.mp hs]
    exact Url.isNormalSegment_nil
  query _ h := by cases h
  fragment _ h := by cases h

theorem parse_longGateway : Url.parse (Text.trim longGateway.toList) =
    .ok (.special (longUrl.readWith (.domain (punycodeMark ++ Punycode.encode longLabel)))) := by
  have htext : longGateway.toList = longUrl.renderWith longLabel := by
    have hwritten : longUrl.renderWith longLabel = "https://".toList ++ (longLabel ++ "/".toList) := by
      show "https".toList ++ ':' :: '/' :: '/' :: (longLabel ++ [] ++ "/".toList) = _
      rw [List.append_nil]
      rfl
    rw [hwritten, longGateway, String.toList_append, String.toList_append, @String.toList_ofList longLabel,
      List.append_assoc]
  rw [htext, Url.trim_eq_self (Url.isSolid_renderWith isNormal_longUrl hostText_longLabel),
    Url.parse_renderWith isNormal_longUrl hostText_longLabel, parse_longLabel]
  rfl

theorem normalizeGateway_longGateway : ∃ gateway, normalizeGateway longGateway = .ok gateway := by
  rw [normalizeGateway, parse_longGateway]
  exact ⟨_, if_pos (by decide)⟩

theorem isOverlong_longGateway : isOverlongGateway longGateway = true := by
  rw [isOverlongGateway, parse_longGateway]
  exact Host.isOverlong_punycode point_not_mem_encode maxEncoded_lt_longLabel

end Long

/-- Where nothing is, every gateway can be set. -/
theorem afterRun_absent {url gateway : String} (h : normalizeGateway url = .ok gateway) :
    lastSaved? .absent [.set url] = some url ∧
      afterRun .absent [.set url] = .file (⟨gateway⟩ : Config).toToml.toUTF8 := by
  have hset : Config.setGateway .absent url = .ok (.file (⟨gateway⟩ : Config).toToml.toUTF8) :=
    Config.setGateway_of_normal h .absent
  constructor
  · rw [lastSaved?, lastSaved?, Option.none_or, StoreCall.saved?, hset]
    exact if_pos rfl
  · rw [afterRun, List.foldl_cons, List.foldl_nil, StoreCall.after, Config.afterSet, hset, Except.toOption,
      Option.getD_some]

/-- The gateway with the long label can be set, but then it is not read. And from a file that holds it as it was given,
a text is read that is no gateway. -/
theorem long_gateway_lost :
    lastSaved? .absent [.set longGateway] = some longGateway ∧ ∃ gateway, normalizeGateway longGateway = .ok gateway ∧
      Config.gateway (afterRun .absent [.set longGateway]) = .error UrlError.invalidDomain.toError ∧
      Config.gateway (.file (⟨longGateway⟩ : Config).toToml.toUTF8) = .ok gateway ∧
      normalizeGateway gateway = .error UrlError.invalidDomain.toError := by
  obtain ⟨gateway, hnormal⟩ := normalizeGateway_longGateway
  obtain ⟨hsaved, hfile⟩ := afterRun_absent hnormal
  have hagain : normalizeGateway gateway = .error UrlError.invalidDomain.toError := by
    rw [normalizeGateway_again hnormal, if_pos isOverlong_longGateway]
  have hload : ∀ url, Config.load (.file (⟨url⟩ : Config).toToml.toUTF8) = .ok ⟨url⟩ :=
    fun url => Config.load_write (s := .absent) rfl
  refine ⟨hsaved, gateway, hnormal, ?_, ?_, hagain⟩
  · rw [hfile, Config.gateway_of_load (hload gateway)]
    exact hagain
  · rw [Config.gateway_of_load (hload longGateway)]
    exact hnormal

end Hyperlink
