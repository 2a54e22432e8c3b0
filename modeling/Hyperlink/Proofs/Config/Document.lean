import Hyperlink.Config
import Hyperlink.Proofs.Toml.Strings

/-!
# Hyperlink.Proofs.Config.Document — a written configuration is read again

* `statements?_gateway`: the line that is written is one statement, a pair of the key and the gateway.
* `ofToml?_toToml`: **what is written reads back**, whatever characters the gateway holds.
* `load_write`: and so a file that was written holds the configuration.
-/

namespace Hyperlink.Config

open Toml

/-- The line of a configuration behind the key. -/
def assignment (url : List Char) : List Char := ' ' :: '=' :: ' ' :: (Toml.quote url ++ ['\n'])

theorem toList_toToml (c : Config) : c.toToml.toList = gatewayKey.toList ++ assignment c.gatewayUrl.toList := by
  simp [toToml, assignment]

/-- A written string begins with a quote of some kind. -/
theorem quote_eq_cons (cs : List Char) : ∃ q ds, Toml.quote cs = q :: ds ∧ (q = '"' ∨ q = '\'') := by
  unfold Toml.quote
  split_ifs <;> simp

theorem key?_gatewayKey (url : List Char) :
    key? (gatewayKey.toList ++ assignment url) = some ([gatewayKey], '=' :: ' ' :: (Toml.quote url ++ ['\n'])) := by
  have hpart : keyPart? (skipBlanks (gatewayKey.toList ++ assignment url)) =
      some (gatewayKey.toList, assignment url) := rfl
  have hblanks : skipBlanks (assignment url) = '=' :: ' ' :: (Toml.quote url ++ ['\n']) := rfl
  have hparts : parts? (gatewayKey.toList ++ assignment url) =
      some ([gatewayKey], '=' :: ' ' :: (Toml.quote url ++ ['\n'])) := by
    rw [parts?]
    split
    · next h => simp [hpart] at h
    · next part rest h =>
      obtain ⟨rfl, rfl⟩ : gatewayKey.toList = part ∧ assignment url = rest := by simpa [hpart] using h
      split
      · next h' => simp [hblanks] at h'
      · next h' => rw [hblanks, String.ofList_toList]
  rw [key?, hparts]
  rfl

theorem value?_quote (fuel depth : Nat) (url : List Char) :
    value? (fuel + 1) depth (Toml.quote url ++ ['\n']) = some (.scalar (.string (String.ofList url)), ['\n']) := by
  have hstring : string? (Toml.quote url ++ ['\n']) = some (url, ['\n']) := string?_quote url (by decide) (by decide)
  obtain ⟨q, ds, hquote, hq⟩ := quote_eq_cons url
  rw [hquote, List.cons_append] at hstring ⊢
  rcases hq with rfl | rfl
  · rw [value?, hstring]
    rfl
  · rw [value?, hstring]
    rfl

theorem statement?_gateway (url : List Char) :
    statement? (gatewayKey.toList ++ assignment url) =
      some (.pair [gatewayKey] (.scalar (.string (String.ofList url))), ['\n']) := by
  obtain ⟨q, ds, hquote, hq⟩ := quote_eq_cons url
  have hskip : skipBlanks (' ' :: (Toml.quote url ++ ['\n'])) = Toml.quote url ++ ['\n'] := by
    rw [hquote]
    rcases hq with rfl | rfl <;> rfl
  have hhead : ∃ ds, gatewayKey.toList ++ assignment url = 'g' :: ds := ⟨_, rfl⟩
  have hkey := key?_gatewayKey url
  obtain ⟨ds, hds⟩ := hhead
  rw [hds] at hkey ⊢
  unfold statement?
  split
  · next heq => simp at heq
  · next heq => simp at heq
  · rw [hkey]
    simp only
    rw [hskip, value?_quote]
    rfl

theorem statements?_gateway (url : List Char) (fuel : Nat) :
    statements? (fuel + 2) (gatewayKey.toList ++ assignment url) =
      some [.pair [gatewayKey] (.scalar (.string (String.ofList url)))] := by
  have hend : lineEnd? false (gatewayKey.toList ++ assignment url) = none := rfl
  have hskip : skipBlanks (gatewayKey.toList ++ assignment url) = gatewayKey.toList ++ assignment url := rfl
  have hempty : (gatewayKey.toList ++ assignment url).isEmpty = false := rfl
  have hrest : statements? (fuel + 1) [] = some [] := rfl
  rw [statements?, hempty, hend, hskip, statement?_gateway]
  simp only [Bool.false_eq_true, if_false]
  show ((lineEnd? false ['\n']).bind fun rest => (statements? (fuel + 1) rest).bind fun _ => _) = _
  rw [show lineEnd? false ['\n'] = some [] from rfl, Option.bind_some, hrest]
  rfl

/-- **What is written reads back.** -/
theorem ofToml?_toToml (c : Config) : ofToml? c.toToml = some c := by
  have hlength : ∃ fuel, c.toToml.toList.length + 1 = fuel + 2 :=
    ⟨c.toToml.toList.length - 1, by rw [toList_toToml]; simp [assignment]; omega⟩
  obtain ⟨fuel, hfuel⟩ := hlength
  have hdocument : Document.ofChars? c.toToml.toList =
      some ⟨[([gatewayKey], .scalar (.string c.gatewayUrl))], []⟩ := by
    rw [Document.ofChars?, hfuel, toList_toToml, statements?_gateway, String.ofList_toList]
    rfl
  have hhead : ∃ ds, c.toToml.toList = 'g' :: ds := ⟨_, toList_toToml c⟩
  have hparse : Toml.parse? c.toToml = some [(gatewayKey, .scalar (.string c.gatewayUrl))] := by
    obtain ⟨ds, hds⟩ := hhead
    unfold Toml.parse?
    rw [hds] at hdocument ⊢
    simp only
    rw [if_neg (by decide), hdocument]
    rfl
  rw [ofToml?, hparse]
  rfl

theorem load_write {s s' : FileState} {c : Config} (h : s.write c.toToml.toUTF8 = .ok s') : load s' = .ok c := by
  have hread := FileState.readText_write h
  have hexists : s'.doesExist := by
    cases s <;> simp_all [FileState.write, FileState.doesExist]
    all_goals subst h; rfl
  unfold load
  rw [if_pos hexists, hread]
  simp only [ofSystem, Except.mapError, bind, Except.bind, ofToml?_toToml]
  rfl

end Hyperlink.Config
