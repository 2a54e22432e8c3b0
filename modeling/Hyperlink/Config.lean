import Hyperlink.FileState
import Hyperlink.Gateway
import Hyperlink.Identifier.Web
import Hyperlink.Toml.Reader

/-!
# Hyperlink.Config — the configuration file

The configuration is a TOML document with one key of interest, the gateway. Where the file or the key is missing, the
public gateway stands.

* `Config.load`: reads the file as it was written.
* `Config.gateway`: the gateway of the file in normal form.
* `Config.setGateway`: writes a file that holds the gateway in normal form.
-/

namespace Hyperlink

/-- What the configuration file says. -/
structure Config where
  /-- The gateway as it was written, which need not be in normal form. -/
  gatewayUrl : String
  deriving DecidableEq, Repr

namespace Config

/-- The configuration where nothing else is said. -/
def standard : Config := ⟨publicGateway⟩

/-- The key of the gateway. -/
def gatewayKey : String := "gateway_url"

/-- Reads a document. All other keys are passed over. -/
def ofToml? (text : String) : Option Config := do
  match (← Toml.parse? text).get? gatewayKey with
  | none => some standard
  | some (.scalar (.string url)) => some ⟨url⟩
  | some _ => none

/-- Writes a document. -/
def toToml (c : Config) : String := gatewayKey ++ " = " ++ String.ofList (Toml.quote c.gatewayUrl.toList) ++ "\n"

/-- The result of an operation on a file, as a caller sees it. -/
def ofSystem {α : Type} (x : Except FileError α) : Except Error α := x.mapError FileError.ofSystem

/-- The configuration that a file holds. -/
def load (s : FileState) : Except Error Config := do
  if s.doesExist then
    match ofToml? (← ofSystem s.readText) with
    | some c => return c
    | none => throw .toml
  else return standard

/-- The gateway that a file holds, in normal form. -/
def gateway (s : FileState) : Except Error String := do normalizeGateway (← load s).gatewayUrl

/-- Writes a file with a gateway. -/
def setGateway (s : FileState) (url : String) : Except Error FileState := do
  let c : Config := ⟨← normalizeGateway url⟩
  ofSystem (s.write c.toToml.toUTF8)

/-- What the path leads to after an attempt to write a file with a gateway. -/
def afterSet (s : FileState) (url : String) : FileState := (setGateway s url).toOption.getD s

end Config

end Hyperlink
