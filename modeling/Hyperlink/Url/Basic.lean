import Hyperlink.Url.Host
import Hyperlink.Url.Path

/-!
# Hyperlink.Url.Basic — URLs

A `Url` is a URL with one of the special schemes in normal form. `Url.parse` reads any URL without a base: one with a
special scheme gives its normal form, any other only its scheme, and both have to be well-formed. `Url.render` writes
the normal form.
-/

namespace Hyperlink

/-- A URL with a special scheme in normal form. All texts are encoded. -/
structure Url where
  scheme : List Char
  /-- The name of the user, and the password behind a colon. -/
  userinfo : List Char
  host : Host
  /-- The port, unless it is the one of the scheme. -/
  port : Option Nat
  path : List (List Char)
  query : Option (List Char)
  fragment : Option (List Char)
  deriving DecidableEq, Repr

/-- What reading a URL gives. -/
inductive AnyUrl
  | special (u : Url)
  /-- A well-formed URL with another scheme. -/
  | other (scheme : List Char)
  deriving DecidableEq, Repr

namespace Url

/-! ## Writing -/

/-- The text of a URL. -/
def render (u : Url) : List Char :=
  u.scheme ++ [':', '/', '/'] ++ (if u.userinfo = [] then [] else u.userinfo ++ ['@']) ++ u.host.render ++
    (u.port.elim [] fun p => ':' :: Nat.toDigits 10 p) ++ renderPath u.path ++ (u.query.elim [] ('?' :: ·)) ++
    u.fragment.elim [] ('#' :: ·)

/-! ## Reading -/

/-- The special schemes with their ports; files have none and are read in their own way. -/
def specialSchemes : List (List Char × Nat) :=
  [("http".toList, 80), ("https".toList, 443), ("ws".toList, 80), ("wss".toList, 443), ("ftp".toList, 21)]

/-- The scheme of files. -/
def fileScheme : List Char := "file".toList

/-- The text without blanks and control characters at its ends, and without tabs and line ends. -/
def clean (cs : List Char) : List Char :=
  (Text.stripEnds (· ≤ ' ') cs).filter fun c => c ≠ '\t' ∧ c ≠ '\n' ∧ c ≠ '\r'

/-- Whether a character may stand in a scheme behind the first letter. -/
def isSchemeChar (c : Char) : Bool := c.isAlphanum || c = '+' || c = '-' || c = '.'

/-- The scheme of a text in small letters, and what follows its colon. -/
def scheme? (cs : List Char) : Option (List Char × List Char) :=
  match Text.cutAt ':' cs with
  | some (c :: scheme, rest) =>
    if c.isAlpha ∧ scheme.all isSchemeChar then some ((c :: scheme).map Char.toLower, rest) else none
  | _ => none

/-- Whether a character ends the authority of a URL. -/
def endsAuthority (special : Bool) (c : Char) : Bool := c = '/' || c = '?' || c = '#' || (special && c = '\\')

/-- The parts of an authority before and after its last `@`. -/
def cutUser (authority : List Char) : Option (List Char) × List Char :=
  match Text.cutAt '@' authority.reverse with
  | some (host, user) => (some user.reverse, host.reverse)
  | none => (none, authority)

/-- The host of an authority and what follows it: a colon outside of brackets ends a host. -/
def cutHost (inBrackets : Bool) : List Char → List Char × List Char
  | [] => ([], [])
  | c :: cs =>
    if c = ':' ∧ ¬ inBrackets then ([], c :: cs)
    else
      let inside := if c = '[' then true else if c = ']' then false else inBrackets
      let p := cutHost inside cs
      (c :: p.1, p.2)

/-- The encoded name and password of a user. An empty password leaves no colon. -/
def encodeUser (user : List Char) : List Char :=
  match Text.cutAt ':' user with
  | some (name, []) => percentEncode userinfoSet name
  | some (name, password) => percentEncode userinfoSet name ++ ':' :: percentEncode userinfoSet password
  | none => percentEncode userinfoSet user

/-- The port behind a host. In a scheme that is not special a backslash may follow it. -/
def port? (special : Bool) : List Char → Except UrlError (Option Nat)
  | ':' :: cs =>
    let digits := cs.takeWhile Char.isDigit
    let rest := cs.dropWhile Char.isDigit
    let n := Nat.ofDigitChars 10 digits 0
    if 65535 < n ∨ (rest ≠ [] ∧ ¬ (¬ special ∧ rest.head? = some '\\')) then .error .invalidPort
    else .ok (if digits = [] then none else some n)
  | _ => .ok none

/-- The query of what follows the path. -/
def queryOf : List Char → Option (List Char)
  | '?' :: cs => some (percentEncode querySet (cs.takeWhile (· ≠ '#')))
  | _ => none

/-- The fragment of what follows the path. -/
def fragmentOf (cs : List Char) : Option (List Char) :=
  (Text.cutAt '#' cs).map fun p => percentEncode fragmentSet p.2

/-- Reads what follows the slashes behind a special scheme. -/
def parseSpecial (scheme : List Char) (defaultPort : Nat) (cs : List Char) : Except UrlError Url := do
  let authority := cs.takeWhile (!endsAuthority true ·)
  let rest := cs.dropWhile (!endsAuthority true ·)
  let (user, hostAndPort) := cutUser authority
  let (hostText, portText) := cutHost false hostAndPort
  if hostText = [] then throw .emptyHost
  let host ← Host.parse hostText
  let port ← port? true portText
  let path := rest.takeWhile fun c => c ≠ '?' ∧ c ≠ '#'
  let tail := rest.dropWhile fun c => c ≠ '?' ∧ c ≠ '#'
  return {
    scheme := scheme
    userinfo := encodeUser (user.getD [])
    host := host
    port := port.filter (· ≠ defaultPort)
    path := pathOf path
    query := queryOf tail
    fragment := fragmentOf tail }

/-- Checks what follows the two slashes behind a scheme that is not special. -/
def checkAuthority (cs : List Char) : Except UrlError Unit := do
  let authority := cs.takeWhile (!endsAuthority false ·)
  let rest := cs.dropWhile (!endsAuthority false ·)
  let (user, hostAndPort) := cutUser authority
  if user = some [] ∧ hostAndPort = [] ∧ rest ≠ [] then throw .emptyHost
  let (hostText, portText) := cutHost false hostAndPort
  Host.checkPlain hostText
  if hostText = [] ∧ portText ≠ [] then throw .emptyHost
  let _ ← port? false portText
  if hostText = [] ∧ encodeUser (user.getD []) ≠ [] then throw .emptyHost

/-- Checks what follows the scheme of files: two slashes may lead a host. -/
def checkFile : List Char → Except UrlError Unit
  | a :: b :: cs =>
    let host := cs.takeWhile (!endsAuthority true ·)
    if ¬ (isSlash a ∧ isSlash b) ∨ host = [] ∨ isDrive host then .ok ()
    else (Host.parse host).map fun _ => ()
  | _ => .ok ()

/-- Reads a URL. -/
def parse (text : List Char) : Except UrlError AnyUrl :=
  match scheme? (clean text) with
  | none => .error .missingBase
  | some (scheme, rest) =>
    match specialSchemes.lookup scheme with
    | some defaultPort => (parseSpecial scheme defaultPort (rest.dropWhile isSlash)).map .special
    | none =>
      let checked : Except UrlError Unit :=
        if scheme = fileScheme then checkFile rest
        else
          match rest with
          | '/' :: '/' :: cs => checkAuthority cs
          | _ => .ok ()
      checked.map fun _ => .other scheme

end Url

end Hyperlink
