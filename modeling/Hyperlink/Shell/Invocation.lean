import Hyperlink.Shell.Options

/-!
# Hyperlink.Shell.Invocation — calls of the program

A call names a request with its arguments. The gateway and the configuration file can be given in front of the request
or behind it; what stands behind it wins. To save the gateway both have to be given in the same place.
-/

namespace Hyperlink.Shell

/-- What the program is asked to do. -/
inductive Request
  /-- Show the parts of a link. -/
  | unpack (link : String)
  /-- Write the compact link of the parts. -/
  | pack (type uid : String) (path version : Option String) (latest : Bool) (block : Option String)
  /-- Write the URL of a link. -/
  | web (link : String) (host : Option String) (relative : Bool)
  /-- Bring a link to its compact form. -/
  | normalize (link : String)
  /-- Write a link at another version and block. -/
  | withVersion (link version : String) (block : Option String)
  /-- Group the comments of a file. -/
  | groups (comments : String) (target : Option String)
  /-- Find the thread of a comment of a file. -/
  | replies (comments target : String)
  deriving DecidableEq, Repr

/-- A call of the program. -/
structure Invocation where
  request : Request
  gateway : Option String
  /-- The path of the configuration file. -/
  config : Option String
  saveGateway : Bool
  deriving DecidableEq, Repr

/-- The paths of the files that a request reads. -/
def Request.paths : Request → List String
  | groups comments _ | replies comments _ => [comments]
  | _ => []

/-- The paths of the files that a call may touch. -/
def Invocation.paths (i : Invocation) : List String := i.config.toList ++ i.request.paths

/-! ## Forms -/

/-- The option that asks how to call the program. -/
def helpOption : OptionForm := ⟨"help", some 'h', .halt .help⟩

/-- The options that every command takes. -/
def sharedOptions : List OptionForm :=
  [⟨"gateway", some 'g', .text⟩, ⟨"config", some 'c', .path⟩, ⟨"save-gateway", none, .flag⟩, helpOption]

/-- The option for a block. -/
def blockOption : OptionForm := ⟨"block", some 'b', .text⟩

/-- What may stand in front of a request. -/
def outerForm : Form := ⟨⟨"version", some 'V', .halt .version⟩ :: sharedOptions, []⟩

/-- What may stand behind the name of a request. -/
def Request.form? : String → Option Form
  | "unpack" | "normalize" => some ⟨sharedOptions, [.text]⟩
  | "pack" =>
    some
      ⟨[⟨"path", some 'p', .text⟩, ⟨"version", none, .text⟩, ⟨"latest", some 'l', .flag⟩, blockOption] ++ sharedOptions,
        [.text, .text]⟩
  | "web" => some ⟨[⟨"host", none, .text⟩, ⟨"relative", none, .flag⟩] ++ sharedOptions, [.text]⟩
  | "with-version" => some ⟨blockOption :: sharedOptions, [.text, .text]⟩
  | "groups" => some ⟨⟨"target", some 't', .text⟩ :: sharedOptions, [.path]⟩
  | "replies" => some ⟨sharedOptions, [.path, .text]⟩
  | _ => none

/-! ## Reading arguments -/

/-- The request of a name and what was given behind it. A host and a path alone exclude each other. -/
def Request.ofGiven? (name : String) (g : Given) : Option Request :=
  match name, g.words with
  | "unpack", [link] => some (.unpack link)
  | "pack", [type, uid] =>
    some (.pack type uid (g.value? "path") (g.value? "version") (g.hasFlag "latest") (g.value? "block"))
  | "web", [link] =>
    if (g.value? "host").isSome ∧ g.hasFlag "relative" then none
    else some (.web link (g.value? "host") (g.hasFlag "relative"))
  | "normalize", [link] => some (.normalize link)
  | "with-version", [link, version] => some (.withVersion link version (g.value? "block"))
  | "groups", [comments] => some (.groups comments (g.value? "target"))
  | "replies", [comments, target] => some (.replies comments target)
  | _, _ => none

/-- Whether the gateway can be saved, if that is asked for. -/
def canSave (g : Given) : Bool :=
  !g.hasFlag "save-gateway" || ((g.value? "gateway").isSome && (g.value? "config").isSome)

/-- The answer to a request for help on the named requests. -/
def helpOn : List String → Halt
  | [] => .help
  | [name] => if (Request.form? name).isSome ∨ name = "help" then .help else .refused
  | _ => .refused

/-- The call that the arguments make. -/
def Invocation.ofArguments (args : List String) : Except Halt Invocation := do
  match ← outerForm.scan {} none args with
  | (_, []) => throw .refused
  | (_, "help" :: names) => throw (helpOn names)
  | (outer, name :: args) =>
    match Request.form? name with
    | none => throw .refused
    | some form =>
      let (inner, rest) ← form.scan {} none args
      match Request.ofGiven? name inner with
      | some request =>
        if rest.isEmpty ∧ canSave inner ∧ canSave outer then
          return {
            request
            gateway := (inner.value? "gateway").or (outer.value? "gateway")
            config := (inner.value? "config").or (outer.value? "config")
            saveGateway := inner.hasFlag "save-gateway" || outer.hasFlag "save-gateway" }
        else throw .refused
      | none => throw .refused

end Hyperlink.Shell
