import Hyperlink.Command
import Hyperlink.Config
import Hyperlink.Json.Printer
import Hyperlink.Json.Reader
import Hyperlink.Shell.Invocation
import Hyperlink.Text.Quoted

/-!
# Hyperlink.Shell.Run — what a call of the program does

A call first settles the gateway, then saves it if asked to, and then turns its request into a command and runs that.
The gateway is the one given, else the one of the environment, else the one of the configuration file, else the public
one. `Report.ofArguments` is the program as a function of its arguments, its environment and the files.
-/

namespace Hyperlink.Shell

/-- The variable of the environment that holds a gateway. -/
def gatewayVariable : String := "HM_GATEWAY_URL"

/-- The gateway of a call, given the one of the environment. -/
def Invocation.resolveGateway (i : Invocation) (env : Option String) (files : Files) : Except Error String :=
  match i.gateway.or env, i.config with
  | some url, _ => normalizeGateway url
  | none, some path => Config.gateway (files path)
  | none, none => .ok publicGateway

/-- The files after the gateway has been saved, if the call asks for it. -/
def Invocation.save (i : Invocation) (gateway : String) (files : Files) : Except Error Files :=
  match i.saveGateway, i.config with
  | true, some path => (Config.setGateway (files path) gateway).map (files.set path)
  | _, _ => .ok files

/-- The comments of a file. -/
def readComments (s : FileState) : Except Error (List Comment) := do
  match (Json.parse? (← Config.ofSystem s.readText)).bind Comment.listOfJson? with
  | some comments => return comments
  | none => throw .json

/-- The command of a request. -/
def Request.toCommand (r : Request) (gateway : String) (files : Files) : Except Fault (Except Error Command) := do
  match r with
  | unpack link => return .ok (.unpack link)
  | pack type uid path version latest block =>
    let ref ← BlockRef.readOptional block
    match EntityType.parse type with
    | .error e => return .error e
    | .ok t =>
      let view : View :=
        { version, latest, blockRef := ref.map BlockRef.blockId, blockRange := ref.bind BlockRef.range }
      return (← Identifier.create t uid { path := path.map (Text.pieces '/'), view }).map .pack
  | web link host relative =>
    let host := if relative then "" else host.getD gateway
    return (← Identifier.parse link).map fun x => .webUrl x (some host)
  | normalize link => return .ok (.normalize link)
  | withVersion link version block =>
    let ref ← BlockRef.readOptional block
    return .ok (.withVersion link (some version) (ref.map BlockRef.blockId) (ref.bind BlockRef.range))
  | groups comments target => return (readComments (files comments)).map fun cs => .groups cs target
  | replies comments target => return (readComments (files comments)).map fun cs => .replies cs target

end Hyperlink.Shell

namespace Hyperlink

/-- The text of an answer: a link as it is, all else as JSON. -/
def Answer.render : Answer → String
  | identifier x => x.toJson.pretty
  | link text => text
  | groups gs => (Json.array (gs.map Group.toJson)).pretty
  | thread comments => (Thread.toJson comments).pretty

/-- The line that tells of an error. -/
def Error.line (e : Error) : String := "Error: " ++ e.kind ++ "(" ++ Text.quote e.text ++ ")"

end Hyperlink

namespace Hyperlink.Shell

/-- What a call leaves behind: the files, and the text it writes or an error. -/
structure Outcome where
  files : Files
  output : Except Error String

/-- Carries out a call. -/
def Invocation.run (i : Invocation) (env : Option String) (files : Files) : Except Fault Outcome := do
  match i.resolveGateway env files with
  | .error e => return ⟨files, .error e⟩
  | .ok gateway =>
    match i.save gateway files with
    | .error e => return ⟨files, .error e⟩
    | .ok files =>
      match ← i.request.toCommand gateway files with
      | .error e => return ⟨files, .error e⟩
      | .ok command => return ⟨files, (← command.run gateway).map fun a => a.render ++ "\n"⟩

/-- What the shell sees of a call. -/
structure Report where
  exitCode : UInt8
  /-- The text on the standard output. -/
  output : String
  /-- The line that tells of an error. -/
  error : Option String
  files : Files

/-- How the program is called. -/
def usage : String :=
  "Usage: hm [OPTIONS] <COMMAND>\n\n" ++
  "Commands:\n" ++
  "  unpack <LINK>\n" ++
  "  pack [-p PATH] [--version VERSION] [-l] [-b BLOCK] <TYPE> <UID>\n" ++
  "  web [--host HOST | --relative] <LINK>\n" ++
  "  normalize <LINK>\n" ++
  "  with-version [-b BLOCK] <LINK> <VERSION>\n" ++
  "  groups [-t TARGET] <COMMENTS>\n" ++
  "  replies <COMMENTS> <TARGET>\n" ++
  "  help [COMMAND]\n\n" ++
  "Options:\n" ++
  "  -g, --gateway <GATEWAY>\n" ++
  "  -c, --config <CONFIG>\n" ++
  "      --save-gateway\n" ++
  "  -h, --help\n" ++
  "  -V, --version\n"

/-- The name and version of the program. -/
def versionLine : String := "hm 0.0.0\n"

/-- The report of arguments that make no call. -/
def Report.ofHalt (files : Files) : Halt → Report
  | .refused => ⟨2, "", none, files⟩
  | .help => ⟨0, usage, none, files⟩
  | .version => ⟨0, versionLine, none, files⟩

/-- The report of a call that was carried out. -/
def Report.ofOutcome (o : Outcome) : Report :=
  match o.output with
  | .ok text => ⟨0, text, none, o.files⟩
  | .error e => ⟨1, "", some e.line, o.files⟩

/-- The report of a call of the program with the arguments. -/
def Report.ofArguments (args : List String) (env : Option String) (files : Files) : Except Fault Report :=
  match Invocation.ofArguments args with
  | .error h => .ok (.ofHalt files h)
  | .ok i => (i.run env files).map .ofOutcome

end Hyperlink.Shell
