import Hyperlink.Text.Cut

/-!
# Hyperlink.Shell.Options — the options and words of a command line

A `Form` lists what a command takes, and `Form.scan` sorts arguments by it. An option has a long name behind two dashes
and may have a letter behind one. A value is attached to the name by `=`, follows the letter at once or is the next
argument; only an attached value may start with a dash. Letters of flags can be written together. Behind `--` all
arguments are words.
-/

namespace Hyperlink.Shell

/-- Why arguments lead to no call. -/
inductive Halt
  /-- The arguments do not fit. -/
  | refused
  /-- The user asks how to call the program. -/
  | help
  /-- The user asks for the version of the program. -/
  | version
  deriving DecidableEq, Repr

/-- What an option or a word stands for. -/
inductive Meaning
  | flag
  | text
  /-- A path, which is not empty. -/
  | path
  /-- No call is made. -/
  | halt (h : Halt)
  deriving DecidableEq, Repr

/-- An option of a command. -/
structure OptionForm where
  name : String
  letter : Option Char
  meaning : Meaning
  deriving DecidableEq, Repr

/-- The options and words that a command takes. -/
structure Form where
  options : List OptionForm
  words : List Meaning
  deriving Repr

/-- What a command was given. -/
structure Given where
  flags : List String := []
  /-- The names of options with their values. -/
  values : List (String × String) := []
  words : List String := []
  deriving DecidableEq, Repr

namespace Given

/-- The value of an option. -/
def value? (g : Given) (name : String) : Option String := (g.values.find? (·.1 = name)).map Prod.snd

/-- Whether a flag is set. -/
def hasFlag (g : Given) (name : String) : Bool := g.flags.contains name

/-- Sets a flag, which can be done once. -/
def addFlag (g : Given) (name : String) : Except Halt Given :=
  if g.hasFlag name then .error .refused else .ok { g with flags := name :: g.flags }

/-- Sets the value of an option, which can be done once. -/
def addValue (g : Given) (o : OptionForm) (value : String) : Except Halt Given :=
  if (g.value? o.name).isSome ∨ (o.meaning = .path ∧ value = "") then .error .refused
  else .ok { g with values := (o.name, value) :: g.values }

end Given

namespace Form

/-- Takes an option by its long name, given behind two dashes. An option that still needs its value is returned. -/
def takeLong (f : Form) (g : Given) (cs : List Char) : Except Halt (Given × Option OptionForm) :=
  let (name, attached) :=
    match Text.cutAt '=' cs with
    | some (name, value) => (name, some (String.ofList value))
    | none => (cs, none)
  match f.options.find? (·.name.toList = name) with
  | none => .error .refused
  | some o =>
    match o.meaning, attached with
    | .halt h, none => .error h
    | .flag, none => (g.addFlag o.name).map (·, none)
    | .halt _, some _ | .flag, some _ => .error .refused
    | _, none => .ok (g, some o)
    | _, some value => (g.addValue o value).map (·, none)

/-- Takes options by their letters, given behind a dash. An option that still needs its value is returned. -/
def takeLetters (f : Form) (g : Given) : List Char → Except Halt (Given × Option OptionForm)
  | [] => .ok (g, none)
  | c :: cs =>
    match f.options.find? (·.letter = some c) with
    | none => .error .refused
    | some o =>
      match o.meaning with
      | .halt h => .error h
      | .flag => (g.addFlag o.name).bind fun g => takeLetters f g cs
      | _ =>
        match cs with
        | [] => .ok (g, some o)
        | '=' :: value => (g.addValue o (String.ofList value)).map (·, none)
        | value => (g.addValue o (String.ofList value)).map (·, none)

/-- Takes a word, if there is a place for one more. -/
def takeWord (f : Form) (g : Given) (word : String) : Except Halt Given :=
  match f.words[g.words.length]? with
  | none => .error .refused
  | some meaning =>
    if meaning = .path ∧ word = "" then .error .refused else .ok { g with words := g.words ++ [word] }

/-- Whether an argument looks like an option. A dash alone does not. -/
def isDashed : List Char → Bool
  | '-' :: _ :: _ => true
  | _ => false

/-- Sorts arguments up to the first word that there is no place for, and returns it with what follows. The option
`waiting` still needs its value. -/
def scan (f : Form) (g : Given) (waiting : Option OptionForm) : List String → Except Halt (Given × List String)
  | [] => if waiting.isSome then .error .refused else .ok (g, [])
  | arg :: args =>
    match waiting with
    | some o =>
      if isDashed arg.toList then .error .refused else (g.addValue o arg).bind fun g => scan f g none args
    | none =>
      match arg.toList with
      | ['-', '-'] => (args.foldlM f.takeWord g).map (·, [])
      | '-' :: '-' :: cs => (f.takeLong g cs).bind fun p => scan f p.1 p.2 args
      | '-' :: c :: cs => (f.takeLetters g (c :: cs)).bind fun p => scan f p.1 p.2 args
      | _ =>
        if g.words.length < f.words.length then (f.takeWord g arg).bind fun g => scan f g none args
        else .ok (g, arg :: args)

end Form

end Hyperlink.Shell
