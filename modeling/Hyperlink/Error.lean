/-!
# Hyperlink.Error — what a caller is told when an operation fails

An error is of one of six kinds and carries a text. `Error.message` is the text a caller sees. The causes that the
library itself reports are the definitions below the type, so that each wording stands in one place.
-/

namespace Hyperlink

/-- The errors of the library by kind, each with its text. -/
inductive Error
  | config (text : String)
  | custom (text : String)
  | invalidId (text : String)
  | io (text : String)
  | notFound (text : String)
  | serialization (text : String)
  deriving DecidableEq, Repr

namespace Error

/-- The name of the kind. -/
def kind : Error → String
  | config _ => "Config"
  | custom _ => "Custom"
  | invalidId _ => "InvalidId"
  | io _ => "Io"
  | notFound _ => "NotFound"
  | serialization _ => "Serialization"

/-- The text the error carries. -/
def text : Error → String
  | config t | custom t | invalidId t | io t | notFound t | serialization t => t

/-- The error of a kind, given by its name. -/
def ofKind? (kind text : String) : Option Error :=
  [config text, custom text, invalidId text, io text, notFound text, serialization text].find? (·.kind = kind)

/-- What stands in front of the text in a message. -/
def heading : Error → String
  | config _ => "Configuration error: "
  | custom _ => "Custom error: "
  | invalidId _ => "Invalid hypermedia id: "
  | io _ => "File System error: "
  | notFound _ => "Item Not Found: "
  | serialization _ => "(De)Serialization error: "

/-- The message for a caller. -/
def message (e : Error) : String := e.heading ++ e.text

/-! ## Causes -/

/-- The text is no link. -/
def notALink (text : String) : Error := invalidId s!"'{text}' is not a hypermedia link"

/-- The key belongs to no kind of entity. -/
def unknownType (key : String) : Error := invalidId s!"unknown entity type '{key}'"

/-- An identifier needs a uid. -/
def uidRequired : Error := invalidId "uid is required"

/-- The link does not lie on the gateway. -/
def notOnGateway (link gateway : String) : Error := notFound s!"'{link}' is not a link on {gateway}"

/-- The gateway is a URL, but not one of the web. -/
def wrongScheme (raw : String) : Error := config s!"gateway must be an http(s) URL, got '{raw}'"

/-- The text does not form a JSON value of the expected shape. -/
def json : Error := serialization "JSON (de)serialization error"

/-- The text does not form a TOML document of the expected shape. -/
def toml : Error := serialization "Toml deserialization error"

/-- A value could not be written as text. -/
def formatting : Error := serialization "an error occurred when formatting an argument"

end Error

/-- Why an operation on a file failed. -/
inductive FileError
  | notFound
  | permissionDenied
  | alreadyExists
  | invalidData
  | unexpectedEnd
  | isDirectory
  | other
  deriving DecidableEq, Repr

namespace FileError

/-- The description of the cause. -/
def describe : FileError → String
  | notFound => "entity not found"
  | permissionDenied => "permission denied"
  | alreadyExists => "entity already exists"
  | invalidData => "invalid data"
  | unexpectedEnd => "unexpected end of file"
  | isDirectory => "is a directory"
  | other => "other error"

/-- The error for a caller. A file that is not found keeps the text of the system, if there is one; of any other
cause only the description is kept. -/
def toError (e : FileError) (text : Option String) : Error :=
  match e with
  | notFound => .notFound (text.getD notFound.describe)
  | _ => .io ("IOError: " ++ e.describe)

/-- What the system says of a path that leads nowhere. -/
def noSuchFile : String := "No such file or directory (os error 2)"

/-- The error of a failed operation of the system. -/
def ofSystem (e : FileError) : Error := e.toError (some noSuchFile)

end FileError

end Hyperlink
