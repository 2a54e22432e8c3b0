import Hyperlink.Error

/-!
# Hyperlink.FileState — what the file system holds at a path

A `FileState` says what a path leads to. Each operation gives the state it leaves behind or the cause of its failure;
one that fails changes nothing.
-/

namespace Hyperlink

/-- What a path leads to. -/
inductive FileState
  /-- Nothing, but a file can be made. -/
  | absent
  | file (bytes : ByteArray)
  | directory
  /-- Nothing, and the directory that would hold it is missing too. -/
  | unreachable

/-- What the file system holds at each path. -/
abbrev Files := String → FileState

namespace FileState

/-- Whether the path leads to something. -/
def doesExist : FileState → Bool
  | file _ | directory => true
  | absent | unreachable => false

/-- The text of a file. -/
def readText : FileState → Except FileError String
  | file bytes =>
    match String.fromUTF8? bytes with
    | some text => .ok text
    | none => .error .invalidData
  | directory => .error .isDirectory
  | absent | unreachable => .error .notFound

/-- Makes a file or replaces the content of one. -/
def write (bytes : ByteArray) : FileState → Except FileError FileState
  | file _ | absent => .ok (file bytes)
  | directory => .error .isDirectory
  | unreachable => .error .notFound

/-- Makes a directory. -/
def makeDirectory : FileState → Except FileError FileState
  | absent => .ok directory
  | file _ | directory => .error .alreadyExists
  | unreachable => .error .notFound

/-- Deletes a file. -/
def remove : FileState → Except FileError FileState
  | file _ => .ok absent
  | directory => .error .isDirectory
  | absent | unreachable => .error .notFound

/-- Deletes the directory around the path with all that it holds. -/
def removeParent : FileState → Except FileError FileState
  | unreachable => .error .notFound
  | _ => .ok unreachable

theorem fromUTF8?_toUTF8 (text : String) : String.fromUTF8? text.toUTF8 = some text := by
  have h : text.toUTF8.IsValidUTF8 := text.isValidUTF8
  simp only [String.fromUTF8?, h, dite_true]
  rfl

theorem readText_write {s s' : FileState} {text : String} (h : s.write text.toUTF8 = .ok s') :
    s'.readText = .ok text := by
  cases s with
  | absent | file _ =>
    simp only [write, Except.ok.injEq] at h
    simp only [← h, readText, fromUTF8?_toUTF8]
  | directory | unreachable => simp [write] at h

end FileState

/-- The files with another state at a path. -/
def Files.set (files : Files) (path : String) (s : FileState) : Files :=
  fun p => if p = path then s else files p

/-- The files with the given states, and nothing else. -/
def Files.ofPairs (states : List (String × FileState)) : Files :=
  states.foldl (fun files p => files.set p.1 p.2) fun _ => .absent

end Hyperlink
