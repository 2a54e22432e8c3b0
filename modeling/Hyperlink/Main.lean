import Hyperlink.Shell.Run

/-!
# Hyperlink.Main — the program

Looks up the files that the arguments name, runs the call on them, and carries over what it leaves behind.
-/

namespace Hyperlink.Main

/-- What the file system holds at a path. -/
def stateOf (path : String) : IO FileState := do
  let full := (← IO.currentDir) / path
  if ← full.isDir then return .directory
  else if ← full.pathExists then return .file (← IO.FS.readBinFile full)
  else
    match full.parent with
    | some parent => return if ← parent.isDir then .absent else .unreachable
    | none => return .unreachable

/-- Writes the files that have changed. -/
def writeChanged (states : List (String × FileState)) (files : Files) : IO Unit := do
  for (path, before) in states do
    match before, files path with
    | .file old, .file new => if old != new then IO.FS.writeBinFile path new
    | _, .file new => IO.FS.writeBinFile path new
    | _, _ => pure ()

end Hyperlink.Main

open Hyperlink

/-- Runs the program with the arguments. -/
def main (args : List String) : IO UInt32 := do
  let paths := (Shell.Invocation.ofArguments args).toOption.elim [] Shell.Invocation.paths
  let states ← paths.mapM fun path => return (path, ← Main.stateOf path)
  match Shell.Report.ofArguments args (← IO.getEnv Shell.gatewayVariable) (.ofPairs states) with
  | .error fault =>
    IO.eprintln fault.message
    return 101
  | .ok report =>
    Main.writeChanged states report.files
    IO.print report.output
    if let some line := report.error then IO.eprintln line
    if report.exitCode = 2 then IO.eprint Shell.usage
    return report.exitCode.toUInt32
