import Spreadsheet.Cli.Program
import Std.Time.DateTime.Timestamp

/-!
The command-line entry point: runs the program on the process's arguments against the file
system, from the current directory and at the current time, writes what it printed to standard
output and standard error, and exits with its exit code.
-/

open Spreadsheet

/-- The file system of the process. A path that cannot be read counts as missing; failed writes
are dropped, as the event log never stops a command. -/
def systemFiles : Files IO where
  entry p := do
    try
      let real ← IO.FS.realPath p.toText
      if ← real.isDir then return .directory
      return .file (← IO.FS.readFile real)
    catch _ => return .missing
  append p text := do
    try
      let h ← IO.FS.Handle.mk p.toText .append
      h.putStr text
    catch _ => pure ()
  makeDirs p := do
    try IO.FS.createDirAll p.toText catch _ => pure ()

def main (args : List String) : IO UInt32 := do
  let cwd ← IO.currentDir
  let stamp ← Std.Time.Timestamp.now
  let now := Calendar.DateTime.ofUnixSeconds stamp.toSecondsSinceUnixEpoch.val
  let outcome ← Cli.run { files := systemFiles, cwd := FsPath.ofText cwd.toString, now, prog := "sheetcalc" } args
  let out ← IO.getStdout
  let err ← IO.getStderr
  for (channel, text) in outcome.printed do
    match channel with
    | .out => out.putStr text
    | .err => err.putStr text
  if let some (kind, msg) := outcome.crash then
    err.putStrLn (kind ++ ": " ++ msg)
  return outcome.exitCode.toUInt32
