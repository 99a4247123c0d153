import Spreadsheet.Data.Path

/-!
What the program needs of a file system, and a file system held in memory.

Commands look up what a path holds (nothing, a directory or a file with its text), append text
to files, and create directories. `Files m` bundles these operations in a monad `m`; `Disk` is a
file system as a value, whose operations run in `StateM Disk`. In a `Disk` a directory exists
when it was created or when some file lies below it; the current directory always exists.

Reading text the way text files are read turns each carriage return, alone or before a line
feed, into a line feed.
-/

namespace Spreadsheet

inductive Entry where
  | missing
  | directory
  | file (text : String)
  deriving Repr, BEq, Inhabited

structure Files (m : Type → Type) where
  entry : FsPath → m Entry
  append : FsPath → String → m Unit
  makeDirs : FsPath → m Unit

/-- Text as a text file reads: carriage returns, alone or before a line feed, become line
feeds. -/
def universalNewlines (s : String) : String :=
  String.ofList (go s.toList)
where
  go : List Char → List Char
    | [] => []
    | '\r' :: '\n' :: rest => '\n' :: go rest
    | '\r' :: rest => '\n' :: go rest
    | c :: rest => c :: go rest

theorem universalNewlines_go_no_cr (cs : List Char) : '\r' ∉ universalNewlines.go cs := by
  fun_induction universalNewlines.go cs <;> simp_all [eq_comm]

theorem universalNewlines_go_length_le (cs : List Char) :
    (universalNewlines.go cs).length ≤ cs.length := by
  fun_induction universalNewlines.go cs with
  | case1 => exact Nat.le_refl 0
  | case2 rest ih | case3 rest _ ih | case4 _ rest _ _ ih => simp only [List.length_cons]; omega

structure Disk where
  files : List (String × String) := []
  dirs : List String := []
  deriving Inhabited

namespace Disk

def entry (d : Disk) (p : FsPath) : Entry :=
  let key := p.toText
  match d.files.lookup key with
  | some text => .file text
  | none =>
    let below := if key.endsWith "/" then key else key ++ "/"
    if key == "." || d.dirs.contains key || d.files.any (fun f => f.1.startsWith below) then .directory
    else .missing

def append (d : Disk) (p : FsPath) (text : String) : Disk :=
  let key := p.toText
  match d.files.lookup key with
  | some old => { d with files := d.files.map fun f => if f.1 == key then (key, old ++ text) else f }
  | none => { d with files := d.files ++ [(key, text)] }

def makeDirs (d : Disk) (p : FsPath) : Disk :=
  if d.dirs.contains p.toText then d else { d with dirs := d.dirs ++ [p.toText] }

def ofFiles (dir : FsPath) (files : List (String × String)) : Disk :=
  { files := files.map fun f => ((dir.join (FsPath.ofText f.1)).toText, f.2), dirs := [dir.toText] }

def ops : Files (StateM Disk) where
  entry p := return (← get).entry p
  append p t := modify (·.append p t)
  makeDirs p := modify (·.makeDirs p)

end Disk

end Spreadsheet
