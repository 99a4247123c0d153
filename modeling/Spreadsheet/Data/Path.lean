/-!
File system paths as text.

A path is an optional root and a list of names. Reading a text splits it at `/`, dropping empty
names and `.`; writing joins the names with `/` after the root, and an empty relative path is
`.`. Joining a relative path appends its names; joining an absolute one replaces the base. The
name of a path is its last name, its suffix is the name's part from its last `.` when that dot
is neither first nor last, and its parent drops the last name.
-/

namespace Spreadsheet

structure FsPath where
  absolute : Bool
  names : List String
  deriving Repr, BEq, DecidableEq, Inhabited

namespace FsPath

def ofText (s : String) : FsPath :=
  ⟨s.startsWith "/", (s.splitOn "/").filter fun n => !n.isEmpty && n != "."⟩

def toText (p : FsPath) : String :=
  if p.absolute then "/" ++ "/".intercalate p.names
  else if p.names.isEmpty then "."
  else "/".intercalate p.names

def join (base rel : FsPath) : FsPath :=
  if rel.absolute then rel else ⟨base.absolute, base.names ++ rel.names⟩

theorem join_assoc (base a b : FsPath) : base.join (a.join b) = (base.join a).join b := by
  cases a with
  | mk aa an =>
    cases b with
    | mk ba bn =>
      cases aa <;> cases ba <;> simp [join]

def name (p : FsPath) : String := p.names.getLastD ""

/-- The suffix of the last name: from its last `.`, when that dot is neither its first nor its
last character. -/
def suffix (p : FsPath) : String :=
  let cs := p.name.toList
  match (List.range cs.length).reverse.find? (fun i => cs.getD i ' ' == '.') with
  | some i => if 0 < i && i + 1 < cs.length then String.ofList (cs.drop i) else ""
  | none => ""

def parent (p : FsPath) : FsPath := ⟨p.absolute, p.names.dropLast⟩

end FsPath

end Spreadsheet
