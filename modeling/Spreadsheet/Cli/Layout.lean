/-!
The shape of a command line, and the help it prints.

A command takes options (named by a long flag such as `--sheet`) and arguments (by position).
An option takes a value of a kind (text, integer, path, one of some names), or is a switch that
takes none. Every command also has `--help`. A group is a command whose first argument names one
of its commands.

Help is laid out for a terminal 78 columns wide: the usage line, the command's description
indented by two, then the options (and a group's commands) as a two-column list. The left
column is as wide as its widest entry (at most 30) plus two; descriptions are wrapped at word
boundaries to the room left, continuation lines aligned under the right column. A command's short
description in its group's list is its description up to the first sentence end that fits, or as
many words as fit followed by `...`.
-/

namespace Spreadsheet.Cli

inductive ParamKind where
  | text
  | integer
  | path
  | choice (names : List String)
  | switch
  deriving Repr, BEq, Inhabited

structure Param where
  name : String
  flag : Option String := none
  kind : ParamKind := .text
  help : String := ""
  eager : Bool := false
  default : Option String := none
  deriving Repr, Inhabited

def ParamKind.metavar : ParamKind → String
  | .text => "TEXT"
  | .integer => "INTEGER"
  | .path => "PATH"
  | .choice names => "[" ++ "|".intercalate names ++ "]"
  | .switch => ""

def Param.metavar (p : Param) : String := p.name.toUpper

def Param.hint (p : Param) : String :=
  "'" ++ p.flag.getD p.metavar ++ "'"

def helpParam : Param :=
  { name := "help", flag := some "--help", kind := .switch, help := "Show this message and exit.",
    eager := true }

structure Command where
  path : String
  help : String
  params : List Param
  commands : List (String × String) := []
  deriving Repr, Inhabited

def Command.allParams (c : Command) : List Param := c.params ++ [helpParam]

def Command.isGroup (c : Command) : Bool := !c.commands.isEmpty

def helpWidth : Nat := 78

def fillWords (width : Nat) : List String → List String
  | [] => []
  | w :: rest => go rest w
where
  go : List String → String → List String
    | [], line => [line]
    | x :: rest, line =>
      if line.length + 1 + x.length ≤ width then go rest (line ++ " " ++ x) else line :: go rest x

def words (s : String) : List String :=
  (s.split Char.isWhitespace).toList.map toString |>.filter (!·.isEmpty)

def Command.usage (c : Command) : String :=
  let args := c.params.filter (·.flag.isNone) |>.map Param.metavar
  let pieces := ["[OPTIONS]"] ++ args ++ (if c.isGroup then ["COMMAND [ARGS]..."] else [])
  "Usage: " ++ c.path ++ " " ++ " ".intercalate pieces

def spaces (n : Nat) : String := String.ofList (List.replicate n ' ')

def definitionList (rows : List (String × String)) : List String :=
  let widest := rows.foldl (fun m r => max m r.1.length) 0
  let first := min widest 30 + 2
  let room := max (helpWidth - first - 2) 10
  rows.flatMap fun (left, right) =>
    if right.isEmpty then ["  " ++ left]
    else
      let lines := fillWords room (words right)
      let head := if left.length ≤ first - 2 then ["  " ++ left ++ spaces (first - left.length)]
        else ["  " ++ left, spaces (first + 2)]
      match lines with
      | [] => head
      | l :: more =>
        (head.dropLast ++ [head.getLastD "" ++ l]) ++ more.map (spaces (first + 2) ++ ·)

def shortHelp (limit : Nat) (help : String) : String :=
  let ws := words help
  let rec go : List String → Nat → List String → String
    | [], _, taken => " ".intercalate taken.reverse
    | w :: rest, total, taken =>
      let total := total + w.length + (if taken.isEmpty then 0 else 1)
      if total > limit then cut (w :: taken) (total + 3)
      else if w.endsWith "." then " ".intercalate (w :: taken).reverse
      else if total == limit && !rest.isEmpty then cut (w :: taken) (total + 3)
      else go rest total (w :: taken)
  go ws 0 []
where
  cut (taken : List String) (total : Nat) : String :=
    let rec drop : List String → Nat → List String
      | [], _ => []
      | [_], _ => []
      | w :: rest, total =>
        let total := total - (w.length + 1)
        if total ≤ limit then rest else drop rest total
    " ".intercalate (drop taken total).reverse ++ "..."

def Param.row (p : Param) : Option (String × String) :=
  p.flag.map fun f => (if p.kind == .switch then f else f ++ " " ++ p.kind.metavar, p.help)

def Command.helpText (c : Command) : String :=
  let about := (fillWords (helpWidth - 2) (words c.help)).map ("  " ++ ·)
  let options := c.allParams.filterMap Param.row
  let limit := helpWidth - 6 - c.commands.foldl (fun m e => max m e.1.length) 0
  let commands := c.commands.map fun (n, h) => (n, shortHelp limit h)
  let sections := [[c.usage], about, ["Options:"] ++ definitionList options] ++
    (if c.isGroup then [["Commands:"] ++ definitionList commands] else [])
  "\n\n".intercalate ((sections.filter (!·.isEmpty)).map ("\n".intercalate ·))

end Spreadsheet.Cli
