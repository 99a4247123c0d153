import Spreadsheet.Data.Csv
import Spreadsheet.Data.Disk
import Spreadsheet.Data.Json
import Spreadsheet.Log.Event
import Spreadsheet.Ref
import Spreadsheet.Sheet.Store
import Spreadsheet.Text.Case
import Spreadsheet.Yaml.Load

/-!
Reading a cell store from a sheet file.

The suffix of the file's name, in lower case, chooses the format. A YAML (`.yaml`, `.yml`) or
JSON (`.json`) file holds a mapping of cell keys to content, possibly under a top-level `cells`
mapping; a blank YAML document is an empty mapping. Every key must read as a cell reference, and is
stored in its canonical form; a later key with the same canonical form takes the earlier one's
place. A CSV (`.csv`) file is a grid without a header: its first field is `A1`, and empty fields
are left out.

Loading a sheet records an event: `sheet_loaded` with the number of cells, or `sheet_load_failed`
with the failure's text when the failure is one of the value errors (a bad format, a bad document,
a bad key, or a value YAML cannot build). Other failures pass without an event.
-/

namespace Spreadsheet

open Log

inductive SheetError where
  | unsupported (suffix : String)
  | invalidYaml (path : String) (detail : String)
  | yamlValue (e : Yaml.LoadError) (detail : String)
  | json (detail : String)
  | notAMapping (path : String)
  | notACell (path : String) (key : Value)
  | csv (f : Csv.Failure)
  | missing (path : String) (grid : Bool)
  | directory (path : String)
  deriving Inhabited

namespace SheetError

def kindName : SheetError → String
  | .unsupported _ | .invalidYaml _ _ | .notAMapping _ | .notACell _ _ => "ValueError"
  | .yamlValue e _ => e.kindName
  | .json _ => "JSONDecodeError"
  | .csv f => f.kindName
  | .missing _ _ => "FileNotFoundError"
  | .directory _ => "IsADirectoryError"

def message : SheetError → String
  | .unsupported s => "Unsupported sheet file type: " ++ Text.quote s
  | .invalidYaml p d => p ++ ": invalid YAML: " ++ d
  | .yamlValue _ d => d
  | .json d => d
  | .notAMapping p => p ++ ": expected a mapping of cell keys to content"
  | .notACell p k => p ++ ": " ++ k.toLiteral ++ " is not a cell reference"
  | .csv f => f.message
  | .missing p false => "[Errno 2] No such file or directory: " ++ Text.quote p
  | .missing p true => "No such file or directory (os error 2): " ++ p
  | .directory p => "[Errno 21] Is a directory: " ++ Text.quote p

def isValueError : SheetError → Bool
  | .unsupported _ | .invalidYaml _ _ | .json _ | .notAMapping _ | .notACell _ _ => true
  | .yamlValue e _ => e.kindName == "ValueError"
  | _ => false

end SheetError

def fileText (path : FsPath) (grid : Bool) : Entry → Except SheetError String
  | .file t => .ok t
  | .missing => .error (.missing path.toText grid)
  | .directory => .error (.directory path.toText)

def storeOfMapping (path : String) (data : Value) : Except SheetError Store := do
  let data := match data.get? "cells" with
    | some cells@(.dict _) => cells
    | _ => data
  match data with
  | .dict entries =>
    let cells ← entries.foldlM (fun (acc : List (String × Value)) (kv : Value × Value) =>
      let key := kv.1.toPlain
      match Ref.parse? key with
      | none => .error (.notACell path kv.1)
      | some _ =>
        let k := canonicalKey key
        if acc.any (·.1 == k) then .ok (acc.map fun e => if e.1 == k then (k, kv.2) else e)
        else .ok (acc ++ [(k, kv.2)])) []
    return ⟨cells⟩
  | _ => throw (.notAMapping path)

def storeOfGrid (grid : List (List (Option String))) : Store :=
  ⟨(grid.zipIdx.map fun (row, r) => row.zipIdx.filterMap fun (field, c) =>
    match field with
    | some t => if t.isEmpty then none else some (Ref.key ⟨r, c⟩, .str t)
    | none => none).flatten⟩

/-- Reads the store of a sheet file from what its path holds. Text formats are read with their
line ends made uniform; a grid is read as it is. -/
def readStore (path : FsPath) (entry : Entry) : Except SheetError Store := do
  let suffix := Text.lower path.suffix
  let place := path.toText
  if suffix == ".yaml" || suffix == ".yml" then
    let text := universalNewlines (← fileText path false entry)
    match Yaml.load text with
    | .ok data => storeOfMapping place (if data.isFalsy then .dict [] else data)
    | .error e =>
      let detail := e.message text.toList.toArray
      if e.isSyntax then throw (.invalidYaml place detail) else throw (.yamlValue e detail)
  else if suffix == ".json" then
    let text := universalNewlines (← fileText path false entry)
    match Json.parse text with
    | .ok data => storeOfMapping place data
    | .error d => throw (.json d)
  else if suffix == ".csv" then
    match Csv.readGrid (← fileText path true entry) with
    | .ok grid => return storeOfGrid grid
    | .error f => throw (.csv f)
  else throw (.unsupported path.suffix)

def loadSheet (path : FsPath) (entry : Entry) : Except SheetError Store × List Event :=
  let place := path.toText
  match readStore path entry with
  | .ok store =>
    let loaded : Event :=
      { level := .info, kind := .sheetLoaded, message := "Loaded sheet " ++ path.name,
        context := Event.contextOf [("path", .str place), ("cells", .int store.cells.length)] }
    (.ok store, [loaded.emitted])
  | .error e =>
    let failed : Event :=
      { level := .error, kind := .sheetLoadFailed, message := e.message,
        context := Event.contextOf [("path", .str place)] }
    (.error e, if e.isValueError then [failed.emitted] else [])

end Spreadsheet
