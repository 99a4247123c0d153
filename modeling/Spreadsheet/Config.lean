import Spreadsheet.Data.Disk
import Spreadsheet.Yaml.Load

/-!
Settings: the file `sheetcalc.yaml` laid over built-in defaults.

The defaults cap recalculation at 100 passes, turn the event log off, write the log without
syncing, read the last 2 MiB of it, and print tables. A settings file holds a mapping (a blank
document counts as an empty one) whose entries replace the defaults with equal keys and add the
others. The cap must then be a positive integer (truth values are not integers); an output format
other than `table` or `json` falls back to `table`.
-/

namespace Spreadsheet

def settingsFileName : String := "sheetcalc.yaml"

def defaultSettings : List (Value × Value) :=
  [(.str "max_iterations", .int 100), (.str "log_dir", .null), (.str "logging_fsync", .bool false),
    (.str "logging_tail_bytes", .int 2097152), (.str "output", .str "table")]

def outputFormats : List String := ["table", "json"]

inductive SettingsError where
  | notAMapping (path : String) (kind : String)
  | badCap (cap : Value)
  | yaml (e : Yaml.LoadError) (detail : String)
  | directory (path : String)
  deriving Inhabited

namespace SettingsError

def kindName : SettingsError → String
  | .notAMapping _ _ | .badCap _ => "ValueError"
  | .yaml e _ => e.kindName
  | .directory _ => "IsADirectoryError"

def message : SettingsError → String
  | .notAMapping p k => p ++ ": expected a mapping, got " ++ k
  | .badCap v => "max_iterations must be a positive integer, got " ++ v.toLiteral
  | .yaml _ d => d
  | .directory p => "[Errno 21] Is a directory: " ++ Text.quote p

def isValueError (e : SettingsError) : Bool := e.kindName == "ValueError"

end SettingsError

def setting (entries : List (Value × Value)) (name : String) : Value :=
  ((Value.dict entries).get? name).getD .null

/-- Checks the merged settings: the cap must be a positive integer; an unknown output format
becomes `table`. -/
def validateSettings (entries : List (Value × Value)) : Except SettingsError (List (Value × Value)) :=
  match setting entries "max_iterations" with
  | .int n =>
    if n < 1 then .error (.badCap (.int n))
    else
      let out := setting entries "output"
      if outputFormats.any (fun f => out.equals (.str f)) then .ok entries
      else .ok (Value.setEntry entries "output" (.str "table"))
  | v => .error (.badCap v)

def settingsOfText (place : String) (text : String) : Except SettingsError (List (Value × Value)) :=
  let text := universalNewlines text
  match Yaml.load text with
  | .error e => .error (.yaml e (e.message text.toList.toArray))
  | .ok doc =>
    match (if doc.isFalsy then .dict [] else doc) with
    | .dict entries => validateSettings (entries.foldl (fun acc e => Yaml.insertEntry acc e.1 e.2) defaultSettings)
    | other => .error (.notAMapping place other.kindName)

def settingsFile (isDirectory : Bool) (path : FsPath) : FsPath :=
  if isDirectory then path.join (FsPath.ofText settingsFileName) else path

def settingsOf (file : FsPath) : Entry → Except SettingsError (List (Value × Value))
  | .missing => validateSettings defaultSettings
  | .directory => .error (.directory file.toText)
  | .file text => settingsOfText file.toText text

def loadSettings (look : FsPath → Entry) : Option FsPath → Except SettingsError (List (Value × Value))
  | none => .ok defaultSettings
  | some path =>
    let file := settingsFile (look path == .directory) path
    settingsOf file (look file)

end Spreadsheet
