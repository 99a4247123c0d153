import Spreadsheet.Cli.Line
import Spreadsheet.Config
import Spreadsheet.Log.Sink
import Spreadsheet.Number.Literal
import Spreadsheet.Sheet.Display
import Spreadsheet.Sheet.File
import Spreadsheet.Sheet.Recalc

/-!
The command-line program.

The program is a group of six commands: `eval` evaluates a formula (against a sheet file if one is
given), `refs` lists the cells a formula references, `check` tells whether a formula is complete,
`show` prints one cell of a sheet file, `recalc` recalculates a sheet file, and `events` prints the
event log. Before any command runs, the settings are loaded (from `--config`, or the current
directory) and, when they name a log directory, the event log is set up there; the events the
engine records are then appended to its file.

A run ends in one of these ways: normally (exit code 0, or what the command chose); on a mistake
in the command line, which prints the usage, a hint and the mistake (exit code 2); with no words at
all, which prints the help (exit code 2); on a failure the program reports, printed as
`Error: ...` (exit code 1); or with a crash, an unexpected failure of a given kind (exit code 1).
The program reads and writes files through a `Files` interface, so that it runs against a real
file system or one held in memory.
-/

namespace Spreadsheet.Cli

open Log

def versionText : String := "0.1.0"

def eventsFileName : String := "events.ndjson"

def versionParam : Param :=
  { name := "version", flag := some "--version", kind := .switch, eager := true,
    help := "Show the version and exit." }

def configParam : Param :=
  { name := "config_path", flag := some "--config", kind := .path,
    help := "Config file or directory holding sheetcalc.yaml (default: current directory)." }

def formulaParam : Param := { name := "formula" }

def sheetFileParam : Param := { name := "sheet_file", kind := .path }

def sheetParam : Param :=
  { name := "sheet_file", flag := some "--sheet", kind := .path,
    help := "Sheet file to resolve references against." }

def expandParam : Param :=
  { name := "expand", flag := some "--expand", kind := .switch, help := "Include every cell of each range." }

def capParam : Param :=
  { name := "max_iterations", flag := some "--max-iterations", kind := .integer,
    help := "Cap on recalculation passes." }

def jsonParam : Param :=
  { name := "as_json", flag := some "--json", kind := .switch, help := "Print JSON instead of a table." }

def levelParam : Param :=
  { name := "level", flag := some "--level", kind := .choice ["info", "warning", "error"],
    help := "Filter by level." }

def typeParam : Param :=
  { name := "event_type", flag := some "--type", help := "Filter by event type." }

def limitParam : Param :=
  { name := "limit", flag := some "--limit", kind := .integer, default := some "100",
    help := "Maximum events to show." }

def commandTable : List (String × String × List Param) :=
  [("check", "Report whether FORMULA is complete enough to commit (exit 1 if not).", [formulaParam]),
   ("eval", "Evaluate FORMULA and print its display string.", [formulaParam, sheetParam]),
   ("events", "Show the structured event log.", [levelParam, typeParam, limitParam]),
   ("recalc", "Recalculate every formula in SHEET_FILE and print all cells.",
    [sheetFileParam, capParam, jsonParam]),
   ("refs", "List the cells FORMULA references.", [formulaParam, expandParam]),
   ("show", "Print the display value of CELL in SHEET_FILE.", [sheetFileParam, { name := "cell" }])]

def groupCommand (prog : String) : Command :=
  { path := prog, help := "sheetcalc -- evaluate spreadsheet formulas and sheets.",
    params := [versionParam, configParam], commands := commandTable.map fun (n, h, _) => (n, h) }

def findCommand (prog name : String) : Option Command :=
  (commandTable.find? (·.1 == name)).map fun (n, h, ps) => { path := prog ++ " " ++ n, help := h, params := ps }

inductive Channel where
  | out
  | err
  deriving Repr, BEq, Inhabited

structure Session where
  printed : Array (Channel × String) := #[]
  logDir : Option FsPath := none
  tailBytes : Int := defaultTailBytes
  deriving Inhabited

inductive Stop where
  | exit (code : Nat)
  | usage (cmd : Command) (failure : UsageFailure)
  | noWords (cmd : Command)
  | failure (message : String)
  | crash (kind : String) (message : String)
  deriving Inhabited

structure Env (m : Type → Type) where
  files : Files m
  cwd : FsPath
  now : Calendar.DateTime
  prog : String

abbrev CliM (m : Type → Type) := ExceptT Stop (StateT Session m)

variable {m : Type → Type} [Monad m]

def echo (s : String) : CliM m Unit :=
  modify fun st => { st with printed := st.printed.push (.out, s ++ "\n") }

def lookUp (env : Env m) (p : FsPath) : CliM m Entry :=
  (env.files.entry (env.cwd.join p) : m Entry)

def emit (env : Env m) (evs : List Event) : CliM m Unit := do
  match (← get).logDir with
  | none => pure ()
  | some dir =>
    for ev in evs do
      (env.files.append (env.cwd.join (dir.join (FsPath.ofText eventsFileName)))
        ({ event := ev, ts := env.now.stampText } : Record).text : m Unit)

/-- Whether a path given on the command line exists. The empty path does not, and neither does
a file named with a trailing `/`. -/
def pathExists (env : Env m) (text : String) : CliM m Bool := do
  if text.isEmpty then return false
  match ← lookUp env (FsPath.ofText text) with
  | .missing => return false
  | .file _ => return !text.endsWith "/"
  | .directory => return true

def paramValue (env : Env m) (cmd : Command) (p : Param) (raw : Option String) : CliM m Value := do
  let bad (msg : String) : CliM m Value := throw (.usage cmd (.badParameter p.hint msg))
  match raw with
  | none => return if p.kind == .switch then .bool false else .null
  | some s =>
    match p.kind with
    | .switch => return .bool true
    | .text => return .str s
    | .integer =>
      match Number.readIntIn? 10 s with
      | some i => return .int i
      | none => bad (Text.quote s ++ " is not a valid integer.")
    | .path =>
      if ← pathExists env s then return .str s
      else bad ("Path " ++ Text.quote s ++ " does not exist.")
    | .choice names =>
      if names.contains s then return .str s
      else bad (Text.quote s ++ " is not one of " ++ ", ".intercalate (names.map Text.quote) ++ ".")

def processParams (env : Env m) (cmd : Command) (r : Reading) : CliM m (List (String × Value)) := do
  let mut given : List (String × Value) := []
  for p in processingOrder cmd.allParams r.order do
    let v ← paramValue env cmd p ((r.valueOf p.name).orElse fun _ => p.default)
    if p.flag.isNone && v matches .null then throw (.usage cmd (.missingArgument p.hint))
    if v matches .bool true then
      if p.name == helpParam.name then
        echo cmd.helpText
        throw (.exit 0)
      if p.name == versionParam.name then
        echo ("sheetcalc, version " ++ versionText)
        throw (.exit 0)
    given := given ++ [(p.name, v)]
  return given

def valueOf (given : List (String × Value)) (name : String) : Value := (given.lookup name).getD .null

def textOf (given : List (String × Value)) (name : String) : String := (valueOf given name).toPlain

def isOn (given : List (String × Value)) (name : String) : Bool := valueOf given name matches .bool true

def readFor (cmd : Command) (interspersed : Bool) (words : List String) : CliM m Reading :=
  match readLine cmd.allParams interspersed words with
  | .ok r => pure r
  | .error f => throw (.usage cmd f)

def settingInt (v : Value) : CliM m Int :=
  match v with
  | .int i => pure i
  | .bool b => pure (if b then 1 else 0)
  | .float f =>
    if f.isNaN then throw (.crash "ValueError" "cannot convert float NaN to integer")
    else match Num.trunc (.float f) with
      | .ok i => pure i
      | .error _ => throw (.crash "OverflowError" "cannot convert float infinity to integer")
  | .str s =>
    match Number.readIntIn? 10 s with
    | some i => pure i
    | none => throw (.crash "ValueError" ("invalid literal for int() with base 10: " ++ Text.quote s))
  | other =>
    throw (.crash "TypeError" ("int() argument must be a string, a bytes-like object or a real number, not '" ++
      other.kindName ++ "'"))

/-- Creates a directory and its parents: an existing directory is fine, a file on the way is
not. -/
def makeDirectory (env : Env m) (path : FsPath) : CliM m Unit := do
  let full := env.cwd.join path
  let depth := full.names.length
  for n in List.range (depth + 1) do
    match ← lookUp env ⟨full.absolute, full.names.take n⟩ with
    | .directory => pure ()
    | .file _ =>
      if n == depth then throw (.crash "FileExistsError" ("[Errno 17] File exists: " ++ Text.quote path.toText))
      else throw (.crash "NotADirectoryError" ("[Errno 20] Not a directory: " ++ Text.quote path.toText))
    | .missing =>
      (env.files.makeDirs full : m Unit)
      return

def configureLog (env : Env m) (settings : List (Value × Value)) (baseDir : FsPath) : CliM m Unit := do
  let dir := setting settings "log_dir"
  if dir.isFalsy then return
  let dirText ← match dir with
    | .str s => pure s
    | other => throw (.crash "TypeError" ("expected str, bytes or os.PathLike object, not " ++ other.kindName))
  let logPath := baseDir.join (FsPath.ofText dirText)
  let tail ← match setting settings "logging_tail_bytes" with
    | .null => pure (defaultTailBytes : Int)
    | v => settingInt v
  makeDirectory env logPath
  modify fun st => { st with logDir := some logPath, tailBytes := tail }

def startSession (env : Env m) (given : List (String × Value)) : CliM m (List (Value × Value)) := do
  let path := match valueOf given configParam.name with
    | .str s => FsPath.ofText s
    | _ => env.cwd
  let isDirectory := (← lookUp env path) == .directory
  let file := settingsFile isDirectory path
  let settings ← match settingsOf file (← lookUp env file) with
    | .ok s => pure s
    | .error e => if e.isValueError then throw (.failure e.message) else throw (.crash e.kindName e.message)
  configureLog env settings (if isDirectory then path else path.parent)
  return settings

def loadStore (env : Env m) (text : String) : CliM m Store := do
  let path := FsPath.ofText text
  let (r, evs) := loadSheet path (← lookUp env path)
  emit env evs
  match r with
  | .ok store => return store
  | .error e => if e.isValueError then throw (.failure e.message) else throw (.crash e.kindName e.message)

/-- The line an event of the log is shown as: `[ts] LEVEL   type: message`, then the error code
in parentheses when it is set. Fails when the event is not a mapping or its level is not text. -/
def eventLine (ev : Value) : Option String :=
  match ev with
  | .dict _ =>
    let get (k : String) (d : Value) : Value := (ev.get? k).getD d
    match get "level" (.str "") with
    | .str level =>
      let level := Text.upper level
      let padded := level ++ spaces (7 - level.length)
      let line := "[" ++ (get "ts" (.str "")).toPlain ++ "] " ++ padded ++ " " ++
        (get "event_type" (.str "")).toPlain ++ ": " ++ (get "message" (.str "")).toPlain
      let code := get "error_code" .null
      some (if code.isFalsy then line else line ++ "  (" ++ code.toPlain ++ ")")
    | _ => none
  | _ => none

def runCommand (env : Env m) (settings : List (Value × Value)) (name : String)
    (given : List (String × Value)) : CliM m Unit := do
  match name with
  | "eval" =>
    let store ← match valueOf given "sheet_file" with
      | .str f => if f.isEmpty then pure ⟨[]⟩ else loadStore env f
      | _ => pure ⟨[]⟩
    let (v, evs) := evaluateFormula store env.now (.str (textOf given "formula"))
    emit env evs
    echo v.toText
  | "refs" =>
    let formula := textOf given "formula"
    let keys := if isOn given "expand" then Formula.formulaReferences formula else Formula.formulaCells formula
    for k in keys do echo k
  | "check" =>
    if isComplete (textOf given "formula") then echo "complete"
    else
      echo "incomplete"
      throw (.exit 1)
  | "show" =>
    let cell := textOf given "cell"
    if (Ref.parse? cell).isNone then throw (.failure ("Not a cell reference: " ++ Text.quote cell))
    let store ← loadStore env (textOf given "sheet_file")
    let (t, evs) := displayText store env.now cell
    emit env evs
    echo t
  | "recalc" =>
    let cap : Int := match valueOf given "max_iterations", setting settings "max_iterations" with
      | .int i, _ => i
      | _, .int i => i
      | _, _ => defaultMaxIterations
    if cap < 1 then throw (.failure "--max-iterations must be positive.")
    let store ← loadStore env (textOf given "sheet_file")
    match recalculate store env.now (.int cap) with
    | .error _ => throw (.failure "--max-iterations must be positive.")
    | .ok (r, evs) =>
      emit env evs
      if isOn given "as_json" || (setting settings "output").equals (.str "json") then
        let doc : Value := .dict [(.str "values", .dict (r.values.map fun e => (.str e.1, e.2))),
          (.str "iterations", .int r.iterations), (.str "converged", .bool r.converged)]
        echo (Json.render { indent := some 2 } doc)
      else
        for (k, v) in r.values do echo (k ++ "\t" ++ v.toText)
        echo ("\n" ++ toString r.values.length ++ " cell(s), " ++ toString r.iterations ++ " pass(es), " ++
          (if r.converged then "converged" else "not converged"))
  | "events" =>
    let st ← get
    match st.logDir with
    | none => throw (.failure "Event logging is disabled; set log_dir in sheetcalc.yaml.")
    | some dir =>
      let file := dir.join (FsPath.ofText eventsFileName)
      let text ← match ← lookUp env file with
        | .file t => pure (some t)
        | .missing => pure none
        | .directory => throw (.crash "IsADirectoryError" ("[Errno 21] Is a directory"))
      let filter (k : String) : Option Value := match valueOf given k with
        | .null => none
        | v => some v
      let limit := match valueOf given "limit" with
        | .int i => i
        | _ => 100
      match ({ text, tailBytes := st.tailBytes } : Sink).read (filter "level") (filter "event_type") limit with
      | .error .notAMapping => throw (.crash "AttributeError" "'list' object has no attribute 'get'")
      | .error .negativeTail => throw (.crash "OSError" "[Errno 22] Invalid argument")
      | .ok [] => echo "No events found."
      | .ok evs =>
        for ev in evs do
          match eventLine ev with
          | some line => echo line
          | none => throw (.crash "AttributeError" "object has no attribute 'get'")
  | _ => pure ()

def runWords (env : Env m) (words : List String) : CliM m Unit := do
  let group := groupCommand env.prog
  if words.isEmpty then throw (.noWords group)
  let r ← readFor group false words
  let given ← processParams env group r
  match r.rest with
  | [] => throw (.usage group .missingCommand)
  | name :: rest =>
    match findCommand env.prog name with
    | none =>
      -- a command name that looks like an option is read again as the group's options
      if name.startsWith "-" && name.length > 1 then
        discard <| processParams env group (← readFor group false (name :: rest))
      throw (.usage group (.noSuchCommand name))
    | some cmd =>
      let settings ← startSession env given
      let r ← readFor cmd true rest
      let given ← processParams env cmd r
      if !r.rest.isEmpty then throw (.usage cmd (.extraArguments r.rest))
      runCommand env settings name given

structure Outcome where
  exitCode : Nat
  printed : Array (Channel × String)
  crash : Option (String × String) := none
  deriving Inhabited

def Outcome.output (o : Outcome) : String := String.join (o.printed.toList.map (·.2))

def finish (result : Except Stop Unit) (st : Session) : Outcome :=
  match result with
  | .ok () => ⟨0, st.printed, none⟩
  | .error (.exit code) => ⟨code, st.printed, none⟩
  | .error (.usage cmd f) =>
    ⟨2, st.printed.push (.err, cmd.usage ++ "\nTry '" ++ cmd.path ++ " --help' for help.\n\nError: " ++
      f.message ++ "\n"), none⟩
  | .error (.noWords cmd) => ⟨2, st.printed.push (.err, cmd.helpText ++ "\n"), none⟩
  | .error (.failure msg) => ⟨1, st.printed.push (.err, "Error: " ++ msg ++ "\n"), none⟩
  | .error (.crash kind msg) => ⟨1, st.printed, some (kind, msg)⟩

def run (env : Env m) (words : List String) : m Outcome := do
  let (result, st) ← (runWords env words).run.run {}
  return finish result st

end Spreadsheet.Cli
