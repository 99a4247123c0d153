import Spreadsheet.Cli.Layout
import Spreadsheet.Text.Quote
import Spreadsheet.Text.Similar

/-!
Reading a command line against a command's options and arguments.

Words are read from the left. `--` ends the options; a word of two or more characters starting
with `-` is an option; any other word is an argument, or, for a group, ends the options (the rest
belongs to the command it names). An option is matched by its whole flag, never by a prefix;
`--flag=value` gives the value in the same word. An option that takes a value takes the next word,
whatever it is; a switch takes none. A word starting with a single `-` that is no flag is read as a
cluster of one-letter options, of which there are none. An unknown long flag is reported with the
flags closest to it.

After the options, the arguments are given the remaining words in order; words left over are
kept for the caller.
-/

namespace Spreadsheet.Cli

inductive UsageFailure where
  | noSuchOption (name : String) (closest : List String)
  | badOptionUsage (message : String)
  | badParameter (hint : String) (message : String)
  | missingArgument (hint : String)
  | extraArguments (words : List String)
  | missingCommand
  | noSuchCommand (name : String)
  deriving Repr, Inhabited

def UsageFailure.message : UsageFailure → String
  | .noSuchOption n [] => "No such option: " ++ n
  | .noSuchOption n [c] => "No such option: " ++ n ++ " Did you mean " ++ c ++ "?"
  | .noSuchOption n cs =>
    "No such option: " ++ n ++ " (Possible options: " ++ ", ".intercalate (cs.mergeSort (fun a b => decide (a ≤ b))) ++ ")"
  | .badOptionUsage m => m
  | .badParameter h m => "Invalid value for " ++ h ++ ": " ++ m
  | .missingArgument h => "Missing argument " ++ h ++ "."
  | .extraArguments [w] => "Got unexpected extra argument (" ++ w ++ ")"
  | .extraArguments ws => "Got unexpected extra arguments (" ++ " ".intercalate ws ++ ")"
  | .missingCommand => "Missing command."
  | .noSuchCommand n => "No such command " ++ Text.quote n ++ "."

/-- What reading a command line gives: the value of each parameter given (a switch's is
`true`; an argument not given has none), the parameters in the order they were first given, and
the words left over. -/
structure Reading where
  values : List (String × Option String) := []
  order : List String := []
  rest : List String := []
  deriving Repr, Inhabited

namespace Reading

def give (r : Reading) (name : String) (v : Option String) : Reading :=
  { r with
    values := (r.values.filter (·.1 != name)) ++ [(name, v)],
    order := if r.order.contains name then r.order else r.order ++ [name] }

def valueOf (r : Reading) (name : String) : Option String :=
  (r.values.lookup name).join

theorem lookup_filter_append (xs : List (String × Option String)) (name : String)
    (v : Option String) : ((xs.filter (·.1 != name)) ++ [(name, v)]).lookup name = some v := by
  induction xs with
  | nil => simp
  | cons e rest ih =>
    obtain ⟨key, value⟩ := e
    by_cases h : key = name
    · simp [h, ih]
    · have other : (name == key) = false := by simpa using Ne.symm h
      simp [h, List.lookup_cons, ih, other]

theorem valueOf_give (r : Reading) (name : String) (v : Option String) :
    (r.give name v).valueOf name = v := by
  simp [give, valueOf, lookup_filter_append]

end Reading

def optionOf (params : List Param) (flag : String) : Option Param :=
  params.find? (·.flag == some flag)

def readOption (params : List Param) (word : String) (rest : List String) (r : Reading) :
    Except UsageFailure (Reading × List String) :=
  let (flag, given) := match word.splitOn "=" with
    | f :: v :: more => (f, some ("=".intercalate (v :: more)))
    | _ => (word, none)
  match optionOf params flag with
  | some p =>
    if p.kind == .switch then
      match given with
      | some _ => .error (.badOptionUsage ("Option " ++ Text.quote flag ++ " does not take a value."))
      | none => .ok (r.give p.name (some "true"), rest)
    else
      match given, rest with
      | some v, _ => .ok (r.give p.name (some v), rest)
      | none, v :: more => .ok (r.give p.name (some v), more)
      | none, [] => .error (.badOptionUsage ("Option " ++ Text.quote flag ++ " requires an argument."))
  | none =>
    if word.startsWith "--" then
      .error (.noSuchOption flag (Text.closeMatches flag (params.filterMap (·.flag))))
    else
      .error (.noSuchOption ("-" ++ String.ofList ((word.toList.drop 1).take 1)) [])

def readOptions (params : List Param) (interspersed : Bool) :
    List String → Reading → List String → Except UsageFailure (Reading × List String × List String)
  | [], r, args => .ok (r, args, [])
  | w :: rest, r, args =>
    if w == "--" then .ok (r, args, rest)
    else if w.startsWith "-" && w.length > 1 then
      match readOption params w rest r with
      | .error e => .error e
      | .ok (r', rest') =>
        -- an option takes its word and at most one more
        if _h : rest'.length < rest.length + 1 then readOptions params interspersed rest' r' args
        else .ok (r', args, rest')
    else if interspersed then readOptions params interspersed rest r (args ++ [w])
    else .ok (r, args, w :: rest)
termination_by ws => ws.length
decreasing_by all_goals simp_wf; all_goals omega

def readLine (params : List Param) (interspersed : Bool) (words : List String) :
    Except UsageFailure Reading := do
  let (r, args, after) ← readOptions params interspersed words {} []
  let positional := args ++ after
  let arguments := params.filter (·.flag.isNone)
  let r := (arguments.zipIdx.foldl (fun acc (p, i) => acc.give p.name positional[i]?) r)
  return { r with rest := positional.drop arguments.length }

/-- The order parameters are processed in: eager ones first, then by the place they were given,
those not given last, each group in declared order. -/
def processingOrder (params : List Param) (order : List String) : List Param :=
  let place (p : Param) : Nat := (order.idxOf? p.name).getD order.length
  params.mergeSort fun a b =>
    if a.eager != b.eager then a.eager else place a ≤ place b

theorem processingOrder_perm (params : List Param) (order : List String) :
    (processingOrder params order).Perm params :=
  List.mergeSort_perm _ _

end Spreadsheet.Cli
