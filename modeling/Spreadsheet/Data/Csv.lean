/-!
Comma-separated grids without a header row, every field read as text.

Records end at a line feed outside quotes (a carriage return before it is dropped), and fields
end at a comma outside quotes. A field that starts with `"` runs to the next lone `"`, a doubled
`""` standing for one quote; line feeds and commas inside it are text. An unquoted empty field is
missing. The first record fixes the number of columns: a shorter record is padded with missing
fields, a longer one is refused. An empty line is a record of one missing field when there is one
column, and is skipped otherwise. A leading byte order mark is ignored; an empty text has no grid.
-/

namespace Spreadsheet.Csv

inductive Failure where
  | empty
  | tooManyFields
  deriving Repr, BEq, Inhabited

def Failure.kindName : Failure → String
  | .empty => "NoDataError"
  | .tooManyFields => "ComputeError"

def Failure.message : Failure → String
  | .empty => "empty CSV"
  | .tooManyFields =>
    "found more fields than defined in 'Schema'\n\nConsider setting 'truncate_ragged_lines=True'."

structure Field where
  text : String
  quoted : Bool
  deriving Repr, Inhabited

def quotedBody : List Char → List Char → List Char × List Char
  | [], acc => (acc.reverse, [])
  | '"' :: '"' :: rest, acc => quotedBody rest ('"' :: acc)
  | '"' :: rest, acc => (acc.reverse, rest)
  | c :: rest, acc => quotedBody rest (c :: acc)

/-- Reads the records of a text: each a list of fields. A record's fields are collected in
`fields`, the current field's characters in `cur` (reversed). -/
def records (cs : List Char) : List (List Field) :=
  go cs [] [] false (cs.length + 1)
where
  go : List Char → List Field → List Char → Bool → Nat → List (List Field)
    | _, _, _, _, 0 => []
    | [], fields, cur, started, _ =>
      if started then [fields ++ [⟨String.ofList cur.reverse, false⟩]] else []
    | c :: rest, fields, cur, _, fuel + 1 =>
      if c == '"' && cur.isEmpty then
        let (body, after) := quotedBody rest []
        let tail := after.takeWhile (fun d => d != ',' && d != '\n')
        let after := after.drop tail.length
        let tail := if after.head? == some '\n' && tail.getLast? == some '\r' then tail.dropLast else tail
        let field : Field := ⟨String.ofList (body ++ tail), true⟩
        match after with
        | ',' :: more => go more (fields ++ [field]) [] true fuel
        | '\n' :: more => (fields ++ [field]) :: go more [] [] false fuel
        | _ => [fields ++ [field]]
      else if c == ',' then go rest (fields ++ [⟨String.ofList cur.reverse, false⟩]) [] true fuel
      else if c == '\n' then
        let cur := match cur with
          | '\r' :: more => more
          | _ => cur
        (fields ++ [⟨String.ofList cur.reverse, false⟩]) :: go rest [] [] false fuel
      else go rest fields (c :: cur) true fuel

def Field.value (f : Field) : Option String :=
  if f.text.isEmpty && !f.quoted then none else some f.text

def readGrid (text : String) : Except Failure (List (List (Option String))) := do
  let cs := match text.toList with
    | '\uFEFF' :: rest => rest
    | cs => cs
  if cs.isEmpty then throw .empty
  let recs := records cs
  let width := (recs.head?.map List.length).getD 1
  let isEmptyLine (r : List Field) := match r with
    | [f] => f.text.isEmpty && !f.quoted
    | _ => false
  let kept := if width > 1 then recs.filter (!isEmptyLine ·) else recs
  kept.mapM fun r =>
    if r.length > width then throw .tooManyFields
    else pure ((r.map Field.value) ++ List.replicate (width - r.length) none)

example : (readGrid "a,b\n\"x,y\",\"q\"\"r\"\n").toOption = some [[some "a", some "b"], [some "x,y", some "q\"r"]] := by
  decide

end Spreadsheet.Csv
