import Spreadsheet.Sheet.Evaluate

/-!
What a grid shows for a cell, and whether an edited formula is complete.

Plain content is shown as it is. A formula with an empty body, or one that is still being typed
(it opens a function call, a name directly followed by `(`, and has no `)` at all), shows nothing;
any other formula shows the text of its value. Editing treats non-formula text as complete, a
formula as complete when its body is not empty and closes at least as many parentheses as it
opens.
-/

namespace Spreadsheet

def isCallNameChar (c : Char) : Bool :=
  (c.isAlpha && c.toNat < 128) || c.isDigit || c == '_' || c == '.'

/-- Whether a text opens a function call: a letter or `_`, then letters, digits, `_` or `.`, then
`(`. -/
def opensCall (s : String) : Bool :=
  go s.toList []
where
  go : List Char → List Char → Bool
    | [], _ => false
    | c :: rest, run =>
      if c == '(' && run.any (fun d => (d.isAlpha && d.toNat < 128) || d == '_') then true
      else go rest (if isCallNameChar c then c :: run else [])

/-- The text a grid shows for a cell, with the events its evaluation emitted. -/
def displayText (store : Store) (now : Calendar.DateTime) (key : String) : String × List Log.Event :=
  let raw := store.content (canonicalKey key)
  match Store.formulaBody? raw with
  | none => (raw, [])
  | some body =>
    if body.isEmpty then ("", [])
    else if opensCall body && !body.contains ')' then ("", [])
    else
      let (v, events) := evaluateFormula store now (.str raw)
      (v.toText, events)

def isComplete (content : String) : Bool :=
  match Store.formulaBody? content with
  | none => true
  | some body =>
    !body.isEmpty &&
      (body.toList.filter (· == '(')).length ≤ (body.toList.filter (· == ')')).length

end Spreadsheet
