import Spreadsheet.Yaml.Node

/-!
Building values from YAML nodes, and reading a YAML text into a value.

Scalars become blanks, truth values, integers, doubles, dates, date times or texts by their tag;
sequences become lists and mappings become mappings. In a mapping, the entries under the merge key
`<<` (a mapping, or a list of mappings, the earlier ones winning) come first and the mapping's own
entries after them; an equal key met again keeps its place and takes the new value; a list or a
mapping cannot be a key. Values are built a generation at a time: a collection's scalars and keys
first, its nested collections after all the collections of its generation. The first failure in
that order is the one reported.

A text holding a character outside the printable set of YAML is refused before reading.
-/

namespace Spreadsheet.Yaml

def isYamlPrintable (c : Char) : Bool :=
  let n := c.toNat
  n == 0x09 || n == 0x0A || n == 0x0D || (0x20 ≤ n && n ≤ 0x7E) || n == 0x85 ||
    (0xA0 ≤ n && n ≤ 0xD7FF) || (0xE000 ≤ n && n ≤ 0xFFFD) || 0x10000 ≤ n

/-- The entries of a mapping with merge keys resolved: the merged entries first, then the
mapping's own; a key tagged as the value key `=` is read as text. `mark` is where the mapping
starts. -/
def flattenEntries (mark : Mark) : Nat → List (Node × Node) → Except LoadError (List (Node × Node))
  | 0, entries => .ok entries
  | fuel + 1, entries => do
    let mut merged : List (Node × Node) := []
    let mut own : List (Node × Node) := []
    for (k, v) in entries do
      if k.tag == mergeTag then
        match v with
        | .mapping _ es m => merged := merged ++ (← flattenEntries m fuel es)
        | .sequence _ items _ =>
          let mut parts : List (List (Node × Node)) := []
          for item in items do
            match item with
            | .mapping _ es m => parts := parts ++ [← flattenEntries m fuel es]
            | other =>
              throw (constructFailure (some "while constructing a mapping") (some mark)
                ("expected a mapping for merging, but found " ++ other.kindName) other.start)
          merged := merged ++ parts.reverse.flatten
        | other =>
          throw (constructFailure (some "while constructing a mapping") (some mark)
            ("expected a mapping or list of mappings for merging, but found " ++ other.kindName) other.start)
      else if k.tag == valueTag then
        match k with
        | .scalar _ text m => own := own ++ [(.scalar strTag text m, v)]
        | _ => own := own ++ [(k, v)]
      else own := own ++ [(k, v)]
    return merged ++ own

def scalarTags : List String := [strTag, nullTag, boolTag, intTag, floatTag, timestampTag]

inductive Started where
  | done
  | later (n : Node)
  | failed (e : LoadError)

def startNode (n : Node) : Started :=
  let tag := n.tag
  if tag == seqTag || tag == mapTag then .later n
  else if scalarTags.contains tag then
    match n with
    | .scalar _ text m =>
      match scalarValue tag text m with
      | .ok _ => .done
      | .error e => .failed e
    | other =>
      .failed (constructFailure none none ("expected a scalar node, but found " ++ other.kindName) other.start)
  else .failed (constructFailure none none ("could not determine a constructor for the tag " ++ Text.quote tag) n.start)

def fillNode (fuel : Nat) (n : Node) : Except LoadError (List Node) := do
  let start (acc : List Node) (x : Node) : Except LoadError (List Node) :=
    match startNode x with
    | .done => .ok acc
    | .later c => .ok (acc ++ [c])
    | .failed e => .error e
  if n.tag == seqTag then
    match n with
    | .sequence _ items _ => items.foldlM start []
    | other =>
      throw (constructFailure none none ("expected a sequence node, but found " ++ other.kindName) other.start)
  else
    match n with
    | .mapping _ entries m =>
      let flat ← flattenEntries m fuel entries
      flat.foldlM (fun acc (k, v) => do
        let acc ← start acc k
        if k.tag == seqTag || k.tag == mapTag then
          throw (constructFailure (some "while constructing a mapping") (some m) "found unhashable key" k.start)
        start acc v) []
    | other =>
      throw (constructFailure none none ("expected a mapping node, but found " ++ other.kindName) other.start)

def fillGenerations (depth : Nat) : Nat → List Node → Except LoadError Unit
  | 0, _ => .ok ()
  | _, [] => .ok ()
  | fuel + 1, gen => do
    let next ← gen.foldlM (fun acc n => do return acc ++ (← fillNode depth n)) []
    fillGenerations depth fuel next

/-- Sets a key of a mapping under data equality: in place if an equal key is there, else at the
end. -/
def insertEntry (entries : List (Value × Value)) (k v : Value) : List (Value × Value) :=
  if entries.any (·.1.equals k) then
    entries.map fun e => if e.1.equals k then (e.1, v) else e
  else entries ++ [(k, v)]

def buildNode : Nat → Node → Value
  | 0, _ => .null
  | fuel + 1, n =>
    match n with
    | .scalar tag text m => (scalarValue tag text m).toOption.getD .null
    | .sequence _ items _ => .list (items.map (buildNode fuel))
    | .mapping _ entries m =>
      match flattenEntries m fuel entries with
      | .ok flat => .dict (flat.foldl (fun acc (k, v) => insertEntry acc (buildNode fuel k) (buildNode fuel v)) [])
      | .error _ => .dict []

def load (text : String) : Except LoadError Value := do
  let cs := text.toList
  match cs.findIdx? (!isYamlPrintable ·) with
  | some i => throw (.unacceptable (cs.getD i ' ').toNat i)
  | none => pure ()
  let chars := cs.toArray
  let fuel := 2 * (chars.size + 8)
  let (doc, _) ← (composeStream fuel).run { parser := { scanner := Scanner.start chars } }
  match doc with
  | none => return .null
  | some root =>
    match startNode root with
    | .failed e => throw e
    | .done => return buildNode fuel root
    | .later c =>
      fillGenerations fuel fuel [c]
      return buildNode fuel root

end Spreadsheet.Yaml
