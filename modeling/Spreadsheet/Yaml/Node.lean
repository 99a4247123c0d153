import Spreadsheet.Yaml.Event
import Spreadsheet.Yaml.Resolve

/-!
Composing YAML events into a tree of nodes.

Each node gets its tag: an explicit tag as written, otherwise the sequence or mapping tag, or for
a scalar the type its plain text resolves to (a quoted scalar is text). An anchor names the node
it is attached to; an alias stands for a copy of the node named earlier in the same document. A
stream must hold at most one document.
-/

namespace Spreadsheet.Yaml

inductive Node where
  | scalar (tag : String) (value : String) (start : Mark)
  | sequence (tag : String) (items : List Node) (start : Mark)
  | mapping (tag : String) (entries : List (Node × Node)) (start : Mark)
  deriving Repr, Inhabited

namespace Node

def start : Node → Mark
  | .scalar _ _ m | .sequence _ _ m | .mapping _ _ m => m

def tag : Node → String
  | .scalar t _ _ | .sequence t _ _ | .mapping t _ _ => t

def kindName : Node → String
  | .scalar _ _ _ => "scalar"
  | .sequence _ _ _ => "sequence"
  | .mapping _ _ _ => "mapping"

end Node

structure Composer where
  parser : Parser
  anchors : List (String × Mark × Option Node) := []
  deriving Inhabited

abbrev ComposeM := StateT Composer (Except LoadError)

def composeFailure (context : Option String) (contextMark : Option Mark) (problem : String)
    (problemMark : Mark) : LoadError :=
  .located { stage := .composer, context, contextMark, problem, problemMark := some problemMark }

def parse {α : Type} (m : ParseM α) : ComposeM α := do
  let c ← get
  match m.run c.parser with
  | .ok (a, p) =>
    set { c with parser := p }
    return a
  | .error e => throw e

def peekEv : ComposeM Event := do
  match ← parse peekEvent with
  | some e => return e
  | none => return ⟨.streamEnd, default, default⟩

def takeEv : ComposeM Event := do
  match ← parse nextEvent with
  | some e => return e
  | none => return ⟨.streamEnd, default, default⟩

def setAnchor (anchor : Option String) (start : Mark) (node : Option Node) : ComposeM Unit :=
  match anchor with
  | some a => modify fun c =>
    { c with anchors := (c.anchors.filter (·.1 != a)) ++ [(a, start, node)] }
  | none => pure ()

def EventKind.anchor? : EventKind → Option String
  | .scalar a _ _ _ _ | .sequenceStart a _ _ | .mappingStart a _ _ => a
  | _ => none

def scalarTag (tag : Option String) (plainImplicit : Bool) (value : String) : String :=
  match tag with
  | some t => if t == "!" then (if plainImplicit then resolvePlain value else strTag) else t
  | none => if plainImplicit then resolvePlain value else strTag

def collectionTag (tag : Option String) (default : String) : String :=
  match tag with
  | some t => if t == "!" then default else t
  | none => default

mutual
/-- Composes the next node; `fuel` bounds the number of nodes. -/
def composeNode : Nat → ComposeM Node
  | 0 => throw (composeFailure none none "document too deep" default)
  | fuel + 1 => do
    let e ← peekEv
    if let .alias a := e.kind then
      discard takeEv
      match (← get).anchors.lookup a with
      | none => throw (composeFailure none none ("found undefined alias " ++ Text.quote a) e.start)
      | some (_, some node) => return node
      -- a node that refers to itself while it is being composed
      | some (m, none) => return .scalar nullTag "" m
    let anchor := EventKind.anchor? e.kind
    if let some a := anchor then
      if let some (first, _) := (← get).anchors.lookup a then
        throw (composeFailure (some ("found duplicate anchor " ++ Text.quote a ++ "; first occurrence"))
          (some first) "second occurrence" e.start)
    match e.kind with
    | .scalar _ tag plainImplicit _ value =>
      discard takeEv
      let node := Node.scalar (scalarTag tag plainImplicit value) value e.start
      setAnchor anchor e.start (some node)
      return node
    | .sequenceStart _ tag _ =>
      discard takeEv
      setAnchor anchor e.start none
      let items ← composeItems fuel []
      discard takeEv
      let node := Node.sequence (collectionTag tag seqTag) items e.start
      setAnchor anchor e.start (some node)
      return node
    | .mappingStart _ tag _ =>
      discard takeEv
      setAnchor anchor e.start none
      let entries ← composeEntries fuel []
      discard takeEv
      let node := Node.mapping (collectionTag tag mapTag) entries e.start
      setAnchor anchor e.start (some node)
      return node
    | _ => throw (composeFailure none none "expected a node" e.start)

def composeItems : Nat → List Node → ComposeM (List Node)
  | 0, acc => pure acc
  | fuel + 1, acc => do
    if (← peekEv).kind == .sequenceEnd then return acc
    let n ← composeNode fuel
    composeItems fuel (acc ++ [n])

def composeEntries : Nat → List (Node × Node) → ComposeM (List (Node × Node))
  | 0, acc => pure acc
  | fuel + 1, acc => do
    if (← peekEv).kind == .mappingEnd then return acc
    let k ← composeNode fuel
    let v ← composeNode fuel
    composeEntries fuel (acc ++ [(k, v)])
end

def composeStream (fuel : Nat) : ComposeM (Option Node) := do
  discard takeEv
  let doc ← if (← peekEv).kind == .streamEnd then pure none else do
    discard takeEv
    let node ← composeNode fuel
    discard takeEv
    modify fun c => { c with anchors := [] }
    pure (some node)
  let e ← peekEv
  if e.kind != .streamEnd then
    let e ← takeEv
    throw (composeFailure (some "expected a single document in the stream")
      (doc.map (·.start)) "but found another document" e.start)
  discard takeEv
  return doc

end Spreadsheet.Yaml
