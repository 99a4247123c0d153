import Spreadsheet.Yaml.Scanner

/-!
Parsing YAML tokens into events.

The events of a stream are its start, each document's start and end, and inside a document the
nodes in order: an alias, a scalar, or the start of a sequence or mapping, its items, and its
end. A node may carry an anchor and a tag; a tag with a handle is expanded by the document's
handles (`!` and `!!` by default, more by `%TAG` directives). A missing node in a place where one
is allowed is an empty plain scalar. The parser is a state machine with a stack of states to
return to, and produces one event each time it is asked.
-/

namespace Spreadsheet.Yaml

inductive EventKind where
  | streamStart
  | streamEnd
  | documentStart (explicit : Bool)
  | documentEnd (explicit : Bool)
  | alias (anchor : String)
  | scalar (anchor : Option String) (tag : Option String) (plainImplicit quotedImplicit : Bool)
      (value : String)
  | sequenceStart (anchor : Option String) (tag : Option String) (implicit : Bool)
  | sequenceEnd
  | mappingStart (anchor : Option String) (tag : Option String) (implicit : Bool)
  | mappingEnd
  deriving Repr, BEq, Inhabited

structure Event where
  kind : EventKind
  start : Mark
  stop : Mark
  deriving Repr, Inhabited

inductive ParseState where
  | streamStart
  | implicitDocumentStart
  | documentStart
  | documentEnd
  | documentContent
  | blockNode
  | blockSequenceFirstEntry
  | blockSequenceEntry
  | indentlessSequenceEntry
  | blockMappingFirstKey
  | blockMappingKey
  | blockMappingValue
  | flowSequenceFirstEntry
  | flowSequenceEntry
  | flowSequenceEntryMappingKey
  | flowSequenceEntryMappingValue
  | flowSequenceEntryMappingEnd
  | flowMappingFirstKey
  | flowMappingKey
  | flowMappingValue
  | flowMappingEmptyValue
  deriving Repr, BEq, Inhabited

def defaultTagHandles : List (String × String) := [("!", "!"), ("!!", "tag:yaml.org,2002:")]

structure Parser where
  scanner : Scanner
  state : Option ParseState := some .streamStart
  states : List ParseState := []
  marks : List Mark := []
  tagHandles : List (String × String) := defaultTagHandles
  current : Option Event := none
  deriving Inhabited

abbrev ParseM := StateT Parser (Except LoadError)

def parseFailure (context : Option String) (contextMark : Option Mark) (problem : String)
    (problemMark : Mark) : LoadError :=
  .located { stage := .parser, context, contextMark, problem, problemMark := some problemMark }

def scan {α : Type} (m : ScanM α) : ParseM α := do
  let p ← get
  match m.run p.scanner with
  | .ok (a, s) =>
    set { p with scanner := s }
    return a
  | .error e => throw e

def peekTok : ParseM Token := do
  match ← scan peekToken with
  | some t => return t
  | none => let m := (← get).scanner.mark; return ⟨.streamEnd, m, m⟩

def takeTok : ParseM Token := do
  match ← scan nextToken with
  | some t => return t
  | none => let m := (← get).scanner.mark; return ⟨.streamEnd, m, m⟩

def nextIs (sorts : List TokenSort) : ParseM Bool := do
  match ← scan peekToken with
  | some t => return sorts.contains t.kind.sort
  | none => return false

def goTo (st : ParseState) : ParseM Unit := modify fun p => { p with state := some st }

def pushState (st : ParseState) : ParseM Unit := modify fun p => { p with states := st :: p.states }

def popState : ParseM Unit := modify fun p => match p.states with
  | st :: rest => { p with state := some st, states := rest }
  | [] => { p with state := none }

def pushMark (m : Mark) : ParseM Unit := modify fun p => { p with marks := m :: p.marks }

def popMark : ParseM Unit := modify fun p => { p with marks := p.marks.drop 1 }

def topMark : ParseM Mark := return (← get).marks.headD default

def emptyScalar (m : Mark) : Event := ⟨.scalar none none true false "", m, m⟩

def processDirectives : ParseM Unit := do
  modify fun p => { p with tagHandles := [] }
  let rec go : Nat → Bool → ParseM Unit
    | 0, _ => pure ()
    | fuel + 1, seenVersion => do
      if !(← nextIs [.directive]) then return
      let t ← takeTok
      match t.kind with
      | .directive "YAML" (.version major _) =>
        if seenVersion then throw (parseFailure none none "found duplicate YAML directive" t.start)
        if major != 1 then
          throw (parseFailure none none "found incompatible YAML document (version 1.* is required)" t.start)
        go fuel true
      | .directive "TAG" (.tagPrefix handle pfx) =>
        let p ← get
        if (p.tagHandles.lookup handle).isSome then
          throw (parseFailure none none ("duplicate tag handle " ++ Text.quote handle) t.start)
        set { p with tagHandles := p.tagHandles ++ [(handle, pfx)] }
        go fuel seenVersion
      | _ => go fuel seenVersion
  go ((← get).scanner.budget) false
  modify fun p => { p with
    tagHandles := p.tagHandles ++ defaultTagHandles.filter (fun d => (p.tagHandles.lookup d.1).isNone) }

/-- A node: an alias, or properties followed by content. In block context a block collection may
follow; where an indentless sequence is allowed, a `-` starts one. -/
def parseNode (block indentless : Bool) : ParseM Event := do
  if ← nextIs [.alias] then
    let t ← takeTok
    popState
    match t.kind with
    | .alias name => return ⟨.alias name, t.start, t.stop⟩
    | _ => return ⟨.alias "", t.start, t.stop⟩
  -- properties: an anchor and a tag, in either order
  let first ← peekTok
  let (anchor, tag, tagMark, propStart, propStop) ←
    match first.kind with
    | .anchor a => do
      discard takeTok
      let next ← peekTok
      match next.kind with
      | .tag h s => do discard takeTok; pure (some a, some (h, s), some next.start, some first.start, some next.stop)
      | _ => pure (some a, none, none, some first.start, some first.stop)
    | .tag h s => do
      discard takeTok
      let next ← peekTok
      match next.kind with
      | .anchor a => do discard takeTok; pure (some a, some (h, s), some first.start, some first.start, some next.stop)
      | _ => pure (none, some (h, s), some first.start, some first.start, some first.stop)
    | _ => pure (none, none, none, none, none)
  let tag : Option String ← match tag with
    | none => pure none
    | some (none, suffix) => pure (some suffix)
    | some (some handle, suffix) =>
      match (← get).tagHandles.lookup handle with
      | some pfx => pure (some (pfx ++ suffix))
      | none =>
        throw (parseFailure (some "while parsing a node") propStart
          ("found undefined tag handle " ++ Text.quote handle) (tagMark.getD default))
  let next ← peekTok
  let start := propStart.getD next.start
  let stop := propStop.getD next.start
  let implicit := tag.isNone || tag == some "!"
  if indentless && next.kind.sort == .blockEntry then
    goTo .indentlessSequenceEntry
    return ⟨.sequenceStart anchor tag implicit, start, next.stop⟩
  match next.kind with
  | .scalar value plain _ =>
    discard takeTok
    popState
    let (plainImplicit, quotedImplicit) :=
      if (plain && tag.isNone) || tag == some "!" then (true, false)
      else if tag.isNone then (false, true) else (false, false)
    return ⟨.scalar anchor tag plainImplicit quotedImplicit value, start, next.stop⟩
  | .flowSequenceStart =>
    goTo .flowSequenceFirstEntry
    return ⟨.sequenceStart anchor tag implicit, start, next.stop⟩
  | .flowMappingStart =>
    goTo .flowMappingFirstKey
    return ⟨.mappingStart anchor tag implicit, start, next.stop⟩
  | .blockSequenceStart =>
    if block then
      goTo .blockSequenceFirstEntry
      return ⟨.sequenceStart anchor tag implicit, start, next.start⟩
    else nodeWithoutContent anchor tag implicit start stop next
  | .blockMappingStart =>
    if block then
      goTo .blockMappingFirstKey
      return ⟨.mappingStart anchor tag implicit, start, next.start⟩
    else nodeWithoutContent anchor tag implicit start stop next
  | _ => nodeWithoutContent anchor tag implicit start stop next
where
  nodeWithoutContent (anchor tag : Option String) (implicit : Bool) (start stop : Mark) (next : Token) :
      ParseM Event := do
    if anchor.isSome || tag.isSome then
      popState
      return ⟨.scalar anchor tag implicit false "", start, stop⟩
    else
      throw (parseFailure (some ("while parsing a " ++ (if block then "block" else "flow") ++ " node"))
        (some start) ("expected the node content, but found " ++ Text.quote next.kind.id) next.start)

def parseStreamStart : ParseM Event := do
  let t ← takeTok
  goTo .implicitDocumentStart
  return ⟨.streamStart, t.start, t.stop⟩

def parseDocumentStart : ParseM Event := do
  let rec skipEnds : Nat → ParseM Unit
    | 0 => pure ()
    | fuel + 1 => do
      if ← nextIs [.documentEnd] then
        discard takeTok
        skipEnds fuel
  skipEnds ((← get).scanner.budget)
  if ← nextIs [.streamEnd] then
    let t ← takeTok
    modify fun p => { p with state := none }
    return ⟨.streamEnd, t.start, t.stop⟩
  let first ← peekTok
  processDirectives
  let t ← peekTok
  if t.kind.sort != .documentStart then
    throw (parseFailure none none ("expected '<document start>', but found " ++ Text.quote t.kind.id) t.start)
  discard takeTok
  pushState .documentEnd
  goTo .documentContent
  return ⟨.documentStart true, first.start, t.stop⟩

def parseImplicitDocumentStart : ParseM Event := do
  if ← nextIs [.directive, .documentStart, .streamEnd] then parseDocumentStart
  else
    modify fun p => { p with tagHandles := defaultTagHandles }
    let t ← peekTok
    pushState .documentEnd
    goTo .blockNode
    return ⟨.documentStart false, t.start, t.start⟩

def parseDocumentEnd : ParseM Event := do
  let t ← peekTok
  let (explicit, stop) ←
    if t.kind.sort == .documentEnd then do discard takeTok; pure (true, t.stop) else pure (false, t.start)
  goTo .documentStart
  return ⟨.documentEnd explicit, t.start, stop⟩

def parseDocumentContent : ParseM Event := do
  if ← nextIs [.directive, .documentStart, .documentEnd, .streamEnd] then
    let t ← peekTok
    popState
    return emptyScalar t.start
  else parseNode true false

def parseBlockSequenceEntry : ParseM Event := do
  if ← nextIs [.blockEntry] then
    let t ← takeTok
    if ← nextIs [.blockEntry, .blockEnd] then
      goTo .blockSequenceEntry
      return emptyScalar t.stop
    else
      pushState .blockSequenceEntry
      parseNode true false
  else
    let t ← peekTok
    if t.kind.sort != .blockEnd then
      throw (parseFailure (some "while parsing a block collection") (some (← topMark))
        ("expected <block end>, but found " ++ Text.quote t.kind.id) t.start)
    discard takeTok
    popState
    popMark
    return ⟨.sequenceEnd, t.start, t.stop⟩

def parseIndentlessSequenceEntry : ParseM Event := do
  if ← nextIs [.blockEntry] then
    let t ← takeTok
    if ← nextIs [.blockEntry, .key, .value, .blockEnd] then
      goTo .indentlessSequenceEntry
      return emptyScalar t.stop
    else
      pushState .indentlessSequenceEntry
      parseNode true false
  else
    let t ← peekTok
    popState
    return ⟨.sequenceEnd, t.start, t.start⟩

def parseBlockMappingKey : ParseM Event := do
  if ← nextIs [.key] then
    let t ← takeTok
    if ← nextIs [.key, .value, .blockEnd] then
      goTo .blockMappingValue
      return emptyScalar t.stop
    else
      pushState .blockMappingValue
      parseNode true true
  else
    let t ← peekTok
    if t.kind.sort != .blockEnd then
      throw (parseFailure (some "while parsing a block mapping") (some (← topMark))
        ("expected <block end>, but found " ++ Text.quote t.kind.id) t.start)
    discard takeTok
    popState
    popMark
    return ⟨.mappingEnd, t.start, t.stop⟩

def parseBlockMappingValue : ParseM Event := do
  if ← nextIs [.value] then
    let t ← takeTok
    if ← nextIs [.key, .value, .blockEnd] then
      goTo .blockMappingKey
      return emptyScalar t.stop
    else
      pushState .blockMappingKey
      parseNode true true
  else
    goTo .blockMappingKey
    return emptyScalar (← peekTok).start

def parseFlowSequenceEntry (first : Bool) : ParseM Event := do
  let closeSequence : ParseM Event := do
    let t ← takeTok
    popState
    popMark
    return ⟨.sequenceEnd, t.start, t.stop⟩
  if ← nextIs [.flowSequenceEnd] then closeSequence
  else
    if !first then
      if ← nextIs [.flowEntry] then discard takeTok
      else
        let t ← peekTok
        throw (parseFailure (some "while parsing a flow sequence") (some (← topMark))
          ("expected ',' or ']', but got " ++ Text.quote t.kind.id) t.start)
    if ← nextIs [.key] then
      let t ← peekTok
      goTo .flowSequenceEntryMappingKey
      return ⟨.mappingStart none none true, t.start, t.stop⟩
    else if ← nextIs [.flowSequenceEnd] then closeSequence
    else
      pushState .flowSequenceEntry
      parseNode false false

def parseFlowSequenceEntryMappingKey : ParseM Event := do
  let t ← takeTok
  if ← nextIs [.value, .flowEntry, .flowSequenceEnd] then
    goTo .flowSequenceEntryMappingValue
    return emptyScalar t.stop
  else
    pushState .flowSequenceEntryMappingValue
    parseNode false false

def parseFlowSequenceEntryMappingValue : ParseM Event := do
  if ← nextIs [.value] then
    let t ← takeTok
    if ← nextIs [.flowEntry, .flowSequenceEnd] then
      goTo .flowSequenceEntryMappingEnd
      return emptyScalar t.stop
    else
      pushState .flowSequenceEntryMappingEnd
      parseNode false false
  else
    goTo .flowSequenceEntryMappingEnd
    return emptyScalar (← peekTok).start

def parseFlowSequenceEntryMappingEnd : ParseM Event := do
  goTo .flowSequenceEntry
  let t ← peekTok
  return ⟨.mappingEnd, t.start, t.start⟩

def parseFlowMappingKey (first : Bool) : ParseM Event := do
  let closeMapping : ParseM Event := do
    let t ← takeTok
    popState
    popMark
    return ⟨.mappingEnd, t.start, t.stop⟩
  if ← nextIs [.flowMappingEnd] then closeMapping
  else
    if !first then
      if ← nextIs [.flowEntry] then discard takeTok
      else
        let t ← peekTok
        throw (parseFailure (some "while parsing a flow mapping") (some (← topMark))
          ("expected ',' or '\x7d', but got " ++ Text.quote t.kind.id) t.start)
    if ← nextIs [.key] then
      let t ← takeTok
      if ← nextIs [.value, .flowEntry, .flowMappingEnd] then
        goTo .flowMappingValue
        return emptyScalar t.stop
      else
        pushState .flowMappingValue
        parseNode false false
    else if ← nextIs [.flowMappingEnd] then closeMapping
    else
      pushState .flowMappingEmptyValue
      parseNode false false

def parseFlowMappingValue : ParseM Event := do
  if ← nextIs [.value] then
    let t ← takeTok
    if ← nextIs [.flowEntry, .flowMappingEnd] then
      goTo .flowMappingKey
      return emptyScalar t.stop
    else
      pushState .flowMappingKey
      parseNode false false
  else
    goTo .flowMappingKey
    return emptyScalar (← peekTok).start

def parseStep : ParseState → ParseM Event
  | .streamStart => parseStreamStart
  | .implicitDocumentStart => parseImplicitDocumentStart
  | .documentStart => parseDocumentStart
  | .documentEnd => parseDocumentEnd
  | .documentContent => parseDocumentContent
  | .blockNode => parseNode true false
  | .blockSequenceFirstEntry => do
    let t ← takeTok
    pushMark t.start
    parseBlockSequenceEntry
  | .blockSequenceEntry => parseBlockSequenceEntry
  | .indentlessSequenceEntry => parseIndentlessSequenceEntry
  | .blockMappingFirstKey => do
    let t ← takeTok
    pushMark t.start
    parseBlockMappingKey
  | .blockMappingKey => parseBlockMappingKey
  | .blockMappingValue => parseBlockMappingValue
  | .flowSequenceFirstEntry => do
    let t ← takeTok
    pushMark t.start
    parseFlowSequenceEntry true
  | .flowSequenceEntry => parseFlowSequenceEntry false
  | .flowSequenceEntryMappingKey => parseFlowSequenceEntryMappingKey
  | .flowSequenceEntryMappingValue => parseFlowSequenceEntryMappingValue
  | .flowSequenceEntryMappingEnd => parseFlowSequenceEntryMappingEnd
  | .flowMappingFirstKey => do
    let t ← takeTok
    pushMark t.start
    parseFlowMappingKey true
  | .flowMappingKey => parseFlowMappingKey false
  | .flowMappingValue => parseFlowMappingValue
  | .flowMappingEmptyValue => do
    goTo .flowMappingKey
    return emptyScalar (← peekTok).start

def peekEvent : ParseM (Option Event) := do
  let p ← get
  match p.current with
  | some e => return some e
  | none =>
    match p.state with
    | none => return none
    | some st =>
      let e ← parseStep st
      modify fun p => { p with current := some e }
      return some e

def nextEvent : ParseM (Option Event) := do
  let e ← peekEvent
  modify fun p => { p with current := none }
  return e

end Spreadsheet.Yaml
