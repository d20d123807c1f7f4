import FieldRules.Yaml.Token

/-!
# Structure of YAML documents

`Event.ofTokens?` reads the one document of a text. It keeps a stack of `Expected` parts; the
topmost one and the next token decide what is reported, what is expected next, and whether the token
is used up. A part that may be left out is reported as an empty plain scalar.
-/

namespace FieldRules.Yaml

structure Marks where
  anchor : Option (List Char)
  tag : Option (List Char)
  deriving DecidableEq, Repr

def Marks.none : Marks := ⟨.none, .none⟩

inductive Event
  | reference (name : List Char)
  | scalar (marks : Marks) (style : Style) (text : List Char)
  | sequenceStart (marks : Marks)
  | sequenceEnd
  | mappingStart (marks : Marks)
  | mappingEnd
  deriving DecidableEq, Repr

def Event.blank : Event := .scalar .none .plain []

structure NodePlace where
  inBlock : Bool
  /-- A sequence may stand here without more indentation. -/
  indentless : Bool
  deriving DecidableEq, Repr

structure ReadMarks where
  anchor : Option (List Char)
  tag : Option TagName
  deriving DecidableEq, Repr

inductive Expected
  | node (place : NodePlace) (read : ReadMarks)
  /-- A node, or nothing before one of the tokens that pass a test. -/
  | nodeUnless (place : NodePlace) (stops : Token → Bool)
  | blank
  | blockEntries
  | indentlessEntries
  | blockKey
  | blockValue
  | flowEntries (isFirst : Bool)
  | flowEntry
  | pairKey
  | pairValue
  | pairEnd
  | flowKeys (isFirst : Bool)
  | flowKey
  | flowValue

structure Move where
  events : List Event
  expected : List Expected
  usesToken : Bool

abbrev Handles := List (List Char × List Char)

def standardHandles : Handles :=
  [(['!'], ['!']), (['!', '!'], "tag:yaml.org,2002:".toList)]

def TagName.resolve? (handles : Handles) (name : TagName) : Option (List Char) :=
  if name.handle.isEmpty then some name.suffix
  else (handles.lookup name.handle).map (· ++ name.suffix)

namespace Expected

def blockNode (indentless : Bool) : Expected := .node ⟨true, indentless⟩ ⟨none, none⟩

def flowNode : Expected := .node ⟨false, false⟩ ⟨none, none⟩

def endsEntry : Token → Bool
  | .blockEntry | .blockEnd => true
  | _ => false

def endsIndentlessEntry : Token → Bool
  | .blockEntry | .key | .value | .blockEnd => true
  | _ => false

def endsBlockPair : Token → Bool
  | .key | .value | .blockEnd => true
  | _ => false

def endsFlowEntry : Token → Bool
  | .flowEntry | .flowSequenceEnd => true
  | _ => false

def endsFlowKey : Token → Bool
  | .value | .flowEntry | .flowMappingEnd => true
  | _ => false

def endsFlowValue : Token → Bool
  | .flowEntry | .flowMappingEnd => true
  | _ => false

def uses (events : List Event) (expected : List Expected) : Option Move :=
  some ⟨events, expected, true⟩

def leaves (events : List Event) (expected : List Expected) : Option Move :=
  some ⟨events, expected, false⟩

/-- The content of a node whose marks have been read. The tag `!` alone says nothing about a scalar.
-/
def content? (place : NodePlace) (marks : Marks) (token : Token) : Option Move :=
  match token with
  | .scalar style text =>
    let tag := if marks.tag = some ['!'] then none else marks.tag
    uses [.scalar ⟨marks.anchor, tag⟩ style text] []
  | .flowSequenceStart => uses [.sequenceStart marks] [.flowEntries true]
  | .flowMappingStart => uses [.mappingStart marks] [.flowKeys true]
  | _ =>
    if place.indentless && token = .blockEntry then
      leaves [.sequenceStart marks] [.indentlessEntries]
    else if place.inBlock && token = .blockSequenceStart then
      uses [.sequenceStart marks] [.blockEntries]
    else if place.inBlock && token = .blockMappingStart then uses [.mappingStart marks] [.blockKey]
    else if marks = .none then none
    else leaves [.scalar marks .plain []] []

def node? (handles : Handles) (place : NodePlace) (read : ReadMarks) (token : Token) :
    Option Move :=
  match token, read.anchor, read.tag with
  | .reference name, none, none => uses [.reference name] []
  | .anchor name, none, tag => uses [] [.node place ⟨some name, tag⟩]
  | .tag name, anchor, none => uses [] [.node place ⟨anchor, some name⟩]
  | token, anchor, none => content? place ⟨anchor, none⟩ token
  | token, anchor, some name => do content? place ⟨anchor, some (← name.resolve? handles)⟩ token

def move? (handles : Handles) (token : Token) : Expected → Option Move
  | node place read => node? handles place read token
  | nodeUnless place stops =>
    if stops token then leaves [.blank] [] else leaves [] [.node place ⟨none, none⟩]
  | blank => leaves [.blank] []
  | blockEntries => match token with
    | .blockEntry => uses [] [.nodeUnless ⟨true, false⟩ endsEntry, .blockEntries]
    | .blockEnd => uses [.sequenceEnd] []
    | _ => none
  | indentlessEntries => match token with
    | .blockEntry => uses [] [.nodeUnless ⟨true, false⟩ endsIndentlessEntry, .indentlessEntries]
    | _ => leaves [.sequenceEnd] []
  | blockKey => match token with
    | .key => uses [] [.nodeUnless ⟨true, true⟩ endsBlockPair, .blockValue]
    | .blockEnd => uses [.mappingEnd] []
    | _ => none
  | blockValue => match token with
    | .value => uses [] [.nodeUnless ⟨true, true⟩ endsBlockPair, .blockKey]
    | _ => leaves [.blank] [.blockKey]
  | flowEntries isFirst => match token with
    | .flowSequenceEnd => uses [.sequenceEnd] []
    | .flowEntry => if isFirst then leaves [] [.flowEntry] else uses [] [.flowEntry]
    | _ => if isFirst then leaves [] [.flowEntry] else none
  | flowEntry => match token with
    | .flowSequenceEnd => uses [.sequenceEnd] []
    | .key => uses [.mappingStart .none] [.pairKey, .flowEntries false]
    | _ => leaves [] [flowNode, .flowEntries false]
  | pairKey => match token with
    | .value | .flowEntry | .flowSequenceEnd => uses [.blank] [.pairValue]
    | _ => leaves [] [flowNode, .pairValue]
  | pairValue => match token with
    | .value => uses [] [.nodeUnless ⟨false, false⟩ endsFlowEntry, .pairEnd]
    | _ => leaves [.blank] [.pairEnd]
  | pairEnd => leaves [.mappingEnd] []
  | flowKeys isFirst => match token with
    | .flowMappingEnd => uses [.mappingEnd] []
    | .flowEntry => if isFirst then leaves [] [.flowKey] else uses [] [.flowKey]
    | _ => if isFirst then leaves [] [.flowKey] else none
  | flowKey => match token with
    | .flowMappingEnd => uses [.mappingEnd] []
    | .key => uses [] [.nodeUnless ⟨false, false⟩ endsFlowKey, .flowValue]
    | _ => leaves [] [flowNode, .blank, .flowKeys false]
  | flowValue => match token with
    | .value => uses [] [.nodeUnless ⟨false, false⟩ endsFlowValue, .flowKeys false]
    | _ => leaves [.blank] [.flowKeys false]

end Expected

namespace Event

/-- Moves until nothing more is expected; the tokens that are left are given with the events, which
stand backwards. Each token is used up after a few moves, so a multiple of their number bounds the
moves. -/
def run? (handles : Handles) (events : List Event) :
    Nat → List Expected → List Token → Option (List Event × List Token)
  | _, [], tokens => some (events, tokens)
  | 0, _, _ => none
  | _, _, [] => none
  | n + 1, e :: expected, token :: tokens => do
    let m ← e.move? handles token
    let left := if m.usesToken then tokens else token :: tokens
    run? handles (m.events.reverse ++ events) n (m.expected ++ expected) left

structure Preamble where
  hasVersion : Bool
  handles : Handles

def preamble? (p : Preamble) : List Token → Option (Preamble × List Token)
  | .versionDirective major minor :: tokens =>
    if p.hasVersion || major ≠ 1 || (minor ≠ 1 && minor ≠ 2) then none
    else preamble? { p with hasVersion := true } tokens
  | .tagDirective handle stem :: tokens =>
    if p.handles.any fun h => h.1 = handle then none
    else preamble? { p with handles := (handle, stem) :: p.handles } tokens
  | tokens => some (p, tokens)

def isEmptyDocument : Token → Bool
  | .versionDirective .. | .tagDirective .. | .documentStart | .documentEnd | .streamEnd => true
  | _ => false

def isOver (tokens : List Token) : Bool :=
  tokens.dropWhile (· = .documentEnd) = [.streamEnd]

def ofTokens? (tokens : List Token) : Option (List Event) :=
  if tokens = [.streamEnd] then some []
  else do
    let (p, rest) ← preamble? ⟨false, []⟩ tokens
    let (expected, rest) ← match rest with
      | .documentStart :: rest => some (Expected.nodeUnless ⟨true, false⟩ isEmptyDocument, rest)
      | _ => if rest = tokens then some (Expected.blockNode false, rest) else none
    let handles := p.handles ++ standardHandles
    let (events, rest) ← run? handles [] (8 * rest.length + 8) [expected] rest
    if isOver rest then return events.reverse else none

end Event
end FieldRules.Yaml
