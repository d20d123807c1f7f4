import FieldRules.Yaml.Token

/-!
# Taking a text apart

`Token.ofText?` lists the tokens of a text. `Lexing` is the state on the way: the indentations of
the open blocks, and for each level of brackets the place where a key may have begun. Whether it was
one shows when a colon follows on the same line; the tokens for it are then put in where it began.
-/

namespace FieldRules.Yaml

structure KeyPlace where
  /-- The number of tokens before it. -/
  number : Nat
  line : Nat
  column : Nat
  index : Nat
  isRequired : Bool

structure Lexing where
  rest : List Spot
  tokens : Array Token
  /-- The indentations of the open blocks, the innermost first; `-1` lies under all of them. -/
  indents : List Int
  /-- The place of a possible key at each level of brackets, the innermost first. -/
  keys : List (Option KeyPlace)
  keyAllowed : Bool

namespace Lexing

def start (t : List Spot) : Lexing := ⟨t, #[], [-1], [none], true⟩

def inFlow (x : Lexing) : Bool :=
  match x.keys with
  | _ :: _ :: _ => true
  | _ => false

def indent (x : Lexing) : Int := x.indents.headD (-1)

def column (x : Lexing) : Nat :=
  match x.rest.head? with
  | some s => s.column
  | none => 0

def push (x : Lexing) (t : Token) : Lexing := { x with tokens := x.tokens.push t }

def insertAt (x : Lexing) (number : Nat) (t : Token) : Lexing :=
  { x with tokens := x.tokens.insertIdxIfInBounds number t }

/-- The text from the next sign on: blanks, comments and line ends are passed over. Tabs do not
count as blanks where a key could begin. The answer tells also whether a key may begin at the sign.
-/
def skipTo (inFlow keyAllowed inComment : Bool) : List Spot → List Spot × Bool
  | [] => ([], keyAllowed)
  | s :: t =>
    let c := s.char
    if isBreak c then skipTo inFlow (keyAllowed || !inFlow) false t
    else if inComment && !isEnd c then skipTo inFlow keyAllowed true t
    else if c = ' ' || (c = '\t' && (inFlow || !keyAllowed)) then
      skipTo inFlow keyAllowed false t
    else if c = '#' then skipTo inFlow keyAllowed true t
    else (s :: t, keyAllowed)

/-- The place of a key is given up when its line has ended, or after 1024 characters. -/
def stillOpen? (here : Spot) (place : Option KeyPlace) : Option (Option KeyPlace) :=
  match place with
  | none => some none
  | some p =>
    if p.line < here.line || p.index + 1024 < here.index then
      if p.isRequired then none else some none
    else some (some p)

def dropStale? (x : Lexing) : Option Lexing :=
  match x.rest.head? with
  | none => some x
  | some here => (x.keys.mapM (stillOpen? here)).map fun keys => { x with keys := keys }

def dropKey? (x : Lexing) : Option Lexing :=
  match x.keys with
  | some p :: keys => if p.isRequired then none else some { x with keys := none :: keys }
  | _ => some x

def saveKey? (x : Lexing) : Option Lexing :=
  if !x.keyAllowed then some x
  else do
    let x ← x.dropKey?
    match x.rest, x.keys with
    | s :: _, _ :: keys =>
      let isRequired := !x.inFlow && x.indent == s.column
      let place : KeyPlace := ⟨x.tokens.size, s.line, s.column, s.index, isRequired⟩
      return { x with keys := some place :: keys }
    | _, _ => none

/-- The blocks that are indented by more than `column` end. -/
def closeBlocks (column : Int) : List Int → Array Token → List Int × Array Token
  | [], tokens => ([], tokens)
  | i :: indents, tokens =>
    if i > column then closeBlocks column indents (tokens.push .blockEnd)
    else (i :: indents, tokens)

def unroll (x : Lexing) (column : Int) : Lexing :=
  if x.inFlow then x
  else
    let (indents, tokens) := closeBlocks column x.indents x.tokens
    { x with indents := indents, tokens := tokens }

/-- A block begins at a column, if it is indented by more than the one around it. -/
def roll (x : Lexing) (column number : Nat) (t : Token) : Lexing :=
  if !x.inFlow && x.indent < column then
    { x with indents := column :: x.indents }.insertAt number t
  else x

def take (x : Lexing) (length : Nat) (keyAllowed : Bool) (t : Token) : Lexing :=
  { x with rest := x.rest.drop length, keyAllowed := keyAllowed }.push t

def leaveBlocks? (x : Lexing) : Option Lexing := (x.unroll (-1)).dropKey?

def finish? (x : Lexing) : Option Lexing := do
  return (← x.leaveBlocks?).take 0 false .streamEnd

def directive? (x : Lexing) : Option Lexing := do
  let x ← x.leaveBlocks?
  let (token, rest) ← Token.readDirective x.rest.tail
  return { x with rest := rest, keyAllowed := false }.push token

def documentMarker? (x : Lexing) (t : Token) : Option Lexing := do
  return (← x.leaveBlocks?).take 3 false t

def openFlow? (x : Lexing) (t : Token) : Option Lexing := do
  let x ← x.saveKey?
  return { x with keys := none :: x.keys }.take 1 true t

def closeFlow? (x : Lexing) (t : Token) : Option Lexing := do
  let x ← x.dropKey?
  let keys := if x.inFlow then x.keys.tail else x.keys
  return { x with keys := keys }.take 1 false t

def flowEntry? (x : Lexing) : Option Lexing := do
  return (← x.dropKey?).take 1 true .flowEntry

/-- An entry or key with a sign of its own. In a block it stands where a key may stand. -/
def entry? (x : Lexing) (block t : Token) (keyAllowed : Bool) : Option Lexing := do
  if !x.inFlow && !x.keyAllowed then none
  else return (← (x.roll x.column x.tokens.size block).dropKey?).take 1 keyAllowed t

def blockEntry? (x : Lexing) : Option Lexing := x.entry? .blockSequenceStart .blockEntry true

def key? (x : Lexing) : Option Lexing := x.entry? .blockMappingStart .key (!x.inFlow)

def value? (x : Lexing) : Option Lexing :=
  match x.keys with
  | some p :: keys =>
    let x := (x.insertAt p.number .key).roll p.column p.number .blockMappingStart
    some ({ x with keys := none :: keys }.take 1 false .value)
  | _ =>
    if !x.inFlow && !x.keyAllowed then none
    else some ((x.roll x.column x.tokens.size .blockMappingStart).take 1 (!x.inFlow) .value)

def node? (x : Lexing) (read : List Spot → Option (Token × List Spot)) : Option Lexing := do
  let x ← x.saveKey?
  let (token, rest) ← read x.rest
  return { x with rest := rest, keyAllowed := false }.push token

def anchor? (x : Lexing) (token : List Char → Token) : Option Lexing :=
  x.node? fun t => (Token.readName t.tail).map fun (name, t) => (token name, t)

def tag? (x : Lexing) : Option Lexing :=
  x.node? fun t => (Token.readTag x.inFlow t).map fun (name, t) => (.tag name, t)

def quoted? (x : Lexing) (single : Bool) : Option Lexing :=
  x.node? fun t =>
    (readQuoted single .text [] t.tail).map fun (text, t) =>
      (.scalar (if single then .singleQuoted else .doubleQuoted) text, t)

def plain? (x : Lexing) : Option Lexing := do
  let x ← x.saveKey?
  let (text, endsLine, rest) ← readPlain x.inFlow (x.indent + 1) [] .none x.rest
  return { x with rest := rest, keyAllowed := endsLine }.push (.scalar .plain text)

def block? (x : Lexing) (folded : Bool) : Option Lexing := do
  let x ← x.dropKey?
  let (text, rest) ← readBlock folded x.indent x.rest.tail
  return { x with rest := rest, keyAllowed := true }.push
    (.scalar (if folded then .folded else .literal) text)

def startsPlain (inFlow : Bool) (c next : Char) : Bool :=
  if c = '-' then !isGap next
  else if c = '?' || c = ':' then !inFlow && !endsWord next
  else !endsWord c && !",[]\x7b\x7d#&*!|>'\"%@\x60".toList.contains c

def sign? (x : Lexing) : Option Lexing :=
  let c := Spot.charAt x.rest 0
  let next := Spot.charAt x.rest 1
  let standsAlone := x.inFlow || endsWord next
  if isEnd c then x.finish?
  else if x.column = 0 && c = '%' then x.directive?
  else if Spot.isMarker '-' x.rest then x.documentMarker? .documentStart
  else if Spot.isMarker '.' x.rest then x.documentMarker? .documentEnd
  else if c = '[' then x.openFlow? .flowSequenceStart
  else if c = '\x7b' then x.openFlow? .flowMappingStart
  else if c = ']' then x.closeFlow? .flowSequenceEnd
  else if c = '\x7d' then x.closeFlow? .flowMappingEnd
  else if c = ',' then x.flowEntry?
  else if c = '-' && endsWord next then x.blockEntry?
  else if c = '?' && standsAlone then x.key?
  else if c = ':' && standsAlone then x.value?
  else if c = '*' then x.anchor? .reference
  else if c = '&' then x.anchor? .anchor
  else if c = '!' then x.tag?
  else if c = '|' && !x.inFlow then x.block? false
  else if c = '>' && !x.inFlow then x.block? true
  else if c = '\'' then x.quoted? true
  else if c = '"' then x.quoted? false
  else if startsPlain x.inFlow c next then x.plain?
  else none

def step? (x : Lexing) : Option Lexing := do
  let (rest, keyAllowed) := skipTo x.inFlow x.keyAllowed false x.rest
  let x ← { x with rest := rest, keyAllowed := keyAllowed }.dropStale?
  (x.unroll x.column).sign?

def run? : Nat → Lexing → Option (List Token)
  | 0, _ => none
  | n + 1, x => do
    let x ← x.step?
    if x.tokens.back? = some .streamEnd then return x.tokens.toList else x.run? n

end Lexing

def Token.ofText? (t : List Char) : Option (List Token) := do
  let spots ← Spot.ofText? t
  (Lexing.start spots).run? (spots.length + 1)

end FieldRules.Yaml
