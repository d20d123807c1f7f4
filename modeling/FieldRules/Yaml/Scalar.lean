import FieldRules.Yaml.Gap

/-!
# Scalars as written

A scalar is written plain, between quotes, or as a block of lines. Each of the three readers takes
the text from behind the opening and gives the scalar's content and the rest of the text.
-/

namespace FieldRules.Yaml

inductive Style
  | plain
  | singleQuoted
  | doubleQuoted
  | literal
  | folded
  deriving DecidableEq, Repr

section Plain

/-- Reads a plain scalar whose further lines are indented by `indent` columns. The answer tells also
whether line ends follow the scalar. -/
def readPlain (inFlow : Bool) (indent : Int) (read : List Char) (gap : Gap) :
    List Spot → Option (List Char × Bool × List Spot)
  | [] => some (read.reverse, gap.broken, [])
  | s :: t =>
    let c := s.char
    let done := some (read.reverse, gap.broken, s :: t)
    if isGap c then
      if c = '\t' && gap.broken && s.column < indent then none
      else readPlain inFlow indent read (gap.addBlank c) t
    else if isBreak c then readPlain inFlow indent read (gap.addBreak c) t
    else if isEnd c || Spot.isDocumentMarker (s :: t) then done
    else if !gap.isNone && (c = '#' || (!inFlow && s.column < indent)) then done
    else if inFlow && c = ':' && [',', '?', '[', ']', '\x7b', '\x7d'].contains (Spot.first t) then
      none
    else if c = ':' && endsWord (Spot.first t) then done
    else if inFlow && [',', '[', ']', '\x7b', '\x7d'].contains c then done
    else readPlain inFlow indent (c :: gap.onto read) .none t

end Plain

section Quoted

inductive QuoteMode
  | text
  | gap (gap : Gap)
  | escape
  | digits (count value : Nat)
  | secondQuote

def escaped? : Char → Option Char
  | '0' => some '\x00'
  | 'a' => some '\x07'
  | 'b' => some '\x08'
  | 't' | '\t' => some '\t'
  | 'n' => some '\n'
  | 'v' => some '\x0b'
  | 'f' => some '\x0c'
  | 'r' => some '\r'
  | 'e' => some '\x1b'
  | ' ' => some ' '
  | '"' => some '"'
  | '/' => some '/'
  | '\\' => some '\\'
  | 'N' => some '\u0085'
  | '_' => some '\u00a0'
  | 'L' => some '\u2028'
  | 'P' => some '\u2029'
  | _ => none

def hexDigit? (c : Char) : Option Nat :=
  if c.isDigit then some (c.toNat - '0'.toNat)
  else if 'a' ≤ c && c ≤ 'f' then some (c.toNat - 'a'.toNat + 10)
  else if 'A' ≤ c && c ≤ 'F' then some (c.toNat - 'A'.toNat + 10)
  else none

inductive QuoteTurn
  | next (mode : QuoteMode) (read : List Char)
  | closed (read : List Char)

def quotedText? (single : Bool) (read : List Char) (t : List Spot) : Option QuoteTurn :=
  let c := Spot.first t
  let quote := if single then '\'' else '"'
  if isEnd c || Spot.isDocumentMarker t then none
  else if isGap c then some (.next (.gap (Gap.none.addBlank c)) read)
  else if isBreak c then some (.next (.gap (Gap.none.addBreak c)) read)
  else if c = quote then
    if single && Spot.charAt t 1 = quote then some (.next .secondQuote (quote :: read))
    else some (.closed read)
  else if !single && c = '\\' then some (.next .escape read)
  else some (.next .text (c :: read))

def quotedTurn? (single : Bool) (mode : QuoteMode) (read : List Char) (t : List Spot) :
    Option QuoteTurn :=
  let c := Spot.first t
  match mode with
  | .text => quotedText? single read t
  | .gap g =>
    if isGap c then some (.next (.gap (g.addBlank c)) read)
    else if isBreak c then some (.next (.gap (g.addBreak c)) read)
    else quotedText? single (g.onto read) t
  | .escape =>
    if isBreak c then some (.next (.gap .escaped) read)
    else match c with
      | 'x' => some (.next (.digits 2 0) read)
      | 'u' => some (.next (.digits 4 0) read)
      | 'U' => some (.next (.digits 8 0) read)
      | _ => (escaped? c).map fun d => .next .text (d :: read)
  | .digits count value => do
    let value := 16 * value + (← hexDigit? c)
    if count ≤ 1 then
      if h : value.isValidChar then return .next .text (Char.ofNatAux value h :: read) else none
    else return .next (.digits (count - 1) value) read
  | .secondQuote => some (.next .text read)

def readQuoted (single : Bool) (mode : QuoteMode) (read : List Char) :
    List Spot → Option (List Char × List Spot)
  | [] => none
  | s :: t => do
    match ← quotedTurn? single mode read (s :: t) with
    | .next mode read => readQuoted single mode read t
    | .closed read => return (read.reverse, t)

end Quoted

section Block

/-- What is kept of the line ends behind a block. -/
inductive Chomping
  | strip
  | clip
  | keep
  deriving DecidableEq, Repr

def Chomping.ofChar? : Char → Option Chomping
  | '-' => some .strip
  | '+' => some .keep
  | _ => none

/-- The chomping and the indentation that a block states, in either order. -/
def blockIndicators (t : List Spot) : Chomping × Option Nat × List Spot :=
  let digit? := fun (c : Char) => if c.isDigit then some (c.toNat - '0'.toNat) else none
  match Chomping.ofChar? (Spot.first t), digit? (Spot.first t) with
  | some k, _ => match digit? (Spot.charAt t 1) with
    | some d => (k, some d, t.drop 2)
    | none => (k, none, t.drop 1)
  | none, some d => match Chomping.ofChar? (Spot.charAt t 1) with
    | some k => (k, some d, t.drop 2)
    | none => (.clip, some d, t.drop 1)
  | none, none => (.clip, none, t)

structure Block where
  /-- The columns of indentation, once they are known. -/
  indent : Option Nat
  deepest : Nat
  read : List Char
  lineEnd : List Char
  breaks : List Char
  wasBlank : Bool
  inLine : Bool

namespace Block

/-- The block when a line with content begins. In a folded block a line end between two lines that
do not begin with a blank becomes a space, or vanishes before blank lines. -/
def beginLine (folded : Bool) (b : Block) (c : Char) : Block :=
  let read :=
    if folded && b.lineEnd = ['\n'] && !b.wasBlank && !isGap c then
      if b.breaks.isEmpty then ' ' :: b.read else b.breaks ++ b.read
    else b.breaks ++ (b.lineEnd ++ b.read)
  { b with
    read := c :: read
    lineEnd := []
    breaks := []
    wasBlank := isGap c
    inLine := true }

def text (chomping : Chomping) (b : Block) : List Char :=
  let tail := match chomping with
    | .strip => []
    | .clip => b.lineEnd
    | .keep => b.breaks ++ b.lineEnd
  (tail ++ b.read).reverse

end Block

def readLines (folded : Bool) (chomping : Chomping) (outer : Int) (b : Block) :
    List Spot → Option (List Char × List Spot)
  | [] => some (b.text chomping, [])
  | s :: t =>
    let c := s.char
    let isIndentation := match b.indent with
      | none => true
      | some n => decide (s.column < n)
    if b.inLine then
      if isEnd c then some (b.text chomping, s :: t)
      else if isBreak c then
        readLines folded chomping outer { b with lineEnd := [c], inLine := false } t
      else readLines folded chomping outer { b with read := c :: b.read } t
    else if c = ' ' && isIndentation then readLines folded chomping outer b t
    else if c = '\t' && isIndentation then none
    else if isBreak c then
      readLines folded chomping outer
        { b with breaks := c :: b.breaks, deepest := max b.deepest s.column } t
    else
      let indent := b.indent.getD (max (max b.deepest s.column) (max (outer + 1).toNat 1))
      if s.column = indent && !isEnd c then
        readLines folded chomping outer ({ b with indent := some indent }.beginLine folded c) t
      else some (b.text chomping, s :: t)

def readBlock (folded : Bool) (outer : Int) (t : List Spot) : Option (List Char × List Spot) :=
  let (chomping, stated, t) := blockIndicators t
  if stated = some 0 then none
  else do
    let t ← Spot.endLine? t
    let indent := stated.map fun n => if outer ≥ 0 then outer.toNat + n else n
    readLines folded chomping outer ⟨indent, 0, [], [], [], false, false⟩ t

end Block
end FieldRules.Yaml
