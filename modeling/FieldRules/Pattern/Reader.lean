import FieldRules.Pattern.Bracket
import FieldRules.Pattern.Expr
import FieldRules.Text.Sign

/-!
# Reading patterns

A pattern is read in one pass. `Reading` is what has been read so far: the flags in force, the
groups and classes that are still open, and the parts of the innermost group. Each step takes at
least one character. The height of a part counts how deeply its own parts are nested.
-/

namespace FieldRules.Pattern

open Text (CodeSet)

structure Part where
  expr : Expr
  height : Nat

/-- Something in a row of parts. A change of flags stands in the row, but cannot be repeated. -/
structure Entry where
  part : Part
  isFlags : Bool

/-- A group that is still open: what to go back to when it ends. -/
structure Frame where
  isCapture : Bool
  flags : Flags
  branches : List Part
  row : List Entry

/-- The state of reading; the last branch, the last entry and the innermost group come first. -/
structure Reading where
  flags : Flags
  names : List (List Char)
  frames : List Frame
  branches : List Part
  row : List Entry
  brackets : List Bracket

namespace Part

def ofRow (row : List Entry) : Part :=
  let expr := row.foldl (fun e entry => entry.part.expr.followedBy e) .empty
  let height := row.foldl (fun h entry => max h entry.part.height) 0
  ⟨expr, if row.length ≤ 1 then height else height + 1⟩

def ofBranches : List Part → Part
  | [] => ⟨.empty, 0⟩
  | [p] => p
  | p :: more =>
    let expr := more.foldl (fun e q => q.expr.or e) p.expr
    ⟨expr, more.foldl (fun h q => max h q.height) p.height + 1⟩

end Part

namespace Reading

def start : Reading := ⟨.standard, [], [], [], [], []⟩

def push (r : Reading) (p : Part) : Reading := { r with row := ⟨p, false⟩ :: r.row }

def pushExpr (r : Reading) (e : Expr) : Reading := r.push ⟨e, 0⟩

def body (r : Reading) : Part := Part.ofBranches (Part.ofRow r.row :: r.branches)

def enter (r : Reading) (isCapture : Bool) (flags : Flags) : Reading :=
  let frame : Frame := ⟨isCapture, r.flags, r.branches, r.row⟩
  { r with flags := flags, frames := frame :: r.frames, branches := [], row := [] }

def leave (r : Reading) : Except Fault Reading :=
  match r.frames with
  | [] => .error .unopenedGroup
  | frame :: frames =>
    let body := r.body
    let expr := if frame.isCapture then .group body.expr else body.expr
    .ok ({ r with
      flags := frame.flags
      frames := frames
      branches := frame.branches
      row := frame.row }.push ⟨expr, body.height + 1⟩)

def repeatLast (r : Reading) (least : Nat) (most : Option Nat) : Except Fault Reading :=
  match r.row with
  | ⟨p, false⟩ :: row =>
    .ok ({ r with row := row }.push ⟨p.expr.repeated least most, p.height + 1⟩)
  | _ => .error .nothingToRepeat

/-- A decimal number with blanks around it, of at most thirty-two bits. -/
def readCount (t : List Char) : Except Fault Nat :=
  let digits := Text.trim t
  if digits.isEmpty || digits.any (!·.isDigit) then .error .badCount
  else
    let n := digits.foldl (fun n d => 10 * n + (d.toNat - '0'.toNat)) 0
    if n < Nat.pow 2 32 then .ok n else .error .badCount

def readCounts (content : List Char) : Except Fault (Nat × Option Nat) := do
  match content.span (· ≠ ',') with
  | (least, []) =>
    let n ← readCount least
    return (n, some n)
  | (least, [_]) => return (← readCount least, none)
  | (least, _ :: most) =>
    let n ← readCount least
    let m ← readCount most
    if n ≤ m then return (n, some m) else .error .badCount

def dropLazy : List Char → List Char
  | '?' :: t => t
  | t => t

def startsName (c : Char) : Bool := c == '_' || Text.alphabetic.contains c.toNat

def continuesName (c : Char) : Bool :=
  startsName c || c == '.' || c == '[' || c == ']'
    || (Text.Category.major 'N').contains c.toNat

def readName (t : List Char) : Except Fault (List Char × List Char) :=
  match t.span (· ≠ '>') with
  | (c :: name, _ :: t) =>
    if startsName c && name.all continuesName then .ok (c :: name, t) else .error .badGroupName
  | _ => .error .badGroupName

def enterNamed (r : Reading) (t : List Char) : Except Fault (Reading × List Char) := do
  let (name, t) ← readName t
  if r.names.contains name then .error .repeatedGroupName
  else return ({ r with names := name :: r.names }.enter true r.flags, t)

def stepGroup (r : Reading) (t : List Char) : Except Fault (Reading × List Char) :=
  match Spacing.drop r.flags.spaced t with
  | '?' :: '=' :: _ | '?' :: '!' :: _ | '?' :: '<' :: '=' :: _ | '?' :: '<' :: '!' :: _ =>
    .error .lookAround
  | '?' :: 'P' :: '<' :: t | '?' :: '<' :: t => r.enterNamed t
  | '?' :: t => do
    let (list, terminator, t) ← FlagList.empty.read t
    let flags := list.apply r.flags
    if terminator = ':' then return (r.enter false flags, t)
    else if list.changes.isEmpty then .error .nothingToRepeat
    else return ({ r with flags := flags, row := ⟨⟨.empty, 0⟩, true⟩ :: r.row }, t)
  | t => .ok (r.enter true r.flags, t)

def pushEscape (r : Reading) : Escape → Except Fault Reading
  | .letter c isByte => do
    let c ← Escape.checkLetter r.flags c isByte
    return r.pushExpr (.chars (r.flags.vary (.single c.toNat)))
  | .set s => .ok (r.pushExpr (.chars s))
  | .look l => .ok (r.pushExpr (.look l))

def dot (f : Flags) : Except Fault CodeSet :=
  if !f.unicode then .error .splitsCharacters
  else if f.dotAll then .ok .full
  else if f.crlf then .ok (CodeSet.complement ⟨[(0xA, 0xA), (0xD, 0xD)]⟩)
  else .ok (CodeSet.complement (.single 0xA))

def lineLook (f : Flags) (atStart : Bool) : Look :=
  match f.lines, f.crlf, atStart with
  | false, _, true => .textStart
  | false, _, false => .textEnd
  | true, false, true => .lineStart
  | true, false, false => .lineEnd
  | true, true, true => .crlfLineStart
  | true, true, false => .crlfLineEnd

def stepOutside (r : Reading) (c : Char) (t : List Char) : Except Fault (Reading × List Char) :=
  match c with
  | '(' => r.stepGroup t
  | ')' => do return (← r.leave, t)
  | '|' => .ok ({ r with branches := Part.ofRow r.row :: r.branches, row := [] }, t)
  | '[' => .ok ({ r with brackets := [.start] }, t)
  | '?' => do return (← r.repeatLast 0 (some 1), dropLazy t)
  | '*' => do return (← r.repeatLast 0 none, dropLazy t)
  | '+' => do return (← r.repeatLast 1 none, dropLazy t)
  | '\x7b' => do
    match Spacing.braced r.flags.spaced t with
    | none => .error .unclosedCount
    | some (content, t) =>
      let (least, most) ← readCounts content
      return (← r.repeatLast least most, dropLazy (Spacing.drop r.flags.spaced t))
  | '\\' => do
    let (e, t) ← Escape.read r.flags t
    return (← r.pushEscape e, t)
  | '.' => do return (r.pushExpr (.chars (← dot r.flags)), t)
  | '^' => .ok (r.pushExpr (.look (lineLook r.flags true)), t)
  | '$' => .ok (r.pushExpr (.look (lineLook r.flags false)), t)
  | c => do return (← r.pushEscape (.letter c false), t)

/-- A class goes into the one around it, or is a part of the pattern. -/
def pushClass (r : Reading) (o : Operand) : List Bracket → Reading
  | [] => { r with brackets := [] }.push ⟨.chars o.set, o.height⟩
  | outer :: more => { r with brackets := outer.add o :: more }

def stepItem (r : Reading) (b : Bracket) (outer : List Bracket) (c : Char) (t : List Char) :
    Except Fault (Reading × List Char) := do
  let f := r.flags
  let b := { b with opening := .done }
  match c, SetOp.ofChar? c with
  | '[', _ => match ← Bracket.readNamed f t with
    | some (o, t) => return ({ r with brackets := b.add o :: outer }, t)
    | none => return ({ r with brackets := .start :: b :: outer }, t)
  | ']', _ => return (r.pushClass (← b.close f) outer, t)
  | _, some op =>
    if t.head? = some c then return ({ r with brackets := b.operate f op :: outer }, t.tail)
    else
      let (s, t) ← Bracket.readRange f c t
      return ({ r with brackets := b.add ⟨s, 0⟩ :: outer }, t)
  | _, none =>
    let (s, t) ← Bracket.readRange f c t
    return ({ r with brackets := b.add ⟨s, 0⟩ :: outer }, t)

def stepInside (r : Reading) (b : Bracket) (outer : List Bracket) (c : Char) (t : List Char) :
    Except Fault (Reading × List Char) :=
  let literal := fun (c : Char) => b.add ⟨.single c.toNat, 0⟩
  match b.opening, c with
  | .caret, '^' =>
    .ok ({ r with brackets := { b with opening := .hyphens, negated := true } :: outer }, t)
  | .caret, '-' | .hyphens, '-' =>
    .ok ({ r with brackets := { literal '-' with opening := .hyphens } :: outer }, t)
  | .caret, ']' | .hyphens, ']' =>
    if b.items.count = 0 then
      .ok ({ r with brackets := { literal ']' with opening := .done } :: outer }, t)
    else r.stepItem b outer ']' t
  | _, c => r.stepItem b outer c t

def step (r : Reading) (c : Char) (t : List Char) : Except Fault (Reading × List Char) :=
  match r.brackets with
  | [] => r.stepOutside c t
  | b :: outer => r.stepInside b outer c t

def run : Nat → Reading → List Char → Except Fault Reading
  | 0, r, _ => .ok r
  | n + 1, r, t => match Spacing.drop r.flags.spaced t with
    | [] => .ok r
    | c :: t => do
      let (r, t) ← r.step c t
      r.run n t

def finish (r : Reading) : Except Fault Expr :=
  if !r.brackets.isEmpty then .error .unclosedClass
  else if !r.frames.isEmpty then .error .unclosedGroup
  else
    let body := r.body
    if body.height > nestLimit then .error .nestedTooDeeply
    else if body.expr.programSize > sizeLimit then .error .tooBig
    else .ok body.expr

end Reading

def Expr.ofText (t : List Char) : Except Fault Expr := do
  (← Reading.start.run t.length t).finish

end FieldRules.Pattern
