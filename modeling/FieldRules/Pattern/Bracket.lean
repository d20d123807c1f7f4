import FieldRules.Pattern.Escape

/-!
# Bracketed classes

A class in brackets lists characters, ranges, other classes, and operations on what stands to their
left and right: `&&`, `--` and `~~`. A `Bracket` is a class that is still open, with what has been
read of it. The height of a class counts how deeply its parts are nested.
-/

namespace FieldRules.Pattern

open Text (CodeSet)

structure Operand where
  set : CodeSet
  height : Nat

structure Items where
  set : CodeSet
  count : Nat
  height : Nat

namespace Items

def empty : Items := ⟨.empty, 0, 0⟩

def add (items : Items) (o : Operand) : Items :=
  ⟨items.set.union o.set, items.count + 1, max items.height o.height⟩

/-- Several items are one level above the highest of them. -/
def close (items : Items) : Operand :=
  ⟨items.set, if items.count ≤ 1 then items.height else items.height + 1⟩

end Items

inductive SetOp
  | inter
  | diff
  | symmDiff
  deriving DecidableEq, Repr

namespace SetOp

def ofChar? : Char → Option SetOp
  | '&' => some .inter
  | '-' => some .diff
  | '~' => some .symmDiff
  | _ => none

def apply : SetOp → CodeSet → CodeSet → CodeSet
  | inter => CodeSet.inter
  | diff => CodeSet.diff
  | symmDiff => CodeSet.symmDiff

end SetOp

/-- How far the opening of a class has been read. A hyphen at the start stands for itself, and so
does a closing bracket before all else. -/
inductive Opening
  | caret
  | hyphens
  | done
  deriving DecidableEq, Repr

structure Bracket where
  opening : Opening
  negated : Bool
  /-- The operation before the current items, and its left side. -/
  pending : Option (SetOp × Operand)
  items : Items

namespace Bracket

def start : Bracket := ⟨.caret, false, none, .empty⟩

def add (b : Bracket) (o : Operand) : Bracket := { b with items := b.items.add o }

/-- What has been read, with the pending operation carried out. Case variants come first. -/
def operand (f : Flags) (b : Bracket) : Operand :=
  let right := b.items.close
  match b.pending with
  | none => right
  | some (op, left) =>
    ⟨op.apply (f.vary left.set) (f.vary right.set), max left.height right.height + 1⟩

/-- The class when an operation follows. Operations of all kinds group to the left. -/
def operate (f : Flags) (op : SetOp) (b : Bracket) : Bracket :=
  { b with pending := some (op, b.operand f), items := .empty }

def close (f : Flags) (b : Bracket) : Except Fault Operand := do
  let o := b.operand f
  return ⟨← f.negate b.negated (f.vary o.set), o.height + 1⟩

def namedSet? (name : String) : Option CodeSet :=
  let ranges := match name with
    | "alnum" => [('0', '9'), ('A', 'Z'), ('a', 'z')]
    | "alpha" => [('A', 'Z'), ('a', 'z')]
    | "ascii" => [('\x00', '\x7f')]
    | "blank" => [('\t', '\t'), (' ', ' ')]
    | "cntrl" => [('\x00', '\x1f'), ('\x7f', '\x7f')]
    | "digit" => [('0', '9')]
    | "graph" => [('!', '~')]
    | "lower" => [('a', 'z')]
    | "print" => [(' ', '~')]
    | "punct" => [('!', '/'), (':', '@'), ('[', '\x60'), ('\x7b', '~')]
    | "space" => [('\t', '\r'), (' ', ' ')]
    | "upper" => [('A', 'Z')]
    | "word" => [('0', '9'), ('A', 'Z'), ('_', '_'), ('a', 'z')]
    | "xdigit" => [('0', '9'), ('A', 'F'), ('a', 'f')]
    | _ => []
  if ranges.isEmpty then none else some (Escape.asciiSet ranges)

/-- A named class behind an opening bracket, such as `:alpha:]` or `:^alpha:]`, and the text after
it; nothing if the text is not of that form. -/
def readNamed (f : Flags) : List Char → Except Fault (Option (Operand × List Char))
  | ':' :: t =>
    let (negated, t) := match t with
      | '^' :: t => (true, t)
      | t => (false, t)
    let name := t.takeWhile (· ≠ ':')
    match namedSet? (String.ofList name), t.drop name.length with
    | some s, ':' :: ']' :: t => do return some (⟨← f.negate negated (f.vary s), 0⟩, t)
    | _, _ => .ok none
  | _ => .ok none

def readItem (f : Flags) (c : Char) (t : List Char) : Except Fault (Escape × List Char) :=
  if c = '\\' then Escape.read f t else .ok (.letter c false, t)

/-- A character in a class. Without Unicode classes it must be ASCII. -/
def letter (f : Flags) : Escape → Except Fault Char
  | .letter c isByte => do
    let c ← Escape.checkLetter f c isByte
    if !f.unicode && c.toNat > 0x7F then .error .needsUnicode else .ok c
  | _ => .error .badRange

def itemSet (f : Flags) (e : Escape) : Except Fault CodeSet :=
  match e with
  | .letter .. => do return .single (← letter f e).toNat
  | .set s => .ok s
  | .look _ => .error .badEscape

/-- The character that decides whether a hyphen, with which the text begins, makes a range: the next
one, or in spaced writing the next that is neither blank nor the first sign of a comment. -/
def afterHyphen (f : Flags) (t : List Char) : Option Char :=
  if f.spaced then
    match t.tail.dropWhile Text.isBlank with
    | '#' :: t => (t.dropWhile Text.isBlank).head?
    | t => t.head?
  else t.tail.head?

def readRange (f : Flags) (c : Char) (t : List Char) : Except Fault (CodeSet × List Char) := do
  let (first, t) ← readItem f c t
  let t := Spacing.drop f.spaced t
  let next := afterHyphen f t
  if t.head? = some '-' && next ≠ some ']' && next ≠ some '-' then
    match Spacing.drop f.spaced t.tail with
    | [] => .error .unclosedClass
    | d :: t =>
      let (last, t) ← readItem f d t
      let first ← letter f first
      let last ← letter f last
      if first ≤ last then return (⟨[(first.toNat, last.toNat)]⟩, t) else .error .badRange
  else return (← itemSet f first, t)

end Bracket
end FieldRules.Pattern
