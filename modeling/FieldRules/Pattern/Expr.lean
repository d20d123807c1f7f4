import FieldRules.Pattern.Look
import FieldRules.Pattern.Utf8

/-!
# Regular expressions

The expressions that patterns stand for. `size` is the number of bytes that the states of an
expression take when all its repetitions are written out, `programSize` that of a whole pattern.
-/

namespace FieldRules.Pattern

open Text (CodeSet)

inductive Expr
  | empty
  | chars (set : CodeSet)
  | look (look : Look)
  | group (body : Expr)
  | seq (first second : Expr)
  | alt (left right : Expr)
  | times (least : Nat) (most : Option Nat) (body : Expr)
  deriving DecidableEq, Repr

namespace Expr

def isBlank : Expr → Bool
  | empty | look _ => true
  | chars _ => false
  | group e => e.isBlank
  | seq e f => e.isBlank && f.isBlank
  | alt e f => e.isBlank && f.isBlank
  | times _ most e => most == some 0 || e.isBlank

def isOptional : Expr → Bool
  | empty | look _ => true
  | chars _ => false
  | group e => e.isOptional
  | seq e f => e.isOptional && f.isOptional
  | alt e f => e.isOptional || f.isOptional
  | times least _ e => least == 0 || e.isOptional

def followedBy : Expr → Expr → Expr
  | empty, f => f
  | e, empty => e
  | e, f => seq e f

/-- A choice of two expressions; single characters become one set. -/
def or : Expr → Expr → Expr
  | chars s, chars t => chars (s.union t)
  | e, f => alt e f

/-- A repetition. What matches only the empty text is not repeated more than once. -/
def repeated (least : Nat) (most : Option Nat) (e : Expr) : Expr :=
  let (least, most) :=
    if e.isBlank then (min least 1, some (min (most.getD 1) 1)) else (least, most)
  match least, most with
  | 0, some 0 => empty
  | 1, some 1 => e
  | _, _ => times least most e

def stateSize : Nat := 32

def branchSize (edges : Nat) : Nat := stateSize + 4 * edges

/-- The bytes of the states for a set of characters: a character is one state for each of its bytes,
a set of ASCII characters one state in all, and another set a tree of states. -/
def setSize (s : CodeSet) : Nat :=
  match s.ranges with
  | [] => stateSize
  | [(first, last)] => if first = last then stateSize * Utf8.width first else treeSize
  | _ => treeSize
where
  treeSize :=
    if s.ranges.all fun r => r.2 < 0x80 then 2 * stateSize + 8 * s.ranges.length
    else
      let sequences := Utf8.sequences s
      stateSize * (Utf8.treeSize [] sequences + 1) + branchSize sequences.length

def size : Expr → Nat
  | empty | look _ => stateSize
  | chars s => setSize s
  | group e => e.size + 2 * stateSize
  | seq e f => e.size + f.size
  | alt e f => e.size + f.size + branchSize 2 + stateSize
  | times 0 (some 1) e => e.size + branchSize 2 + stateSize
  | times 0 none e =>
    if e.isOptional then e.size + 2 * branchSize 2 + stateSize else e.size + branchSize 2
  | times least none e => least * e.size + branchSize 2
  | times least (some most) e =>
    if least = most then max stateSize (least * e.size)
    else least * e.size + stateSize + (most - least) * (e.size + branchSize 2)

def startsText : Expr → Bool
  | look .textStart => true
  | group e => e.startsText
  | seq e f => e.startsText || (e.isBlank && f.startsText)
  | alt e f => e.startsText && f.startsText
  | times least _ e => least != 0 && e.startsText
  | _ => false

/-- The bytes of all states of a pattern: those that skip what stands before a match, those of the
expression between the marks of the match's ends, and the last one. -/
def programSize (e : Expr) : Nat :=
  let skip := if e.startsText then stateSize else branchSize 2 + 2 * stateSize + 8
  skip + e.size + 3 * stateSize

end Expr
end FieldRules.Pattern
