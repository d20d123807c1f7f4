import FieldRules.Pattern.Expr

/-!
# Expressions with marks

A marked expression is an expression in the middle of reading a text: a mark on a set of characters
says that one way of matching has just taken a character there. Repetitions are written out but for
the one that has no bound. `feed` moves all marks past one character at once, so a text is read in
one pass whatever the expression.
-/

namespace FieldRules.Pattern

open Text (CodeSet)

inductive Marked
  | empty
  | chars (set : CodeSet) (mark : Bool)
  | look (look : Look)
  | seq (first second : Marked)
  | alt (left right : Marked)
  | opt (body : Marked)
  | plus (body : Marked)

namespace Marked

/-- The expression so many times in a row. The halves are of about the same length. -/
def copies (e : Marked) (n : Nat) : Marked :=
  if n = 0 then empty
  else if n = 1 then e
  else seq (e.copies (n / 2)) (e.copies (n - n / 2))
termination_by n

def times (least : Nat) (most : Option Nat) (e : Marked) : Marked :=
  match least, most with
  | 0, none => opt (plus e)
  | n + 1, none => if n = 0 then plus e else seq (e.copies n) (plus e)
  | n, some m => if m ≤ n then e.copies n else
    if n = 0 then (opt e).copies m else seq (e.copies n) ((opt e).copies (m - n))

def ofExpr : Expr → Marked
  | .empty => empty
  | .chars s => chars s false
  | .look l => look l
  | .group e => ofExpr e
  | .seq e f => seq (ofExpr e) (ofExpr f)
  | .alt e f => alt (ofExpr e) (ofExpr f)
  | .times least most e => times least most (ofExpr e)

/-- Whether a way of matching stands behind the expression at a place, when one may stand before it
there (`entered`) or at one of its marks. -/
def leaves (p : Place) : Marked → Bool → Bool
  | empty, entered => entered
  | chars _ mark, _ => mark
  | look l, entered => entered && l.holds p
  | seq e f, entered => f.leaves p (e.leaves p entered)
  | alt e f, entered => e.leaves p entered || f.leaves p entered
  | opt e, entered => entered || e.leaves p entered
  | plus e, entered => e.leaves p entered

/-- The marks moved from a place past the character `c` behind it, and whether a way of matching
stood behind the expression at that place. -/
def feed (p : Place) (c : Char) : Marked → Bool → Marked × Bool
  | empty, entered => (empty, entered)
  | chars s mark, entered => (chars s (entered && s.contains c.toNat), mark)
  | look l, entered => (look l, entered && l.holds p)
  | seq e f, entered =>
    let (e, between) := e.feed p c entered
    let (f, behind) := f.feed p c between
    (seq e f, behind)
  | alt e f, entered =>
    let (e, left) := e.feed p c entered
    let (f, right) := f.feed p c entered
    (alt e f, left || right)
  | opt e, entered =>
    let (e, behind) := e.feed p c entered
    (opt e, entered || behind)
  | plus e, entered =>
    let behind := e.leaves p entered
    (plus (e.feed p c (entered || behind)).1, behind)

/-- Whether the expression matches somewhere in the text after `before`, or completes a match that
its marks have begun. -/
def search (e : Marked) (before : Option Char) : List Char → Bool
  | [] => e.leaves ⟨before, none⟩ true
  | c :: t =>
    let (e, found) := e.feed ⟨before, some c⟩ c true
    found || e.search (some c) t

end Marked
end FieldRules.Pattern
