import FieldRules.Pattern.Marked
import FieldRules.Pattern.Reader

/-!
# Patterns

A pattern is a regular expression together with the text that spells it. It occurs in a string when
it matches some stretch of it; a pattern that is to match the whole string says so itself.
-/

namespace FieldRules

structure Pattern where
  source : String
  marked : Pattern.Marked

namespace Pattern

def ofString (source : String) : Except Fault Pattern :=
  (Expr.ofText source.toList).map fun e => ⟨source, .ofExpr e⟩

def occursIn (p : Pattern) (s : String) : Bool := p.marked.search none s.toList

theorem source_of_ofString {s : String} {p : Pattern} (h : ofString s = .ok p) : p.source = s := by
  unfold ofString at h
  cases he : Expr.ofText s.toList with
  | error f => simp [he, Except.map] at h
  | ok e =>
    rw [he] at h
    cases h
    rfl

end Pattern
end FieldRules
