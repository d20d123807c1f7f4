import FieldRules.Yaml.Spot

/-!
# Gaps in scalars

Blanks and line ends inside a scalar that is folded. Blanks around a line end vanish; one line end
becomes a space, and of several all but the first remain.
-/

namespace FieldRules.Yaml

structure Gap where
  blanks : List Char
  broken : Bool
  /-- The first line end, unless it was escaped. -/
  firstBreak : List Char
  breaks : List Char

namespace Gap

def none : Gap := ⟨[], false, [], []⟩

def escaped : Gap := ⟨[], true, [], []⟩

def isNone (g : Gap) : Bool := g.blanks.isEmpty && !g.broken

def addBlank (g : Gap) (c : Char) : Gap :=
  if g.broken then g else { g with blanks := c :: g.blanks }

def addBreak (g : Gap) (c : Char) : Gap :=
  if g.broken then { g with breaks := c :: g.breaks } else ⟨[], true, [c], []⟩

def text (g : Gap) : List Char :=
  if !g.broken then g.blanks.reverse
  else if g.firstBreak = ['\n'] then if g.breaks.isEmpty then [' '] else g.breaks.reverse
  else g.firstBreak ++ g.breaks.reverse

def onto (g : Gap) (read : List Char) : List Char := g.text.reverse ++ read

end Gap
end FieldRules.Yaml
