import FieldRules.Log.Line
import FieldRules.Pattern
import FieldRules.Text.Blank
import FieldRules.Text.Pieces

/-!
# Log filters

A filter decides which lines of a log are shown. Its directives give thresholds to the targets that
begin with a name; the directive with the longest such name decides. A pattern may restrict the log
further, to lines whose text it occurs in. Filters are written as directives between commas, with
the pattern after a slash; parts of a specification that make no sense are left out with a
complaint.
-/

namespace FieldRules.Log

/-- The last level that is shown, if any is. -/
abbrev Threshold := Option Level

def Threshold.admits (t : Threshold) (l : Level) : Bool := t.any fun last => l.rank ≤ last.rank

def Threshold.ofName? (name : String) : Option Threshold :=
  if name.toUpper = "OFF" then some none
  else (Level.all.find? fun l => l.name = name.toUpper).map some

structure Directive where
  name : Option String
  threshold : Threshold
  deriving DecidableEq, Repr

namespace Directive

def covers (d : Directive) (target : String) : Bool :=
  (d.name.getD "").toList.isPrefixOf target.toList

def reach (d : Directive) : Nat := (d.name.getD "").length

end Directive

structure Filter where
  directives : List Directive
  pattern : Option Pattern

namespace Filter

def empty : Filter := ⟨[], none⟩

/-- A directive replaces an older one of the same name in its place. -/
def insert (d : Directive) : List Directive → List Directive
  | [] => [d]
  | old :: rest => if old.name = d.name then d :: rest else old :: insert d rest

def addDirective (f : Filter) (d : Directive) : Filter :=
  { f with directives := insert d f.directives }

/-- Without any directive errors are shown. -/
def effective (f : Filter) : List Directive :=
  if f.directives.isEmpty then [⟨none, some .error⟩] else f.directives

/-- The better of two directives: the one that names more, and of equals the later one. -/
def better (best : Option Directive) (d : Directive) : Option Directive :=
  match best with
  | some b => if b.reach ≤ d.reach then some d else some b
  | none => some d

def threshold (f : Filter) (target : String) : Threshold :=
  ((f.effective.filter fun d => d.covers target).foldl better none).bind Directive.threshold

def shows (f : Filter) (l : Line) : Bool :=
  (f.threshold l.target).admits l.level && f.pattern.all fun p => p.occursIn l.text

/-- The directive that a part of a specification states, or the text that makes no sense. A name
alone shows everything below it. -/
def directiveOf (part : String) : Except String Directive :=
  match Text.pieces '=' part with
  | [whole] => match Threshold.ofName? whole with
    | some t => .ok ⟨none, t⟩
    | none => .ok ⟨some whole, some .trace⟩
  | [name, level] =>
    let level := Text.trimmed level
    if level = "" then .ok ⟨some name, some .trace⟩
    else match Threshold.ofName? level with
      | some t => .ok ⟨some name, t⟩
      | none => .error level
  | _ => .error part

structure Reading where
  filter : Filter
  complaints : List String

namespace Reading

def complain (r : Reading) (text : String) : Reading :=
  { r with complaints := r.complaints ++ [s!"warning: {text}, ignoring it"] }

def addPart (r : Reading) (part : String) : Reading :=
  match directiveOf part with
  | .ok d => { r with filter := r.filter.addDirective d }
  | .error text => r.complain s!"invalid logging spec '{text}'"

def addPattern (wording : String → String) (r : Reading) (source : String) : Reading :=
  match Pattern.ofString source with
  | .ok p => { r with filter := { r.filter with pattern := some p } }
  | .error _ => r.complain s!"invalid regex filter - {wording source}"

def ofParts (text : String) : Reading :=
  (((Text.pieces ',' text).map Text.trimmed).filter (· ≠ "")).foldl addPart ⟨.empty, []⟩

end Reading

/-- The `wording` says what is wrong with a pattern. -/
def ofString (wording : String → String) (spec : String) : Reading :=
  match Text.pieces '/' spec with
  | [parts] => .ofParts parts
  | [parts, pattern] => (Reading.ofParts parts).addPattern wording pattern
  | _ => (⟨.empty, []⟩ : Reading).complain s!"invalid logging spec '{spec}' (too many '/'s)"

end Filter
end FieldRules.Log
