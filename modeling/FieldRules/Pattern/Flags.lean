import FieldRules.Pattern.Fault

/-!
# Flags

The flags in force at a point of a pattern. A group such as `(?i-x)` or `(?i-x:…)` turns flags on
and, after a hyphen, off.
-/

namespace FieldRules.Pattern

inductive Flag
  | caseless
  | lines
  | dotAll
  | lazy
  | crlf
  | unicode
  | spaced
  deriving DecidableEq, Repr

def Flag.ofLetter? : Char → Option Flag
  | 'i' => some .caseless
  | 'm' => some .lines
  | 's' => some .dotAll
  | 'U' => some .lazy
  | 'R' => some .crlf
  | 'u' => some .unicode
  | 'x' => some .spaced
  | _ => none

structure Flags where
  caseless : Bool
  /-- `^` and `$` stand for the ends of lines. -/
  lines : Bool
  /-- The dot stands for line ends too. -/
  dotAll : Bool
  /-- Lines may end with a carriage return. -/
  crlf : Bool
  unicode : Bool
  /-- Blanks and comments between the parts of a pattern mean nothing. -/
  spaced : Bool
  deriving DecidableEq, Repr

namespace Flags

def standard : Flags := ⟨false, false, false, false, true, false⟩

def set (f : Flags) (on : Bool) : Flag → Flags
  | .caseless => { f with caseless := on }
  | .lines => { f with lines := on }
  | .dotAll => { f with dotAll := on }
  | .lazy => f
  | .crlf => { f with crlf := on }
  | .unicode => { f with unicode := on }
  | .spaced => { f with spaced := on }

end Flags

structure FlagList where
  changes : List (Flag × Bool)
  negated : Bool
  dangling : Bool

namespace FlagList

def empty : FlagList := ⟨[], false, false⟩

def addFlag (l : FlagList) (flag : Flag) : Except Fault FlagList :=
  if l.changes.any fun p => p.1 = flag then .error .badFlags
  else .ok ⟨l.changes ++ [(flag, !l.negated)], l.negated, false⟩

def addHyphen (l : FlagList) : Except Fault FlagList :=
  if l.negated then .error .badFlags else .ok { l with negated := true, dangling := true }

def read (l : FlagList) : List Char → Except Fault (FlagList × Char × List Char)
  | [] => .error .unclosedGroup
  | c :: t =>
    if c = ':' || c = ')' then if l.dangling then .error .badFlags else .ok (l, c, t)
    else if c = '-' then do (← l.addHyphen).read t
    else match Flag.ofLetter? c with
      | some flag => do (← l.addFlag flag).read t
      | none => .error .badFlags

def apply (l : FlagList) (f : Flags) : Flags :=
  l.changes.foldl (fun f p => f.set p.2 p.1) f

end FlagList
end FieldRules.Pattern
