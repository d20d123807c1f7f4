/-!
# Sets of characters

A set of characters is a list of ranges of code points, in increasing order. The operations keep the
ranges apart: between two of them there is always a code point that is in neither.
-/

namespace FieldRules.Text

/-- A set of code points as inclusive ranges, lowest first. -/
structure CodeSet where
  ranges : List (Nat × Nat)
  deriving DecidableEq, Repr, Inhabited

namespace CodeSet

def top : Nat := 0x10FFFF

def inRanges : List (Nat × Nat) → Nat → Bool
  | [], _ => false
  | (first, last) :: more, n => if n < first then false else n ≤ last || inRanges more n

def contains (s : CodeSet) (n : Nat) : Bool := inRanges s.ranges n

def empty : CodeSet := ⟨[]⟩

def full : CodeSet := ⟨[(0, top)]⟩

def single (n : Nat) : CodeSet := ⟨[(n, n)]⟩

/-- A range put in front of ranges that start no earlier; it swallows those that it touches. -/
def joinFront (first last : Nat) : List (Nat × Nat) → List (Nat × Nat)
  | [] => [(first, last)]
  | (f, l) :: more =>
    if f ≤ last + 1 then joinFront first (max last l) more else (first, last) :: (f, l) :: more

def normalize (ranges : List (Nat × Nat)) : List (Nat × Nat) :=
  (ranges.mergeSort fun a b => a.1 ≤ b.1).foldr (fun r more => joinFront r.1 r.2 more) []

def ofRanges (ranges : List (Nat × Nat)) : CodeSet :=
  ⟨normalize (ranges.filter fun r => r.1 ≤ r.2)⟩

/-- The set of every `step`-th code point from `first` to `last`, for all runs `(first, last,
step)`. -/
def ofRuns (runs : List (Nat × Nat × Nat)) : CodeSet :=
  ofRanges (runs.flatMap fun (first, last, step) =>
    if step = 1 then [(first, last)]
    else (List.range ((last - first) / step + 1)).map fun k => (first + k * step, first + k * step))

def union (s t : CodeSet) : CodeSet := ofRanges (s.ranges ++ t.ranges)

def unionAll (sets : List CodeSet) : CodeSet := ofRanges (sets.flatMap ranges)

def gaps : Nat → List (Nat × Nat) → List (Nat × Nat)
  | low, [] => [(low, top)]
  | low, (first, last) :: more =>
    if low < first then (low, first - 1) :: gaps (last + 1) more else gaps (last + 1) more

def complement (s : CodeSet) : CodeSet := ofRanges (gaps 0 s.ranges)

def inter (s t : CodeSet) : CodeSet := (s.complement.union t.complement).complement

def diff (s t : CodeSet) : CodeSet := (s.complement.union t).complement

def symmDiff (s t : CodeSet) : CodeSet := (s.diff t).union (t.diff s)

def isEmpty (s : CodeSet) : Bool := s.ranges.isEmpty

def subset (s t : CodeSet) : Bool := (s.diff t).isEmpty

end CodeSet
end FieldRules.Text
