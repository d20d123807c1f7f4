import FieldRules.Text.CodeSet
import FieldRules.Text.Fold

/-!
# Case variants of sets

`withVariants` adds to a set all characters that differ from one of its members at most in case;
`withAsciiVariants` does so for the ASCII letters alone.
-/

namespace FieldRules.Text

def FoldRun.pairs (run : FoldRun) : List (Nat × Nat) :=
  (List.range ((run.last - run.first) / run.step + 1)).map fun k =>
    let n := run.first + k * run.step
    (n, (n + run.shift).toNat)

def foldPairs : List (Nat × Nat) := foldRuns.flatMap FoldRun.pairs

namespace CodeSet

/-- A set together with the partners of its members: a pair is added as a whole as soon as the
second of its components stands for a member. -/
def withPartners (pairs : List (Nat × Nat)) (s : CodeSet) : CodeSet :=
  let met := pairs.filter fun p => s.contains p.1 || s.contains p.2
  let leaders := CodeSet.ofRanges (met.map fun p => (p.2, p.2))
  let added := pairs.filter fun p => leaders.contains p.2
  s.union (ofRanges (added.flatMap fun p => [(p.1, p.1), (p.2, p.2)]))

def withVariants (s : CodeSet) : CodeSet := s.withPartners foldPairs

def withAsciiVariants (s : CodeSet) : CodeSet :=
  s.withPartners ((List.range 26).map fun k => (0x41 + k, 0x61 + k))

end CodeSet
end FieldRules.Text
