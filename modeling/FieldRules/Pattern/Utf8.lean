import FieldRules.Text.CodeSet

/-!
# Characters as bytes

A range of characters is a union of sequences of byte ranges: those of its members' UTF-8 forms. The
sequences are listed in increasing order, and each has as many entries as the characters have bytes.
-/

namespace FieldRules.Pattern.Utf8

open Text (CodeSet)

def width (n : Nat) : Nat :=
  if n < 0x80 then 1 else if n < 0x800 then 2 else if n < 0x10000 then 3 else 4

def bytes (n : Nat) : List Nat :=
  let tail := fun k => 0x80 + n / Nat.pow 64 k % 64
  match width n with
  | 1 => [n]
  | 2 => [0xC0 + n / 64, tail 0]
  | 3 => [0xE0 + n / Nat.pow 64 2, tail 1, tail 0]
  | _ => [0xF0 + n / Nat.pow 64 3, tail 2, tail 1, tail 0]

/-- Where a range must be cut at multiples of `unit` so that its pieces have free lower digits: the
last code point of the first piece. -/
def cut? (first last unit : Nat) : Option Nat :=
  if first / unit = last / unit then none
  else if first % unit ≠ 0 then some (first / unit * unit + unit - 1)
  else if last % unit ≠ unit - 1 then some (last / unit * unit - 1)
  else none

/-- The code point behind which a range is cut first, if it has to be cut at all: at the borders of
the widths, around the surrogates, and at the multiples of the powers of 64. -/
def firstCut? (first last : Nat) : Option Nat :=
  let border := fun n => if first ≤ n && n < last then some n else none
  border 0xD7FF <|> border 0xDFFF <|> border 0x7F <|> border 0x7FF <|> border 0xFFFF <|>
    if last < 0x80 then none
    else cut? first last 64 <|> cut? first last (Nat.pow 64 2) <|> cut? first last (Nat.pow 64 3)

def sequencesWithin : Nat → Nat → Nat → List (List (Nat × Nat))
  | 0, _, _ => []
  | cuts + 1, first, last =>
    if 0xD800 ≤ first && last ≤ 0xDFFF then []
    else match firstCut? first last with
      | some n => sequencesWithin cuts first n ++ sequencesWithin cuts (n + 1) last
      | none => [(bytes first).zip (bytes last)]

/-- The byte sequences of a set. Each cut leaves pieces with fewer cuts to make, so sixty-four
levels are enough. -/
def sequences (s : CodeSet) : List (List (Nat × Nat)) :=
  s.ranges.flatMap fun r => sequencesWithin 64 r.1 r.2

def shared : List (Nat × Nat) → List (Nat × Nat) → Nat
  | a :: s, b :: t => if a = b then shared s t + 1 else 0
  | _, _ => 0

/-- The number of nodes of the tree in which each sequence continues the one before it as far as
both begin alike. -/
def treeSize : List (Nat × Nat) → List (List (Nat × Nat)) → Nat
  | _, [] => 0
  | previous, s :: more => s.length - shared previous s + treeSize s more

end FieldRules.Pattern.Utf8
