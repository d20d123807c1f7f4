import FieldRules.Binary64.Shortest

/-!
# Numbers as text

A layout fixes how the digits of a number are set out: where positional notation ends, whether whole
numbers keep a point, and how an exponent is signed. The digits are always the shortest ones.
-/

namespace FieldRules.Binary64

/-- How a number is set out. The point of `0.d₁d₂… · 10 ^ p` stands at `p`. -/
structure Layout where
  positional : Int → Bool
  keepsPoint : Bool
  signsExponent : Bool

def Layout.message : Layout := ⟨fun _ => true, false, false⟩

def Layout.document : Layout := ⟨fun p => -5 < p && p ≤ 16, true, true⟩

def Layout.description : Layout := ⟨fun p => -4 < p && p ≤ 16, true, false⟩

def positionalText (keepsPoint : Bool) (digits : List Char) (p : Int) : List Char :=
  if p ≤ 0 then '0' :: '.' :: (List.replicate (-p).toNat '0' ++ digits)
  else
    let whole := digits.take p.toNat
    let fraction := digits.drop p.toNat
    let whole := whole ++ List.replicate (p.toNat - whole.length) '0'
    if fraction.isEmpty then (if keepsPoint then whole ++ ['.', '0'] else whole)
    else whole ++ '.' :: fraction

def exponentText (signsExponent : Bool) (digits : List Char) (p : Int) : List Char :=
  let lead := match digits with
    | [] => []
    | [d] => [d]
    | d :: more => d :: '.' :: more
  let exponent := p - 1
  let sign := if exponent < 0 then ['-'] else if signsExponent then ['+'] else []
  lead ++ 'e' :: sign ++ Nat.toDigits 10 exponent.natAbs

def text (layout : Layout) (x : Binary64) : List Char :=
  let magnitude :=
    if x.units = 0 then positionalText layout.keepsPoint ['0'] 1
    else
      let d := shortest x.units
      let digits := Nat.toDigits 10 d.coefficient
      let p := digits.length + d.power
      if layout.positional p then positionalText layout.keepsPoint digits p
      else exponentText layout.signsExponent digits p
  if x.negative then '-' :: magnitude else magnitude

def messageText (x : Binary64) : String := String.ofList (x.text .message)

end FieldRules.Binary64
