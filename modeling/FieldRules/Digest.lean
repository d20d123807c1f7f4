/-!
# Digests

A digest folds a list of bytes into 64 bits: SipHash with the zero key, one round for each word of
eight bytes and three rounds at the end. The last word holds the bytes that are left over and, in
its highest byte, the length of the list. What a digest is taken of is first written down as bytes,
each text and each number in a form that shows where it ends.
-/

namespace FieldRules.Digest

structure State where
  a : UInt64
  b : UInt64
  c : UInt64
  d : UInt64

namespace State

def start : State :=
  ⟨0x736f6d6570736575, 0x646f72616e646f6d, 0x6c7967656e657261, 0x7465646279746573⟩

def rotated (w : UInt64) (bits : UInt64) : UInt64 := (w <<< bits) ||| (w >>> (64 - bits))

def round (s : State) : State :=
  let a := s.a + s.b
  let c := s.c + s.d
  let b := rotated s.b 13 ^^^ a
  let d := rotated s.d 16 ^^^ c
  let a := rotated a 32
  let c := c + b
  let a := a + d
  let b := rotated b 17 ^^^ c
  let d := rotated d 21 ^^^ a
  ⟨a, b, rotated c 32, d⟩

def absorb (s : State) (word : UInt64) : State :=
  let s := round { s with d := s.d ^^^ word }
  { s with a := s.a ^^^ word }

def finish (s : State) : UInt64 :=
  let s := round (round (round { s with c := s.c ^^^ 0xff }))
  s.a ^^^ s.b ^^^ s.c ^^^ s.d

end State

def word (bytes : List UInt8) : UInt64 := bytes.foldr (fun b w => w <<< 8 ||| b.toUInt64) 0

/-- The words of a list of bytes; the last one ends with the `length` of the whole list. -/
def words (length : Nat) : List UInt8 → List UInt64
  | a :: b :: c :: d :: e :: f :: g :: h :: rest =>
    word [a, b, c, d, e, f, g, h] :: words length rest
  | rest => [word rest ||| UInt64.ofNat length <<< 56]

def ofBytes (bytes : List UInt8) : UInt64 :=
  ((words bytes.length bytes).foldl State.absorb State.start).finish

def number (n : Nat) : List UInt8 := (List.range 8).map fun i => UInt8.ofNat (n / Nat.pow 256 i)

/-- The bytes of a text and one that is in no text. -/
def text (s : String) : List UInt8 := s.toList.flatMap String.utf8EncodeChar ++ [0xff]

example : ofBytes [] = 0xd1fba762150c532c := by decide +kernel

end FieldRules.Digest
