import FieldRules.Json.Printer
import FieldRules.Json.Token
import FieldRules.Proofs.ReadValues
import FieldRules.Proofs.WholeNumbers
import Mathlib.Data.List.TakeWhile

/-!
# The tokens of a written value

The lexer finds in the text of a value the tokens that the value is made of, whatever the nesting
level at which it was written. Strings come back whole because each escape is undone. A run of
characters comes back only when something ends it, so `Lexes` asks for a character behind the text.
Integers of at most 64 bits, and the two zeros among the floats, are spelled by runs that denote
them again.
-/

namespace FieldRules.Json

namespace Lexer

def run (t : List Char) (l : Lexer) : Option Lexer := t.foldlM step l

theorem run_cons (c : Char) (t : List Char) (l : Lexer) : run (c :: t) l = (l.step c).bind (run t) :=
  List.foldlM_cons

theorem run_cons_of_step {c : Char} {t : List Char} {l l' : Lexer} (h : l.step c = some l') :
    run (c :: t) l = run t l' := by
  rw [run_cons, h, Option.bind_some]

/-- Between tokens, the text spells the given ones if something behind it ends a run. -/
def Lexes (t : List Char) (tokens : List Token) : Prop :=
  ∀ before c rest, endsRun c = true →
    run (t ++ c :: rest) ⟨before, .between⟩ = run (c :: rest) ⟨tokens.reverse ++ before, .between⟩

theorem lexes_nil : Lexes [] [] := fun _ _ _ _ => rfl

theorem Lexes.append {t t' : List Char} {c : Char} {tokens tokens' : List Token} (h : Lexes t tokens)
    (hc : endsRun c = true) (h' : Lexes (c :: t') tokens') :
    Lexes (t ++ c :: t') (tokens ++ tokens') := by
  intro before d rest hd
  have hrest := h before c (t' ++ d :: rest) hc
  have hrest' := h' (tokens.reverse ++ before) d rest hd
  rw [List.append_assoc, List.cons_append, hrest, ← List.cons_append, hrest', List.reverse_append,
    List.append_assoc]

theorem Lexes.gap {c : Char} (hc : isGap c = true) {t : List Char} {tokens : List Token}
    (h : Lexes t tokens) : Lexes (c :: t) tokens := by
  intro before d rest hd
  have hstep : (⟨before, .between⟩ : Lexer).step c = some ⟨before, .between⟩ := by
    simp only [step, fresh, hc, if_true]
  rw [List.cons_append, run_cons_of_step hstep]
  exact h before d rest hd

theorem step_of_punctuation {c : Char} {token : Token} (hc : Token.ofPunctuation? c = some token)
    (before : List Token) :
    (⟨before, .between⟩ : Lexer).step c = some ⟨token :: before, .between⟩ := by
  have hgap : isGap c = false := by
    unfold Token.ofPunctuation? at hc
    split at hc <;> first | rfl | cases hc
  have hquote : c ≠ '"' := by
    rintro rfl
    cases hc
  simp only [step, fresh, hgap, hquote, hc, if_false, Bool.false_eq_true]

theorem Lexes.punctuation {c : Char} {token : Token} (hc : Token.ofPunctuation? c = some token)
    {t : List Char} {tokens : List Token} (h : Lexes t tokens) : Lexes (c :: t) (token :: tokens) := by
  intro before d rest hd
  rw [List.cons_append, run_cons_of_step (step_of_punctuation hc before), h _ d rest hd,
    List.reverse_cons, List.append_assoc, List.singleton_append]

theorem Lexes.newline {t : List Char} {tokens : List Token} (h : Lexes t tokens) (level : Nat) :
    Lexes (Json.newline level ++ t) tokens := by
  have hspaces : ∀ n, Lexes (List.replicate n ' ' ++ t) tokens := by
    intro n
    induction n with
    | zero => exact h
    | succ n ih => exact ih.gap rfl
  exact (hspaces (2 * level)).gap rfl

structure Spells (t : List Char) (token : Token) : Prop where
  run_ne_nil : t ≠ []
  goes_on : t.any endsRun = false
  denotes : Token.ofBare? t = some token

theorem run_bare {t : List Char} (ht : t.any endsRun = false) (before : List Token)
    (read rest : List Char) :
    run (t ++ rest) ⟨before, .bare read⟩ = run rest ⟨before, .bare (t.reverse ++ read)⟩ := by
  induction t generalizing read with
  | nil => rfl
  | cons c t ih =>
      rw [List.any_cons, Bool.or_eq_false_iff] at ht
      obtain ⟨hc, ht⟩ := ht
      have hstep : (⟨before, .bare read⟩ : Lexer).step c = some ⟨before, .bare (c :: read)⟩ := by
        simp only [step, hc, if_false, Bool.false_eq_true]
      rw [List.cons_append, run_cons_of_step hstep, ih ht, List.reverse_cons, List.append_assoc,
        List.singleton_append]

theorem fresh_of_not_endsRun {c : Char} (hc : endsRun c = false) (before : List Token) :
    fresh before c = ⟨before, .bare [c]⟩ := by
  simp only [endsRun, Bool.or_eq_false_iff, beq_eq_false_iff_ne, Option.isSome_eq_false_iff,
    Option.isNone_iff_eq_none] at hc
  simp only [fresh, hc.1.1, hc.1.2, hc.2, if_false, Bool.false_eq_true]

theorem Spells.lexes {t : List Char} {token : Token} (h : Spells t token) : Lexes t [token] := by
  intro before d rest hd
  obtain ⟨hne, hgoes, htoken⟩ := h
  cases t with
  | nil => exact absurd rfl hne
  | cons c t =>
      rw [List.any_cons, Bool.or_eq_false_iff] at hgoes
      obtain ⟨hc, ht⟩ := hgoes
      have hfirst : (⟨before, .between⟩ : Lexer).step c = some ⟨before, .bare [c]⟩ :=
        congrArg some (fresh_of_not_endsRun hc before)
      have hlast : (⟨before, .bare (t.reverse ++ [c])⟩ : Lexer).step d =
          (⟨token :: before, .between⟩ : Lexer).step d := by
        have hread : (t.reverse ++ [c]).reverse = c :: t := by
          rw [List.reverse_append, List.reverse_reverse, List.reverse_singleton, List.singleton_append]
        simp only [step, hd, if_true, hread, htoken, Option.map_some]
      rw [List.cons_append, run_cons_of_step hfirst, run_bare ht, run_cons, hlast, ← run_cons]
      rfl

theorem hexValue?_hexDigit : ∀ n < 16, hexValue? (hexDigit n) = some n := by
  decide +kernel

theorem run_unit {c : Char} (hc : c.toNat < 0x20) (before : List Token) (read rest : List Char) :
    run ('\\' :: 'u' :: '0' :: '0' :: hexDigit (c.toNat / 16) :: hexDigit (c.toNat % 16) :: rest)
      ⟨before, .string read⟩ = run rest ⟨before, .string (c :: read)⟩ := by
  have hhigh : hexValue? (hexDigit (c.toNat / 16)) = some (c.toNat / 16) :=
    hexValue?_hexDigit _ (by omega)
  have hlow : hexValue? (hexDigit (c.toNat % 16)) = some (c.toNat % 16) :=
    hexValue?_hexDigit _ (by omega)
  have hfirst : (⟨before, .unit read none 2 0⟩ : Lexer).step (hexDigit (c.toNat / 16)) =
      some ⟨before, .unit read none 3 (16 * 0 + c.toNat / 16)⟩ := by
    simp only [step, hhigh]
    rfl
  have hvalue : 16 * (16 * 0 + c.toNat / 16) + c.toNat % 16 = c.toNat := by omega
  have hmode : Mode.ofUnit? read none c.toNat = some (.string (c :: read)) := by
    have hhigh : ¬(0xD800 ≤ c.toNat ∧ c.toNat < 0xDC00) := by omega
    have hlow : ¬(0xDC00 ≤ c.toNat ∧ c.toNat < 0xE000) := by omega
    simp only [Mode.ofUnit?, Bool.and_eq_true, decide_eq_true_eq, hhigh, hlow, if_false,
      Char.ofNat_toNat]
  have hsecond : (⟨before, .unit read none 3 (16 * 0 + c.toNat / 16)⟩ : Lexer).step
      (hexDigit (c.toNat % 16)) = some ⟨before, .string (c :: read)⟩ := by
    simp only [step, hlow, Option.bind_eq_bind, Option.bind_some, hvalue, if_true, hmode]
    rfl
  calc run ('\\' :: 'u' :: '0' :: '0' :: hexDigit (c.toNat / 16) :: hexDigit (c.toNat % 16) :: rest)
        ⟨before, .string read⟩
      = run (hexDigit (c.toNat / 16) :: hexDigit (c.toNat % 16) :: rest)
          ⟨before, .unit read none 2 0⟩ := rfl
    _ = run rest ⟨before, .string (c :: read)⟩ := by
        rw [run_cons_of_step hfirst, run_cons_of_step hsecond]

/-- Each escape is undone. -/
theorem run_escape (c : Char) (before : List Token) (read rest : List Char) :
    run (escape c ++ rest) ⟨before, .string read⟩ = run rest ⟨before, .string (c :: read)⟩ := by
  unfold escape
  split
  case h_8 =>
    rename_i hquote hbackslash _ _ _ _ _
    split
    · rename_i hcontrol
      exact run_unit hcontrol before read rest
    · rename_i hprintable
      have hstep : (⟨before, .string read⟩ : Lexer).step c = some ⟨before, .string (c :: read)⟩ := by
        dsimp only [step]
        rw [if_neg hquote, if_neg hbackslash, if_neg hprintable]
      exact run_cons_of_step hstep
  all_goals rfl

theorem run_escaped (s : List Char) (before : List Token) (read rest : List Char) :
    run (s.flatMap escape ++ rest) ⟨before, .string read⟩ =
      run rest ⟨before, .string (s.reverse ++ read)⟩ := by
  induction s generalizing read with
  | nil => rfl
  | cons c s ih =>
      rw [List.flatMap_cons, List.append_assoc, run_escape, ih, List.reverse_cons, List.append_assoc,
        List.singleton_append]

theorem lexes_quoted (s : String) : Lexes (quoted s) [.string s] := by
  intro before d rest _
  have hopen : (⟨before, .between⟩ : Lexer).step '"' = some ⟨before, .string []⟩ := rfl
  have hclose : (⟨before, .string (s.toList.reverse ++ [])⟩ : Lexer).step '"' =
      some ⟨.string s :: before, .between⟩ := by
    have hread : String.ofList (s.toList.reverse ++ []).reverse = s := by
      rw [List.append_nil, List.reverse_reverse, String.ofList_toList]
    simp only [step, if_true, hread]
  rw [quoted, List.cons_append, List.cons_append, run_cons_of_step hopen, List.append_assoc,
    run_escaped, List.singleton_append, run_cons_of_step hclose]
  rfl

end Lexer

section Numbers

open Lexer (Spells endsRun)
open Numeral (isDigit_of_mem_toDigits)

/-- A decimal spelling has no leading zero, zero apart. -/
theorem head?_toDigits_ne_zero {n : Nat} (h : 0 < n) : (Nat.toDigits 10 n).head? ≠ some '0' := by
  induction n using Nat.strongRecOn with
  | _ n ih =>
      rw [Nat.toDigits_eq_if (by decide)]
      split
      · rename_i hlt
        have hdigit : ∀ d < 10, 0 < d → [Nat.digitChar d].head? ≠ some '0' := by decide
        exact hdigit n hlt h
      · have hhead := ih (n / 10) (by omega) (by omega)
        rwa [List.head?_append_of_ne_nil _ Nat.toDigits_ne_nil]

theorem isDigit_of_endsRun {c : Char} (h : endsRun c = true) : c.isDigit = false := by
  simp only [endsRun, isGap, Bool.or_eq_true, beq_iff_eq] at h
  rcases h with ((((rfl | rfl) | rfl) | rfl) | rfl) | h
  case inr =>
    unfold Token.ofPunctuation? at h
    split at h <;> first | rfl | cases h
  all_goals rfl

theorem endsRun_of_isDigit {c : Char} (h : c.isDigit = true) : endsRun c = false := by
  cases hends : endsRun c with
  | false => rfl
  | true =>
      rw [isDigit_of_endsRun hends] at h
      cases h

theorem ofText?_toDigits (sign : Option Char) (hsign : sign = none ∨ sign = some '-') (n : Nat) :
    Numeral.ofText? (sign.toList ++ Nat.toDigits 10 n) =
      some ⟨sign, Nat.toDigits 10 n, none, none⟩ := by
  rw [Numeral.ofText?_of_isWhole (Numeral.isWhole_toDigits hsign n),
    Numeral.splitSign_toDigits hsign]

theorem isStrict_toDigits {sign : Option Char} (hsign : sign = none ∨ sign = some '-') (n : Nat) :
    isStrict ⟨sign, Nat.toDigits 10 n, none, none⟩ = true := by
  have hplus : (sign != some '+') = true := by rcases hsign with rfl | rfl <;> rfl
  have hdigits : (Nat.toDigits 10 n).isEmpty = false :=
    List.isEmpty_eq_false_iff.2 Nat.toDigits_ne_nil
  have hlead : ((Nat.toDigits 10 n).length == 1 || (Nat.toDigits 10 n).head? != some '0') = true := by
    rcases Nat.eq_zero_or_pos n with rfl | hn
    · rfl
    · rw [bne_iff_ne.2 (head?_toDigits_ne_zero hn), Bool.or_true]
  simp only [isStrict, hplus, hdigits, hlead]
  rfl

theorem spells_of_numberOf? {sign : Option Char} (hsign : sign = none ∨ sign = some '-') {n : Nat}
    {i : Int} (h : numberOf? ⟨sign, Nat.toDigits 10 n, none, none⟩ = some (.integer i)) :
    Spells (sign.toList ++ Nat.toDigits 10 n) (.scalar (.number (.integer i))) where
  run_ne_nil := List.append_ne_nil_of_right_ne_nil _ Nat.toDigits_ne_nil
  goes_on := by
    have hlead : sign.toList.any endsRun = false := by rcases hsign with rfl | rfl <;> rfl
    have hdigits : (Nat.toDigits 10 n).any endsRun = false := by
      rw [List.any_eq_false]
      intro c hc
      rw [endsRun_of_isDigit (isDigit_of_mem_toDigits c hc)]
      exact Bool.false_ne_true
    rw [List.any_append, hlead, hdigits]
    rfl
  denotes := by
    have hne (word : List Char) (c : Char) (hc : c ∈ word) (hdash : c ≠ '-')
        (hdigit : c.isDigit = false) : sign.toList ++ Nat.toDigits 10 n ≠ word := by
      rintro rfl
      rcases List.mem_append.1 hc with hc | hc
      · rcases hsign with rfl | rfl
        · cases hc
        · exact hdash (List.mem_singleton.1 hc)
      · rw [isDigit_of_mem_toDigits c hc] at hdigit
        cases hdigit
    have hnull := hne ['n', 'u', 'l', 'l'] 'n' (by decide) (by decide) (by decide)
    have htrue := hne ['t', 'r', 'u', 'e'] 't' (by decide) (by decide) (by decide)
    have hfalse := hne ['f', 'a', 'l', 's', 'e'] 'f' (by decide) (by decide) (by decide)
    rw [Token.ofBare?, if_neg hnull, if_neg htrue, if_neg hfalse, ofText?_toDigits sign hsign]
    simp only [Option.bind_eq_bind, Option.bind_some, isStrict_toDigits hsign, if_true, h]
    rfl

theorem spells_integer {i : Int} (h : Value.FitsWord i) :
    Spells (Number.integer i).text (.scalar (.number (.integer i))) := by
  obtain ⟨hleast, hmost⟩ := h
  have hdigits : Numeral.ofDigits (Nat.toDigits 10 i.natAbs) = i.natAbs :=
    Nat.ofDigitChars_toDigits (by decide) (by decide)
  rw [Number.text]
  split
  · rename_i hneg
    have hsize : i.natAbs ≤ Nat.pow 2 63 := by omega
    have hne : i ≠ 0 := by omega
    have hvalue : -(i.natAbs : Int) = i := by omega
    have hnumber : numberOf? ⟨some '-', Nat.toDigits 10 i.natAbs, none, none⟩ =
        some (.integer (-(i.natAbs : Int))) := by
      have hnonzero : (i.natAbs != 0) = true := bne_iff_ne.2 (Int.natAbs_ne_zero.2 hne)
      simp only [numberOf?, hdigits, hnonzero, decide_eq_true hsize]
      rfl
    rw [hvalue] at hnumber
    exact spells_of_numberOf? (.inr rfl) hnumber
  · rename_i hpos
    have hsize : i.natAbs < Nat.pow 2 64 := by omega
    have hvalue : (i.natAbs : Int) = i := by omega
    have hnumber : numberOf? ⟨none, Nat.toDigits 10 i.natAbs, none, none⟩ =
        some (.integer (i.natAbs : Int)) := by
      simp only [numberOf?, hdigits, decide_eq_true hsize]
      rfl
    rw [hvalue] at hnumber
    exact spells_of_numberOf? (.inl rfl) hnumber

theorem spells_zero {x : Binary64} (h : x.units = 0) :
    Spells (Number.float x).text (.scalar (.number (.float x))) := by
  obtain ⟨negative, units⟩ := x
  subst h
  cases negative with
  | true => exact ⟨by decide, by decide, by decide +kernel⟩
  | false => exact ⟨by decide, by decide, by decide +kernel⟩

end Numbers

mutual

def tokensOf : Value → List Token
  | .string s => [.string s]
  | .array items => .openArray :: tokensOfItems items
  | .object members => .openObject :: tokensOfMembers members
  | v => [.scalar v]

def tokensOfItems : List Value → List Token
  | [] => [.closeArray]
  | [v] => tokensOf v ++ [.closeArray]
  | v :: rest => tokensOf v ++ .comma :: tokensOfItems rest

def tokensOfMembers : List (String × Value) → List Token
  | [] => [.closeObject]
  | [(k, v)] => .string k :: .colon :: tokensOf v ++ [.closeObject]
  | (k, v) :: rest => .string k :: .colon :: tokensOf v ++ .comma :: tokensOfMembers rest

end

def NumbersSpelled : Value.Frame → Prop
  | .number n => Lexer.Spells n.text (.scalar (.number n))
  | _ => True

open Lexer (Lexes Spells)

theorem tokensOfItems_cons (v : Value) {rest : List Value} (h : rest ≠ []) :
    tokensOfItems (v :: rest) = tokensOf v ++ .comma :: tokensOfItems rest := by
  cases rest with
  | nil => exact absurd rfl h
  | cons w rest => rfl

theorem tokensOfMembers_cons (key : String) (v : Value) {rest : List (String × Value)}
    (h : rest ≠ []) :
    tokensOfMembers ((key, v) :: rest) =
      .string key :: .colon :: tokensOf v ++ .comma :: tokensOfMembers rest := by
  cases rest with
  | nil => exact absurd rfl h
  | cons m rest => rfl

theorem prettyItems_cons (level : Nat) (v : Value) {rest : List Value} (h : rest ≠ []) :
    prettyItems level (v :: rest) =
      newline (level + 1) ++ prettyAt (level + 1) v ++ ',' :: prettyItems level rest := by
  cases rest with
  | nil => exact absurd rfl h
  | cons w rest => rfl

theorem prettyMembers_cons (level : Nat) (key : String) (v : Value) {rest : List (String × Value)}
    (h : rest ≠ []) :
    prettyMembers level ((key, v) :: rest) =
      newline (level + 1) ++ quoted key ++ ':' :: ' ' :: prettyAt (level + 1) v
        ++ ',' :: prettyMembers level rest := by
  cases rest with
  | nil => exact absurd rfl h
  | cons m rest => rfl

theorem lexes_closeArray : Lexes [']'] [.closeArray] := Lexes.punctuation rfl Lexer.lexes_nil

theorem lexes_closeObject : Lexes ['}'] [.closeObject] := Lexes.punctuation rfl Lexer.lexes_nil

theorem lexes_member (level : Nat) (key : String) {t : List Char} {tokens : List Token}
    (h : Lexes t tokens) :
    Lexes (newline level ++ quoted key ++ ':' :: ' ' :: t) (.string key :: .colon :: tokens) := by
  have hcolon : Lexes (':' :: ' ' :: t) (.colon :: tokens) := Lexes.punctuation rfl (h.gap rfl)
  rw [List.append_assoc]
  exact ((Lexer.lexes_quoted key).append rfl hcolon).newline level

mutual

theorem lexes_prettyAt (level : Nat) (v : Value) (h : v.Every NumbersSpelled) :
    Lexes (prettyAt level v) (tokensOf v) := by
  cases v with
  | null =>
      have hspells : Spells nullText (.scalar .null) := ⟨by decide, rfl, rfl⟩
      exact hspells.lexes
  | bool b =>
      have hspells : Spells (boolText b) (.scalar (.bool b)) := by
        cases b with
        | true => exact ⟨by decide, rfl, rfl⟩
        | false => exact ⟨by decide, rfl, rfl⟩
      exact hspells.lexes
  | number n => exact Spells.lexes h.here
  | string s => exact Lexer.lexes_quoted s
  | array items =>
      by_cases hempty : items = []
      · subst hempty
        exact Lexes.punctuation rfl lexes_closeArray
      · have hitems := lexes_prettyItems level items hempty fun w hw => h.within hw
        rw [prettyAt, tokensOf]
        · exact Lexes.punctuation rfl hitems
        · exact hempty
  | object members =>
      by_cases hempty : members = []
      · subst hempty
        exact Lexes.punctuation rfl lexes_closeObject
      · have hmembers := lexes_prettyMembers level members hempty fun m hm =>
          h.within (List.mem_map_of_mem hm)
        rw [prettyAt, tokensOf]
        · exact Lexes.punctuation rfl hmembers
        · exact hempty

theorem lexes_prettyItems (level : Nat) (items : List Value) (hne : items ≠ [])
    (h : ∀ v ∈ items, v.Every NumbersSpelled) :
    Lexes (prettyItems level items) (tokensOfItems items) := by
  cases items with
  | nil => exact absurd rfl hne
  | cons v rest =>
      obtain ⟨hv, hrest⟩ := List.forall_mem_cons.1 h
      have hlexes := lexes_prettyAt (level + 1) v hv
      by_cases hempty : rest = []
      · subst hempty
        have hclose : Lexes (newline level ++ [']']) [.closeArray] := lexes_closeArray.newline level
        rw [prettyItems, tokensOfItems, List.append_assoc, List.append_assoc]
        exact (hlexes.append rfl hclose).newline (level + 1)
      · have hcomma : Lexes (',' :: prettyItems level rest) (.comma :: tokensOfItems rest) :=
          Lexes.punctuation rfl (lexes_prettyItems level rest hempty hrest)
        rw [prettyItems_cons level v hempty, tokensOfItems_cons v hempty, List.append_assoc]
        exact (hlexes.append rfl hcomma).newline (level + 1)

theorem lexes_prettyMembers (level : Nat) (members : List (String × Value)) (hne : members ≠ [])
    (h : ∀ m ∈ members, m.2.Every NumbersSpelled) :
    Lexes (prettyMembers level members) (tokensOfMembers members) := by
  cases members with
  | nil => exact absurd rfl hne
  | cons m rest =>
      obtain ⟨hm, hrest⟩ := List.forall_mem_cons.1 h
      have hlexes := lexes_prettyAt (level + 1) m.2 hm
      by_cases hempty : rest = []
      · subst hempty
        have hclose : Lexes (newline level ++ ['}']) [.closeObject] :=
          lexes_closeObject.newline level
        have hvalue : Lexes (prettyAt (level + 1) m.2 ++ (newline level ++ ['}']))
            (tokensOf m.2 ++ [.closeObject]) := hlexes.append rfl hclose
        rw [prettyMembers, tokensOfMembers]
        simpa only [List.append_assoc, List.cons_append] using lexes_member (level + 1) m.1 hvalue
      · have hcomma : Lexes (',' :: prettyMembers level rest) (.comma :: tokensOfMembers rest) :=
          Lexes.punctuation rfl (lexes_prettyMembers level rest hempty hrest)
        have hvalue : Lexes (prettyAt (level + 1) m.2 ++ ',' :: prettyMembers level rest)
            (tokensOf m.2 ++ .comma :: tokensOfMembers rest) := hlexes.append rfl hcomma
        rw [prettyMembers_cons level m.1 m.2 hempty, tokensOfMembers_cons m.1 m.2 hempty]
        simpa only [List.append_assoc, List.cons_append] using lexes_member (level + 1) m.1 hvalue

end

/-- A written value and the line end behind it give the tokens of the value. -/
theorem ofText?_pretty {v : Value} (h : v.Every NumbersSpelled) :
    Token.ofText? (pretty v ++ ['\n']) = some (tokensOf v) := by
  have hrun := lexes_prettyAt 0 v h [] '\n' [] rfl
  have hread : (pretty v ++ ['\n']).foldlM Lexer.step Lexer.start =
      some ⟨(tokensOf v).reverse ++ [], .between⟩ := hrun
  rw [Token.ofText?, hread]
  simp only [Option.bind_some, Lexer.finish?, List.append_nil, List.reverse_reverse]

end FieldRules.Json
