import FieldRules.Proofs.CleanTexts
import FieldRules.Proofs.ReadValues
import FieldRules.Proofs.RemainingTokens
import FieldRules.Proofs.StepMessages
import FieldRules.Proofs.WholeNumbers

/-!
# Bounds on integer fields

A field with the rules `integer|min:N` compares binary64 numbers: the one nearest to the submitted
integer with the one nearest to `N`. So it accepts what is at least `N`, and besides what has the
same nearest number as `N`, which for an integer or a bound below `2 ^ 53` is `N` alone. The same
holds of `integer|max:N`.
-/

namespace FieldRules

namespace Numeral

structure Writes (t : List Char) (n : Int) : Prop where
  isWhole : IsWhole t
  integer_eq : integer t = n

theorem writes_text (n : Int) : Writes (Number.integer n).text n := by
  have hdigits : ofDigits (Nat.toDigits 10 n.natAbs) = n.natAbs :=
    Nat.ofDigitChars_toDigits (by decide) (by decide)
  rw [Number.text]
  split
  · have hsign : some '-' = none ∨ some '-' = some '-' := .inr rfl
    refine ⟨isWhole_toDigits hsign n.natAbs, ?_⟩
    rw [← List.singleton_append, ← Option.toList_some, integer, splitSign_toDigits hsign,
      if_pos rfl, hdigits]
    omega
  · have hsign : (none : Option Char) = none ∨ none = some '-' := .inl rfl
    have hunsigned : (none : Option Char) ≠ some '-' := (Option.some_ne_none '-').symm
    refine ⟨isWhole_toDigits hsign n.natAbs, ?_⟩
    rw [← List.nil_append (Nat.toDigits _ _), ← Option.toList_none, integer,
      splitSign_toDigits hsign, if_neg hunsigned, hdigits]
    omega

theorem IsWhole.isSign_or_isDigit {t : List Char} (h : IsWhole t) :
    ∀ c ∈ t, isSign c = true ∨ c.isDigit = true := by
  cases t with
  | nil => exact List.forall_mem_nil _
  | cons x t =>
      have hdigit := h.isDigit
      rw [splitSign] at hdigit
      split at hdigit
      · rename_i hsign
        exact List.forall_mem_cons.2 ⟨.inl hsign, fun c hc => .inr (hdigit c hc)⟩
      · exact fun c hc => .inr (hdigit c hc)

/-- Neither blanks nor the signs of the rule notation stand in a text of digits. -/
theorem IsWhole.plain {t : List Char} (h : IsWhole t) :
    ∀ c ∈ t, Text.isBlank c = false ∧ c ≠ '|' := by
  intro c hc
  rcases h.isSign_or_isDigit c hc with hsign | hdigit
  · rw [isSign, Bool.or_eq_true, beq_iff_eq, beq_iff_eq] at hsign
    rcases hsign with rfl | rfl <;> decide
  · have hcode : 48 ≤ c.toNat ∧ c.toNat ≤ 57 := by
      simpa [Char.isDigit, UInt32.le_iff_toNat_le] using hdigit
    constructor
    · rw [Text.isBlank]
      simp
      omega
    · rintro rfl
      cases hdigit

end Numeral

theorem Text.pieces_of_plain {front back : String} (hfront : '|' ∉ front.toList)
    (hback : '|' ∉ back.toList) : pieces '|' (front ++ "|" ++ back) = [front, back] := by
  have hbars : ∀ t ∈ [front, back], '|' ∉ t.toList := by simp [hfront, hback]
  have hjoin : front ++ "|" ++ back = String.intercalate (String.ofList ['|']) [front, back] := by
    apply String.toList_inj.1
    simp [String.toList_append]
  rw [hjoin, pieces_intercalate hbars (List.cons_ne_nil _ _)]

namespace Spec

/-- The tokens of `integer|` and a bound whose parameter is a text of digits. -/
theorem tokens_integer_bound {tag text : String} (hne : tag ≠ "")
    (htag : tag.toList.all (fun c => !Text.isBlank c && c != '|') = true)
    (h : Numeral.IsWhole text.toList) :
    (pipe ("integer" ++ "|" ++ (tag ++ text))).tokens = ["integer", tag ++ text] := by
  have hchars : ∀ c ∈ (tag ++ text).toList, Text.isBlank c = false ∧ c ≠ '|' := by
    rw [String.toList_append, List.forall_mem_append]
    refine ⟨fun c hc => ?_, h.plain⟩
    simpa using List.all_eq_true.1 htag c hc
  have hpieces : Text.pieces '|' ("integer" ++ "|" ++ (tag ++ text)) = ["integer", tag ++ text] :=
    Text.pieces_of_plain (by decide) fun hc => (hchars '|' hc).2 rfl
  have htrim : Text.trimmed (tag ++ text) = tag ++ text := by
    rw [Text.trimmed, Text.trim_of_unblank fun c hc => (hchars c hc).1, String.ofList_toList]
  have hword : Text.trimmed "integer" = "integer" := rfl
  rw [tokens, hpieces, tidy]
  simp [htrim, hword, hne]

end Spec

theorem Rule.readNumber_of_isWhole {text : String} (h : Numeral.IsWhole text.toList) {x : Binary64}
    (hx : Binary64.ofText? text.toList = some x) : readNumber text = .ok x := by
  rw [readNumber, Text.trim_of_unblank fun c hc => (h.plain c hc).1, hx]

theorem Setting.compiles_of_placement? {s : Setting} {token : String} {p : Placement}
    (h : s.placement? token = some p) : s.Compiles token := by
  intro e hfailed
  rw [placement?_eq_some_iff.1 h] at hfailed
  cases hfailed

theorem Chain.accepted_validate {c : Chain} {diagnostics : List Diagnostic} {r : Record} :
    ((⟨[c], diagnostics⟩ : Schema).validate r).accepted = true ↔
      messagesOf (c.run r).events = [] := by
  simp [Schema.validate, Schema.run, runChains, Outcome.accepted]

def Chain.integerBound (field : String) (tags : List String) (b : Bound) : Chain :=
  ⟨field, tags, false, false, false, [.check (.type .integer), .check (.bound b)]⟩

theorem Chain.messages_integerBound {field : String} {tags : List String} {b : Bound} {r : Record}
    {v : Int} (hv : r.get? field = some (.number (.integer v))) :
    messagesOf ((integerBound field tags b).run r).events = [] ↔
      b.accepts (some (.number (.integer v))) = true := by
  have hskips (value : Option Value) : (integerBound field tags b).skips value = false := rfl
  have hfield : (integerBound field tags b).field = field := rfl
  have htype : TypeName.integer.acceptsIfAny (some (.number (.integer v))) = true := rfl
  have hsteps : (integerBound field tags b).steps =
      [.check (.type .integer), .check (.bound b)] := rfl
  rw [run, hsteps, runSteps_check, runSteps_check, hskips, hfield, hv, Check.run, Check.run, htype]
  cases b.accepts (some (.number (.integer v))) <;> simp [runSteps, messagesOf, Event.message?]

/-- A field that must be an integer and keep a bound accepts the integers within the bound. -/
theorem compileSchema_integer_bound {spec : Spec} {token : String} {rule : Rule} {b : Bound}
    (htokens : spec.tokens = ["integer", token]) (hcustoms : spec.customs = [])
    (hrule : Rule.ofToken token = .ok rule) (strict : Bool) (field : String)
    (hplaced : rule.placement field .numeric = .ok (.step (.check (.bound b)))) :
    ∃ s, compileSchema strict [(field, spec)] = .ok s ∧ ∀ (r : Record) (v : Int),
      r.get? field = some (.number (.integer v)) →
        ((s.validate r).accepted = true ↔ b.accepts (some (.number (.integer v))) = true) := by
  have hmeasure : Chain.measureOf (tagsOf spec.tokens) = .numeric := by
    rw [measureOf_tagsOf_eq_numeric_iff, htokens]
    exact ⟨"integer", List.mem_cons_self, by decide⟩
  have hsetting : spec.setting strict field = ⟨field, strict, .numeric⟩ := by
    rw [Spec.setting, hmeasure]
  have hinteger : (spec.setting strict field).placement? "integer" =
      some (.step (.check (.type .integer))) :=
    Setting.placement?_eq_some_iff.2 (Setting.verdict_eq_placed_iff.2 ⟨.type .integer, rfl, rfl⟩)
  have hbound : (spec.setting strict field).placement? token = some (.step (.check (.bound b))) := by
    rw [hsetting]
    exact Setting.placement?_eq_some_iff.2 (Setting.verdict_eq_placed_iff.2 ⟨rule, hrule, hplaced⟩)
  have hcompiles : spec.Compiles strict field := by
    rw [Spec.Compiles, htokens]
    simp [Setting.compiles_of_placement? hinteger, Setting.compiles_of_placement? hbound]
  have hchain : spec.chain strict field = .integerBound field (tagsOf spec.tokens) b := by
    have hplacements : spec.placements strict field =
        [.step (.check (.type .integer)), .step (.check (.bound b))] := by
      rw [Spec.placements, htokens]
      simp [hinteger, hbound]
    rw [Spec.chain, hplacements, hcustoms]
    rfl
  refine ⟨_, compileSchema_ok_iff.2 ⟨by simpa using hcompiles, rfl⟩, fun r v hv => ?_⟩
  rw [List.map_singleton, Chain.accepted_validate, hchain]
  exact Chain.messages_integerBound hv

/-- With `N` written in decimal, a field with the rules `integer|min:N` accepts an integer exactly
if it is at least `N` or has the nearest binary64 number that `N` has, and one with `integer|max:N`
exactly if it is at most `N` or has that number. Rounding can make a difference only where both are
at least `2 ^ 53` in size. -/
theorem accepts_integer_iff {text : String} {N : Int} (htext : Numeral.Writes text.toList N)
    (hN : Value.FitsWord N) (strict : Bool) (field : String) :
    ∃ least most,
      compileSchema strict [(field, .pipe ("integer|min:" ++ text))] = .ok least ∧
      compileSchema strict [(field, .pipe ("integer|max:" ++ text))] = .ok most ∧
      ∀ (r : Record) (v : Int), r.get? field = some (.number (.integer v)) →
        ((least.validate r).accepted = true ↔ N ≤ v ∨ Binary64.ofInt v = Binary64.ofInt N) ∧
        ((most.validate r).accepted = true ↔ v ≤ N ∨ Binary64.ofInt v = Binary64.ofInt N) ∧
        (v.natAbs < 2 ^ 53 ∨ N.natAbs < 2 ^ 53 →
          Binary64.ofInt v = Binary64.ofInt N → v = N) := by
  -- a bound of 64 bits is far below the integers without a finite number
  have hsize : (Numeral.integer text.toList).natAbs < Binary64.overflow := by
    have hword : Nat.pow 2 64 < Binary64.overflow := by decide +kernel
    have hsigned : Nat.pow 2 63 ≤ Nat.pow 2 64 := by decide
    obtain ⟨hleast, hmost⟩ := hN
    rw [htext.integer_eq]
    omega
  obtain ⟨x, hx⟩ := Option.isSome_iff_exists.1 ((Binary64.isSome_ofText?_iff htext.isWhole).2 hsize)
  have hlimit : x.toInt = (Binary64.ofInt N).toInt := by
    rw [Binary64.toInt_of_ofText? htext.isWhole hx, htext.integer_eq]
  have hnumber := Rule.readNumber_of_isWhole htext.isWhole hx
  have hmin : Rule.ofToken ("min" ++ ":" ++ text) = .ok (.min x) := by
    rw [Rule.ofToken, Token.ofString_colon (by decide)]
    exact congrArg (Except.map Rule.min) hnumber
  have hmax : Rule.ofToken ("max" ++ ":" ++ text) = .ok (.max x) := by
    rw [Rule.ofToken, Token.ofString_colon (by decide)]
    exact congrArg (Except.map Rule.max) hnumber
  obtain ⟨least, hleast, hleastaccepts⟩ := compileSchema_integer_bound
    (Spec.tokens_integer_bound (by decide) (by decide) htext.isWhole) rfl hmin strict field rfl
  obtain ⟨most, hmost, hmostaccepts⟩ := compileSchema_integer_bound
    (Spec.tokens_integer_bound (by decide) (by decide) htext.isWhole) rfl hmax strict field rfl
  refine ⟨least, most, hleast, hmost, fun r v hv => ⟨?_, ?_, fun hsmall heq => ?_⟩⟩
  · have haccepts : (Bound.min .numeric x).accepts (some (.number (.integer v))) =
        decide (x ≤ Binary64.ofInt v) := rfl
    rw [hleastaccepts r v hv, haccepts, decide_eq_true_eq, Binary64.le_def, hlimit,
      ← Binary64.le_def, Binary64.ofInt_le_ofInt_iff, eq_comm]
  · have haccepts : (Bound.max .numeric x).accepts (some (.number (.integer v))) =
        decide (Binary64.ofInt v ≤ x) := rfl
    rw [hmostaccepts r v hv, haccepts, decide_eq_true_eq, Binary64.le_def, hlimit,
      ← Binary64.le_def, Binary64.ofInt_le_ofInt_iff]
  · rcases hsmall with hv | hN
    · exact Binary64.eq_of_ofInt_eq hv heq
    · exact (Binary64.eq_of_ofInt_eq hN heq.symm).symm

/-- The greatest integer of 64 bits, which is rounded up. -/
theorem accepts_integer_iff_greatest :
    Numeral.Writes "18446744073709551615".toList 18446744073709551615 ∧
    Value.FitsWord 18446744073709551615 ∧ ∃ least most,
      compileSchema true [("n", .pipe "integer|min:18446744073709551615")] = .ok least ∧
      compileSchema true [("n", .pipe "integer|max:18446744073709551615")] = .ok most ∧
      ∀ v : Int,
        ((least.validate [("n", .number (.integer v))]).accepted = true ↔
          18446744073709551615 ≤ v ∨
            Binary64.ofInt v = Binary64.ofInt 18446744073709551615) ∧
        ((most.validate [("n", .number (.integer v))]).accepted = true ↔
          v ≤ 18446744073709551615 ∨
            Binary64.ofInt v = Binary64.ofInt 18446744073709551615) := by
  have htext : Numeral.Writes "18446744073709551615".toList 18446744073709551615 := by
    have hcanonical : "18446744073709551615".toList = (Number.integer 18446744073709551615).text := by
      decide +kernel
    rw [hcanonical]
    exact Numeral.writes_text 18446744073709551615
  have hword : Value.FitsWord 18446744073709551615 := by
    unfold Value.FitsWord
    decide +kernel
  obtain ⟨least, most, hleast, hmost, haccepts⟩ := accepts_integer_iff htext hword true "n"
  refine ⟨htext, hword, least, most, hleast, hmost, fun v => ?_⟩
  obtain ⟨hmin, hmax, -⟩ := haccepts [("n", .number (.integer v))] v rfl
  exact ⟨hmin, hmax⟩

/-- The bound is rounded down to the integer below it, which is therefore accepted. -/
theorem accepted_below_bound :
    ∃ s, compileSchema false [("n", .pipe "integer|min:9007199254740993")] = .ok s ∧
      (s.validate [("n", .number (.integer 9007199254740992))]).accepted = true ∧
      ¬ (9007199254740993 : Int) ≤ 9007199254740992 := by
  have haccepted : (compileSchema false [("n", .pipe "integer|min:9007199254740993")]).toOption.any
      (fun s => (s.validate [("n", .number (.integer 9007199254740992))]).accepted) = true := by
    decide +kernel
  cases hs : compileSchema false [("n", .pipe "integer|min:9007199254740993")] with
  | error e =>
      rw [hs] at haccepted
      cases haccepted
  | ok s =>
      rw [hs] at haccepted
      exact ⟨s, rfl, haccepted, by decide⟩

end FieldRules
