import FieldRules.Proofs.CompiledChain
import FieldRules.Proofs.CutTexts
import FieldRules.Proofs.NearestIntegers

/-!
# Rules that are read from tokens

What the reader of tokens checks and tidies, later stages rely on: a limit is a finite number, a
list of alternatives has at least one, names and compared texts are trimmed and names are not empty,
and the name in a condition ends before the first comma. A rule is well formed if all this holds of
it, and every rule that a token spells is well formed.
-/

namespace FieldRules

namespace Binary64

theorem roundDiv_le (num den : Nat) : roundDiv num den ≤ num / den + 1 := by
  unfold roundDiv
  dsimp only
  split_ifs <;> omega

/-- A quotient rounded on the grid of its own binade stays on the grid of the binade it comes to,
which may be the next one. -/
theorem gap_dvd_nearest (num den : Nat) : gap (nearest num den) ∣ nearest num den := by
  obtain ⟨k, hk, hlt⟩ : ∃ k, gap (num / den) = 2 ^ k ∧ num / den < 2 ^ (k + 53) :=
    ⟨_, rfl, Nat.lt_log2_self.trans_le (Nat.pow_le_pow_right (by decide) (by omega))⟩
  have hquotient : roundDiv num (den * gap (num / den)) ≤ 2 ^ 53 := by
    refine (roundDiv_le _ _).trans ?_
    rw [← Nat.div_div_eq_div_mul, hk]
    apply Nat.div_lt_of_lt_mul
    rwa [← Nat.pow_add]
  rw [hk] at hquotient
  rw [nearest, hk]
  generalize roundDiv num (den * 2 ^ k) = q at hquotient ⊢
  rcases Nat.lt_or_eq_of_le hquotient with hlt | rfl
  · have hbinade : q * 2 ^ k < 2 ^ (k + 53) := by
      rw [Nat.pow_add, Nat.mul_comm]
      exact Nat.mul_lt_mul_of_pos_left hlt (Nat.two_pow_pos k)
    exact (gap_dvd_two_pow hbinade).mul_left q
  · have hbinade : 2 ^ 53 * 2 ^ k < 2 ^ (k + 1 + 53) := by
      rw [← Nat.pow_add]
      exact Nat.pow_lt_pow_right (by decide) (by omega)
    refine (gap_dvd_two_pow hbinade).trans ?_
    rw [← Nat.pow_add]
    exact Nat.pow_dvd_pow 2 (by omega)

/-- One of the finite numbers: its magnitude is on the grid of its binade and below `2 ^ 1024`. -/
def Representable (x : Binary64) : Prop := gap x.units ∣ x.units ∧ x.units < Nat.pow 2 2098

theorem representable_zero (negative : Bool) : Representable ⟨negative, 0⟩ := by
  have hlt : 0 < Nat.pow 2 2098 := by decide +kernel
  exact ⟨Nat.dvd_zero _, hlt⟩

theorem representable_of_ofRatio? {negative : Bool} {num den : Nat} {x : Binary64}
    (h : ofRatio? negative num den = some x) : x.Representable := by
  rw [ofRatio?] at h
  split at h
  · rename_i hlt
    cases h
    exact ⟨gap_dvd_nearest _ _, hlt⟩
  · cases h

theorem representable_of_value? {n : Numeral} {x : Binary64} (h : n.value? = some x) :
    x.Representable := by
  rw [Numeral.value?] at h
  split at h
  · cases h
    exact representable_zero _
  · split at h
    · cases h
    · split at h
      · cases h
        exact representable_zero _
      · exact representable_of_ofRatio? h

theorem representable_of_ofText? {t : List Char} {x : Binary64} (h : ofText? t = some x) :
    x.Representable := by
  rw [ofText?] at h
  split at h
  · split at h
    · exact representable_of_value? h
    · cases h
  · cases h

end Binary64

/-- The condition names a field, in a text without commas and without blanks at its ends, and the
value it compares with has no blanks at its ends either. -/
structure Condition.WellFormed (c : Condition) : Prop where
  field_ne : c.field ≠ ""
  field_trimmed : Text.IsTrimmed c.field
  comma_notMem : ',' ∉ c.field.toList
  value_trimmed : Text.IsTrimmed c.value

theorem Condition.wellFormed_of_ofString? {raw : String} {c : Condition}
    (h : ofString? raw = some c) : c.WellFormed := by
  rw [ofString?] at h
  split at h
  · cases h
  · rename_i field value hcut
    dsimp only at h
    split at h
    · cases h
    · rename_i hne
      cases h
      have hcomma := (Text.cutFirst_eq_some_iff.1 hcut).2
      refine ⟨fun hempty => hne ?_, Text.isTrimmed_ofList_trim field, ?_,
        Text.isTrimmed_ofList_trim value⟩
      · simpa using hempty
      · rw [String.toList_ofList]
        exact fun hc => hcomma ((Cleaning.trim_sublist field).mem hc)

namespace Rule

structure WellFormedEntries (allowed : List String) : Prop where
  ne_nil : allowed ≠ []
  trimmed : ∀ entry ∈ allowed, Text.IsTrimmed entry
  comma_notMem : ∀ entry ∈ allowed, ',' ∉ entry.toList

def WellFormed : Rule → Prop
  | min limit => limit.Representable
  | max limit => limit.Representable
  | between least most => least.Representable ∧ most.Representable
  | length least most => least.Representable ∧ most.Representable
  | oneOf allowed => WellFormedEntries allowed
  | same other => other ≠ "" ∧ Text.IsTrimmed other
  | requiredIf c => c.WellFormed
  | requiredUnless c => c.WellFormed
  | prohibitedIf c => c.WellFormed
  | _ => True

def takesParams : Rule → Bool
  | required | optional | nullable | sanitize | type _ => false
  | _ => true

theorem representable_of_readNumber {raw : String} {x : Binary64} (h : readNumber raw = .ok x) :
    x.Representable := by
  rw [readNumber] at h
  split at h
  · rename_i hread
    cases h
    exact Binary64.representable_of_ofText? hread
  · cases h

theorem representable_of_readPair {raw : String} {p : Binary64 × Binary64}
    (h : readPair raw = .ok p) : p.1.Representable ∧ p.2.Representable := by
  rw [readPair] at h
  split at h
  · obtain ⟨least, hleast, h⟩ := bind_eq_ok_iff.1 h
    obtain ⟨most, hmost, h⟩ := bind_eq_ok_iff.1 h
    cases h
    exact ⟨representable_of_readNumber hleast, representable_of_readNumber hmost⟩
  · cases h

theorem wellFormedEntries_pieces (params : String) :
    WellFormedEntries ((Text.pieces ',' params).map Text.trimmed) where
  ne_nil := fun h => Text.pieces_ne_nil ',' params (List.map_eq_nil_iff.1 h)
  trimmed := List.forall_mem_map.2 fun piece _ => Text.isTrimmed_trimmed piece
  comma_notMem := by
    intro entry hentry hc
    obtain ⟨piece, hpiece, rfl⟩ := List.mem_map.1 hentry
    rw [Text.toList_trimmed] at hc
    exact Text.notMem_of_mem_pieces hpiece ((Cleaning.trim_sublist _).mem hc)

theorem wellFormed_of_ofTag {tag : String} {rule : Rule} (h : ofTag tag = .ok rule) :
    rule.WellFormed := by
  unfold ofTag at h
  split at h
  case h_5 =>
    split at h
    · cases h
      trivial
    · cases h
  all_goals
    cases h
    trivial

theorem exists_of_ofCondition {rule : Condition → Rule} {raw : String} {r : Rule}
    (h : ofCondition rule raw = .ok r) : ∃ c : Condition, c.WellFormed ∧ r = rule c := by
  rw [ofCondition] at h
  split at h
  · rename_i c hc
    cases h
    exact ⟨c, Condition.wellFormed_of_ofString? hc, rfl⟩
  · cases h

theorem takesParams_of_ofParams {tag params : String} {rule : Rule}
    (h : ofParams tag params = .ok rule) : rule.takesParams = true ∧ rule.WellFormed := by
  unfold ofParams at h
  split at h
  case h_1 | h_2 =>
    obtain ⟨limit, hlimit, rfl⟩ := map_eq_ok_iff.1 h
    exact ⟨rfl, representable_of_readNumber hlimit⟩
  case h_3 | h_4 =>
    obtain ⟨limits, hlimits, rfl⟩ := map_eq_ok_iff.1 h
    exact ⟨rfl, representable_of_readPair hlimits⟩
  case h_5 =>
    cases h
    exact ⟨rfl, wellFormedEntries_pieces params⟩
  case h_6 | h_8 =>
    cases h
    exact ⟨rfl, trivial⟩
  case h_7 =>
    dsimp only at h
    split at h
    · cases h
    · rename_i hne
      cases h
      exact ⟨rfl, hne, Text.isTrimmed_trimmed params⟩
  case h_9 | h_10 | h_11 =>
    obtain ⟨c, hc, rfl⟩ := exists_of_ofCondition h
    exact ⟨rfl, hc⟩
  case h_12 => cases h

theorem wellFormed_of_ofToken {token : String} {rule : Rule} (h : ofToken token = .ok rule) :
    rule.WellFormed := by
  rw [ofToken] at h
  split at h
  · exact wellFormed_of_ofTag h
  · exact (takesParams_of_ofParams h).2

end Rule
end FieldRules
