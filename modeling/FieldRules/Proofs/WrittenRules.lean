import FieldRules.Proofs.ReadRules

/-!
# Rules written as tokens

Each rule without numbers is written as a token: its name, and behind a colon its parameters if it
has any. The token need not be the one that the rule was read from, which may have blanks around its
parts and may leave out the slashes of a pattern. But it spells the same rule: parameters are cut
and trimmed as they were when they were read, and what was kept as it stood is kept so again.
-/

namespace FieldRules

namespace Token

def text (t : Token) : String :=
  match t.params with
  | none => t.tag
  | some params => t.tag ++ ":" ++ params

theorem ofString_text {t : Token} (hcolon : ':' ∉ t.tag.toList) (htag : Text.IsTrimmed t.tag) :
    ofString t.text = t := by
  obtain ⟨tag, params⟩ := t
  cases params with
  | none => rw [text, ofString_of_colon_notMem hcolon, htag]
  | some params => rw [text, ofString_colon hcolon, htag]

end Token

namespace Condition

def text (c : Condition) : String := c.field ++ "," ++ c.value

theorem ofString?_text {c : Condition} (h : c.WellFormed) : ofString? c.text = some c := by
  have hcut : Text.cutFirst ',' c.text.toList = some (c.field.toList, c.value.toList) := by
    rw [Text.cutFirst_eq_some_iff, text]
    exact ⟨by simp [String.toList_append], h.comma_notMem⟩
  have hne : c.field.toList ≠ [] := by
    intro hnil
    exact h.field_ne (String.toList_eq_nil_iff.1 hnil)
  rw [ofString?, hcut]
  dsimp only
  rw [h.field_trimmed.trim_toList, h.value_trimmed.trim_toList, if_neg hne, String.ofList_toList,
    String.ofList_toList]

end Condition

namespace Rule

def hasNumbers : Rule → Bool
  | min _ | max _ | between _ _ | length _ _ => true
  | _ => false

def token? : Rule → Option Token
  | required => some ⟨"required", none⟩
  | optional => some ⟨"optional", none⟩
  | nullable => some ⟨"nullable", none⟩
  | sanitize => some ⟨"sanitize", none⟩
  | type name => some ⟨name.tag, none⟩
  | min _ | max _ | between _ _ | length _ _ => none
  | oneOf allowed => some ⟨"in", some (String.intercalate "," allowed)⟩
  | format pattern => some ⟨"regex", some ("/" ++ pattern ++ "/")⟩
  | same other => some ⟨"same", some other⟩
  | default literal => some ⟨"default", some literal⟩
  | requiredIf c => some ⟨"required_if", some c.text⟩
  | requiredUnless c => some ⟨"required_unless", some c.text⟩
  | prohibitedIf c => some ⟨"prohibited_if", some c.text⟩

def written? (rule : Rule) : Option String := rule.token?.map Token.text

theorem ofTag_tag (name : TypeName) : ofTag name.tag = .ok (type name) := by
  cases name <;> rfl

theorem token?_of_ofTag {tag : String} {rule : Rule} (h : ofTag tag = .ok rule) :
    rule.token? = some ⟨tag, none⟩ := by
  unfold ofTag at h
  split at h
  case h_5 =>
    split at h
    · rename_i name hname
      cases h
      have htag : name.tag = tag := by simpa using List.find?_some hname
      rw [token?, htag]
    · cases h
  all_goals
    cases h
    rfl

theorem stripSlashes_slashed (pattern : String) : stripSlashes ("/" ++ pattern ++ "/") = pattern := by
  have hlist : ("/" ++ pattern ++ "/").toList = '/' :: (pattern.toList ++ ['/']) := by
    simp [String.toList_append]
  simp [stripSlashes, hlist]

theorem map_trimmed_pieces {allowed : List String} (h : WellFormedEntries allowed) :
    (Text.pieces ',' (String.intercalate "," allowed)).map Text.trimmed = allowed := by
  rw [Text.pieces_intercalate h.comma_notMem h.ne_nil]
  exact (List.map_congr_left h.trimmed).trans (List.map_id allowed)

theorem ofCondition_text (rule : Condition → Rule) {c : Condition} (h : c.WellFormed) :
    ofCondition rule c.text = .ok (rule c) := by
  rw [ofCondition, Condition.ofString?_text h]

theorem ofParams_same {other : String} (hne : other ≠ "") (htrimmed : Text.IsTrimmed other) :
    ofParams "same" other = .ok (same other) := by
  have hread : ofParams "same" other =
      if Text.trimmed other = "" then .error (.invalidParameter .missingField)
      else .ok (same (Text.trimmed other)) := rfl
  rw [hread, htrimmed, if_neg hne]

theorem isSome_token? (rule : Rule) : rule.token?.isSome = !rule.hasNumbers := by
  cases rule <;> rfl

theorem plain_tag_of_token? {rule : Rule} {t : Token} (h : rule.token? = some t) :
    ':' ∉ t.tag.toList ∧ Text.IsTrimmed t.tag := by
  cases rule with
  | type name =>
      cases h
      cases name <;> decide
  | _ =>
      cases h <;>
      · dsimp only
        decide

theorem ofToken_text {rule : Rule} (h : rule.WellFormed) {t : Token} (ht : rule.token? = some t) :
    ofToken t.text = .ok rule := by
  obtain ⟨hcolon, htag⟩ := plain_tag_of_token? ht
  rw [ofToken, Token.ofString_text hcolon htag]
  cases rule with
  | min | max | between | length => cases ht
  | required | optional | nullable | sanitize | default =>
      cases ht
      rfl
  | type name =>
      cases ht
      exact ofTag_tag name
  | oneOf allowed =>
      cases ht
      exact congrArg (fun entries => Except.ok (oneOf entries)) (map_trimmed_pieces h)
  | format pattern =>
      cases ht
      exact congrArg (fun p => Except.ok (format p)) (stripSlashes_slashed pattern)
  | same other =>
      cases ht
      exact ofParams_same h.1 h.2
  | requiredIf c | requiredUnless c | prohibitedIf c =>
      cases ht
      exact ofCondition_text _ h

/-- Without blanks at its ends, a token spells a rule that takes no parameters by the name alone. -/
theorem ofToken_eq_ok_iff {t name : String} (ht : Text.IsTrimmed t) {rule : Rule}
    (hname : rule.token? = some ⟨name, none⟩) : ofToken t = .ok rule ↔ t = name := by
  obtain ⟨hparams, hrule⟩ : rule.takesParams = false ∧ rule.WellFormed := by
    cases rule <;> cases hname <;> exact ⟨rfl, trivial⟩
  constructor
  · intro h
    rw [ofToken] at h
    split at h
    · rename_i tag hs
      have htag := token?_of_ofTag h
      rw [hname] at htag
      cases htag
      exact ht.symm.trans (Token.trimmed_eq_of_ofString hs)
    · exact absurd (takesParams_of_ofParams h).1 (by simp [hparams])
  · rintro rfl
    exact ofToken_text hrule hname

/-- A rule without numbers that a token spells is spelled again by the token it is written as. -/
theorem ofToken_written {token : String} {rule : Rule} (h : ofToken token = .ok rule)
    (hnumbers : rule.hasNumbers = false) :
    ∃ written, rule.written? = some written ∧ ofToken written = .ok rule := by
  obtain ⟨t, ht⟩ : ∃ t, rule.token? = some t := by
    rw [← Option.isSome_iff_exists, isSome_token?, hnumbers]
    rfl
  refine ⟨t.text, ?_, ofToken_text (wellFormed_of_ofToken h) ht⟩
  rw [written?, ht]
  rfl

/-- A condition whose value has the signs of the notation in it, and a pattern of one slash. -/
theorem ofToken_written_kind :
    let kind := prohibitedIf ⟨"kind", "a,b:/c/"⟩
    let slash := format "/"
    ofToken " prohibited_if: kind , a,b:/c/ " = .ok kind ∧ kind.hasNumbers = false ∧
      ofToken "regex:/" = .ok slash ∧ slash.hasNumbers = false ∧
      kind.written? = some "prohibited_if:kind,a,b:/c/" ∧
      ofToken "prohibited_if:kind,a,b:/c/" = .ok kind ∧
      slash.written? = some "regex:///" ∧ ofToken "regex:///" = .ok slash := by
  intro kind slash
  have hkind : ofToken " prohibited_if: kind , a,b:/c/ " = .ok kind := by decide +kernel
  have hslash : ofToken "regex:/" = .ok slash := by decide +kernel
  have hkindWritten : kind.written? = some "prohibited_if:kind,a,b:/c/" := rfl
  have hslashWritten : slash.written? = some "regex:///" := rfl
  obtain ⟨_, hwritten, hagain⟩ := ofToken_written hkind rfl
  obtain ⟨_, hwritten', hagain'⟩ := ofToken_written hslash rfl
  rw [hkindWritten] at hwritten
  rw [hslashWritten] at hwritten'
  cases hwritten
  cases hwritten'
  exact ⟨hkind, rfl, hslash, rfl, hkindWritten, hagain, hslashWritten, hagain'⟩

end Rule
end FieldRules
