import FieldRules.Proofs.WrittenValues

/-!
# What a text spells in other surroundings

A text that is read has one list of tokens, and these are the tokens of the value as it is written:
nothing is lost and nothing can be read in another way. The lexer never looks at the tokens it has
put down, so inside a longer text the same characters give the same tokens. The reader keeps what it
has read in open arrays and objects; `Reader.Spells` says which tokens stand for that, and every
token is put behind them.
-/

namespace FieldRules.Json

namespace Lexer

/-- The lexer with other tokens in front of those it has put down. -/
def after (before : List Token) (l : Lexer) : Lexer := { l with tokens := l.tokens ++ before }

theorem fresh_append (tokens before : List Token) (c : Char) :
    fresh (tokens ++ before) c = (fresh tokens c).after before := by
  unfold fresh
  split
  · rfl
  · split
    · rfl
    · split <;> rfl

theorem step_after (before : List Token) (l : Lexer) (c : Char) :
    (l.after before).step c = (l.step c).map (after before) := by
  obtain ⟨tokens, mode⟩ := l
  cases mode with
  | between => exact congrArg some (fresh_append tokens before c)
  | bare read =>
      simp only [step, after]
      split
      · cases Token.ofBare? read.reverse with
        | none => rfl
        | some token => exact congrArg some (fresh_append (token :: tokens) before c)
      · rfl
  | string read =>
      simp only [step, after]
      split
      · rfl
      · split
        · rfl
        · split <;> rfl
  | escape read =>
      simp only [step, after]
      split
      · rfl
      · cases escaped? c <;> rfl
  | unit read high digits value =>
      simp only [step, after]
      cases hexValue? c with
      | none => rfl
      | some digit =>
          simp only [Option.bind_eq_bind, Option.bind_some]
          split
          · cases Mode.ofUnit? read high (16 * value + digit) <;> rfl
          · rfl
  | half read high =>
      simp only [step, after]
      split <;> rfl
  | halfEscape read high =>
      simp only [step, after]
      split <;> rfl

theorem run_after (before : List Token) (t : List Char) (l : Lexer) :
    run t (l.after before) = (run t l).map (after before) := by
  induction t generalizing l with
  | nil => rfl
  | cons c t ih =>
      rw [run_cons, run_cons, step_after]
      cases l.step c with
      | none => rfl
      | some l' => exact ih l'

theorem run_append (t t' : List Char) (l : Lexer) : run (t ++ t') l = (run t l).bind (run t') :=
  List.foldlM_append

/-- The tokens of a text are found in it wherever the text stands between tokens. -/
theorem lexes_of_ofText? {t : List Char} {tokens : List Token}
    (h : Token.ofText? t = some tokens) : Lexes t tokens := by
  obtain ⟨l, hl, hfinish⟩ := Option.bind_eq_some_iff.1 h
  intro before c rest hc
  have hrun : run t ⟨before, .between⟩ = some (l.after before) := by
    have hstart : run t start = some l := hl
    have hafter := run_after before t start
    rw [hstart] at hafter
    exact hafter
  rw [run_append, hrun, Option.bind_some]
  obtain ⟨read, mode⟩ := l
  cases mode with
  | between =>
      obtain rfl : read.reverse = tokens := Option.some.inj hfinish
      rw [List.reverse_reverse]
      rfl
  | bare chars =>
      obtain ⟨token, htoken, rfl⟩ := Option.map_eq_some_iff.1 hfinish
      -- The run that the end of the text completed is completed by the next character.
      have hstep : (⟨read ++ before, .bare chars⟩ : Lexer).step c =
          (⟨token :: (read ++ before), .between⟩ : Lexer).step c := by
        simp only [step, hc, if_true, htoken, Option.map_some]
      rw [List.reverse_reverse, after, run_cons, hstep, ← run_cons]
      rfl
  | _ => cases hfinish

theorem Lexes.ofText?_concat {t : List Char} {tokens : List Token} (h : Lexes t tokens) {c : Char}
    {token : Token} (hc : Token.ofPunctuation? c = some token) :
    Token.ofText? (t ++ [c]) = some (tokens ++ [token]) := by
  have hends : endsRun c = true := by
    rw [endsRun, hc, Option.isSome_some, Bool.or_true]
  have hrun : run (t ++ [c]) start = some ⟨token :: tokens.reverse, .between⟩ := by
    have hlast := h [] c [] hends
    rw [List.append_nil, run_cons_of_step (step_of_punctuation hc _)] at hlast
    exact hlast
  have hread : (t ++ [c]).foldlM step start = some ⟨token :: tokens.reverse, .between⟩ := hrun
  rw [Token.ofText?, hread, Option.bind_some, finish?, List.reverse_cons, List.reverse_reverse]

end Lexer

namespace Token

theorem tokensOf_of_ofBare? {t : List Char} {v : Value} (h : ofBare? t = some (.scalar v)) :
    tokensOf v = [.scalar v] := by
  unfold ofBare? at h
  split at h
  · cases h
    rfl
  split at h
  · cases h
    rfl
  split at h
  · cases h
    rfl
  obtain ⟨n, -, h⟩ := Option.bind_eq_some_iff.1 h
  split at h
  · obtain ⟨x, -, h⟩ := Option.bind_eq_some_iff.1 h
    cases h
    rfl
  · cases h

end Token

def tokensBeforeItem (items : List Value) : List Token :=
  items.flatMap fun v => tokensOf v ++ [.comma]

def tokensBeforeMember (members : List (String × Value)) : List Token :=
  members.flatMap fun m => .string m.1 :: .colon :: (tokensOf m.2 ++ [.comma])

theorem tokensBeforeItem_concat (items : List Value) (v : Value) :
    tokensBeforeItem (items ++ [v]) = tokensBeforeItem items ++ tokensOf v ++ [.comma] := by
  rw [tokensBeforeItem, tokensBeforeItem, List.flatMap_append, List.flatMap_singleton,
    List.append_assoc]

theorem tokensBeforeMember_concat (members : List (String × Value)) (m : String × Value) :
    tokensBeforeMember (members ++ [m]) =
      tokensBeforeMember members ++ .string m.1 :: .colon :: tokensOf m.2 ++ [.comma] := by
  rw [tokensBeforeMember, tokensBeforeMember, List.flatMap_append, List.flatMap_singleton,
    List.append_assoc, List.cons_append, List.cons_append]

theorem tokensOfItems_concat (items : List Value) (v : Value) :
    tokensOfItems (items ++ [v]) = tokensBeforeItem items ++ tokensOf v ++ [.closeArray] := by
  induction items with
  | nil => rfl
  | cons w items ih =>
      rw [List.cons_append, tokensOfItems_cons w (by simp), ih, tokensBeforeItem,
        tokensBeforeItem, List.flatMap_cons]
      simp only [List.append_assoc, List.cons_append, List.nil_append]

theorem tokensOfMembers_concat (members : List (String × Value)) (m : String × Value) :
    tokensOfMembers (members ++ [m]) =
      tokensBeforeMember members ++ .string m.1 :: .colon :: tokensOf m.2 ++ [.closeObject] := by
  induction members with
  | nil => rfl
  | cons n members ih =>
      rw [List.cons_append, tokensOfMembers_cons n.1 n.2 (by simp), ih, tokensBeforeMember,
        tokensBeforeMember, List.flatMap_cons]
      simp only [List.append_assoc, List.cons_append, List.nil_append]

def Frame.tokens : Frame → List Token
  | .items read => .openArray :: tokensBeforeItem read.reverse
  | .member read key => .openObject :: (tokensBeforeMember read.reverse ++ [.string key, .colon])

def tokensOfFrames : List Frame → List Token
  | [] => []
  | f :: frames => tokensOfFrames frames ++ f.tokens

namespace Reader

/-- The tokens that have led to a state of the reader. -/
inductive Spells : List Token → Reader → Prop
  | value (frames : List Frame) : Spells (tokensOfFrames frames) ⟨frames, .value⟩
  | firstItem (frames : List Frame) :
      Spells (tokensOfFrames frames ++ [.openArray]) ⟨frames, .firstItem⟩
  | afterItem (frames : List Frame) (read : List Value) (v : Value) :
      Spells (tokensOfFrames (.items read :: frames) ++ tokensOf v) ⟨frames, .afterItem (v :: read)⟩
  | firstKey (frames : List Frame) :
      Spells (tokensOfFrames frames ++ [.openObject]) ⟨frames, .firstKey⟩
  | key (frames : List Frame) (read : List (String × Value)) :
      Spells (tokensOfFrames frames ++ .openObject :: tokensBeforeMember read.reverse)
        ⟨frames, .key read⟩
  | colon (frames : List Frame) (read : List (String × Value)) (key : String) :
      Spells (tokensOfFrames frames ++ .openObject ::
        (tokensBeforeMember read.reverse ++ [.string key])) ⟨frames, .colon read key⟩
  | afterMember (frames : List Frame) (read : List (String × Value)) (key : String) (v : Value) :
      Spells (tokensOfFrames (.member read key :: frames) ++ tokensOf v)
        ⟨frames, .afterMember ((key, v) :: read)⟩
  | done (v : Value) : Spells (tokensOf v) ⟨[], .done v⟩

theorem spells_complete (frames : List Frame) (v : Value) :
    Spells (tokensOfFrames frames ++ tokensOf v) (complete v frames) := by
  cases frames with
  | nil => exact .done v
  | cons f frames =>
      cases f with
      | items read => exact .afterItem frames read v
      | member read key => exact .afterMember frames read key v

theorem spells_begin? (frames : List Frame) {token : Token} (ht : token.Spelled) {r : Reader}
    (hr : begin? frames token = some r) : Spells (tokensOfFrames frames ++ [token]) r := by
  cases token with
  | scalar v =>
      cases hr
      obtain ⟨t, htoken⟩ := ht v rfl
      rw [← Token.tokensOf_of_ofBare? htoken]
      exact spells_complete frames v
  | string s =>
      cases hr
      exact spells_complete frames (.string s)
  | openArray =>
      rw [begin?] at hr
      split at hr <;> cases hr
      exact .firstItem frames
  | openObject =>
      rw [begin?] at hr
      split at hr <;> cases hr
      exact .firstKey frames
  | _ => cases hr

theorem Spells.step {tokens : List Token} {r r' : Reader} (h : Spells tokens r) {token : Token}
    (ht : token.Spelled) (hr : r.step id token = some r') : Spells (tokens ++ [token]) r' := by
  cases h with
  | value frames => exact spells_begin? frames ht hr
  | firstItem frames =>
      cases token with
      | closeArray =>
          cases hr
          rw [List.append_assoc]
          exact spells_complete frames (.array [])
      | _ => exact spells_begin? (.items [] :: frames) ht hr
  | afterItem frames read v =>
      cases token with
      | comma =>
          cases hr
          have h := value (.items (v :: read) :: frames)
          simpa only [tokensOfFrames, Frame.tokens, List.reverse_cons, tokensBeforeItem_concat,
            List.append_assoc, List.cons_append] using h
      | closeArray =>
          cases hr
          have h := spells_complete frames (.array (v :: read).reverse)
          simpa only [tokensOfFrames, Frame.tokens, tokensOf, List.reverse_cons,
            tokensOfItems_concat, List.append_assoc, List.cons_append] using h
      | _ => cases hr
  | firstKey frames =>
      cases token with
      | string key =>
          cases hr
          rw [List.append_assoc]
          exact .colon frames [] key
      | closeObject =>
          cases hr
          rw [List.append_assoc]
          exact spells_complete frames (.object [])
      | _ => cases hr
  | key frames read =>
      cases token with
      | string key =>
          cases hr
          rw [List.append_assoc, List.cons_append]
          exact .colon frames read key
      | _ => cases hr
  | colon frames read key =>
      cases token with
      | colon =>
          cases hr
          have h := value (.member read key :: frames)
          simpa only [tokensOfFrames, Frame.tokens, List.append_assoc, List.cons_append,
            List.nil_append] using h
      | _ => cases hr
  | afterMember frames read name v =>
      cases token with
      | comma =>
          cases hr
          have h := key frames ((name, v) :: read)
          simpa only [tokensOfFrames, Frame.tokens, List.reverse_cons, tokensBeforeMember_concat,
            List.append_assoc, List.cons_append, List.nil_append] using h
      | closeObject =>
          cases hr
          have h := spells_complete frames (.object ((name, v) :: read).reverse)
          simpa only [tokensOfFrames, Frame.tokens, tokensOf, List.reverse_cons,
            tokensOfMembers_concat, id, List.append_assoc, List.cons_append, List.nil_append]
            using h
      | _ => cases hr
  | done v => cases token <;> cases hr

theorem Spells.foldlM {before tokens : List Token} {r r' : Reader} (h : Spells before r)
    (ht : ∀ token ∈ tokens, token.Spelled) (hr : tokens.foldlM (Reader.step id) r = some r') :
    Spells (before ++ tokens) r' := by
  induction tokens generalizing before r with
  | nil =>
      cases hr
      rwa [List.append_nil]
  | cons token tokens ih =>
      obtain ⟨htoken, htokens⟩ := List.forall_mem_cons.1 ht
      rw [List.foldlM_cons] at hr
      obtain ⟨next, hnext, hr⟩ := Option.bind_eq_some_iff.1 hr
      rw [← List.singleton_append, ← List.append_assoc]
      exact ih (h.step htoken hnext) htokens hr

theorem Spells.finish? {tokens : List Token} {r : Reader} (h : Spells tokens r) {v : Value}
    (hr : r.finish? = some v) : tokens = tokensOf v := by
  cases h with
  | done w =>
      cases hr
      rfl
  | _ => cases hr

end Reader

/-- A text has the tokens of the value that it spells. -/
theorem ofText?_of_readAsWritten? {t : List Char} {v : Value} (h : readAsWritten? t = some v) :
    Token.ofText? t = some (tokensOf v) := by
  obtain ⟨tokens, htokens, h⟩ := Option.bind_eq_some_iff.1 h
  obtain ⟨r, hr, hfinish⟩ := Option.bind_eq_some_iff.1 h
  have hspells := (Reader.Spells.value []).foldlM (Token.spelled_of_ofText? htokens) hr
  rw [htokens, ← hspells.finish? hfinish]
  rfl

/-- The text of an object with one member, whose value has the given text: the key `body` and the
text `7` give `{"body": 7}`. -/
def objectText (key : String) (t : List Char) : List Char :=
  '{' :: (quoted key ++ ':' :: ' ' :: (t ++ ['}']))

theorem ofText?_objectText (key : String) {t : List Char} {v : Value}
    (h : Token.ofText? t = some (tokensOf v)) :
    Token.ofText? (objectText key t) = some (tokensOf (.object [(key, v)])) := by
  have hvalue : Lexer.Lexes (':' :: ' ' :: t) (.colon :: tokensOf v) :=
    .punctuation rfl ((Lexer.lexes_of_ofText? h).gap rfl)
  have hopen : Lexer.Lexes ('{' :: (quoted key ++ ':' :: ' ' :: t))
      (.openObject :: .string key :: .colon :: tokensOf v) :=
    .punctuation rfl ((Lexer.lexes_quoted key).append rfl hvalue)
  have hclose := hopen.ofText?_concat (c := '}') rfl
  simpa only [objectText, tokensOf, tokensOfMembers, List.cons_append, List.append_assoc]
    using hclose

end FieldRules.Json
