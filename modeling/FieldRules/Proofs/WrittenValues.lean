import FieldRules.Proofs.WrittenTokens

/-!
# Reading a written value

Reading the tokens of a value that is nested no deeper than the reader's limit completes it in
whatever arrays and objects are open around it, with the members of its objects gathered. So a value
that has no key twice in an object and whose numbers are spelled by their texts is what its own text
spells.
-/

namespace FieldRules

namespace Record

theorem insert_of_notMem {r : Record} {key : String} (h : key ∉ r.keys) (value : Value) :
    r.insert key value = r ++ [(key, value)] := by
  induction r with
  | nil => rfl
  | cons m r ih =>
      obtain ⟨hne, hrest⟩ := List.ne_and_not_mem_of_not_mem_cons h
      rw [insert, if_neg (Ne.symm hne), ih hrest, List.cons_append]

theorem insertAll_of_nodup {r s : Record} (h : (keys (r ++ s)).Nodup) : r.insertAll s = r ++ s := by
  induction s generalizing r with
  | nil => exact (List.append_nil r).symm
  | cons m s ih =>
      have hsplit : r ++ m :: s = (r ++ [m]) ++ s := by rw [List.append_assoc, List.singleton_append]
      have hkey : m.1 ∉ r.keys := by
        intro hmem
        rw [keys, List.map_append] at h
        exact (List.nodup_append.1 h).2.2 _ hmem _ List.mem_cons_self rfl
      rw [hsplit] at h
      have hinsert : insertAll r (m :: s) = insertAll (r ++ [m]) s :=
        congrArg (insertAll · s) (insert_of_notMem hkey m.2)
      rw [hinsert, ih h, hsplit]

theorem ofList_of_nodup {members : List (String × Value)} (h : (keys members).Nodup) :
    ofList members = members := insertAll_of_nodup h

end Record

namespace Value

mutual

/-- The value with the members of each object made a record: a repeated key has its first place and
its last value. -/
def gathered : Value → Value
  | array items => array (gatheredItems items)
  | object members => object (Record.ofList (gatheredMembers members))
  | v => v

def gatheredItems : List Value → List Value
  | [] => []
  | v :: rest => v.gathered :: gatheredItems rest

def gatheredMembers : List (String × Value) → List (String × Value)
  | [] => []
  | (k, v) :: rest => (k, v.gathered) :: gatheredMembers rest

end

end Value

namespace Json

def KeysDistinct : Value.Frame → Prop
  | .object keys => keys.Nodup
  | _ => True

mutual

theorem gathered_of_keysDistinct (v : Value) (h : v.Every KeysDistinct) : v.gathered = v := by
  cases v with
  | array items =>
      rw [Value.gathered, gatheredItems_of_keysDistinct items fun w hw => h.within hw]
  | object members =>
      have hdistinct : (Record.keys members).Nodup := h.here
      rw [Value.gathered, gatheredMembers_of_keysDistinct members fun m hm =>
        h.within (List.mem_map_of_mem hm), Record.ofList_of_nodup hdistinct]
  | _ => rfl

theorem gatheredItems_of_keysDistinct (items : List Value) (h : ∀ v ∈ items, v.Every KeysDistinct) :
    Value.gatheredItems items = items := by
  cases items with
  | nil => rfl
  | cons v items =>
      obtain ⟨hv, hitems⟩ := List.forall_mem_cons.1 h
      rw [Value.gatheredItems, gathered_of_keysDistinct v hv,
        gatheredItems_of_keysDistinct items hitems]

theorem gatheredMembers_of_keysDistinct (members : List (String × Value))
    (h : ∀ m ∈ members, m.2.Every KeysDistinct) : Value.gatheredMembers members = members := by
  cases members with
  | nil => rfl
  | cons m members =>
      obtain ⟨hm, hmembers⟩ := List.forall_mem_cons.1 h
      rw [Value.gatheredMembers, gathered_of_keysDistinct m.2 hm,
        gatheredMembers_of_keysDistinct members hmembers]

end

namespace Reader

def run (tokens : List Token) (r : Reader) : Option Reader := tokens.foldlM (step Record.ofList) r

theorem run_cons_of_step {token : Token} {tokens : List Token} {r r' : Reader}
    (h : r.step Record.ofList token = some r') : run (token :: tokens) r = run tokens r' := by
  rw [run, List.foldlM_cons, h]
  rfl

/-- A value may stand where an array ends: its first token closes nothing. -/
theorem run_tokensOf_firstItem (v : Value) (frames : List Frame) (rest : List Token) :
    run (tokensOf v ++ rest) ⟨frames, .firstItem⟩ =
      run (tokensOf v ++ rest) ⟨.items [] :: frames, .value⟩ := by
  cases v <;> rfl

theorem run_key (key : String) (read : List (String × Value)) (frames : List Frame)
    (rest : List Token) :
    run (.string key :: .colon :: rest) ⟨frames, .key read⟩ =
      run rest ⟨.member read key :: frames, .value⟩ := rfl

theorem run_tokensOfMembers_firstKey {members : List (String × Value)} (hne : members ≠ [])
    (frames : List Frame) (rest : List Token) :
    run (tokensOfMembers members ++ rest) ⟨frames, .firstKey⟩ =
      run (tokensOfMembers members ++ rest) ⟨frames, .key []⟩ := by
  cases members with
  | nil => exact absurd rfl hne
  | cons m members => cases members <;> rfl

theorem run_tokensOfItems_firstItem {items : List Value} (hne : items ≠ []) (frames : List Frame)
    (rest : List Token) :
    run (tokensOfItems items ++ rest) ⟨frames, .firstItem⟩ =
      run (tokensOfItems items ++ rest) ⟨.items [] :: frames, .value⟩ := by
  cases items with
  | nil => exact absurd rfl hne
  | cons v items =>
      by_cases hempty : items = []
      · subst hempty
        rw [tokensOfItems, List.append_assoc]
        exact run_tokensOf_firstItem v frames _
      · rw [tokensOfItems_cons v hempty, List.append_assoc]
        exact run_tokensOf_firstItem v frames _

mutual

/-- The tokens of a value complete it, whatever is open around it. -/
theorem run_tokensOf (v : Value) (frames : List Frame) (rest : List Token)
    (hdepth : frames.length + v.depth ≤ depthLimit) :
    run (tokensOf v ++ rest) ⟨frames, .value⟩ = run rest (complete v.gathered frames) := by
  cases v with
  | array items =>
      rw [Value.depth] at hdepth
      have hlevel : frames.length < depthLimit := by omega
      have hopen : step Record.ofList ⟨frames, .value⟩ .openArray = some ⟨frames, .firstItem⟩ :=
        if_pos hlevel
      rw [tokensOf, List.cons_append, run_cons_of_step hopen]
      by_cases hempty : items = []
      · subst hempty
        exact run_cons_of_step rfl
      · rw [run_tokensOfItems_firstItem hempty]
        exact run_tokensOfItems items hempty [] frames rest (by omega)
  | object members =>
      rw [Value.depth] at hdepth
      have hlevel : frames.length < depthLimit := by omega
      have hopen : step Record.ofList ⟨frames, .value⟩ .openObject = some ⟨frames, .firstKey⟩ :=
        if_pos hlevel
      rw [tokensOf, List.cons_append, run_cons_of_step hopen]
      by_cases hempty : members = []
      · subst hempty
        exact run_cons_of_step rfl
      · rw [run_tokensOfMembers_firstKey hempty]
        exact run_tokensOfMembers members hempty [] frames rest (by omega)
  | _ => exact run_cons_of_step rfl

theorem run_tokensOfItems (items : List Value) (hne : items ≠ []) (read : List Value)
    (frames : List Frame) (rest : List Token)
    (hdepth : frames.length + 1 + Value.depthOfItems items ≤ depthLimit) :
    run (tokensOfItems items ++ rest) ⟨.items read :: frames, .value⟩ =
      run rest (complete (.array (read.reverse ++ Value.gatheredItems items)) frames) := by
  cases items with
  | nil => exact absurd rfl hne
  | cons v items =>
      rw [Value.depthOfItems] at hdepth
      have hframes : (Frame.items read :: frames).length + v.depth ≤ depthLimit := by
        rw [List.length_cons]
        omega
      rw [Value.gatheredItems]
      by_cases hempty : items = []
      · subst hempty
        have hclose : step Record.ofList (complete v.gathered (.items read :: frames)) .closeArray =
            some (complete (.array (v.gathered :: read).reverse) frames) := rfl
        rw [tokensOfItems, List.append_assoc, run_tokensOf v _ _ hframes, List.singleton_append,
          run_cons_of_step hclose, List.reverse_cons, Value.gatheredItems]
      · have hcomma : step Record.ofList (complete v.gathered (.items read :: frames)) .comma =
            some ⟨.items (v.gathered :: read) :: frames, .value⟩ := rfl
        have hrest := run_tokensOfItems items hempty (v.gathered :: read) frames rest (by omega)
        rw [tokensOfItems_cons v hempty, List.append_assoc, run_tokensOf v _ _ hframes,
          List.cons_append, run_cons_of_step hcomma, hrest, List.reverse_cons, List.append_assoc,
          List.singleton_append]

theorem run_tokensOfMembers (members : List (String × Value)) (hne : members ≠ [])
    (read : List (String × Value)) (frames : List Frame) (rest : List Token)
    (hdepth : frames.length + 1 + Value.depthOfMembers members ≤ depthLimit) :
    run (tokensOfMembers members ++ rest) ⟨frames, .key read⟩ =
      run rest (complete (.object (Record.ofList (read.reverse ++ Value.gatheredMembers members)))
        frames) := by
  cases members with
  | nil => exact absurd rfl hne
  | cons m members =>
      rw [Value.depthOfMembers] at hdepth
      have hframes : (Frame.member read m.1 :: frames).length + m.2.depth ≤ depthLimit := by
        rw [List.length_cons]
        omega
      rw [Value.gatheredMembers]
      by_cases hempty : members = []
      · subst hempty
        have hclose : step Record.ofList (complete m.2.gathered (.member read m.1 :: frames))
            .closeObject = some (complete (.object
              (Record.ofList ((m.1, m.2.gathered) :: read).reverse)) frames) := rfl
        simp only [tokensOfMembers, List.cons_append, List.append_assoc]
        rw [run_key, run_tokensOf m.2 _ _ hframes, List.nil_append, run_cons_of_step hclose,
          List.reverse_cons, Value.gatheredMembers]
      · have hcomma : step Record.ofList (complete m.2.gathered (.member read m.1 :: frames)) .comma =
            some ⟨frames, .key ((m.1, m.2.gathered) :: read)⟩ := rfl
        have hrest := run_tokensOfMembers members hempty ((m.1, m.2.gathered) :: read) frames rest
          (by omega)
        rw [tokensOfMembers_cons m.1 m.2 hempty]
        simp only [List.cons_append, List.append_assoc]
        rw [run_key, run_tokensOf m.2 _ _ hframes, run_cons_of_step hcomma, hrest,
          List.reverse_cons, List.append_assoc, List.singleton_append]

end

end Reader

/-- The tokens of a value within the limit spell it. -/
theorem ofTokens?_tokensOf {v : Value} (hdepth : v.depth ≤ depthLimit) :
    ofTokens? Record.ofList (tokensOf v) = some v.gathered := by
  have hrun := Reader.run_tokensOf v [] [] (by rw [List.length_nil]; omega)
  have hread : (tokensOf v).foldlM (Reader.step Record.ofList) Reader.start =
      some (Reader.complete v.gathered []) := by
    rw [List.append_nil] at hrun
    exact hrun
  rw [ofTokens?, hread]
  rfl

/-- A text that has the tokens of a value spells it, with the members of its objects gathered. -/
theorem read?_of_ofText? {t : List Char} {v : Value} (h : Token.ofText? t = some (tokensOf v))
    (hdepth : v.depth ≤ depthLimit) : read? t = some v.gathered := by
  rw [read?, h, Option.bind_some, ofTokens?_tokensOf hdepth]

/-- What a value's own text spells, with the line end behind it. -/
theorem read?_pretty {v : Value} (hdepth : v.depth ≤ depthLimit) (hkeys : v.Every KeysDistinct)
    (hnumbers : v.Every NumbersSpelled) : read? (pretty v ++ ['\n']) = some v := by
  rw [read?_of_ofText? (ofText?_pretty hnumbers) hdepth, gathered_of_keysDistinct v hkeys]

end Json
end FieldRules
