import FieldRules.Proofs.NestingDepth

/-!
# Sanitizing the parts or what they are merged into

Merging goes by the keys: it decides which value stays and where it stands, and never looks into a
value. So strings can be replaced before the parts are merged or afterwards. The depth agrees as
well. A merged record is one object around values that each had an object of its part around them,
so it is as deep as some part at most; only where no part has a member it is the empty object, which
needs one level all the same.
-/

namespace FieldRules

open Cleaning (cleanText)

theorem Sanitizer.depth_le_of_sanitize (s : Sanitizer) {v w : Value} (h : s.sanitize v = .ok w) :
    v.depth ≤ s.maxDepth := by
  rw [sanitize_eq] at h
  split at h
  · assumption
  · cases h

namespace Record

variable (f : String → String)

theorem mapStrings_insert (r : Record) (key : String) (value : Value) :
    Value.mapStringsOfMembers f (r.insert key value) =
      insert (Value.mapStringsOfMembers f r) key (value.mapStrings f) := by
  induction r with
  | nil => rfl
  | cons m r ih =>
      obtain ⟨k, v⟩ := m
      rw [insert, Value.mapStringsOfMembers, insert]
      split
      · rfl
      · rw [Value.mapStringsOfMembers, ih]

theorem mapStrings_insertAll (r s : Record) :
    Value.mapStringsOfMembers f (r.insertAll s) =
      insertAll (Value.mapStringsOfMembers f r) (Value.mapStringsOfMembers f s) := by
  induction s generalizing r with
  | nil => rfl
  | cons m s ih =>
      have hinsert := mapStrings_insert f r m.1 m.2
      exact (ih (r.insert m.1 m.2)).trans (congrArg (insertAll · _) hinsert)

/-- One object around values within a limit needs one level more. -/
theorem depth_object_le_iff {limit : Nat} {r : Record} :
    (Value.object r).depth ≤ limit + 1 ↔ r.Within limit := by
  rw [Value.depth, Nat.succ_le_succ_iff, Value.depthOfMembers_le_iff, Within]

end Record

namespace RequestParts

variable {limit : Nat} {p p' : RequestParts}

theorem membersOf_mapStrings (f : String → String) (v : Value) :
    membersOf (v.mapStrings f) = Value.mapStringsOfMembers f (membersOf v) := by
  cases v <;> rfl

theorem merged_mapStrings (f : String → String) (p : RequestParts) :
    (p.mapStrings f).merged = Value.mapStringsOfMembers f p.merged := by
  simp only [merged, mapStrings, membersOf_mapStrings, Record.mapStrings_insertAll, Record.ofList]
  rfl

theorem within_membersOf_of_depth_le {v : Value} (h : v.depth ≤ limit + 1) :
    (membersOf v).Within limit := by
  cases v with
  | object members => exact Record.depth_object_le_iff.1 h
  | _ => exact Record.within_nil

/-- The parts are sanitized one by one, and one that is too deep would be refused. -/
theorem within_of_sanitized {s : Sanitizer} (h : p.sanitized s = .ok p') : p.Within s.maxDepth := by
  rw [sanitized] at h
  cases hbody : s.sanitize p.body with
  | error e =>
      rw [hbody] at h
      cases h
  | ok body =>
      cases hquery : s.sanitize p.query with
      | error e =>
          rw [hbody, hquery] at h
          cases h
      | ok query =>
          cases hparams : s.sanitize p.params with
          | error e =>
              rw [hbody, hquery, hparams] at h
              cases h
          | ok params =>
              exact ⟨s.depth_le_of_sanitize hbody, s.depth_le_of_sanitize hquery,
                s.depth_le_of_sanitize hparams⟩

theorem Within.depth_merged (h : p.Within (limit + 1)) :
    (Value.object p.merged).depth ≤ limit + 1 :=
  Record.depth_object_le_iff.2 (within_merged (within_membersOf_of_depth_le h.1)
    (within_membersOf_of_depth_le h.2.1) (within_membersOf_of_depth_le h.2.2))

end RequestParts

/-- Where the sanitizer takes each part, it takes the record that they are merged into, if it allows
an object at all, and cleans it to what the sanitized parts are merged into: the same keys in the
same order with the same values, whichever keys the parts share and whether or not they are
objects. -/
theorem sanitize_merged_of_sanitized {p p' : RequestParts} {s : Sanitizer} (hs : 1 ≤ s.maxDepth)
    (h : p.sanitized s = .ok p') : s.sanitize (.object p.merged) = .ok (.object p'.merged) := by
  have hwithin := RequestParts.within_of_sanitized h
  rw [hwithin.sanitized_eq (Nat.le_refl _)] at h
  obtain rfl := Except.ok.inj h
  obtain ⟨limit, hlimit⟩ := Nat.exists_eq_add_of_le' hs
  rw [hlimit] at hwithin
  have hdepth : (Value.object p.merged).depth ≤ s.maxDepth := hlimit ▸ hwithin.depth_merged
  rw [s.sanitize_of_depth_le hdepth, RequestParts.merged_mapStrings, Value.mapStrings]

/-- The body overrides the identifier where the query put it, and is as deep as the limit allows;
the path parameters are no object. -/
theorem sanitize_merged_of_sanitized_id :
    let p : RequestParts :=
      ⟨.object [("tags", .array [.string "<b>x</b>"]), ("id", .string "<i>body</i>")],
        .object [("id", .string "query"), ("page", .string " 2")], .array [.string " "]⟩
    let p' : RequestParts :=
      ⟨.object [("tags", .array [.string "x"]), ("id", .string "body")],
        .object [("id", .string "query"), ("page", .string "2")], .array [.string ""]⟩
    let s : Sanitizer := ⟨2⟩
    1 ≤ s.maxDepth ∧ p.sanitized s = .ok p' ∧
      s.sanitize (.object p.merged) = .ok (.object p'.merged) := by
  intro p p' s
  have hs : 1 ≤ s.maxDepth := by decide
  have hp : p.sanitized s = .ok p' := by rfl
  exact ⟨hs, hp, sanitize_merged_of_sanitized hs hp⟩

/-- Without a level for the merged object, parts that are no objects are still taken one by one. -/
example :
    let p : RequestParts := ⟨.null, .bool true, .string "a"⟩
    p.sanitized ⟨0⟩ = .ok p ∧ (⟨0⟩ : Sanitizer).sanitize (.object p.merged) = .error ⟨0⟩ :=
  ⟨rfl, rfl⟩

end FieldRules
