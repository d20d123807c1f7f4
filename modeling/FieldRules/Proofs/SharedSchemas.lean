import FieldRules.Proofs.CompiledChain
import FieldRules.Schema.Cache
import Mathlib.Data.List.Induction
import Mathlib.Data.List.Nodup
import Mathlib.Data.List.Perm.Subperm

/-!
# What a shared schema is the schema of

An entry of a cache holds the schema of its file. A file is answered from an entry under its key
when the entry's file states the same rules, and there the order of the fields does not count, while
the schema keeps it. So an answer is the file's own schema, or that of an earlier file whose key is
the same and which differs in the order of its fields alone. Whatever the keys are, nothing else can
happen; that two orders have one key does happen, even where the key is a digest of the fields in
order.
-/

namespace FieldRules

namespace RuleFile

def Distinct (file : RuleFile) : Prop := (file.fields.map Prod.fst).Nodup

instance (file : RuleFile) : Decidable file.Distinct :=
  inferInstanceAs (Decidable (List.Nodup _))

def Reorders (a b : RuleFile) : Prop := a.strict = b.strict ∧ a.fields.Perm b.fields

theorem Reorders.of_same {a b : RuleFile} (hd : a.Distinct) (h : a.same b = true) :
    a.Reorders b := by
  simp only [same, Bool.and_eq_true, beq_iff_eq, List.all_eq_true] at h
  obtain ⟨⟨hstrict, hlength⟩, hall⟩ := h
  have hsubset : a.fields ⊆ b.fields := by
    intro f hf
    obtain ⟨front, back, hfields, -⟩ := List.lookup_eq_some_iff.1 (hall f hf)
    rw [hfields]
    exact List.mem_append_right front List.mem_cons_self
  exact ⟨hstrict,
    (List.subperm_of_subset (List.Nodup.of_map _ hd) hsubset).perm_of_length_le
      (Nat.le_of_eq hlength.symm)⟩

theorem Reorders.compile {a b : RuleFile} (h : a.Reorders b) {s : Schema}
    (hs : a.compile = .ok s) :
    ∃ s', b.compile = .ok s' ∧ s.chains.Perm s'.chains ∧ s.diagnostics.Perm s'.diagnostics := by
  have hspecs : a.specs.Perm b.specs := h.2.map _
  rw [RuleFile.compile, h.1] at hs
  exact exists_compileSchema_of_perm hspecs hs

end RuleFile

namespace Cache

variable {κ : Type} [DecidableEq κ] {key : RuleFile → κ}

theorem get_of_hit {cache : Cache κ} {file : RuleFile} {e : CacheEntry κ}
    (he : cache.find? (key file) = some e) (hs : e.file.same file = true) :
    cache.get key file = (.ok e.shared, cache) := by
  simp only [get, he, hs, if_true]

theorem get_of_miss {cache : Cache κ} {file : RuleFile}
    (h : ∀ e, cache.find? (key file) = some e → e.file.same file = false) :
    cache.get key file =
      match file.compile with
      | .error e => (.error e, cache)
      | .ok schema => (.ok ⟨cache.compiled, schema⟩,
        cache.store ⟨key file, file, ⟨cache.compiled, schema⟩⟩) := by
  cases he : cache.find? (key file) with
  | none => cases hc : file.compile <;> simp only [get, he, hc]
  | some e =>
      have hother := h e he
      cases hc : file.compile <;> simp only [get, he, hother, hc, Bool.false_eq_true, if_false]

theorem get_cases (key : RuleFile → κ) (cache : Cache κ) (file : RuleFile) :
    (∃ e ∈ cache.entries, e.key = key file ∧ e.file.same file = true ∧
      cache.get key file = (.ok e.shared, cache)) ∨
    (∃ error, file.compile = .error error ∧ cache.get key file = (.error error, cache)) ∨
    ∃ schema, file.compile = .ok schema ∧
      cache.get key file = (.ok ⟨cache.compiled, schema⟩,
        cache.store ⟨key file, file, ⟨cache.compiled, schema⟩⟩) := by
  by_cases hit : ∃ e, cache.find? (key file) = some e ∧ e.file.same file = true
  · obtain ⟨e, he, hsame⟩ := hit
    have hkey : e.key = key file := by simpa using List.find?_some he
    exact Or.inl ⟨e, List.mem_of_find?_eq_some he, hkey, hsame, get_of_hit he hsame⟩
  · refine Or.inr ?_
    rw [get_of_miss fun e he => Bool.eq_false_iff.2 fun hsame => hit ⟨e, he, hsame⟩]
    cases file.compile with
    | error e => exact Or.inl ⟨e, rfl, rfl⟩
    | ok schema => exact Or.inr ⟨schema, rfl, rfl⟩

def afterRequests (key : RuleFile → κ) (cache : Cache κ) (files : List RuleFile) : Cache κ :=
  files.foldl (fun cache file => (cache.get key file).2) cache

/-- Every entry stands under the key of a requested file and holds that file's schema. -/
def FilledBy (key : RuleFile → κ) (files : List RuleFile) (cache : Cache κ) : Prop :=
  ∀ e ∈ cache.entries, e.file ∈ files ∧ e.key = key e.file ∧ e.file.compile = .ok e.shared.schema

theorem FilledBy.get {files : List RuleFile} {cache : Cache κ} (h : FilledBy key files cache)
    (file : RuleFile) : FilledBy key (files ++ [file]) (cache.get key file).2 := by
  have hkept : FilledBy key (files ++ [file]) cache := fun e he =>
    (h e he).imp_left fun hfile => List.mem_append_left _ hfile
  rcases cache.get_cases key file with ⟨e, -, -, -, hget⟩ | ⟨error, -, hget⟩ | ⟨schema, hs, hget⟩
  · rw [hget]
    exact hkept
  · rw [hget]
    exact hkept
  · rw [hget]
    intro e he
    rcases List.mem_cons.1 he with rfl | he
    · exact ⟨List.mem_append_right _ (List.mem_singleton_self _), rfl, hs⟩
    · exact hkept e (List.mem_filter.1 he).1

theorem filledBy_afterRequests (key : RuleFile → κ) (files : List RuleFile) :
    FilledBy key files (afterRequests key empty files) := by
  induction files using List.reverseRecOn with
  | nil => exact fun e he => absurd he List.not_mem_nil
  | append_singleton files file ih =>
      rw [afterRequests, List.foldl_append]
      exact ih.get file

end Cache

/-- Whatever the keys are, a request is answered as by compiling its file, unless an earlier file
has the same key and differs in the order of its fields alone: then the answer may be the schema of
that file, with the same chains and diagnostics in the other order. -/
theorem schema_of_request {κ : Type} [DecidableEq κ] (key : RuleFile → κ)
    {earlier : List RuleFile} (hd : ∀ f ∈ earlier, f.Distinct) (file : RuleFile) :
    let answer := (((Cache.empty.afterRequests key earlier).get key file).1).map
      SharedSchema.schema
    answer = file.compile ∨
      ∃ other ∈ earlier, other ≠ file ∧ key other = key file ∧ other.Reorders file ∧
        answer = other.compile ∧
        ∃ shared own, other.compile = .ok shared ∧ file.compile = .ok own ∧
          shared.chains.Perm own.chains ∧ shared.diagnostics.Perm own.diagnostics := by
  intro answer
  have hfilled := Cache.filledBy_afterRequests key earlier
  rcases (Cache.empty.afterRequests key earlier).get_cases key file with
    ⟨e, he, hkey, hsame, hget⟩ | ⟨error, hs, hget⟩ | ⟨schema, hs, hget⟩
  · obtain ⟨hfile, hkey', hschema⟩ := hfilled e he
    have hanswer : answer = e.file.compile := by
      simp only [answer, hget, hschema, Except.map]
    by_cases hne : e.file = file
    · exact Or.inl (hne ▸ hanswer)
    · have hreorders := RuleFile.Reorders.of_same (hd e.file hfile) hsame
      obtain ⟨own, hown, hchains, hdiagnostics⟩ := hreorders.compile hschema
      exact Or.inr ⟨e.file, hfile, hne, hkey' ▸ hkey, hreorders, hanswer, e.shared.schema, own,
        hschema, hown, hchains, hdiagnostics⟩
  · refine Or.inl ?_
    simp only [answer, hget, hs, Except.map]
  · refine Or.inl ?_
    simp only [answer, hget, hs, Except.map]

/-- One key for all files, and the fields of a file in both orders. -/
theorem schema_of_request_name_age :
    let key : RuleFile → Nat := fun _ => 0
    let earlier : List RuleFile :=
      [⟨false, [("name", .pipe "required"), ("age", .list ["integer", "shiny"])]⟩]
    let file : RuleFile :=
      ⟨false, [("age", .list ["integer", "shiny"]), ("name", .pipe "required")]⟩
    let answer := (((Cache.empty.afterRequests key earlier).get key file).1).map
      SharedSchema.schema
    (∀ f ∈ earlier, f.Distinct) ∧
      (answer = file.compile ∨
        ∃ other ∈ earlier, other ≠ file ∧ key other = key file ∧ other.Reorders file ∧
          answer = other.compile ∧
          ∃ shared own, other.compile = .ok shared ∧ file.compile = .ok own ∧
            shared.chains.Perm own.chains ∧ shared.diagnostics.Perm own.diagnostics) := by
  intro key earlier file answer
  have hd : ∀ f ∈ earlier, f.Distinct := by decide
  exact ⟨hd, schema_of_request key hd file⟩

/-- Two orders of the same fields have one key, and the later file gets the schema of the earlier
one. -/
theorem schema_of_request_in_other_order :
    let fields := fun letters : String =>
      letters.toList.map fun c => (c.toString, RuleSource.pipe "required")
    let earlier : RuleFile := ⟨false, fields "ogkluanremstfdipbqjch"⟩
    let file : RuleFile := ⟨false, fields "dsrfoqhintmcjlbkueapg"⟩
    let order := fun schema : Except SchemaError Schema =>
      (schema.map fun s => s.chains.map Chain.field).toOption
    earlier.Distinct ∧
      order ((((Cache.empty.afterRequests RuleFile.key [earlier]).get RuleFile.key file).1).map
        SharedSchema.schema) = some (earlier.fields.map Prod.fst) ∧
      order file.compile = some (file.fields.map Prod.fst) ∧
      earlier.fields.map Prod.fst ≠ file.fields.map Prod.fst := by
  decide +kernel

end FieldRules
