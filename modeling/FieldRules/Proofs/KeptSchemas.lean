import FieldRules.Proofs.SharedSchemas

/-!
# Which requests share a schema

Where the keys of the requested files tell them apart, an entry is never replaced: a request finds
the entry of its own file, or it fails and leaves the cache alone, or it adds an entry in front of
the others. `Cache.Keeps` is the invariant that holds behind every history of such requests. The
answers can then be read off the cache at the end, and two of them are one schema exactly if they
are answers to one file.
-/

namespace FieldRules

theorem RuleFile.same_self {file : RuleFile} (hd : file.Distinct) : file.same file = true := by
  have hfields : ∀ f ∈ file.fields, file.fields.lookup f.1 = some f.2 := by
    intro f hf
    obtain ⟨front, back, hsplit⟩ := List.append_of_mem hf
    refine List.lookup_eq_some_iff.2 ⟨front, back, hsplit, fun g hg => ?_⟩
    rw [Distinct, hsplit, List.map_append, List.map_cons, List.nodup_append] at hd
    have hne : g.1 ≠ f.1 := hd.2.2 g.1 (List.mem_map_of_mem hg) f.1 List.mem_cons_self
    simpa using Ne.symm hne
  simpa [same] using hfields

namespace Cache

section Invariant

variable {κ : Type} {key : RuleFile → κ} {files : List RuleFile} {cache : Cache κ}

def KeysApart (key : RuleFile → κ) (files : List RuleFile) : Prop :=
  ∀ f ∈ files, ∀ g ∈ files, key f = key g → f = g

instance [DecidableEq κ] (key : RuleFile → κ) (files : List RuleFile) :
    Decidable (KeysApart key files) :=
  inferInstanceAs (Decidable (∀ f ∈ files, ∀ g ∈ files, key f = key g → f = g))

theorem KeysApart.of_subset {files' : List RuleFile} (h : KeysApart key files)
    (hsub : files' ⊆ files) : KeysApart key files' :=
  fun f hf g hg => h f (hsub hf) g (hsub hg)

/-- Every requested file that compiles has one entry, with a number of its own. -/
structure Keeps (key : RuleFile → κ) (files : List RuleFile) (cache : Cache κ) : Prop where
  filled : FilledBy key files cache
  kept : ∀ f ∈ files, ∀ s, f.compile = .ok s → ∃ e ∈ cache.entries, e.file = f
  files_nodup : (cache.entries.map CacheEntry.file).Nodup
  numbers_nodup : (cache.entries.map fun e => e.shared.number).Nodup
  number_lt : ∀ e ∈ cache.entries, e.shared.number < cache.compiled

namespace Keeps

theorem empty (key : RuleFile → κ) : Keeps key [] Cache.empty where
  filled := List.forall_mem_nil _
  kept := List.forall_mem_nil _
  files_nodup := List.nodup_nil
  numbers_nodup := List.nodup_nil
  number_lt := List.forall_mem_nil _

theorem eq_of_file_eq (h : Keeps key files cache) {e e' : CacheEntry κ} (he : e ∈ cache.entries)
    (he' : e' ∈ cache.entries) (hfile : e.file = e'.file) : e = e' :=
  List.inj_on_of_nodup_map h.files_nodup he he' hfile

theorem eq_of_number_eq (h : Keeps key files cache) {e e' : CacheEntry κ}
    (he : e ∈ cache.entries) (he' : e' ∈ cache.entries)
    (hnumber : e.shared.number = e'.shared.number) : e = e' :=
  List.inj_on_of_nodup_map h.numbers_nodup he he' hnumber

theorem file_eq_of_key_eq (h : Keeps key files cache) {file : RuleFile}
    (hkeys : KeysApart key (files ++ [file])) {e : CacheEntry κ} (he : e ∈ cache.entries)
    (hkey : e.key = key file) : e.file = file := by
  obtain ⟨hfile, hkey', -⟩ := h.filled e he
  refine hkeys e.file (List.mem_append_left _ hfile) file ?_ (hkey'.symm.trans hkey)
  exact List.mem_append_right _ (List.mem_singleton_self file)

theorem append (h : Keeps key files cache) {file : RuleFile}
    (hfile : ∀ s, file.compile = .ok s → ∃ e ∈ cache.entries, e.file = file) :
    Keeps key (files ++ [file]) cache :=
  { h with
    filled := fun e he => (h.filled e he).imp_left (List.mem_append_left _)
    kept := fun f hf s hs => by
      rcases List.mem_append.1 hf with hf | hf
      · exact h.kept f hf s hs
      · rw [List.mem_singleton.1 hf] at hs ⊢
        exact hfile s hs }

theorem add (h : Keeps key files cache) {file : RuleFile} {schema : Schema}
    (hs : file.compile = .ok schema) (hnew : ∀ e ∈ cache.entries, e.file ≠ file) :
    Keeps key (files ++ [file])
      ⟨⟨key file, file, ⟨cache.compiled, schema⟩⟩ :: cache.entries, cache.compiled + 1⟩ where
  filled := by
    refine List.forall_mem_cons.2 ⟨⟨by simp, rfl, hs⟩, fun e he => ?_⟩
    exact (h.filled e he).imp_left (List.mem_append_left _)
  kept := by
    intro f hf s hfs
    rcases List.mem_append.1 hf with hf | hf
    · obtain ⟨e, he, hfile⟩ := h.kept f hf s hfs
      exact ⟨e, List.mem_cons_of_mem _ he, hfile⟩
    · exact ⟨_, List.mem_cons_self, (List.mem_singleton.1 hf).symm⟩
  files_nodup := by
    refine List.nodup_cons.2 ⟨fun hmem => ?_, h.files_nodup⟩
    obtain ⟨e, he, hfile⟩ := List.mem_map.1 hmem
    exact hnew e he hfile
  numbers_nodup := by
    refine List.nodup_cons.2 ⟨fun hmem => ?_, h.numbers_nodup⟩
    -- the new entry takes the next number, which is above those given out
    obtain ⟨e, he, hnumber⟩ := List.mem_map.1 hmem
    exact absurd hnumber (Nat.ne_of_lt (h.number_lt e he))
  number_lt := by
    refine List.forall_mem_cons.2 ⟨Nat.lt_succ_self _, fun e he => ?_⟩
    exact Nat.lt_succ_of_lt (h.number_lt e he)

end Keeps
end Invariant

variable {κ : Type} [DecidableEq κ] {key : RuleFile → κ} {files : List RuleFile} {cache : Cache κ}

theorem store_of_keys_ne {e : CacheEntry κ} (h : ∀ old ∈ cache.entries, old.key ≠ e.key) :
    cache.store e = ⟨e :: cache.entries, cache.compiled + 1⟩ := by
  have hall : (cache.entries.filter fun old => old.key ≠ e.key) = cache.entries :=
    List.filter_eq_self.2 fun old hold => decide_eq_true (h old hold)
  rw [store, hall]

theorem snd_get_of_error {file : RuleFile} {error : SchemaError}
    (h : (cache.get key file).1 = .error error) : (cache.get key file).2 = cache := by
  rcases cache.get_cases key file with ⟨e, -, -, -, hget⟩ | ⟨error', -, hget⟩ | ⟨schema, -, hget⟩
  · rw [hget]
  · rw [hget]
  · rw [hget] at h
    cases h

namespace Keeps

theorem get_of_mem (h : Keeps key files cache) {e : CacheEntry κ} (he : e ∈ cache.entries)
    (hd : e.file.Distinct) (hkeys : KeysApart key (files ++ [e.file])) :
    cache.get key e.file = (.ok e.shared, cache) := by
  have hkey : e.key = key e.file := (h.filled e he).2.1
  have hfound : (cache.find? (key e.file)).isSome :=
    List.find?_isSome.2 ⟨e, he, decide_eq_true hkey⟩
  obtain ⟨e', hfind⟩ := Option.isSome_iff_exists.1 hfound
  have hkey' : e'.key = key e.file := by simpa using List.find?_some hfind
  have he' : e' ∈ cache.entries := List.mem_of_find?_eq_some hfind
  have hsame : e' = e := h.eq_of_file_eq he' he (h.file_eq_of_key_eq hkeys he' hkey')
  exact get_of_hit (hsame ▸ hfind) (RuleFile.same_self hd)

/-- All that a request can do: it finds the entry of its file, it fails, or it adds an entry. -/
theorem get_cases (h : Keeps key files cache) {file : RuleFile} (hd : file.Distinct)
    (hkeys : KeysApart key (files ++ [file])) :
    (∃ e ∈ cache.entries, e.file = file ∧ cache.get key file = (.ok e.shared, cache)) ∨
    (∃ error, file.compile = .error error ∧ cache.get key file = (.error error, cache)) ∨
    ∃ schema, file.compile = .ok schema ∧ (∀ e ∈ cache.entries, e.file ≠ file) ∧
      cache.get key file = (.ok ⟨cache.compiled, schema⟩,
        ⟨⟨key file, file, ⟨cache.compiled, schema⟩⟩ :: cache.entries, cache.compiled + 1⟩) := by
  by_cases hit : ∃ e ∈ cache.entries, e.file = file
  · obtain ⟨e, he, rfl⟩ := hit
    exact Or.inl ⟨e, he, rfl, h.get_of_mem he hd hkeys⟩
  · refine Or.inr ?_
    have hnew : ∀ e ∈ cache.entries, e.file ≠ file := fun e he hfile => hit ⟨e, he, hfile⟩
    have hother : ∀ e ∈ cache.entries, e.key ≠ key file := fun e he hkey =>
      hnew e he (h.file_eq_of_key_eq hkeys he hkey)
    have hnone : cache.find? (key file) = none :=
      List.find?_eq_none.2 fun e he => by simpa using hother e he
    rw [get_of_miss fun e he => by rw [hnone] at he; cases he]
    cases file.compile with
    | error error => exact Or.inl ⟨error, rfl, rfl⟩
    | ok schema =>
        refine Or.inr ⟨schema, rfl, hnew, ?_⟩
        dsimp only
        rw [store_of_keys_ne hother]

theorem get (h : Keeps key files cache) {file : RuleFile} (hd : file.Distinct)
    (hkeys : KeysApart key (files ++ [file])) :
    Keeps key (files ++ [file]) (cache.get key file).2 := by
  rcases h.get_cases hd hkeys with ⟨e, he, hfile, hget⟩ | ⟨error, hs, hget⟩ |
    ⟨schema, hs, hnew, hget⟩
  · rw [hget]
    exact h.append fun s _ => ⟨e, he, hfile⟩
  · rw [hget]
    exact h.append fun s hok => by rw [hs] at hok; cases hok
  · rw [hget]
    exact h.add hs hnew

theorem entries_suffix (h : Keeps key files cache) {file : RuleFile} (hd : file.Distinct)
    (hkeys : KeysApart key (files ++ [file])) :
    cache.entries <:+ (cache.get key file).2.entries := by
  rcases h.get_cases hd hkeys with ⟨e, -, -, hget⟩ | ⟨error, -, hget⟩ | ⟨schema, -, -, hget⟩ <;>
    simp [hget]

theorem exists_mem_of_get_eq_ok (h : Keeps key files cache) {file : RuleFile} (hd : file.Distinct)
    (hkeys : KeysApart key (files ++ [file])) {shared : SharedSchema}
    (hok : (cache.get key file).1 = .ok shared) :
    ∃ e ∈ (cache.get key file).2.entries, e.file = file ∧ e.shared = shared := by
  rcases h.get_cases hd hkeys with ⟨e, he, hfile, hget⟩ | ⟨error, -, hget⟩ |
    ⟨schema, -, -, hget⟩
  · rw [hget] at hok ⊢
    exact ⟨e, he, hfile, Except.ok.inj hok⟩
  · rw [hget] at hok
    cases hok
  · rw [hget] at hok ⊢
    exact ⟨_, List.mem_cons_self, rfl, Except.ok.inj hok⟩

theorem get_eq_error_iff (h : Keeps key files cache) {file : RuleFile} (hd : file.Distinct)
    (hkeys : KeysApart key (files ++ [file])) {error : SchemaError} :
    (cache.get key file).1 = .error error ↔ file.compile = .error error := by
  rcases h.get_cases hd hkeys with ⟨e, he, rfl, hget⟩ | ⟨error', hs, hget⟩ | ⟨schema, hs, -, hget⟩
  · simp [hget, (h.filled e he).2.2]
  · simp [hget, hs]
  · simp [hget, hs]

end Keeps

theorem afterRequests_append (cache : Cache κ) (files : List RuleFile) (file : RuleFile) :
    cache.afterRequests key (files ++ [file]) = ((cache.afterRequests key files).get key file).2 := by
  rw [afterRequests, List.foldl_append]
  rfl

theorem keeps_afterRequests (hd : ∀ f ∈ files, f.Distinct) (hkeys : KeysApart key files) :
    Keeps key files (empty.afterRequests key files) := by
  induction files using List.reverseRecOn with
  | nil => exact .empty key
  | append_singleton files file ih =>
      have hfiles := ih (fun f hf => hd f (List.mem_append_left _ hf))
        (hkeys.of_subset (List.subset_append_left _ _))
      rw [afterRequests_append]
      exact hfiles.get (hd file (by simp)) hkeys

/-- Entries are never evicted: what a history has stored, a longer one stores too. -/
theorem entries_suffix_mono (hd : ∀ f ∈ files, f.Distinct) (hkeys : KeysApart key files)
    {earlier : List RuleFile} (h : earlier <+: files) :
    (empty.afterRequests key earlier).entries <:+ (empty.afterRequests key files).entries := by
  induction files using List.reverseRecOn with
  | nil => simp [List.prefix_nil.1 h]
  | append_singleton files file ih =>
      have hd' : ∀ f ∈ files, f.Distinct := fun f hf => hd f (List.mem_append_left _ hf)
      have hkeys' := hkeys.of_subset (List.subset_append_left files [file])
      rcases List.prefix_concat_iff.1 h with rfl | h
      · exact List.suffix_refl _
      · rw [afterRequests_append]
        refine (ih hd' hkeys' h).trans ?_
        exact (keeps_afterRequests hd' hkeys').entries_suffix (hd file (by simp)) hkeys

def answer (key : RuleFile → κ) (files : List RuleFile) (i : Fin files.length) :
    Except SchemaError SharedSchema :=
  ((empty.afterRequests key (files.take i)).get key files[i]).1

theorem take_succ_eq (i : Fin files.length) : files.take (i + 1) = files.take i ++ [files[i]] :=
  List.take_succ_eq_append_getElem i.isLt

theorem keeps_take (hd : ∀ f ∈ files, f.Distinct) (hkeys : KeysApart key files)
    (i : Fin files.length) :
    Keeps key (files.take i) (empty.afterRequests key (files.take i)) ∧ files[i].Distinct ∧
      KeysApart key (files.take i ++ [files[i]]) := by
  have htake : KeysApart key (files.take (i + 1)) := hkeys.of_subset (List.take_subset _ _)
  rw [take_succ_eq] at htake
  refine ⟨keeps_afterRequests (fun f hf => hd f (List.take_subset _ _ hf)) ?_,
    hd _ (List.getElem_mem i.isLt), htake⟩
  exact htake.of_subset (List.subset_append_left _ _)

theorem answer_eq_error_iff (hd : ∀ f ∈ files, f.Distinct) (hkeys : KeysApart key files)
    (i : Fin files.length) {error : SchemaError} :
    answer key files i = .error error ↔ files[i].compile = .error error := by
  obtain ⟨hkeeps, hfile, happart⟩ := keeps_take hd hkeys i
  exact hkeeps.get_eq_error_iff hfile happart

/-- The answers stand in the cache behind the whole history. -/
theorem answer_eq_ok_iff (hd : ∀ f ∈ files, f.Distinct) (hkeys : KeysApart key files)
    (i : Fin files.length) {shared : SharedSchema} :
    answer key files i = .ok shared ↔
      ∃ e ∈ (empty.afterRequests key files).entries, e.file = files[i] ∧ e.shared = shared := by
  have hall := keeps_afterRequests hd hkeys
  have hstored {s : SharedSchema} (hs : answer key files i = .ok s) :
      ∃ e ∈ (empty.afterRequests key files).entries, e.file = files[i] ∧ e.shared = s := by
    obtain ⟨hkeeps, hfile, hapart⟩ := keeps_take hd hkeys i
    obtain ⟨e, he, hentry⟩ := hkeeps.exists_mem_of_get_eq_ok hfile hapart hs
    rw [← afterRequests_append, ← take_succ_eq] at he
    exact ⟨e, (entries_suffix_mono hd hkeys (List.take_prefix _ _)).mem he, hentry⟩
  refine ⟨hstored, ?_⟩
  rintro ⟨e, he, hfile, rfl⟩
  -- the file of an entry compiles, so its request succeeds, and it has no second entry
  cases hs : answer key files i with
  | error error =>
      have hcompile := (answer_eq_error_iff hd hkeys i).1 hs
      rw [← hfile, (hall.filled e he).2.2] at hcompile
      cases hcompile
  | ok s =>
      obtain ⟨e', he', hfile', rfl⟩ := hstored hs
      rw [hall.eq_of_file_eq he' he (hfile'.trans hfile.symm)]

theorem answers_agree (hd : ∀ f ∈ files, f.Distinct) (hkeys : KeysApart key files)
    {i j : Fin files.length} {s t : SharedSchema} (hs : answer key files i = .ok s)
    (ht : answer key files j = .ok t) :
    (s.number = t.number → files[i] = files[j]) ∧ (files[i] = files[j] → s = t) := by
  have hall := keeps_afterRequests hd hkeys
  obtain ⟨e, he, hfile, rfl⟩ := (answer_eq_ok_iff hd hkeys i).1 hs
  obtain ⟨e', he', hfile', rfl⟩ := (answer_eq_ok_iff hd hkeys j).1 ht
  rw [← hfile, ← hfile']
  constructor
  · intro hnumber
    rw [hall.eq_of_number_eq he he' hnumber]
  · intro hfiles
    rw [hall.eq_of_file_eq he he' hfiles]

def Shares (a b : Except SchemaError SharedSchema) : Prop :=
  ∃ s t, a = .ok s ∧ b = .ok t ∧ s.number = t.number

end Cache

open Cache (KeysApart answer Shares afterRequests)

/-- Where different files have different keys, two requests of a history get one schema exactly if
both succeed and their files are equal in all, the order of the fields included. A request that
fails leaves the cache as it was, and wherever it is made again it fails with the same error. -/
theorem shares_iff_files_eq {κ : Type} [DecidableEq κ] {key : RuleFile → κ}
    {files : List RuleFile} (hd : ∀ f ∈ files, f.Distinct) (hkeys : KeysApart key files)
    (i j : Fin files.length) :
    (Shares (answer key files i) (answer key files j) ↔
      (∃ s, answer key files i = .ok s) ∧ (∃ t, answer key files j = .ok t) ∧
        files[i] = files[j]) ∧
    (Shares (answer key files i) (answer key files j) → answer key files i = answer key files j) ∧
    ∀ error, answer key files i = .error error →
      Cache.empty.afterRequests key (files.take (i + 1)) =
        Cache.empty.afterRequests key (files.take i) ∧
      (files[j] = files[i] → answer key files j = .error error) := by
  refine ⟨⟨?_, ?_⟩, ?_, fun error herror => ⟨?_, fun hfile => ?_⟩⟩
  · rintro ⟨s, t, hs, ht, hnumber⟩
    exact ⟨⟨s, hs⟩, ⟨t, ht⟩, (Cache.answers_agree hd hkeys hs ht).1 hnumber⟩
  · rintro ⟨⟨s, hs⟩, ⟨t, ht⟩, hfiles⟩
    have heq := (Cache.answers_agree hd hkeys hs ht).2 hfiles
    exact ⟨s, t, hs, ht, congrArg SharedSchema.number heq⟩
  · rintro ⟨s, t, hs, ht, hnumber⟩
    obtain ⟨hfiles, hsame⟩ := Cache.answers_agree hd hkeys hs ht
    rw [hs, ht, hsame (hfiles hnumber)]
  · rw [Cache.take_succ_eq, Cache.afterRequests_append]
    exact Cache.snd_get_of_error herror
  · rw [Cache.answer_eq_error_iff hd hkeys, hfile]
    exact (Cache.answer_eq_error_iff hd hkeys i).1 herror

/-- A history under the digests as keys: a file, its strict form, its fields in the other order, a
file that does not compile, and two of them again. -/
theorem shares_iff_files_eq_name_age :
    let name := ("name", RuleSource.pipe "required|string")
    let age := ("age", RuleSource.list ["optional", "integer"])
    let broken : RuleFile := ⟨false, [("age", .pipe "min:old")]⟩
    let files : List RuleFile :=
      [⟨false, [name, age]⟩, ⟨true, [name, age]⟩, ⟨false, [age, name]⟩, broken,
        ⟨false, [name, age]⟩, broken]
    (∀ f ∈ files, f.Distinct) ∧ KeysApart RuleFile.key files ∧ ∀ i j : Fin files.length,
      (Shares (answer RuleFile.key files i) (answer RuleFile.key files j) ↔
        (∃ s, answer RuleFile.key files i = .ok s) ∧ (∃ t, answer RuleFile.key files j = .ok t) ∧
          files[i] = files[j]) ∧
      (Shares (answer RuleFile.key files i) (answer RuleFile.key files j) →
        answer RuleFile.key files i = answer RuleFile.key files j) ∧
      ∀ error, answer RuleFile.key files i = .error error →
        Cache.empty.afterRequests RuleFile.key (files.take (i + 1)) =
          Cache.empty.afterRequests RuleFile.key (files.take i) ∧
        (files[j] = files[i] → answer RuleFile.key files j = .error error) := by
  intro name age broken files
  have hd : ∀ f ∈ files, f.Distinct := by decide
  have hkeys : KeysApart RuleFile.key files := by decide +kernel
  exact ⟨hd, hkeys, fun i j => shares_iff_files_eq hd hkeys i j⟩

/-- Under one key for all files an entry is replaced, and its file is compiled anew. -/
example :
    let name : RuleFile := ⟨false, [("name", .pipe "required")]⟩
    let age : RuleFile := ⟨false, [("age", .pipe "required")]⟩
    (List.finRange 3).map (fun i =>
      ((answer (fun _ => 0) [name, age, name] i).map SharedSchema.number).toOption) =
        [some 0, some 1, some 2] := by
  decide +kernel

end FieldRules
