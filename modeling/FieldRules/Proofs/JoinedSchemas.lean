import FieldRules.Proofs.CompiledChain
import FieldRules.Proofs.FieldValue

/-!
# Schemas one behind the other

A field compiles on its own, whatever stands beside it, and a run passes nothing from chain to chain
but the record. So the rules of two lists of fields compile together exactly if both lists do, to
the one schema behind the other, and to run that is to run the second schema on the record that the
first returns. Nothing is asked of the names: a field may have chains in both.
-/

namespace FieldRules

namespace Schema

def append (a b : Schema) : Schema := ⟨a.chains ++ b.chains, a.diagnostics ++ b.diagnostics⟩

instance : Append Schema := ⟨append⟩

@[simp] theorem chains_append (a b : Schema) : (a ++ b).chains = a.chains ++ b.chains := rfl

@[simp] theorem diagnostics_append (a b : Schema) :
    (a ++ b).diagnostics = a.diagnostics ++ b.diagnostics := rfl

theorem run_append (a b : Schema) (r : Record) :
    (a ++ b).run r =
      ⟨(b.run (a.run r).record).record, (a.run r).events ++ (b.run (a.run r).record).events⟩ :=
  runChains_append a.chains b.chains r

theorem validate_append (a b : Schema) (r : Record) :
    (a ++ b).validate r =
      ⟨(b.validate (a.validate r).record).record,
        (a.validate r).errors ++ (b.validate (a.validate r).record).errors⟩ := by
  simp only [validate, run_append, messagesOf_append]

end Schema

theorem compileSchema_append_ok_iff {strict : Bool} {first second : List (String × Spec)}
    {s : Schema} :
    compileSchema strict (first ++ second) = .ok s ↔
      ∃ a b, compileSchema strict first = .ok a ∧ compileSchema strict second = .ok b ∧
        s = a ++ b := by
  simp only [compileSchema_ok_iff, List.forall_mem_append, List.map_append, List.flatMap_append]
  constructor
  · rintro ⟨⟨hfirst, hsecond⟩, rfl⟩
    exact ⟨_, _, ⟨hfirst, rfl⟩, ⟨hsecond, rfl⟩, rfl⟩
  · rintro ⟨a, b, ⟨hfirst, rfl⟩, ⟨hsecond, rfl⟩, rfl⟩
    exact ⟨⟨hfirst, hsecond⟩, rfl⟩

/-- Two lists of fields compile together exactly if each of them does, and to the schemas of both,
one behind the other. Accepted or not, the record that the first returns is then validated by the
second, and the messages of the first stand before those of the second. -/
theorem validate_joined (strict : Bool) (first second : List (String × Spec)) :
    ((∃ s, compileSchema strict (first ++ second) = .ok s) ↔
      (∃ a, compileSchema strict first = .ok a) ∧ ∃ b, compileSchema strict second = .ok b) ∧
    ∀ s a b, compileSchema strict (first ++ second) = .ok s → compileSchema strict first = .ok a →
      compileSchema strict second = .ok b → s = a ++ b ∧ ∀ r,
        (s.validate r).record = (b.validate (a.validate r).record).record ∧
        (s.validate r).errors =
          (a.validate r).errors ++ (b.validate (a.validate r).record).errors := by
  constructor
  · constructor
    · rintro ⟨s, hs⟩
      obtain ⟨a, b, ha, hb, -⟩ := compileSchema_append_ok_iff.1 hs
      exact ⟨⟨a, ha⟩, ⟨b, hb⟩⟩
    · rintro ⟨⟨a, ha⟩, ⟨b, hb⟩⟩
      exact ⟨a ++ b, compileSchema_append_ok_iff.2 ⟨a, b, ha, hb, rfl⟩⟩
  · intro s a b hs ha hb
    obtain ⟨a', b', ha', hb', rfl⟩ := compileSchema_append_ok_iff.1 hs
    obtain rfl : a = a' := Except.ok.inj (ha.symm.trans ha')
    obtain rfl : b = b' := Except.ok.inj (hb.symm.trans hb')
    refine ⟨rfl, fun r => ?_⟩
    rw [Schema.validate_append]
    exact ⟨rfl, rfl⟩

/-- Both fields stand in both lists, once with a rule of the caller's own and once with one that is
left out. -/
theorem validate_joined_name_nick :
    let free : CustomRule := ⟨"free", fun c => .ok (c.value != some (.string "Ann"))⟩
    let first := [("name", Spec.list [.custom free, .token "required", .token "integer"]),
      ("nick", .pipe "default:Guest|shiny")]
    let second := [("nick", Spec.pipe "same:name"), ("name", .pipe "sanitize|required|alpha")]
    ∃ s a b, compileSchema false (first ++ second) = .ok s ∧ compileSchema false first = .ok a ∧
      compileSchema false second = .ok b ∧ s = a ++ b ∧ ∀ r,
        (s.validate r).record = (b.validate (a.validate r).record).record ∧
        (s.validate r).errors =
          (a.validate r).errors ++ (b.validate (a.validate r).record).errors := by
  intro free first second
  have hs : compileSchema false (first ++ second) = .ok _ := rfl
  have ha : compileSchema false first = .ok _ := rfl
  have hb : compileSchema false second = .ok _ := rfl
  exact ⟨_, _, _, hs, ha, hb, (validate_joined false first second).2 _ _ _ hs ha hb⟩

end FieldRules
