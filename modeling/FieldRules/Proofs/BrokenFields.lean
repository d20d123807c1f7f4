import FieldRules.Proofs.CompiledChain
import Mathlib.Data.List.Forall2
import Mathlib.Data.List.Induction

/-!
# Broken fields

All fields of a list are compiled, whatever fails. What one more field does to the result is said
once: a chain is put at the end of a schema and dropped behind a failure, and an error is put behind
the errors reported so far, or is the first. So the failure of a list reports the errors that its
fields have when they are compiled one by one, all of them and in order, and where there is none the
schema has a chain for each field.
-/

namespace FieldRules

def SchemaError.errors : SchemaError → List FieldError
  | field e => [e]
  | several errors => errors

def fieldErrors (strict : Bool) (specs : List (String × Spec)) : List FieldError :=
  specs.filterMap fun p => (compileField strict p.1 p.2).error?

def Schema.extended (s : Except SchemaError Schema) (r : FieldReport) :
    Except SchemaError Schema :=
  match s, r.result with
  | .ok s, .ok c => .ok ⟨s.chains ++ [c], s.diagnostics ++ r.diagnostics⟩
  | .ok _, .error e => .error (.field e)
  | .error f, .ok _ => .error f
  | .error f, .error e => .error (.several (f.errors ++ [e]))

namespace FieldReport

variable {r : FieldReport}

theorem error?_of_ok {c : Chain} (h : r.result = .ok c) : r.error? = none := by
  rw [error?, h]

theorem error?_of_error {e : FieldError} (h : r.result = .error e) : r.error? = some e := by
  rw [error?, h]

theorem chain?_of_ok {c : Chain} (h : r.result = .ok c) : r.chain? = some c := by
  rw [chain?, h]
  rfl

end FieldReport

theorem Schema.ofReports_concat (reports : List FieldReport) (r : FieldReport) :
    ofReports (reports ++ [r]) = extended (ofReports reports) r := by
  cases hr : r.result with
  | ok c =>
      have herrors : (reports ++ [r]).filterMap FieldReport.error? =
          reports.filterMap FieldReport.error? := by
        simp [FieldReport.error?_of_ok hr]
      cases h : reports.filterMap FieldReport.error? with
      | nil => simp [ofReports, extended, herrors, h, hr, FieldReport.chain?_of_ok hr]
      | cons e errors => cases errors <;> simp [ofReports, extended, herrors, h, hr]
  | error e =>
      have herrors : (reports ++ [r]).filterMap FieldReport.error? =
          reports.filterMap FieldReport.error? ++ [e] := by
        simp [FieldReport.error?_of_error hr]
      cases h : reports.filterMap FieldReport.error? with
      | nil => simp [ofReports, extended, herrors, h, hr]
      | cons e' errors =>
          cases errors <;> simp [ofReports, extended, herrors, h, hr, SchemaError.errors]

theorem compileSchema_concat (strict : Bool) (specs : List (String × Spec)) (p : String × Spec) :
    compileSchema strict (specs ++ [p]) =
      Schema.extended (compileSchema strict specs) (compileField strict p.1 p.2) := by
  rw [compileSchema, compileFields, List.map_append]
  exact Schema.ofReports_concat _ _

section FieldErrors

variable {strict : Bool}

theorem fieldErrors_nil : fieldErrors strict [] = [] := rfl

theorem fieldErrors_append (front rest : List (String × Spec)) :
    fieldErrors strict (front ++ rest) = fieldErrors strict front ++ fieldErrors strict rest :=
  List.filterMap_append

theorem fieldErrors_of_error {p : String × Spec} {e : FieldError}
    (h : (compileField strict p.1 p.2).result = .error e) (rest : List (String × Spec)) :
    fieldErrors strict (p :: rest) = e :: fieldErrors strict rest :=
  List.filterMap_cons_some (FieldReport.error?_of_error h)

theorem fieldErrors_of_ok {p : String × Spec} {c : Chain}
    (h : (compileField strict p.1 p.2).result = .ok c) (rest : List (String × Spec)) :
    fieldErrors strict (p :: rest) = fieldErrors strict rest :=
  List.filterMap_cons_none (FieldReport.error?_of_ok h)

end FieldErrors

/-- The result tells of every field: a chain of each, the one error, or all errors. -/
inductive Accounts (strict : Bool) (specs : List (String × Spec)) : Except SchemaError Schema → Prop
  | ok {s : Schema} (none_broken : fieldErrors strict specs = [])
      (chains : List.Forall₂ (fun p c => (compileField strict p.1 p.2).result = .ok c) specs
        s.chains)
      (diagnostics : s.diagnostics =
        specs.flatMap fun p => (compileField strict p.1 p.2).diagnostics) :
      Accounts strict specs (.ok s)
  | field {e : FieldError} (one_broken : fieldErrors strict specs = [e]) :
      Accounts strict specs (.error (.field e))
  | several {errors : List FieldError} (broken : fieldErrors strict specs = errors)
      (several_broken : 2 ≤ errors.length) : Accounts strict specs (.error (.several errors))

namespace Accounts

variable {strict : Bool} {specs : List (String × Spec)} {s : Except SchemaError Schema}

theorem nil (strict : Bool) : Accounts strict [] (compileSchema strict []) := .ok rfl .nil rfl

theorem errors_eq {f : SchemaError} (h : Accounts strict specs (.error f)) :
    f.errors = fieldErrors strict specs := by
  cases h with
  | field hone => exact hone.symm
  | several hbroken _ => exact hbroken.symm

theorem errors_ne_nil {f : SchemaError} (h : Accounts strict specs (.error f)) : f.errors ≠ [] := by
  cases h with
  | field _ => exact List.cons_ne_nil _ _
  | several _ hlength =>
      rintro rfl
      cases hlength

theorem isOk_iff (h : Accounts strict specs s) :
    (∃ s', s = .ok s') ↔ fieldErrors strict specs = [] := by
  cases s with
  | ok s =>
      cases h with
      | ok hnone _ _ => exact iff_of_true ⟨s, rfl⟩ hnone
  | error f => exact iff_of_false nofun (h.errors_eq ▸ h.errors_ne_nil)

theorem eq_field (h : Accounts strict specs s) {e : FieldError}
    (he : fieldErrors strict specs = [e]) : s = .error (.field e) := by
  cases h with
  | ok hnone _ _ =>
      rw [he] at hnone
      cases hnone
  | field hone =>
      rw [he] at hone
      cases hone
      rfl
  | several hbroken hlength =>
      rw [← hbroken, he] at hlength
      exact absurd hlength (Nat.not_succ_le_self 1)

theorem eq_several (h : Accounts strict specs s) (hlength : 2 ≤ (fieldErrors strict specs).length) :
    s = .error (.several (fieldErrors strict specs)) := by
  cases h with
  | ok hnone _ _ =>
      rw [hnone] at hlength
      exact absurd hlength (by decide)
  | field hone =>
      rw [hone] at hlength
      exact absurd hlength (Nat.not_succ_le_self 1)
  | several hbroken _ => rw [hbroken]

theorem extended (h : Accounts strict specs s) (p : String × Spec) :
    Accounts strict (specs ++ [p]) (Schema.extended s (compileField strict p.1 p.2)) := by
  have happend : fieldErrors strict (specs ++ [p]) =
      fieldErrors strict specs ++ fieldErrors strict [p] := fieldErrors_append specs [p]
  cases hp : (compileField strict p.1 p.2).result with
  | ok c =>
      rw [fieldErrors_of_ok hp, fieldErrors_nil, List.append_nil] at happend
      cases h with
      | ok hnone hchains hdiagnostics =>
          simp only [Schema.extended, hp]
          refine .ok (happend.trans hnone) (List.rel_append hchains (.cons hp .nil)) ?_
          rw [List.flatMap_append, List.flatMap_singleton, hdiagnostics]
      | field hone =>
          simp only [Schema.extended, hp]
          exact .field (happend.trans hone)
      | several hbroken hlength =>
          simp only [Schema.extended, hp]
          exact .several (happend.trans hbroken) hlength
  | error e =>
      rw [fieldErrors_of_error hp, fieldErrors_nil] at happend
      cases s with
      | ok s =>
          simp only [Schema.extended, hp]
          cases h with
          | ok hnone _ _ => exact .field (by rw [happend, hnone, List.nil_append])
      | error f =>
          simp only [Schema.extended, hp]
          have hpositive := List.length_pos_of_ne_nil h.errors_ne_nil
          refine .several (by rw [happend, h.errors_eq]) ?_
          rw [List.length_append, List.length_singleton]
          omega

end Accounts

theorem accounts_compileSchema (strict : Bool) (specs : List (String × Spec)) :
    Accounts strict specs (compileSchema strict specs) := by
  induction specs using List.reverseRecOn with
  | nil => exact .nil strict
  | append_singleton specs p ih =>
      rw [compileSchema_concat]
      exact ih.extended p

/-- A list of fields compiles if each of its fields does alone, to one chain for each field in order
and the diagnostics of all. One broken field makes its own error the failure; several make a failure
that states their number and lists the texts of all their errors in order, divided by line ends.
Wherever a broken field stands, its error is reported behind those of the fields in front of it and
in front of those of the fields behind it. -/
theorem compileSchema_reports_all_errors (strict : Bool) (specs : List (String × Spec)) :
    let errors := fieldErrors strict specs
    ((∃ s, compileSchema strict specs = .ok s) ↔ errors = []) ∧
    (∀ s, compileSchema strict specs = .ok s →
      List.Forall₂ (fun p c => (compileField strict p.1 p.2).result = .ok c) specs s.chains ∧
        s.diagnostics = specs.flatMap fun p => (compileField strict p.1 p.2).diagnostics) ∧
    (∀ e, errors = [e] → compileSchema strict specs = .error (.field e)) ∧
    (2 ≤ errors.length → ∃ f, compileSchema strict specs = .error f ∧ f = .several errors ∧
      ∀ wording, f.message wording =
        "A fatal error occurred: Failed to compile " ++ toString errors.length ++ " field(s):\n" ++
          String.intercalate "\n" (errors.map (FieldError.message wording))) ∧
    ∀ front p rest e, specs = front ++ p :: rest → (compileField strict p.1 p.2).result = .error e →
      ∃ f, compileSchema strict specs = .error f ∧
        f.errors = fieldErrors strict front ++ e :: fieldErrors strict rest := by
  intro errors
  have haccounts := accounts_compileSchema strict specs
  refine ⟨haccounts.isOk_iff, fun s hs => ?_, fun e he => haccounts.eq_field he, fun hlength => ?_,
    fun front p rest e hspecs he => ?_⟩
  · rw [hs] at haccounts
    cases haccounts with
    | ok _ hchains hdiagnostics => exact ⟨hchains, hdiagnostics⟩
  · exact ⟨.several errors, haccounts.eq_several hlength, rfl, fun _ => rfl⟩
  · have herrors : errors = fieldErrors strict front ++ e :: fieldErrors strict rest := by
      rw [← fieldErrors_of_error he, ← fieldErrors_append, ← hspecs]
    cases hs : compileSchema strict specs with
    | ok s =>
        have hnone : errors = [] := haccounts.isOk_iff.1 ⟨s, hs⟩
        rw [hnone] at herrors
        simp at herrors
    | error f =>
        rw [hs] at haccounts
        exact ⟨f, rfl, haccounts.errors_eq.trans herrors⟩

/-- Two broken fields with good ones around them. -/
example :
    compileSchema true [("id", .pipe "integer"), ("age", .pipe "required|min:x"),
        ("name", .pipe "string"), ("nick", .pipe "shiny|same:name")] =
      .error (.several [.invalidParameter "age" "min:x" (.notANumber "x"),
        .unknownRule "nick" "shiny"]) := rfl

end FieldRules
