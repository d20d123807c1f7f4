import FieldRules.Proofs.RemainingTokens
import FieldRules.RuleFile

/-!
# Tokens in a text and in a list

Rules are written as one text with bars between the tokens, or as a list of tokens. A list whose
tokens have no bars compiles as the text does that has bars between them, and a text compiles as the
list of its pieces: to the same chain and diagnostics, or to the same error. Blank tokens, a bar at
an end and the empty list make no difference.
-/

namespace FieldRules

theorem compileField_congr {a b : Spec} (htokens : a.tokens = b.tokens)
    (hcustoms : a.customs = b.customs) (strict : Bool) (field : String) :
    compileField strict field a = compileField strict field b := by
  simp only [compileField, htokens, hcustoms]

namespace Spec

theorem tokens_ofTokens (texts : List String) : (ofTokens texts).tokens = tidy texts := by
  rw [ofTokens, tokens, List.filterMap_map]
  exact congrArg tidy (List.filterMap_some)

theorem customs_ofTokens (texts : List String) : (ofTokens texts).customs = [] := by
  rw [ofTokens, customs, List.filterMap_map]
  exact List.filterMap_eq_nil_iff.2 fun _ _ => rfl

end Spec

/-- A list of tokens without bars compiles as they do put together with bars between them, and a
text compiles as the list of its pieces, which are what stands between its bars. -/
theorem compileField_list_eq_pipe (strict : Bool) (field : String) :
    (∀ texts : List String, (∀ t ∈ texts, '|' ∉ t.toList) →
      compileField strict field (RuleSource.list texts).toSpec =
        compileField strict field (RuleSource.pipe (String.intercalate "|" texts)).toSpec) ∧
    ∀ text : String, (∀ piece ∈ Text.pieces '|' text, '|' ∉ piece.toList) ∧
      String.intercalate "|" (Text.pieces '|' text) = text ∧
      compileField strict field (RuleSource.pipe text).toSpec =
        compileField strict field (RuleSource.list (Text.pieces '|' text)).toSpec := by
  have hlist : ∀ texts : List String, (∀ t ∈ texts, '|' ∉ t.toList) →
      compileField strict field (RuleSource.list texts).toSpec =
        compileField strict field (RuleSource.pipe (String.intercalate "|" texts)).toSpec := by
    intro texts h
    refine compileField_congr ?_ (Spec.customs_ofTokens texts) strict field
    exact (Spec.tokens_ofTokens texts).trans (Spec.tidy_pieces_intercalate h).symm
  refine ⟨hlist, fun text => ?_⟩
  have hbars : ∀ piece ∈ Text.pieces '|' text, '|' ∉ piece.toList :=
    fun piece => Text.notMem_of_mem_pieces
  have htext : String.intercalate "|" (Text.pieces '|' text) = text :=
    Text.intercalate_pieces '|' text
  refine ⟨hbars, htext, ?_⟩
  rw [hlist _ hbars, htext]

/-- Blank tokens at the start and among the others, and no tokens at all. -/
theorem compileField_list_eq_pipe_code :
    let texts := ["", " required ", "in:a,b", " ", "size:3"]
    (∀ t ∈ texts, '|' ∉ t.toList) ∧
      compileField false "code" (RuleSource.list texts).toSpec =
        compileField false "code" (RuleSource.pipe "| required |in:a,b| |size:3").toSpec ∧
      compileField true "code" (RuleSource.list []).toSpec =
        compileField true "code" (RuleSource.pipe "").toSpec := by
  intro texts
  have hbars : ∀ t ∈ texts, '|' ∉ t.toList := by decide
  have hjoined : String.intercalate "|" texts = "| required |in:a,b| |size:3" := by decide +kernel
  have hlist := (compileField_list_eq_pipe false "code").1 texts hbars
  rw [hjoined] at hlist
  exact ⟨hbars, hlist, (compileField_list_eq_pipe true "code").1 [] (List.forall_mem_nil _)⟩

end FieldRules
