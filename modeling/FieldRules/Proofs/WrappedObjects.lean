import FieldRules.Proofs.AlikeRuns
import FieldRules.Proofs.DepthLimit
import FieldRules.Proofs.SpelledValues

/-!
# An object as it stands, or as the only part of a request

A record can be given as it stands, or as one part of a request that has no other part. The parts
that are missing hold no members, so merging rebuilds the record key by key in its own order; and
sanitizing the part alone is sanitizing the record. The request's text has one level more, which the
reader still passes when the object leaves room for it. So the mode makes no difference to a run.
-/

namespace FieldRules

theorem Record.keys_mapStringsOfMembers (f : String → String) (r : Record) :
    keys (Value.mapStringsOfMembers f r) = r.keys := by
  rw [Value.mapStringsOfMembers_eq, keys, List.map_map]
  rfl

namespace CommandLine

def partKeys : List String := ["body", "query", "params"]

theorem recordOf_part_unsanitized {part : String} (hpart : part ∈ partKeys) {r : Record}
    (hkeys : r.keys.Nodup) : recordOf true false (.object [(part, .object r)]) = .ok r := by
  have hmerged : (Except.ok (Record.ofList r) : Except CommandError Record) = .ok r :=
    congrArg Except.ok (Record.ofList_of_nodup hkeys)
  simp only [partKeys, List.mem_cons, List.not_mem_nil, or_false] at hpart
  rcases hpart with rfl | rfl | rfl <;> exact hmerged

/-- The record of a request with one part is the part. -/
theorem recordOf_part (sanitize : Bool) {part : String} (hpart : part ∈ partKeys) {r : Record}
    (hkeys : r.keys.Nodup)
    (hdepth : (Value.object [(part, .object r)]).depth ≤ Sanitizer.standard.maxDepth) :
    recordOf true sanitize (.object [(part, .object r)]) = recordOf false sanitize (.object r) := by
  cases sanitize with
  | false => exact recordOf_part_unsanitized hpart hkeys
  | true =>
      have hinner : (Value.object r).depth ≤ Sanitizer.standard.maxDepth := by
        simp only [Value.depth, Value.depthOfMembers] at hdepth ⊢
        omega
      have hparts : RequestParts.ofValue? (.object [(part, .object r)]) ≠ none := nofun
      have hplain : recordOf false true (.object r) =
          recordOf false false ((Value.object r).mapStrings Cleaning.cleanText) :=
        recordOf_cleaned hinner nofun
      rw [recordOf_cleaned hdepth fun _ => hparts, hplain]
      refine recordOf_part_unsanitized hpart ?_
      rwa [Record.keys_mapStringsOfMembers]

/-- Two calls of the program that validate by the same rules and with the same switches, except that
one takes its input as it stands and the other takes it for a request. -/
structure TwoModes (plain request : Environment) (verbosity : Verbosity) (o : ValidateOptions)
    (input : Option String) : Prop where
  setting?_eq : request.setting? = plain.setting?
  rules_eq : request.file o.rules = plain.file o.rules
  terminal_eq : request.terminal = plain.terminal
  cause_eq : request.cause = plain.cause
  plain_invocation : plain.invocation =
    .ok (.command verbosity (.validate { o with request := false }))
  request_invocation : request.invocation =
    .ok (.command verbosity (.validate { o with input, request := true }))

/-- Validating an object as it stands and validating a request of which it is the only part end
alike: with the same code and the same lines on both streams. The rules may be anything, readable or
not. The object is nested at most 126 levels deep as it is written, members that a repeated key
overrides included, and the request is written in any way that has the tokens of the object put
under the key. -/
theorem run_validate_of_part {plain request : Environment} {verbosity : Verbosity}
    {o : ValidateOptions} {input : Option String} (h : TwoModes plain request verbosity o input)
    {part text wrapped : String} (hpart : part ∈ partKeys)
    (htext : plain.inputText o.input = .ok text) (hwrapped : request.inputText input = .ok wrapped)
    (htokens : Json.Token.ofText? wrapped.toList =
      Json.Token.ofText? (Json.objectText part text.toList))
    {members : List (String × Value)}
    (hobject : Json.readAsWritten? text.toList = some (.object members))
    (hdepth : (Value.object members).depth ≤ 126) :
    run request = run plain := by
  let r : Record := Record.ofList (Value.gatheredMembers members)
  have hwritten := Json.ofText?_of_readAsWritten? hobject
  have hplain : Json.ofString? text = some (.object r) :=
    Json.read?_of_ofText? hwritten (hdepth.trans (by decide))
  -- The request has one level more than the object, and the reader passes it all the same.
  have hlevels : (Value.object [(part, .object members)]).depth ≤ Json.depthLimit := by
    change max ((Value.object members).depth) 0 + 1 ≤ 126 + 1
    omega
  have hrequest : Json.ofString? wrapped = some (.object [(part, .object r)]) :=
    Json.read?_of_ofText? (htokens.trans (Json.ofText?_objectText part hwritten)) hlevels
  have hrecord : recordOf true o.sanitize (.object [(part, .object r)]) =
      recordOf false o.sanitize (.object r) :=
    recordOf_part o.sanitize hpart (Record.nodup_keys_ofList _)
      ((Json.depth_le_of_read? hrequest).trans (by decide))
  have hinput := Environment.input_of_text htext
  have hinput' := Environment.input_of_text hwrapped
  rw [hplain] at hinput
  rw [hrequest] at hinput'
  let o' : ValidateOptions := { o with request := false }
  have hrules : SameRules request plain { o with input, request := true } o' :=
    ⟨rfl, rfl, rfl, h.rules_eq, h.setting?_eq, h.terminal_eq, h.cause_eq⟩
  refine hrules.run_eq (fun _ => ?_) h.request_invocation h.plain_invocation
  rw [Environment.record_of_input hinput', Environment.record_of_input (o := o') hinput, hrecord]
  exact .refl (sameMessage_refl request) _

/-- A key twice and a tag in the object, and an escape and line ends around it. -/
theorem run_validate_of_part_query :
    let arguments := ["validate", "--sanitize", "--strict", "--json", "--rules", "rules.json"]
    let text := "\x7b\"name\":[[]],\"age\":-3,\"name\":\"<b>Al\"\x7d"
    let wrapped := "\n\x7b\"\\u0071uery\":\n" ++ text ++ "\n\x7d\n"
    let plain : Environment :=
      ⟨arguments, fun _ => none, fun _ => .ok "\x7b\"fields\":\x7b\"name\":\"string\"\x7d\x7d",
        .ok text, false, fun _ => ""⟩
    let request : Environment :=
      { plain with arguments := arguments ++ ["--request"], stdin := .ok wrapped }
    let o : ValidateOptions := ⟨"rules.json", none, false, true, true, true⟩
    let members : List (String × Value) := [("name", .array [.array []]),
      ("age", .number (.integer (-3))), ("name", .string "<b>Al")]
    TwoModes plain request .unstated o none ∧ "query" ∈ partKeys ∧
      plain.inputText o.input = .ok text ∧ request.inputText none = .ok wrapped ∧
      Json.Token.ofText? wrapped.toList = Json.Token.ofText? (Json.objectText "query" text.toList) ∧
      Json.readAsWritten? text.toList = some (.object members) ∧
      (Value.object members).depth ≤ 126 ∧ run request = run plain := by
  intro arguments text wrapped plain request o members
  have h : TwoModes plain request .unstated o none :=
    ⟨rfl, rfl, rfl, rfl, by rfl, by rfl⟩
  have hpart : "query" ∈ partKeys := by decide
  have htokens : Json.Token.ofText? wrapped.toList =
      Json.Token.ofText? (Json.objectText "query" text.toList) := by decide +kernel
  have hobject : Json.readAsWritten? text.toList = some (.object members) := by decide +kernel
  have hdepth : (Value.object members).depth ≤ 126 := by decide
  exact ⟨h, hpart, rfl, rfl, htokens, hobject, hdepth,
    run_validate_of_part h hpart rfl rfl htokens hobject hdepth⟩

end CommandLine
end FieldRules
