import FieldRules.CommandLine.Command
import FieldRules.Proofs.PossibleMessages
import Mathlib.Data.List.Sort
import Mathlib.Data.Prod.Lex

/-!
# What a redacted log says about submitted values

Without custom rules, the events of a run are those of its failing steps, and they are known from
the step and the value that its field has there. So the log of a run is a function of the failing
steps and these values, and as long as submitted values may not be shown, all it tells of a value is
whether it is missing, and if its text is long, how long it is.
-/

namespace FieldRules

namespace Log

/-- A redacted log does not tell the values apart: both are missing, or the texts of both are short
or have the same length. -/
def Alike : Option Value → Option Value → Prop
  | none, none => True
  | some v, some w =>
    ((Json.compactText v).utf8ByteSize ≤ 8 ∧ (Json.compactText w).utf8ByteSize ≤ 8) ∨
      (Json.compactText v).utf8ByteSize = (Json.compactText w).utf8ByteSize
  | none, some _ => False
  | some _, none => False

instance : ∀ value value', Decidable (Alike value value')
  | none, none => .isTrue trivial
  | some _, some _ => inferInstanceAs (Decidable ((_ ∧ _) ∨ _))
  | none, some _ => .isFalse id
  | some _, none => .isFalse id

theorem redact_of_alike {s t : String}
    (h : (s.utf8ByteSize ≤ 8 ∧ t.utf8ByteSize ≤ 8) ∨ s.utf8ByteSize = t.utf8ByteSize) :
    redact s = redact t := by
  rcases h with ⟨hs, ht⟩ | h
  · rw [redact, redact, if_pos hs, if_pos ht]
  · rw [redact, redact, h]

theorem shown_of_alike {value value' : Option Value} (h : Alike value value') :
    shown false value = shown false value' := by
  cases value <;> cases value'
  case none.none => rfl
  case some.some v w => exact redact_of_alike h
  all_goals cases h

end Log

namespace Step

/-- A step that has no message has no refusal either. -/
theorem failureEvents_eq_nil {s : Step} (hs : ∀ rule, s ≠ .check (.custom rule))
    {field : String} (h : s.message? field = none) (value : Option Value) :
    s.failureEvents field value = [] := by
  cases s with
  | required => cases h
  | transform t =>
      cases t with
      | default literal => rfl
      | sanitize s => cases h
  | check k =>
      cases k with
      | custom rule => exact absurd rfl (hs rule)
      | _ => cases h

end Step

namespace Chain

def fails (c : Chain) (r : Record) (s : Step) : Bool :=
  !(messagesOf (c.turn r s).events).isEmpty

theorem events_turn {s : Step} (hs : ∀ rule, s ≠ .check (.custom rule)) (c : Chain) (r : Record) :
    (c.turn r s).events =
      if c.fails r s then s.failureEvents c.field (r.get? c.field) else [] := by
  rcases c.events_turn_eq_nil_or hs r with h | h
  · rw [fails, h]
    rfl
  · rw [fails, h, Step.messagesOf_failureEvents]
    cases hm : s.message? c.field with
    | none => rw [Step.failureEvents_eq_nil hs hm]; rfl
    | some message => rfl

end Chain

/-- A step that fails in a run: the numbers of its chain and of the step in it, and the value that
its field has there. -/
structure FailedStep where
  chain : Nat
  step : Nat
  value : Option Value

def FailedStep.place (f : FailedStep) : Nat ×ₗ Nat := toLex (f.chain, f.step)

namespace Chain

/-- The steps that fail among some steps of a chain, which are numbered from `next` on. -/
def failedSteps (c : Chain) (number : Nat) : (next : Nat) → List Step → Record → List FailedStep
  | _, [], _ => []
  | next, s :: rest, r =>
    (if c.fails r s then [⟨number, next, r.get? c.field⟩] else []) ++
      match c.turn r s with
      | .stop _ => []
      | .next p => c.failedSteps number (next + 1) rest p.record

def eventsAt (c : Chain) (f : FailedStep) : List Event :=
  (c.steps[f.step]?).elim [] (Step.failureEvents c.field f.value)

/-- The steps `front` stand before those that are run, and so give the first of them its number. -/
theorem events_runSteps_eq_flatMap {c : Chain} (hc : c.Uncustomized) (number : Nat)
    {front steps : List Step} (h : c.steps = front ++ steps) (r : Record) :
    (c.runSteps steps r).events =
      (c.failedSteps number front.length steps r).flatMap c.eventsAt := by
  induction steps generalizing front r with
  | nil => rfl
  | cons s rest ih =>
      have hstep : c.steps[front.length]? = some s := by
        rw [h, List.getElem?_append_right (Nat.le_refl _), Nat.sub_self]
        rfl
      have hs (rule : CustomRule) : s ≠ .check (.custom rule) := by
        rintro rfl
        exact hc rule (h ▸ List.mem_append_right _ List.mem_cons_self)
      have hfirst : (c.turn r s).events =
          (if c.fails r s then [⟨number, front.length, r.get? c.field⟩] else []).flatMap
            c.eventsAt := by
        rw [events_turn hs]
        split
        · rw [List.flatMap_singleton, eventsAt, hstep]
          rfl
        · rfl
      rw [runSteps, failedSteps, List.flatMap_append, ← hfirst]
      cases ht : c.turn r s with
      | stop events => exact (List.append_nil events).symm
      | next p =>
          have hfront : c.steps = (front ++ [s]) ++ rest := by
            rw [h, List.append_assoc, List.singleton_append]
          have hrest := ih hfront p.record
          rw [List.length_append, List.length_singleton] at hrest
          simp only [hrest]
          rfl

theorem place_of_mem_failedSteps {c : Chain} {number next : Nat} {steps : List Step} {r : Record}
    {f : FailedStep} (hf : f ∈ c.failedSteps number next steps r) :
    f.chain = number ∧ next ≤ f.step := by
  induction steps generalizing next r with
  | nil => cases hf
  | cons s rest ih =>
      rw [failedSteps, List.mem_append] at hf
      rcases hf with hf | hf
      · split at hf
        · rw [List.mem_singleton.1 hf]
          exact ⟨rfl, Nat.le_refl _⟩
        · cases hf
      · cases ht : c.turn r s with
        | stop events =>
            rw [ht] at hf
            cases hf
        | next p =>
            rw [ht] at hf
            exact (ih hf).imp_right Nat.le_of_succ_le

theorem pairwise_failedSteps (c : Chain) (number next : Nat) (steps : List Step) (r : Record) :
    (c.failedSteps number next steps r).Pairwise fun f g => f.place < g.place := by
  induction steps generalizing next r with
  | nil => exact .nil
  | cons s rest ih =>
      rw [failedSteps]
      cases c.turn r s with
      | stop events => split <;> simp
      | next p =>
          split
          · refine .cons (fun f hf => ?_) (ih (next + 1) p.record)
            obtain ⟨hchain, hstep⟩ := place_of_mem_failedSteps hf
            exact Prod.Lex.toLex_lt_toLex.2 (.inr ⟨hchain.symm, hstep⟩)
          · exact ih (next + 1) p.record

end Chain

def failedIn : (next : Nat) → List Chain → Record → List FailedStep
  | _, [], _ => []
  | next, c :: rest, r =>
    c.failedSteps next 0 c.steps r ++ failedIn (next + 1) rest (c.run r).record

theorem le_chain_of_mem_failedIn {next : Nat} {cs : List Chain} {r : Record} {f : FailedStep}
    (hf : f ∈ failedIn next cs r) : next ≤ f.chain := by
  induction cs generalizing next r with
  | nil => cases hf
  | cons c rest ih =>
      rw [failedIn, List.mem_append] at hf
      rcases hf with hf | hf
      · exact (Chain.place_of_mem_failedSteps hf).1.ge
      · exact Nat.le_of_succ_le (ih hf)

theorem pairwise_failedIn (next : Nat) (cs : List Chain) (r : Record) :
    (failedIn next cs r).Pairwise fun f g => f.place < g.place := by
  induction cs generalizing next r with
  | nil => exact .nil
  | cons c rest ih =>
      rw [failedIn, List.pairwise_append]
      refine ⟨c.pairwise_failedSteps next 0 c.steps r, ih (next + 1) (c.run r).record, ?_⟩
      intro f hf g hg
      have hchain := (Chain.place_of_mem_failedSteps hf).1
      exact Prod.Lex.toLex_lt_toLex.2 (.inl (hchain ▸ le_chain_of_mem_failedIn hg))

theorem flatMap_eq_of_map_eq {α β γ : Type} {key : α → β} {g : α → List γ} {l l' : List α}
    (hkeys : l.map key = l'.map key)
    (hg : ∀ a ∈ l, ∀ a' ∈ l', key a = key a' → g a = g a') : l.flatMap g = l'.flatMap g := by
  induction l generalizing l' with
  | nil => rw [List.map_eq_nil_iff.1 hkeys.symm]
  | cons a rest ih =>
      cases l' with
      | nil => cases hkeys
      | cons a' rest' =>
          obtain ⟨hkey, hrest⟩ := List.cons.inj hkeys
          have hhead := hg a List.mem_cons_self a' List.mem_cons_self hkey
          have htail := ih hrest fun b hb b' hb' =>
            hg b (List.mem_cons_of_mem a hb) b' (List.mem_cons_of_mem a' hb')
          rw [List.flatMap_cons, List.flatMap_cons, hhead, htail]

namespace Schema

def failedSteps (s : Schema) (r : Record) : List FailedStep := failedIn 0 s.chains r

def eventsAt (s : Schema) (f : FailedStep) : List Event :=
  (s.chains[f.chain]?).elim [] fun c => c.eventsAt f

theorem events_runChains_eq_flatMap {s : Schema} (hs : ∀ c ∈ s.chains, c.Uncustomized)
    {before cs : List Chain} (h : s.chains = before ++ cs) (r : Record) :
    (runChains cs r).events = (failedIn before.length cs r).flatMap s.eventsAt := by
  induction cs generalizing before r with
  | nil => rfl
  | cons c rest ih =>
      have hchain : s.chains[before.length]? = some c := by
        rw [h, List.getElem?_append_right (Nat.le_refl _), Nat.sub_self]
        rfl
      have hc : c.Uncustomized := hs c (h ▸ List.mem_append_right _ List.mem_cons_self)
      have hfirst : (c.run r).events =
          (c.failedSteps before.length 0 c.steps r).flatMap s.eventsAt := by
        have hown : c.steps = [] ++ c.steps := rfl
        rw [Chain.run, Chain.events_runSteps_eq_flatMap hc before.length hown]
        refine List.flatMap_congr fun f hf => ?_
        rw [eventsAt, (Chain.place_of_mem_failedSteps hf).1, hchain]
        rfl
      have hbefore : s.chains = (before ++ [c]) ++ rest := by
        rw [h, List.append_assoc, List.singleton_append]
      have hrest := ih hbefore (c.run r).record
      rw [List.length_append, List.length_singleton] at hrest
      rw [runChains, failedIn, List.flatMap_append, ← hfirst, ← hrest]

/-- Without custom rules, what a run does is what it does at the failing steps. -/
theorem events_run_eq_flatMap {s : Schema} (hs : ∀ c ∈ s.chains, c.Uncustomized) (r : Record) :
    (s.run r).events = (s.failedSteps r).flatMap s.eventsAt := by
  have hall : s.chains = [] ++ s.chains := rfl
  exact events_runChains_eq_flatMap hs hall r

/-- Where the same steps fail on two records, they are listed in the same order. -/
theorem places_eq_of_mem_iff {s : Schema} {r r' : Record}
    (h : ∀ place, place ∈ (s.failedSteps r).map FailedStep.place ↔
      place ∈ (s.failedSteps r').map FailedStep.place) :
    (s.failedSteps r).map FailedStep.place = (s.failedSteps r').map FailedStep.place := by
  have hsorted (r : Record) : ((s.failedSteps r).map FailedStep.place).SortedLT := by
    rw [List.sortedLT_iff_pairwise, List.pairwise_map]
    exact pairwise_failedIn 0 s.chains r
  exact (hsorted r).eq_of_mem_iff (hsorted r') h

/-- The same steps fail on two records, and a redacted log does not tell the values apart that the
fields have at these steps. -/
structure FailAlike (s : Schema) (r r' : Record) : Prop where
  places : ∀ place, place ∈ (s.failedSteps r).map FailedStep.place ↔
    place ∈ (s.failedSteps r').map FailedStep.place
  values : ∀ f ∈ s.failedSteps r, ∀ f' ∈ s.failedSteps r', f.place = f'.place →
    Log.Alike f.value f'.value

/-- What is the same for alike values at every step is the same at failing steps of one place. -/
theorem FailAlike.eventsAt_eq {s : Schema} {r r' : Record} (h : s.FailAlike r r') {α : Type}
    {p : List Event → α}
    (hp : ∀ step field value value', Log.Alike value value' →
      p (Step.failureEvents field value step) = p (Step.failureEvents field value' step))
    {f f' : FailedStep} (hf : f ∈ s.failedSteps r) (hf' : f' ∈ s.failedSteps r')
    (hplace : f.place = f'.place) : p (s.eventsAt f) = p (s.eventsAt f') := by
  have halike := h.values f hf f' hf' hplace
  obtain ⟨chain, step, value⟩ := f
  obtain ⟨chain', step', value'⟩ := f'
  obtain ⟨rfl, rfl⟩ := Prod.mk.inj (toLex.injective hplace)
  rw [eventsAt, eventsAt]
  cases s.chains[chain]? with
  | none => rfl
  | some c =>
      simp only [Option.elim, Chain.eventsAt]
      cases c.steps[step]? with
      | none => rfl
      | some st => exact hp st c.field value value' halike

theorem FailAlike.flatMap_eq {s : Schema} {r r' : Record} (h : s.FailAlike r r') {α : Type}
    {p : List Event → List α}
    (hp : ∀ step field value value', Log.Alike value value' →
      p (Step.failureEvents field value step) = p (Step.failureEvents field value' step)) :
    (s.failedSteps r).flatMap (fun f => p (s.eventsAt f)) =
      (s.failedSteps r').flatMap (fun f => p (s.eventsAt f)) :=
  flatMap_eq_of_map_eq (places_eq_of_mem_iff h.places) fun _ hf _ hf' => h.eventsAt_eq hp hf hf'

theorem FailAlike.errors_eq {s : Schema} (hs : ∀ c ∈ s.chains, c.Uncustomized) {r r' : Record}
    (h : s.FailAlike r r') : (s.validate r).errors = (s.validate r').errors := by
  have herrors (r : Record) : (s.validate r).errors =
      (s.failedSteps r).flatMap fun f => messagesOf (s.eventsAt f) := by
    rw [validate, events_run_eq_flatMap hs, messagesOf, List.filterMap_flatMap]
    rfl
  rw [herrors, herrors]
  refine h.flatMap_eq fun step field value value' _ => ?_
  rw [Step.messagesOf_failureEvents, Step.messagesOf_failureEvents]

end Schema

namespace Log

theorem lines_failureEvents_of_alike {value value' : Option Value} (h : Alike value value')
    (step : Step) (field : String) :
    (step.failureEvents field value).flatMap (ofEvent false) =
      (step.failureEvents field value').flatMap (ofEvent false) := by
  simp only [Step.failureEvents, List.flatMap_append, List.flatMap_map, ofEvent, shown_of_alike h]

/-- Unless submitted values may be shown, two records on which the same steps fail with alike values
leave the same lines in the log. -/
theorem ofRun_of_failAlike {env : CommandLine.Environment} (henv : env.revealing = false)
    {s : Schema} (hs : ∀ c ∈ s.chains, c.Uncustomized) {r r' : Record} (h : s.FailAlike r r') :
    ofRun env.revealing s r = ofRun env.revealing s r' := by
  have hlines (r : Record) : (s.run r).events.flatMap (ofEvent false) =
      (s.failedSteps r).flatMap fun f => (s.eventsAt f).flatMap (ofEvent false) := by
    rw [Schema.events_run_eq_flatMap hs, List.flatMap_assoc]
  have hlast : ofOutcome s.chains.length (s.validate r) =
      ofOutcome s.chains.length (s.validate r') := by
    rw [ofOutcome, ofOutcome, Outcome.accepted, Outcome.accepted, h.errors_eq hs]
  rw [ofRun, ofRun, henv, hlines, hlines, hlast,
    h.flatMap_eq fun step field _ _ halike => lines_failureEvents_of_alike halike step field]

/-- Two names of one length, two short codes, and an age that is missing from both records. -/
theorem ofRun_of_failAlike_name_code_age :
    let env : CommandLine.Environment :=
      ⟨["reqguard", "validate"], fun _ => some "no", fun _ => .error "none", .error "none", false,
        fun _ => ""⟩
    let specs := [("name", Spec.pipe "sanitize|email"), ("code", Spec.pipe "in:a,b|boolean"),
      ("age", Spec.pipe "required|integer")]
    let r : Record := [("name", .string "Ann Smith"), ("code", .string "x")]
    let r' : Record := [("name", .string "Bob Young"), ("code", .string "xyz")]
    env.revealing = false ∧ ∃ s, compileSchema true specs = .ok s ∧
      (∀ c ∈ s.chains, c.Uncustomized) ∧ s.FailAlike r r' ∧ (s.failedSteps r).length = 4 ∧
      ofRun env.revealing s r = ofRun env.revealing s r' := by
  intro env specs r r'
  have henv : env.revealing = false := by decide +kernel
  have hfail : ((compileSchema true specs).map fun s =>
      decide ((s.failedSteps r).map FailedStep.place = (s.failedSteps r').map FailedStep.place ∧
        (∀ f ∈ s.failedSteps r, ∀ f' ∈ s.failedSteps r', f.place = f'.place →
          Alike f.value f'.value) ∧
        (s.failedSteps r).length = 4)).toOption = some true := by
    decide +kernel
  cases hs : compileSchema true specs with
  | error e =>
      rw [hs] at hfail
      cases hfail
  | ok s =>
      rw [hs] at hfail
      obtain ⟨hplaces, hvalues, hlength⟩ := of_decide_eq_true (Option.some.inj hfail)
      have halike : s.FailAlike r r' := ⟨fun place => by rw [hplaces], hvalues⟩
      have hplain : ∀ c ∈ s.chains, c.Uncustomized :=
        uncustomized_of_compileSchema hs (by simp [specs, Spec.customs])
      exact ⟨henv, s, rfl, hplain, halike, hlength, ofRun_of_failAlike henv hplain halike⟩

end Log

end FieldRules
