import FieldRules.CommandLine.Exit
import FieldRules.Proofs.CommandOutcome
import Mathlib.Data.List.Infix

/-!
# Where a given switch comes from

A switch is given by its letter or by its name: a switch without a letter is given only if a word of
the command line names it. The words that are left behind the switches are words of the command
line, so this holds for the switches before the command and for those behind it.
-/

namespace FieldRules.CommandLine

def Word.names (name : String) : Word → Bool
  | named n _ => n == name
  | _ => false

theorem Letters.letter_of_read {known : List Switch} {cs : List Char} {l : Letters}
    (h : Letters.read known cs = .ok l) :
    (∀ g ∈ l.given, g.switch ∈ known ∧ g.switch.letter.isSome) ∧
      ∀ s, l.waiting = some s → s ∈ known ∧ s.letter.isSome := by
  induction cs generalizing l with
  | nil =>
      cases h
      exact ⟨List.forall_mem_nil _, nofun⟩
  | cons c rest ih =>
      rw [Letters.read] at h
      split at h
      · cases h
      rename_i s hs
      have hletter : s ∈ known ∧ s.letter.isSome := by
        have hc := List.find?_some hs
        rw [of_decide_eq_true hc]
        exact ⟨List.mem_of_find?_eq_some hs, rfl⟩
      split at h
      · obtain ⟨l', hl', rfl⟩ := map_eq_ok_iff.1 h
        exact ⟨List.forall_mem_cons.2 ⟨hletter, (ih hl').1⟩, (ih hl').2⟩
      · cases h
        exact ⟨List.forall_mem_singleton.2 hletter, nofun⟩
      · split at h
        · cases h
          refine ⟨List.forall_mem_nil _, fun s' hs' => ?_⟩
          cases hs'
          exact hletter
        · cases h
          exact ⟨List.forall_mem_singleton.2 hletter, nofun⟩

namespace Given

def IsOf (known : List Switch) (w : String) (g : Given) : Prop :=
  g.switch ∈ known ∧ (g.switch.letter.isSome ∨ (Word.ofString w).names g.switch.name)

/-- What reading comes to behind the first word: nothing of it is read, its switches are all, or
they stand before those of the words left. -/
inductive FirstWord (known : List Switch) (w : String) (words : List String) :
    List Given × List String → Prop
  | unread : FirstWord known w words ([], w :: words)
  | last {taken : List Given} (of_word : ∀ g ∈ taken, g.IsOf known w) :
      FirstWord known w words (taken, [])
  | onward {taken : List Given} (of_word : ∀ g ∈ taken, g.IsOf known w) {left : List String}
      (of_left : left <:+ words) {r : List Given × List String} (read : ofWords known left = .ok r) :
      FirstWord known w words (taken ++ r.1, r.2)

theorem FirstWord.of_map {known : List Switch} {w : String} {words left : List String}
    {taken : List Given} (htaken : ∀ g ∈ taken, g.IsOf known w) (hleft : left <:+ words)
    {r : List Given × List String}
    (h : (ofWords known left).map (fun r => (taken ++ r.1, r.2)) = .ok r) :
    FirstWord known w words r := by
  obtain ⟨r', hr', rfl⟩ := map_eq_ok_iff.1 h
  exact .onward htaken hleft hr'

theorem firstWord_of_ofWords {known : List Switch} {w : String} {words : List String}
    {r : List Given × List String} (h : ofWords known (w :: words) = .ok r) :
    FirstWord known w words r := by
  rw [ofWords.eq_def] at h
  dsimp only at h
  split at h
  · cases h
    exact .unread
  · cases h
    exact .unread
  · rename_i name value hw
    split at h
    · cases h
    rename_i s hs
    have hfound := List.find?_some hs
    have hname : s.name = name := of_decide_eq_true hfound
    have htaken : ∀ v, ∀ g ∈ [Given.mk s v], g.IsOf known w := by
      intro v g hg
      rw [List.mem_singleton.1 hg]
      refine ⟨List.mem_of_find?_eq_some hs, .inr ?_⟩
      rw [hw, Word.names, hname, beq_self_eq_true]
    split at h
    · exact .of_map (htaken _) List.suffix_rfl h
    · cases h
      exact .last (htaken _)
    · exact .of_map (htaken _) List.suffix_rfl h
    · split at h
      · exact .of_map (htaken _) (List.suffix_cons _ _) h
      · cases h
    · cases h
    · cases h
  · split at h
    · cases h
    · rename_i hread
      have htaken := (Letters.letter_of_read hread).1
      split at h
      · cases h
        exact .last fun g hg => (htaken g hg).imp_right .inl
      · exact .of_map (fun g hg => (htaken g hg).imp_right .inl) List.suffix_rfl h
    · rename_i hread
      obtain ⟨htaken, hwaiting⟩ := Letters.letter_of_read hread
      split at h
      · refine .of_map (fun g hg => ?_) (List.suffix_cons _ _) h
        rcases List.mem_append.1 hg with hg | hg
        · exact (htaken g hg).imp_right .inl
        · rw [List.mem_singleton.1 hg]
          exact (hwaiting _ rfl).imp_right .inl
      · cases h
    · cases h

/-- Each switch that is given is of one of the words, and the words left are the last ones. -/
theorem isOf_of_ofWords {known : List Switch} {words : List String} {r : List Given × List String}
    (h : ofWords known words = .ok r) :
    (∀ g ∈ r.1, ∃ w ∈ words, g.IsOf known w) ∧ r.2 <:+ words := by
  -- a switch may take the word behind it, so the words left need not be the tail
  induction hn : words.length using Nat.strong_induction_on generalizing words r with
  | _ n ih =>
      cases words with
      | nil =>
          cases h
          exact ⟨List.forall_mem_nil _, List.suffix_rfl⟩
      | cons w words =>
          cases firstWord_of_ofWords h with
          | unread => exact ⟨List.forall_mem_nil _, List.suffix_rfl⟩
          | last htaken => exact ⟨fun g hg => ⟨w, List.mem_cons_self, htaken g hg⟩, List.nil_suffix⟩
          | @onward _ htaken left hleft r hr =>
              have hlt : left.length < n := by
                have hle := hleft.length_le
                rw [List.length_cons] at hn
                omega
              obtain ⟨hgiven, hrest⟩ := ih _ hlt hr rfl
              refine ⟨fun g hg => ?_, (hrest.trans hleft).trans (List.suffix_cons w words)⟩
              rcases List.mem_append.1 hg with hg | hg
              · exact ⟨w, List.mem_cons_self, htaken g hg⟩
              · obtain ⟨u, hu, hgu⟩ := hgiven g hg
                exact ⟨u, List.mem_cons_of_mem w (hleft.subset hu), hgu⟩

theorem value?_eq_none {given : List Given} {name : String}
    (h : ∀ g ∈ given, g.switch.name ≠ name) : value? given name = none := by
  rw [value?, List.find?_eq_none.2 fun g hg => by simpa using h g hg]
  rfl

end Given

namespace Invocation

theorem exists_of_readSwitches {known : List Switch} {words : List String} {given : List Given}
    (h : readSwitches known words = .ok given) :
    ∃ rest, Given.ofWords known words = .ok (given, rest) := by
  unfold readSwitches at h
  obtain ⟨⟨given', rest⟩, hgiven, h⟩ := bind_eq_ok_iff.1 h
  obtain ⟨-, -, h⟩ := bind_eq_ok_iff.1 h
  obtain ⟨-, -, h⟩ := bind_eq_ok_iff.1 h
  obtain ⟨-, -, h⟩ := bind_eq_ok_iff.1 h
  obtain ⟨-, -, h⟩ := bind_eq_ok_iff.1 h
  split at h
  · cases h
    exact ⟨rest, hgiven⟩
  · obtain ⟨-, -, h⟩ := bind_eq_ok_iff.1 h
    obtain ⟨-, -, h⟩ := bind_eq_ok_iff.1 h
    cases h
    exact ⟨rest, hgiven⟩

theorem exists_of_ofCommand {rulesElsewhere : Option String} {before : List Given} {name : String}
    {words : List String} {verbosity : Verbosity} {o : SanitizeOptions}
    (h : ofCommand rulesElsewhere before name words = .ok (.command verbosity (.sanitize o))) :
    ∃ given rest, Given.ofWords sanitizeSwitches words = .ok (given, rest) ∧
      o = sanitizeOptions given := by
  unfold ofCommand at h
  split at h
  · obtain ⟨given, -, h⟩ := bind_eq_ok_iff.1 h
    split at h
    · cases h
    · obtain ⟨_, -, h⟩ := bind_eq_ok_iff.1 h
      obtain ⟨-, -, h⟩ := bind_eq_ok_iff.1 h
      cases h
  · obtain ⟨given, hgiven, h⟩ := bind_eq_ok_iff.1 h
    split at h
    · cases h
    · obtain ⟨-, -, h⟩ := bind_eq_ok_iff.1 h
      cases h
      obtain ⟨rest, hrest⟩ := exists_of_readSwitches hgiven
      exact ⟨_, rest, hrest, rfl⟩
  · unfold ofHelpWords at h
    split at h
    · cases h
    · split at h <;> cases h
    · cases h
  · cases h

/-- The sanitizer has the standard limit unless a word of the command line sets another. -/
theorem sanitizer_of_ofWords {rulesElsewhere : Option String} {words : List String}
    {verbosity : Verbosity} {o : SanitizeOptions}
    (hwords : ∀ w ∈ words, (Word.ofString w).names "max-depth" = false)
    (h : ofWords rulesElsewhere words = .ok (.command verbosity (.sanitize o))) :
    o.sanitizer = .standard := by
  unfold ofWords at h
  obtain ⟨⟨before, rest⟩, hbefore, h⟩ := bind_eq_ok_iff.1 h
  obtain ⟨-, -, h⟩ := bind_eq_ok_iff.1 h
  split at h
  · cases h
  split at h
  · cases h
  split at h
  · cases h
  obtain ⟨given, rest', hgiven, rfl⟩ := exists_of_ofCommand h
  have hrest := (Given.isOf_of_ofWords hbefore).2
  have hnames : ∀ g ∈ given, g.switch.name ≠ "max-depth" := by
    intro g hg hname
    obtain ⟨w, hw, hknown, hletter | hnamed⟩ := (Given.isOf_of_ofWords hgiven).1 g hg
    · have hunlettered : ∀ s ∈ sanitizeSwitches, s.name = "max-depth" → s.letter = none := by
        decide
      rw [hunlettered _ hknown hname] at hletter
      cases hletter
    · rw [hname, hwords w (hrest.subset (List.mem_cons_of_mem _ hw))] at hnamed
      cases hnamed
  rw [sanitizeOptions, Given.value?_eq_none hnames]
  rfl

end Invocation
end FieldRules.CommandLine
