import FieldRules.Value.Predicate
import Mathlib.Data.List.Count

/-!
# E-mail addresses

The reader of addresses tries every way of cutting a text at an `@` and what follows at a point,
because points and letters may stand on both sides of a point. The texts that it accepts can be told
without trying: they have one `@`, and behind it only the last point matters. Whatever cut succeeds
is the cut at the last point, since letters are no points.
-/

namespace FieldRules

namespace Format

def IsLetter (c : Char) : Prop := ('a' ≤ c ∧ c ≤ 'z') ∨ ('A' ≤ c ∧ c ≤ 'Z')

def IsDigit (c : Char) : Prop := '0' ≤ c ∧ c ≤ '9'

def InMailbox (c : Char) : Prop := IsLetter c ∨ IsDigit c ∨ c ∈ ['.', '_', '%', '+', '-']

def InDomain (c : Char) : Prop := IsLetter c ∨ IsDigit c ∨ c ∈ ['.', '-']

theorem isAlpha_iff {c : Char} : c.isAlpha = true ↔ IsLetter c := by
  have hupper : c.isUpper = true ↔ 'A' ≤ c ∧ c ≤ 'Z' := decide_eq_true_iff
  have hlower : c.isLower = true ↔ 'a' ≤ c ∧ c ≤ 'z' :=
    Bool.and_eq_true_iff.trans (and_congr decide_eq_true_iff decide_eq_true_iff)
  exact Bool.or_eq_true_iff.trans ((or_congr hupper hlower).trans or_comm)

theorem isDigit_iff {c : Char} : c.isDigit = true ↔ IsDigit c := by
  simp only [Char.isDigit, IsDigit, Bool.and_eq_true, decide_eq_true_eq]
  rfl

theorem isAlphanum_iff {c : Char} : c.isAlphanum = true ↔ IsLetter c ∨ IsDigit c := by
  rw [Char.isAlphanum, Bool.or_eq_true, isAlpha_iff, isDigit_iff]

theorem isMailboxChar_iff {c : Char} : isMailboxChar c = true ↔ InMailbox c := by
  simp only [isMailboxChar, InMailbox, Bool.or_eq_true, isAlphanum_iff, beq_iff_eq, List.mem_cons,
    List.not_mem_nil, or_false, or_assoc]

theorem isDomainChar_iff {c : Char} : isDomainChar c = true ↔ InDomain c := by
  simp only [isDomainChar, InDomain, Bool.or_eq_true, isAlphanum_iff, beq_iff_eq, List.mem_cons,
    List.not_mem_nil, or_false, or_assoc]

theorem IsLetter.inDomain {c : Char} (h : IsLetter c) : InDomain c := .inl h

theorem InDomain.inMailbox {c : Char} (h : InDomain c) : InMailbox c := by
  refine h.imp_right fun h => h.imp_right fun h => ?_
  simp only [List.mem_cons, List.not_mem_nil, or_false] at h ⊢
  rcases h with rfl | rfl <;> simp

theorem IsLetter.toNat_mem {c : Char} (h : IsLetter c) :
    (97 ≤ c.toNat ∧ c.toNat ≤ 122) ∨ (65 ≤ c.toNat ∧ c.toNat ≤ 90) := h

theorem IsDigit.toNat_mem {c : Char} (h : IsDigit c) : 48 ≤ c.toNat ∧ c.toNat ≤ 57 := h

theorem InMailbox.visible {c : Char} (h : InMailbox c) : 0x20 < c.toNat ∧ c.toNat < 0x7F := by
  rcases h with h | h | h
  · have := h.toNat_mem
    omega
  · have := h.toNat_mem
    omega
  · simp only [List.mem_cons, List.not_mem_nil, or_false] at h
    rcases h with rfl | rfl | rfl | rfl | rfl <;> decide

theorem InMailbox.ne_at {c : Char} (h : InMailbox c) : c ≠ '@' := by
  rintro rfl
  rcases h with h | h | h
  · exact absurd h.toNat_mem (by decide)
  · exact absurd h.toNat_mem (by decide)
  · exact absurd h (by decide)

theorem IsLetter.ne_point {c : Char} (h : IsLetter c) : c ≠ '.' := by
  rintro rfl
  exact absurd h.toNat_mem (by decide)

theorem isBlank_eq_false_of_visible {c : Char} (h : 0x20 < c.toNat ∧ c.toNat < 0x7F) :
    Text.isBlank c = false := by
  simp only [Text.isBlank, Bool.or_eq_false_iff, Bool.and_eq_false_iff, decide_eq_false_iff_not,
    beq_eq_false_iff_ne]
  omega

/-- The parts of an address: what stands before the `@`, and what stands behind it before and behind
the last point. -/
structure IsAddress (mailbox host suffix : List Char) : Prop where
  mailbox_ne_nil : mailbox ≠ []
  mailbox_chars : ∀ c ∈ mailbox, InMailbox c
  domain_chars : ∀ c ∈ host ++ '.' :: suffix, InDomain c
  last_point : '.' ∉ suffix
  host_ne_nil : host ≠ []
  two_le_suffix : 2 ≤ suffix.length
  suffix_letters : ∀ c ∈ suffix, IsLetter c

theorem isDomain_iff {t : List Char} :
    isDomain t = true ↔ ∃ host suffix, t = host ++ '.' :: suffix ∧ host ≠ [] ∧
      (∀ c ∈ host, InDomain c) ∧ 2 ≤ suffix.length ∧ ∀ c ∈ suffix, IsLetter c := by
  simp only [isDomain, List.any_eq_true, Prod.exists, Text.mem_cuts, Bool.and_eq_true,
    Bool.not_eq_true', List.isEmpty_eq_false_iff, List.all_eq_true, decide_eq_true_eq,
    isDomainChar_iff, isAsciiLetter, isAlpha_iff, and_assoc]

theorem isEmail_iff {t : List Char} :
    isEmail t = true ↔ ∃ mailbox domain, t = mailbox ++ '@' :: domain ∧ mailbox ≠ [] ∧
      (∀ c ∈ mailbox, InMailbox c) ∧ isDomain domain = true := by
  simp only [isEmail, List.any_eq_true, Prod.exists, Text.mem_cuts, Bool.and_eq_true,
    Bool.not_eq_true', List.isEmpty_eq_false_iff, List.all_eq_true, isMailboxChar_iff, and_assoc]

/-- The cut that an accepted text was found by is the one at the last point. -/
theorem isEmail_iff_isAddress {t : List Char} :
    isEmail t = true ↔ ∃ mailbox host suffix,
      t = mailbox ++ '@' :: (host ++ '.' :: suffix) ∧ IsAddress mailbox host suffix := by
  rw [isEmail_iff]
  constructor
  · rintro ⟨mailbox, domain, rfl, hmailbox, hchars, hdomain⟩
    obtain ⟨host, suffix, rfl, hhost, hhostChars, hlength, hletters⟩ := isDomain_iff.1 hdomain
    refine ⟨mailbox, host, suffix, rfl, hmailbox, hchars, ?_, ?_, hhost, hlength, hletters⟩
    · rw [List.forall_mem_append, List.forall_mem_cons]
      exact ⟨hhostChars, .inr (.inr (by decide)), fun c hc => (hletters c hc).inDomain⟩
    · exact fun hpoint => (hletters '.' hpoint).ne_point rfl
  · rintro ⟨mailbox, host, suffix, rfl, h⟩
    refine ⟨mailbox, _, rfl, h.mailbox_ne_nil, h.mailbox_chars, isDomain_iff.2 ?_⟩
    exact ⟨host, suffix, rfl, h.host_ne_nil,
      fun c hc => h.domain_chars c (List.mem_append_left _ hc), h.two_le_suffix, h.suffix_letters⟩

namespace IsAddress

variable {mailbox host suffix : List Char} (h : IsAddress mailbox host suffix)
include h

theorem inMailbox_of_ne_at {c : Char} (hc : c ∈ mailbox ++ '@' :: (host ++ '.' :: suffix))
    (hat : c ≠ '@') : InMailbox c := by
  rcases List.mem_append.1 hc with hc | hc
  · exact h.mailbox_chars c hc
  · exact (h.domain_chars c ((List.mem_cons.1 hc).resolve_left hat)).inMailbox

theorem count_at : (mailbox ++ '@' :: (host ++ '.' :: suffix)).count '@' = 1 := by
  have hmailbox : mailbox.count '@' = 0 :=
    List.count_eq_zero.2 fun hc => (h.mailbox_chars _ hc).ne_at rfl
  have hdomain : (host ++ '.' :: suffix).count '@' = 0 :=
    List.count_eq_zero.2 fun hc => (h.domain_chars _ hc).inMailbox.ne_at rfl
  rw [List.count_append, List.count_cons_self, hmailbox, hdomain]

theorem visible {c : Char} (hc : c ∈ mailbox ++ '@' :: (host ++ '.' :: suffix)) :
    0x20 < c.toNat ∧ c.toNat < 0x7F := by
  by_cases hat : c = '@'
  · subst hat
    decide
  · exact (h.inMailbox_of_ne_at hc hat).visible

end IsAddress

end Format

/-- A string is an e-mail address exactly if it has one `@`, something of the characters of a
mailbox before it, and behind it characters of a domain with a point among them, of which the last
has something before it and at least two letters, and nothing else, behind it. No address holds a
blank, so none holds a line end, and all are ASCII. -/
theorem Value.email_accepted_iff (s : String) :
    (Value.isEmail (.string s) = true ↔
      s.toList.count '@' = 1 ∧ ∃ mailbox host suffix,
        s.toList = mailbox ++ '@' :: (host ++ '.' :: suffix) ∧
          Format.IsAddress mailbox host suffix) ∧
    (Value.isEmail (.string s) = true →
      ∀ c ∈ s.toList, c.toNat < 0x80 ∧ Text.isBlank c = false) := by
  have hiff : Value.isEmail (.string s) = true ↔ ∃ mailbox host suffix,
      s.toList = mailbox ++ '@' :: (host ++ '.' :: suffix) ∧
        Format.IsAddress mailbox host suffix := Format.isEmail_iff_isAddress
  rw [hiff]
  constructor
  · constructor
    · rintro ⟨mailbox, host, suffix, hs, h⟩
      exact ⟨hs ▸ h.count_at, mailbox, host, suffix, hs, h⟩
    · exact And.right
  · rintro ⟨mailbox, host, suffix, hs, h⟩ c hc
    have hvisible := h.visible (hs ▸ hc)
    exact ⟨by omega, Format.isBlank_eq_false_of_visible hvisible⟩

end FieldRules
