import FieldRules.Cleaning
import FieldRules.Proofs.RemovedPieces
import Mathlib.Data.List.TakeWhile

/-!
# Script vectors and tags

What the passes of `clean` look for, described as texts: the scheme of a script link, inline event
handlers and tags. The passes measure pieces by lengths; here each length function is shown to
measure, or at least to find, the texts described. Names of handlers end by themselves, since no
word character is a blank, and so do blanks in front of the equals sign or a quote.
-/

namespace FieldRules

namespace Text

def blankCodes : List Nat :=
  [9, 10, 11, 12, 13, 0x20, 0x85, 0xA0, 0x1680, 0x2000, 0x2001, 0x2002, 0x2003, 0x2004, 0x2005,
    0x2006, 0x2007, 0x2008, 0x2009, 0x200A, 0x2028, 0x2029, 0x202F, 0x205F, 0x3000]

theorem mem_blankCodes {c : Char} (h : isBlank c = true) : c.toNat ∈ blankCodes := by
  simp only [isBlank, Bool.or_eq_true, Bool.and_eq_true, decide_eq_true_eq, beq_iff_eq] at h
  simp only [blankCodes, List.mem_cons, List.not_mem_nil, or_false]
  omega

theorem isWord_eq_false_of_isBlank {c : Char} (h : isBlank c = true) : isWord c = false := by
  have hall : ∀ n ∈ blankCodes, wordSet.contains n = false := by decide +kernel
  exact hall c.toNat (mem_blankCodes h)

end Text

namespace Cleaning

def Spells (word v : List Char) : Prop := v.map Text.fold = word.map Text.fold

instance (word v : List Char) : Decidable (Spells word v) :=
  inferInstanceAs (Decidable (_ = _))

/-- A text in quotes of one kind, which it does not hold itself. -/
def IsQuoted (v : List Char) : Prop :=
  ∃ q body, (q = '"' ∨ q = '\'') ∧ q ∉ body ∧ v = q :: (body ++ [q])

/-- `on`, a name of word characters, an equals sign that blanks may surround, a quoted value. -/
def IsHandler (v : List Char) : Prop :=
  ∃ on name before behind value, Spells ['o', 'n'] on ∧
    name ≠ [] ∧ (∀ c ∈ name, Text.isWord c = true) ∧
    (∀ c ∈ before, Text.isBlank c = true) ∧ (∀ c ∈ behind, Text.isBlank c = true) ∧
    IsQuoted value ∧ v = on ++ (name ++ (before ++ '=' :: (behind ++ value)))

/-- The scheme, an address without blanks and semicolons, and perhaps a semicolon. -/
def IsLink (v : List Char) : Prop :=
  ∃ start address closing, Spells scheme start ∧ (∀ c ∈ address, isLinkChar c = true) ∧
    (∀ c ∈ closing, c = ';') ∧ v = start ++ (address ++ closing)

def IsSpacedHandler (v : List Char) : Prop :=
  ∃ c w, Text.isBlank c = true ∧ IsHandler w ∧ v = c :: w

def IsTag (v : List Char) : Prop :=
  ∃ body, '<' ∉ body ∧ '>' ∉ body ∧ v = '<' :: (body ++ ['>'])

theorem Spells.length_eq {word v : List Char} (h : Spells word v) : v.length = word.length := by
  simpa only [List.length_map] using congrArg List.length h

theorem spells_iff {word v : List Char} :
    Spells word v ↔
      v.length = word.length ∧ ((v.zip word).all fun p => Text.sameLetter p.1 p.2) = true := by
  induction word generalizing v with
  | nil => simp [Spells]
  | cons c word ih =>
      cases v with
      | nil => simp [Spells]
      | cons d v =>
          have hih : v.map Text.fold = word.map Text.fold ↔ _ := ih
          simp [Spells, hih, Text.sameLetter, and_left_comm]

theorem wordSize_eq (word t : List Char) :
    wordSize word t = if Spells word (t.take word.length) then word.length else 0 := by
  simp only [wordSize, Bool.and_eq_true, decide_eq_true_eq, spells_iff]

theorem measures_wordSize (word : List Char) : Text.Measures (wordSize word) (Spells word) where
  complete {v} hv rest := by
    rw [wordSize_eq, ← hv.length_eq, List.take_left, if_pos hv]
  sound t n h := by
    rw [wordSize_eq] at h
    split at h
    · rename_i hv
      exact ⟨_, _, (List.take_append_drop word.length t).symm, hv.length_eq.trans h, hv⟩
    · cases h

theorem takeWhile_append_of_stop {p : Char → Bool} {run rest : List Char}
    (hrun : ∀ c ∈ run, p c = true) (hrest : rest.takeWhile p = []) :
    (run ++ rest).takeWhile p = run := by
  rw [List.takeWhile_append_of_pos hrun, hrest, List.append_nil]

theorem drop_length_takeWhile (p : Char → Bool) (t : List Char) :
    t.drop (t.takeWhile p).length = t.dropWhile p := by
  induction t with
  | nil => rfl
  | cons c t ih => cases h : p c <;> simp [h, ih]

theorem exists_run {p : Char → Bool} {t rest : List Char} (h : t.dropWhile p = rest) :
    ∃ run, t = run ++ rest ∧ t.takeWhile p = run ∧ ∀ c ∈ run, p c = true :=
  ⟨t.takeWhile p, by rw [← h, List.takeWhile_append_dropWhile], rfl,
    fun _ hc => List.mem_takeWhile_imp hc⟩

theorem quotedSize_append {v : List Char} (hv : IsQuoted v) (rest : List Char) :
    quotedSize (v ++ rest) = v.length := by
  obtain ⟨q, body, hq, hbody, rfl⟩ := hv
  have hinner : (body ++ q :: rest).takeWhile (· != q) = body := by
    refine takeWhile_append_of_stop (fun c hc => ?_) (by simp)
    simpa using fun h : c = q => hbody (h ▸ hc)
  simp [quotedSize, hq, hinner]

theorem cuts_quotedSize : Text.Cuts quotedSize IsQuoted := by
  intro t n h
  cases t with
  | nil => cases h
  | cons q t =>
      rw [quotedSize] at h
      split at h
      · rename_i hq
        obtain ⟨body, ht, hbody, hinner⟩ := exists_run (p := (· != q)) (t := t) rfl
        simp only [hbody] at h
        split at h
        · rename_i hshorter
          cases hrest : t.dropWhile (· != q) with
          | nil =>
              rw [hrest, List.append_nil] at ht
              rw [ht] at hshorter
              exact absurd hshorter (Nat.lt_irrefl _)
          | cons c rest =>
              have hc : c = q := by
                have hstop := List.head?_dropWhile_not (· != q) t
                simpa [hrest] using hstop
              rw [hrest, hc] at ht
              refine ⟨q :: (body ++ [q]), rest, by simp [ht], by simpa using h, q, body,
                by simpa using hq, fun hmem => ?_, rfl⟩
              simpa using hinner q hmem
        · cases h
      · cases h

theorem IsQuoted.eq_cons {v : List Char} (h : IsQuoted v) :
    ∃ q w, Text.isBlank q = false ∧ v = q :: w := by
  obtain ⟨q, body, rfl | rfl, -, rfl⟩ := h
  · exact ⟨_, _, by decide, rfl⟩
  · exact ⟨_, _, by decide, rfl⟩

theorem bareHandlerSize_append {v : List Char} (hv : IsHandler v) (rest : List Char) :
    bareHandlerSize (v ++ rest) = v.length := by
  obtain ⟨on, name, before, behind, value, hon, hne, hname, hbefore, hbehind, hvalue, rfl⟩ := hv
  obtain ⟨q, w, hq, hcons⟩ := hvalue.eq_cons
  simp only [List.append_assoc, List.cons_append]
  have hsize := (measures_wordSize ['o', 'n']).complete hon
    (name ++ (before ++ '=' :: (behind ++ (value ++ rest))))
  have hdrop : (on ++ (name ++ (before ++ '=' :: (behind ++ (value ++ rest))))).drop
      ['o', 'n'].length = name ++ (before ++ '=' :: (behind ++ (value ++ rest))) :=
    List.drop_left' hon.length_eq
  -- Each run of characters stops in front of the next part.
  have hstop : (before ++ '=' :: (behind ++ (value ++ rest))).takeWhile Text.isWord = [] := by
    cases before with
    | nil => exact List.takeWhile_cons_of_neg (by decide +kernel)
    | cons c before =>
        have hc := Text.isWord_eq_false_of_isBlank (hbefore c List.mem_cons_self)
        simp [hc]
  have hequals : ('=' :: (behind ++ (value ++ rest))).takeWhile Text.isBlank = [] :=
    List.takeWhile_cons_of_neg (by decide)
  have hquote : (value ++ rest).takeWhile Text.isBlank = [] := by
    rw [hcons]
    simp [hq]
  have hfound : quotedSize (value ++ rest) = w.length + 1 := by
    rw [quotedSize_append hvalue rest, hcons, List.length_cons]
  rw [hon.length_eq] at hsize
  simp only [List.length_cons, List.length_nil] at hsize hdrop
  simp only [bareHandlerSize, hsize, hdrop, takeWhile_append_of_stop hname hstop, List.drop_left,
    takeWhile_append_of_stop hbefore hequals, takeWhile_append_of_stop hbehind hquote, hfound,
    List.isEmpty_iff, hne, if_false]
  simp only [List.length_append, List.length_cons, hon.length_eq, hcons, List.length_nil]
  omega

theorem cuts_bareHandlerSize : Text.Cuts bareHandlerSize IsHandler := by
  intro t n h
  rw [bareHandlerSize] at h
  split at h
  · cases h
  · rename_i k hon
    obtain ⟨on, tail, rfl, hlength, hspells⟩ := (measures_wordSize ['o', 'n']).sound _ _ hon
    simp only [← hlength, List.drop_left, drop_length_takeWhile] at h
    split at h
    · rename_i rest hequals
      split at h
      · cases h
      · rename_i size hsize
        obtain ⟨value, rest', hrest, hsize, hvalue⟩ := cuts_quotedSize _ _ hsize
        obtain ⟨name, htail, hname, hwords⟩ := exists_run (p := Text.isWord) (t := tail) rfl
        obtain ⟨before, hafter, hbefore, hblanks⟩ := exists_run hequals
        obtain ⟨behind, hbehind, hrun, hblanks'⟩ := exists_run hrest
        rw [hname, hbefore, hrun] at h
        split at h
        · cases h
        · rename_i hnonempty
          refine ⟨on ++ (name ++ (before ++ '=' :: (behind ++ value))), rest', ?_, ?_, on, name,
            before, behind, value, hspells, mt List.isEmpty_iff.2 hnonempty, hwords, hblanks,
            hblanks', hvalue, rfl⟩
          · rw [htail, hafter, hbehind]
            simp only [List.append_assoc, List.cons_append]
          · simp only [List.length_append, List.length_cons]
            omega
    · cases h

theorem measures_bareHandlerSize : Text.Measures bareHandlerSize IsHandler :=
  ⟨bareHandlerSize_append, cuts_bareHandlerSize⟩

theorem IsHandler.ne_nil {v : List Char} (h : IsHandler v) : v ≠ [] := by
  obtain ⟨on, name, before, behind, value, -, -, -, -, -, -, rfl⟩ := h
  simp

theorem measures_handlerSize : Text.Measures handlerSize IsSpacedHandler where
  complete {v} hv rest := by
    obtain ⟨c, w, hc, hw, rfl⟩ := hv
    obtain ⟨n, hn⟩ := Nat.exists_eq_succ_of_ne_zero (mt List.length_eq_zero_iff.1 hw.ne_nil)
    simp [handlerSize, hc, bareHandlerSize_append hw rest, hn]
  sound t n h := by
    cases t with
    | nil => cases h
    | cons c t =>
        rw [handlerSize] at h
        split at h
        · rename_i hc
          split at h
          · cases h
          · rename_i k hsize
            obtain ⟨w, rest, rfl, hlength, hw⟩ := cuts_bareHandlerSize _ _ hsize
            exact ⟨c :: w, rest, rfl, by simp [hlength, ← h], c, w, hc, hw, rfl⟩
        · cases h

theorem measures_tagSize : Text.Measures tagSize IsTag where
  complete {v} hv rest := by
    obtain ⟨body, hopen, hclose, rfl⟩ := hv
    have hinner : (body ++ '>' :: rest).takeWhile (fun c => c != '<' && c != '>') = body := by
      refine takeWhile_append_of_stop (fun c hc => ?_) (by simp)
      have hc' : c ≠ '<' ∧ c ≠ '>' := ⟨fun h => hopen (h ▸ hc), fun h => hclose (h ▸ hc)⟩
      simpa using hc'
    simp [tagSize, hinner]
  sound t n h := by
    rw [tagSize.eq_def] at h
    split at h
    · rename_i t
      simp only [drop_length_takeWhile] at h
      split at h
      · rename_i hclose
        obtain ⟨rest, hrest⟩ := List.head?_eq_some_iff.1 hclose
        obtain ⟨body, ht, hbody, hinner⟩ := exists_run hrest
        have hinner' : ∀ c ∈ body, c ≠ '<' ∧ c ≠ '>' := fun c hc => by simpa using hinner c hc
        rw [hbody] at h
        exact ⟨'<' :: (body ++ ['>']), rest, by simp [ht], by simpa using h, body,
          fun hc => (hinner' _ hc).1 rfl, fun hc => (hinner' _ hc).2 rfl, rfl⟩
      · cases h
    · cases h

/-- A link is found by its scheme alone. -/
theorem finds_linkSize : Text.Finds linkSize (Spells scheme) := by
  intro t
  rw [← (measures_wordSize scheme).finds (by decide +kernel) t, linkSize]
  split
  · rename_i h
    simp [h]
  · rename_i h
    simp [h]

theorem cuts_linkSize : Text.Cuts linkSize IsLink := by
  intro t n h
  rw [linkSize] at h
  split at h
  · cases h
  · rename_i k hsize
    obtain ⟨start, tail, rfl, hlength, hstart⟩ := (measures_wordSize scheme).sound _ _ hsize
    simp only [← hlength, List.drop_left, drop_length_takeWhile] at h
    obtain ⟨address, htail, haddress, hlink⟩ := exists_run (p := isLinkChar) (t := tail) rfl
    rw [haddress] at h
    split at h
    · rename_i hclosing
      obtain ⟨rest, hrest⟩ := List.head?_eq_some_iff.1 hclosing
      rw [hrest] at htail
      exact ⟨start ++ (address ++ [';']), rest, by simp [htail],
        by simpa [Nat.add_assoc] using h, start, address, [';'], hstart, hlink, by simp, rfl⟩
    · exact ⟨start ++ (address ++ []), tail.dropWhile isLinkChar, by simp [← htail],
        by simpa using h, start, address, [], hstart, hlink, by simp, rfl⟩

end Cleaning
end FieldRules
