/-!
# Removing pieces of text

`removeAll size t` goes through `t` once from left to right and leaves out every piece that stands
at its way: `size` tells how long the piece at the start of a text is, zero when there is none. What
is left of a removed piece is not looked at again, so pieces that only form by the removal stay.
-/

namespace FieldRules.Text

/-- The text without its pieces, after `skip` more characters are left out. -/
def removeFrom (size : List Char → Nat) : Nat → List Char → List Char
  | _, [] => []
  | skip + 1, _ :: t => removeFrom size skip t
  | 0, c :: t =>
    match size (c :: t) with
    | 0 => c :: removeFrom size 0 t
    | n + 1 => removeFrom size n t

def removeAll (size : List Char → Nat) (t : List Char) : List Char :=
  removeFrom size 0 t

variable (size : List Char → Nat)

@[simp] theorem removeFrom_nil (skip : Nat) : removeFrom size skip [] = [] := by
  cases skip <;> rfl

theorem removeFrom_eq_drop (skip : Nat) (t : List Char) :
    removeFrom size skip t = removeAll size (t.drop skip) := by
  induction t generalizing skip with
  | nil => simp [removeAll]
  | cons c t ih =>
    cases skip with
    | zero => rfl
    | succ skip => simpa [removeFrom] using ih skip

@[simp] theorem removeAll_nil : removeAll size [] = [] := rfl

theorem removeAll_of_size_eq_zero {c : Char} {t : List Char} (h : size (c :: t) = 0) :
    removeAll size (c :: t) = c :: removeAll size t := by
  simp [removeAll, removeFrom, h]

theorem removeAll_of_size_eq_succ {c : Char} {t : List Char} {n : Nat}
    (h : size (c :: t) = n + 1) : removeAll size (c :: t) = removeAll size (t.drop n) := by
  rw [← removeFrom_eq_drop]
  simp [removeAll, removeFrom, h]

/-- What remains keeps its order. -/
theorem removeAll_sublist (t : List Char) : (removeAll size t).Sublist t := by
  have any : ∀ skip, (removeFrom size skip t).Sublist t := by
    induction t with
    | nil => simp
    | cons c t ih =>
      intro skip
      cases skip with
      | succ skip => exact (ih skip).cons c
      | zero =>
        rw [removeFrom]
        split
        · exact (ih 0).cons_cons c
        · exact (ih _).cons c
  exact any 0

end FieldRules.Text
