/-!
# Cutting text at a character

`cutFirst c t` cuts `t` at its first `c`, and `cuts c t` lists all the ways of cutting `t` at some
`c`. The character itself is in neither part. `ofLines` ends each line; `lines` cuts a text at all
line ends, so that what follows the last one is a line too, even if it is empty.
-/

namespace FieldRules.Text

def cutFirst (c : Char) : List Char → Option (List Char × List Char)
  | [] => none
  | x :: t => if x = c then some ([], t) else (cutFirst c t).map fun p => (x :: p.1, p.2)

/-- All pairs `(u, v)` with `t = u ++ c :: v`, the shortest `u` first. -/
def cuts (c : Char) : List Char → List (List Char × List Char)
  | [] => []
  | x :: t =>
    let later := (cuts c t).map fun p => (x :: p.1, p.2)
    if x = c then ([], t) :: later else later

theorem mem_cuts {c : Char} {t u v : List Char} : (u, v) ∈ cuts c t ↔ t = u ++ c :: v := by
  induction t generalizing u v with
  | nil => simp [cuts]
  | cons x t ih =>
    have later : (u, v) ∈ (cuts c t).map (fun p => (x :: p.1, p.2)) ↔
        ∃ w, u = x :: w ∧ t = w ++ c :: v := by
      constructor
      · rintro h
        obtain ⟨⟨a, b⟩, hab, h⟩ := List.mem_map.1 h
        obtain ⟨rfl, rfl⟩ := Prod.mk.inj h
        exact ⟨a, rfl, ih.1 hab⟩
      · rintro ⟨w, rfl, h⟩
        exact List.mem_map.2 ⟨(w, v), ih.2 h, rfl⟩
    by_cases h : x = c
    · rw [cuts, if_pos h, List.mem_cons, later, Prod.mk.injEq]
      cases u with
      | nil => simp [h, eq_comm]
      | cons y u => simp [eq_comm, and_assoc]
    · rw [cuts, if_neg h, later]
      cases u with
      | nil => simp [h]
      | cons y u => simp [eq_comm, and_assoc]

def pieces (c : Char) (s : String) : List String :=
  (s.toList.splitOn c).map String.ofList

def ofLines (lines : List String) : String := String.join (lines.map fun line => line ++ "\n")

def lines (s : String) : List String := pieces '\n' s

end FieldRules.Text
