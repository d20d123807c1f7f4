import FieldRules.Sanitizer
import Mathlib.Data.List.Basic

/-!
# The cleaned value

A sanitizer answers for every value: with the error where the value is nested deeper than the limit,
and else with the value whose strings are cleaned. `Value.mapStrings` is that value for any function
on strings. What it keeps is said position by position: `Value.part?` follows a path into a value,
and `Value.frame` is what stands there apart from the parts inside.
-/

namespace FieldRules

namespace Value

mutual

/-- The value with a function applied to each of its strings; keys are no strings of the value. -/
def mapStrings (f : String → String) : Value → Value
  | string s => string (f s)
  | array items => array (mapStringsOfItems f items)
  | object members => object (mapStringsOfMembers f members)
  | v => v

def mapStringsOfItems (f : String → String) : List Value → List Value
  | [] => []
  | v :: rest => v.mapStrings f :: mapStringsOfItems f rest

def mapStringsOfMembers (f : String → String) : List (String × Value) → List (String × Value)
  | [] => []
  | (k, v) :: rest => (k, v.mapStrings f) :: mapStringsOfMembers f rest

end

variable (f : String → String)

theorem mapStringsOfItems_eq (items : List Value) :
    mapStringsOfItems f items = items.map (mapStrings f) := by
  induction items with
  | nil => rfl
  | cons v rest ih => rw [mapStringsOfItems, ih, List.map_cons]

theorem mapStringsOfMembers_eq (members : List (String × Value)) :
    mapStringsOfMembers f members = members.map fun m => (m.1, m.2.mapStrings f) := by
  induction members with
  | nil => rfl
  | cons m rest ih => rw [mapStringsOfMembers, ih, List.map_cons]

/-- What a value is apart from the values inside: an array has so many items, an object these keys
in this order. -/
inductive Frame
  | null
  | bool (value : Bool)
  | number (value : Number)
  | string (value : String)
  | array (size : Nat)
  | object (keys : List String)
  deriving DecidableEq, Repr

def Frame.mapString : Frame → Frame
  | string s => string (f s)
  | frame => frame

def frame : Value → Frame
  | null => .null
  | bool b => .bool b
  | number n => .number n
  | string s => .string s
  | array items => .array items.length
  | object members => .object (members.map Prod.fst)

def parts : Value → List Value
  | array items => items
  | object members => members.map Prod.snd
  | _ => []

/-- What stands at a position: the path tells which part of the value, which part of that, … -/
def part? : Value → List Nat → Option Value
  | v, [] => some v
  | v, i :: path => v.parts[i]?.bind fun w => w.part? path

theorem frame_mapStrings (v : Value) : (v.mapStrings f).frame = v.frame.mapString f := by
  cases v with
  | array items => simp [mapStrings, mapStringsOfItems_eq, frame, Frame.mapString]
  | object members => simp [mapStrings, mapStringsOfMembers_eq, frame, Frame.mapString]
  | _ => rfl

theorem parts_mapStrings (v : Value) : (v.mapStrings f).parts = v.parts.map (mapStrings f) := by
  cases v with
  | array items => rw [mapStrings, mapStringsOfItems_eq]; rfl
  | object members => simp [mapStrings, mapStringsOfMembers_eq, parts]
  | _ => rfl

theorem part?_mapStrings (v : Value) (path : List Nat) :
    (v.mapStrings f).part? path = (v.part? path).map (mapStrings f) := by
  induction path generalizing v with
  | nil => rfl
  | cons i path ih =>
      rw [part?, part?, parts_mapStrings, List.getElem?_map]
      cases v.parts[i]? with
      | none => rfl
      | some w => exact ih w

end Value

namespace Sanitizer

open Cleaning (cleanText)

mutual

/-- So many levels are enough as the value is deep. -/
theorem cleanWithin_eq (left : Nat) (v : Value) :
    cleanWithin left v = if v.depth ≤ left then some (v.mapStrings cleanText) else none := by
  cases v with
  | array items =>
      cases left with
      | zero => simp [cleanWithin, Value.depth]
      | succ left =>
          rw [cleanWithin, cleanItems_eq, Value.depth, Value.mapStrings]
          simp only [Nat.succ_le_succ_iff]
          split <;> rfl
  | object members =>
      cases left with
      | zero => simp [cleanWithin, Value.depth]
      | succ left =>
          rw [cleanWithin, cleanMembers_eq, Value.depth, Value.mapStrings]
          simp only [Nat.succ_le_succ_iff]
          split <;> rfl
  | _ => cases left <;> simp [cleanWithin, Value.depth, Value.mapStrings]

theorem cleanItems_eq (left : Nat) (items : List Value) :
    cleanItems left items = if Value.depthOfItems items ≤ left then
      some (Value.mapStringsOfItems cleanText items) else none := by
  cases items with
  | nil => simp [cleanItems, Value.depthOfItems, Value.mapStringsOfItems]
  | cons v rest =>
      rw [cleanItems, cleanWithin_eq, cleanItems_eq, Value.depthOfItems, Value.mapStringsOfItems]
      simp only [Nat.max_le]
      by_cases hv : v.depth ≤ left <;> by_cases hrest : Value.depthOfItems rest ≤ left <;>
        simp [hv, hrest]

theorem cleanMembers_eq (left : Nat) (members : List (String × Value)) :
    cleanMembers left members = if Value.depthOfMembers members ≤ left then
      some (Value.mapStringsOfMembers cleanText members) else none := by
  cases members with
  | nil => simp [cleanMembers, Value.depthOfMembers, Value.mapStringsOfMembers]
  | cons m rest =>
      rw [cleanMembers, cleanWithin_eq, cleanMembers_eq, Value.depthOfMembers,
        Value.mapStringsOfMembers]
      simp only [Nat.max_le]
      by_cases hm : m.2.depth ≤ left <;> by_cases hrest : Value.depthOfMembers rest ≤ left <;>
        simp [hm, hrest]

end

theorem sanitize_eq (s : Sanitizer) (v : Value) :
    s.sanitize v =
      if v.depth ≤ s.maxDepth then .ok (v.mapStrings cleanText) else .error ⟨s.maxDepth⟩ := by
  rw [sanitize, cleanWithin_eq]
  by_cases h : v.depth ≤ s.maxDepth <;> simp [h]

/-- A value has one cleaned value, whatever the limit: every sanitizer whose limit the value keeps
gives it, all others refuse. At each position it has what the value has there, with strings
cleaned. -/
theorem sanitize_cleans_every_string (v : Value) :
    ∃ w, (∀ s : Sanitizer, s.sanitize v =
        if v.depth ≤ s.maxDepth then .ok w else .error ⟨s.maxDepth⟩) ∧
      ∀ path, (w.part? path).map Value.frame =
        (v.part? path).map fun u => u.frame.mapString cleanText := by
  refine ⟨v.mapStrings cleanText, fun s => s.sanitize_eq v, fun path => ?_⟩
  rw [Value.part?_mapStrings, Option.map_map]
  exact Option.map_congr fun u _ => Value.frame_mapStrings cleanText u

example :
    let v : Value := .object [("a", .array [.string " <i>x</i>", .array []]), ("b", .null)]
    v.depth = 3 ∧ ((⟨2⟩ : Sanitizer).sanitize v).toOption.isNone ∧
      ((v.mapStrings cleanText).part? [0, 0]).map Value.frame = some (.string "x") := by
  decide

end Sanitizer
end FieldRules
