import FieldRules.Value

/-!
# Records

A record is what an object holds: members in order, each key once. `insert` replaces a value in its
place and puts a new key at the end, so the keys of a record built by `insert` are distinct and
stand in the order of their first appearance.
-/

namespace FieldRules
namespace Record

def keys (r : Record) : List String := r.map Prod.fst

def get? : Record → String → Option Value
  | [], _ => none
  | (k, v) :: r, key => if k = key then some v else get? r key

def insert : Record → String → Value → Record
  | [], key, value => [(key, value)]
  | (k, v) :: r, key, value => if k = key then (k, value) :: r else (k, v) :: insert r key value

def insertAll (r s : Record) : Record :=
  s.foldl (fun r m => r.insert m.1 m.2) r

/-- The record of a list of members: a repeated key keeps its first place and takes the last value.
-/
def ofList (members : List (String × Value)) : Record :=
  insertAll [] members

theorem get?_insert (r : Record) (key other : String) (value : Value) :
    (r.insert key value).get? other = if key = other then some value else r.get? other := by
  induction r with
  | nil => simp [insert, get?]
  | cons m r ih => grind [insert, get?]

theorem keys_insert (r : Record) (key : String) (value : Value) :
    (r.insert key value).keys = if key ∈ r.keys then r.keys else r.keys ++ [key] := by
  induction r with
  | nil => simp [insert, keys]
  | cons m r ih => grind [insert, keys]

theorem get?_isSome {r : Record} {key : String} : (r.get? key).isSome ↔ key ∈ r.keys := by
  induction r with
  | nil => simp [get?, keys]
  | cons m r ih => grind [get?, keys]

end Record
end FieldRules
