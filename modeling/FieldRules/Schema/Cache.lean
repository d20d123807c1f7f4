import FieldRules.Digest
import FieldRules.RuleFile

/-!
# Shared schemas

A cache keeps the schemas compiled from rule files under keys computed from the files. An entry is
used again only for a file that states the same rules; on a collision the newer file replaces the
older one. Files that do not compile leave no entry. Schemas are numbered in the order in which they
were compiled, so two answers share a schema when their numbers agree.
-/

namespace FieldRules

structure SharedSchema where
  number : Nat
  schema : Schema

structure CacheEntry (κ : Type) where
  key : κ
  file : RuleFile
  shared : SharedSchema

/-- The entries, each key once, and the number of schemas compiled. -/
structure Cache (κ : Type) where
  entries : List (CacheEntry κ)
  compiled : Nat

inductive Lookup
  | hit
  | collision
  | absent
  deriving DecidableEq, Repr

namespace Cache

variable {κ : Type} [DecidableEq κ]

def empty : Cache κ := ⟨[], 0⟩

def find? (cache : Cache κ) (key : κ) : Option (CacheEntry κ) :=
  cache.entries.find? fun e => e.key = key

def store (cache : Cache κ) (e : CacheEntry κ) : Cache κ :=
  ⟨e :: cache.entries.filter fun old => old.key ≠ e.key, cache.compiled + 1⟩

def lookup (key : RuleFile → κ) (cache : Cache κ) (file : RuleFile) : Lookup :=
  match cache.find? (key file) with
  | none => .absent
  | some e => if e.file.same file then .hit else .collision

/-- The shared schema of a file, compiled unless the cache holds it, and the cache afterwards. -/
def get (key : RuleFile → κ) (cache : Cache κ) (file : RuleFile) :
    Except SchemaError SharedSchema × Cache κ :=
  let compile :=
    match file.compile with
    | .error e => (.error e, cache)
    | .ok schema =>
      let shared := ⟨cache.compiled, schema⟩
      (.ok shared, cache.store ⟨key file, file, shared⟩)
  match cache.find? (key file) with
  | some e => if e.file.same file then (.ok e.shared, cache) else compile
  | none => compile

end Cache

def RuleSource.digested : RuleSource → List UInt8
  | pipe text => Digest.number 0 ++ Digest.text text
  | list tokens => Digest.number 1 ++ Digest.number tokens.length ++ tokens.flatMap Digest.text

namespace RuleFile

def digested (file : RuleFile) : List UInt8 :=
  (if file.strict then 1 else 0) :: file.fields.flatMap fun f => Digest.text f.1 ++ f.2.digested

/-- The key of a rule file: a digest of all it states, in order. -/
def key (file : RuleFile) : UInt64 := Digest.ofBytes file.digested

end RuleFile
end FieldRules
