import FieldRules.Log.Line

/-!
# Computations with a log

A trace is a computation that writes lines to a log and ends with a result or an error. The lines
written before an error are kept.
-/

namespace FieldRules.Log

structure Trace (ε α : Type) where
  lines : List Line
  result : Except ε α

namespace Trace

variable {ε α β : Type}

def write (lines : List Line) : Trace ε Unit := ⟨lines, .ok ()⟩

def ofExcept (r : Except ε α) : Trace ε α := ⟨[], r⟩

def bind (t : Trace ε α) (f : α → Trace ε β) : Trace ε β :=
  match t.result with
  | .ok a => ⟨t.lines ++ (f a).lines, (f a).result⟩
  | .error e => ⟨t.lines, .error e⟩

instance : Monad (Trace ε) where
  pure a := ⟨[], .ok a⟩
  bind := Trace.bind

@[simp] theorem result_pure (a : α) : (pure a : Trace ε α).result = .ok a := rfl

@[simp] theorem result_write (lines : List Line) : (write lines : Trace ε Unit).result = .ok () :=
  rfl

@[simp] theorem result_ofExcept (r : Except ε α) : (ofExcept r).result = r := rfl

/-- What a trace writes does not bear on its result. -/
@[simp] theorem result_bind (t : Trace ε α) (f : α → Trace ε β) :
    (t >>= f).result = t.result.bind fun a => (f a).result := by
  change (Trace.bind t f).result = _
  unfold Trace.bind
  cases h : t.result with
  | ok a => simp [Except.bind]
  | error e => simp [Except.bind]

end Trace
end FieldRules.Log
