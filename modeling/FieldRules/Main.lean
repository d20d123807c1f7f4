import FieldRules.CommandLine.Exit

/-!
# The program

Reads what surrounds the program, runs the command line on it, and writes what it says. The standard
input is read only by commands that have no input file.
-/

open FieldRules.CommandLine

def reasonOf : IO.Error → String
  | .noFileOrDirectory .. => "No such file or directory (os error 2)"
  | .permissionDenied .. => "Permission denied (os error 13)"
  | e => toString e

def attempt (read : IO String) : IO (Except String String) :=
  try return .ok (← read) catch e => return .error (reasonOf e)

def pathsOf : Invocation → List String
  | .command _ (.validate o) => o.rules :: o.input.toList
  | .command _ (.sanitize o) => o.input.toList
  | _ => []

def readsStdin : Invocation → Bool
  | .command _ (.validate o) => o.input.isNone
  | .command _ (.sanitize o) => o.input.isNone
  | _ => false

def variableNames : List String := ["REQGUARD_RULES", "REQGUARD_ALLOW_DEBUG_PII", "RUST_LOG"]

def stdinText : IO String := do
  let bytes ← (← IO.getStdin).readBinToEnd
  match String.fromUTF8? bytes with
  | some text => return text
  | none => throw (IO.userError "stream did not contain valid UTF-8")

def environmentOf (arguments : List String) : IO Environment := do
  let values ← variableNames.mapM fun name => return (name, ← IO.getEnv name)
  let bare : Environment :=
    ⟨arguments, fun name => (values.lookup name).join, fun _ => .error "", .ok "",
      ← (← IO.getStderr).isTty, fun _ => "malformed"⟩
  match bare.invocation with
  | .error _ => return bare
  | .ok invocation =>
    let files ← (pathsOf invocation).mapM fun (path : String) =>
      return (path, ← attempt (IO.FS.readFile path))
    let stdin ← if readsStdin invocation then attempt stdinText else pure (.ok "")
    return { bare with stdin, file := fun path => (files.lookup path).getD (.error "") }

def main (arguments : List String) : IO UInt32 := do
  let exit := run (← environmentOf arguments)
  IO.eprint exit.stderr
  IO.print exit.stdout
  return exit.code.toUInt32
