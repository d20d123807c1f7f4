import FieldRules.CommandLine.Command
import FieldRules.Log.Filter

/-!
# How the program ends

A run of the program, from the environment to the exit code and the texts on the two output streams.
The code is 0 if all went well, 1 for a rejected record and 2 for anything else; a record or
document stands on the standard output, the log and all complaints on the other stream.
-/

namespace FieldRules.CommandLine

open Log (Filter Line Trace)

structure Exit where
  code : Nat
  stdout : String
  stderr : String
  deriving DecidableEq, Repr

def versionText : String := programName ++ " 0.1.0"

def messageMark (terminal : Bool) : String :=
  if terminal then "\x1b[1m\x1b[31merror:\x1b[39m\x1b[0m" else "error:"

def messageLine (terminal : Bool) (message : String) : String :=
  messageMark terminal ++ " " ++ message

namespace Exit

def ofUsageError (e : UsageError) : Exit :=
  ⟨2, "", Text.ofLines ["error: " ++ e.message, "", "For more information, try '--help'."]⟩

def ofEnding (terminal asJson : Bool) (logged : List String) : Ending → Exit
  | .accepted r => ⟨0, Text.ofLines [Json.prettyText (.object r)], Text.ofLines logged⟩
  | .cleaned v => ⟨0, Text.ofLines [Json.prettyText v], Text.ofLines logged⟩
  | .rejected f =>
    if asJson then ⟨1, Text.ofLines [Json.prettyText f.toValue], Text.ofLines logged⟩
    else ⟨1, "", Text.ofLines (logged ++ f.errors.map (messageLine terminal))⟩

def ofError (logged : List String) (message : String) : Exit :=
  ⟨2, "", Text.ofLines (logged ++ [s!"{programName}: {message}"])⟩

end Exit

def Command.asJson : Command → Bool
  | validate o => o.json
  | sanitize _ => false

/-- The targets that begin with the name of one of the program's two parts get a threshold. -/
def withThreshold (t : Log.Threshold) (f : Filter) : Filter :=
  let command := f.addDirective ⟨some programName, t⟩
  command.addDirective ⟨some (programName ++ "_core"), t⟩

def Verbosity.adjust : Verbosity → Filter → Filter
  | unstated => id
  | quiet => withThreshold none
  | debug => withThreshold (some .debug)

/-- The log filter that the environment states, adjusted to the command line. Warnings are shown
where neither says anything. -/
def Environment.filter (env : Environment) (verbosity : Verbosity) : Filter.Reading :=
  let r := Filter.ofString (fun pattern => env.cause (.pattern pattern))
    ((env.setting? "RUST_LOG").getD "warn")
  { r with filter := verbosity.adjust r.filter }

def logOf (cause : Unreadable → String) (t : Trace CommandError Ending) : List Line :=
  match t.result with
  | .ok _ => t.lines
  | .error e => t.lines ++ [⟨.error, programName, e.message cause⟩]

def Command.logged (env : Environment) (verbosity : Verbosity) (c : Command) : List String :=
  let reading := env.filter verbosity
  let lines := (logOf env.cause (c.perform env)).filter reading.filter.shows
  reading.complaints ++ lines.map Line.render

def Command.run (env : Environment) (verbosity : Verbosity) (c : Command) : Exit :=
  let logged := c.logged env verbosity
  match (c.perform env).result with
  | .ok ending => .ofEnding env.terminal c.asJson logged ending
  | .error e => .ofError logged (e.message env.cause)

def Environment.invocation (env : Environment) : Except UsageError Invocation :=
  Invocation.ofWords (env.setting? "REQGUARD_RULES") env.arguments

def Environment.help (env : Environment) (topic : Topic) (long : Bool) : String :=
  Text.ofLines
    (helpText (env.setting? "REQGUARD_RULES") Sanitizer.standard.maxDepth topic long)

/-- The whole program. Without any arguments it explains itself. -/
def run (env : Environment) : Exit :=
  match env.invocation with
  | .error e => if env.arguments.isEmpty then ⟨2, "", env.help .program false⟩ else .ofUsageError e
  | .ok (.help topic long) => ⟨0, env.help topic long, ""⟩
  | .ok .version => ⟨0, Text.ofLines [versionText], ""⟩
  | .ok (.command verbosity c) => c.run env verbosity

end FieldRules.CommandLine
