import FieldRules.CommandLine.Switch

/-!
# Help

What the program says about itself and its commands. A summary and a long text differ for the
program as a whole only; there the long one puts what each switch does on a line of its own.
-/

namespace FieldRules.CommandLine

def programName : String := "reqguard"

def quietSwitch : Switch :=
  ⟨"quiet", some 'q', .flag, "Suppress all informational and debug messages."⟩

def debugSwitch : Switch := ⟨"debug", some 'd', .flag, "Enable debug logging."⟩

def helpSwitch : Switch := ⟨"help", some 'h', .final, "Print help"⟩

def versionSwitch : Switch := ⟨"version", some 'V', .final, "Print version"⟩

def leadingSwitches : List Switch := [quietSwitch, debugSwitch, helpSwitch, versionSwitch]

def validateSwitches : List Switch :=
  [quietSwitch,
    ⟨"rules", some 'r', .value "FILE", "Path to the rule file (YAML or JSON)."⟩,
    debugSwitch,
    ⟨"input", some 'i', .value "FILE", "Read the record from a file instead of stdin."⟩,
    ⟨"request", none, .flag, "Treat the input as a request with body, query and params parts."⟩,
    ⟨"sanitize", some 's', .flag, "Sanitize the input before validating it."⟩,
    ⟨"strict", none, .flag, "Reject unknown rules instead of ignoring them."⟩,
    ⟨"json", none, .flag, "Report rejections as a JSON document on stdout."⟩,
    helpSwitch]

def sanitizeSwitches : List Switch :=
  [⟨"input", some 'i', .value "FILE", "Read input from a specified file instead of stdin."⟩,
    quietSwitch, debugSwitch,
    ⟨"max-depth", none, .value "N", "Maximum nesting depth accepted."⟩,
    helpSwitch]

inductive Topic
  | program
  | validate
  | sanitize
  | help
  deriving DecidableEq, Repr

namespace Topic

def commands : List Topic := [validate, sanitize, help]

def name : Topic → String
  | program => programName
  | validate => "validate"
  | sanitize => "sanitize"
  | help => "help"

def about : Topic → String
  | program => "Validate and sanitize JSON request records"
  | validate => "Validate a JSON record (or request) against a rule file."
  | sanitize =>
    "Strip tags, script URLs and inline handlers from every string in a JSON document."
  | help => "Print this message or the help of the given subcommand(s)"

def longAbout : Topic → String
  | program => "reqguard checks a JSON record against a rule file written in the compact "
    ++ "`required|string|min:3` notation, and can strip markup and script vectors from arbitrary "
    ++ "JSON documents before they reach an application."
  | topic => topic.about

def usage : Topic → String
  | program => s!"{programName} [OPTIONS] <COMMAND>"
  | validate => s!"{programName} validate [OPTIONS] --rules <FILE>"
  | sanitize => s!"{programName} sanitize [OPTIONS]"
  | help => s!"{programName} help [COMMAND]"

def switches : Topic → List Switch
  | program => leadingSwitches
  | validate => validateSwitches
  | sanitize => sanitizeSwitches
  | help => []

end Topic

def Switch.heading (s : Switch) : String :=
  let letter := match s.letter with
    | some c => String.ofList ['-', c, ',', ' ']
    | none => "    "
  let label := match s.kind with
    | .value label => s!" <{label}>"
    | _ => ""
  s!"{letter}--{s.name}{label}"

def Switch.elsewhere (rules : Option String) (maxDepth : Nat) (s : Switch) : String :=
  if s.name = "rules" then " [env: REQGUARD_RULES=" ++ rules.getD "" ++ "]"
  else if s.name = "max-depth" then s!" [default: {maxDepth}]"
  else ""

def indent (width : Nat) : String := String.ofList (List.replicate width ' ')

def columns (entries : List (String × String)) : List String :=
  let width := entries.foldl (fun width e => max width e.1.length) 0
  entries.map fun e => s!"  {e.1}{indent (width - e.1.length)}  {e.2}"

def paragraphs (entries : List (String × String)) : List String :=
  List.intercalate [""] (entries.map fun e => [s!"  {e.1}", indent 10 ++ e.2])

def helpText (rules : Option String) (maxDepth : Nat) (topic : Topic) (long : Bool) :
    List String :=
  let isProgram := topic == .program
  let hint := if !isProgram then "" else if long then " (see a summary with '-h')"
    else " (see more with '--help')"
  let options := topic.switches.map fun s =>
    (s.heading, s.about ++ s.elsewhere rules maxDepth ++ if s.name = "help" then hint else "")
  let commands := if isProgram || topic == .help then Topic.commands.map fun c => (c.name, c.about)
    else []
  let titled := fun (title : String) (lines : List String) =>
    if lines.isEmpty then [] else "" :: title :: lines
  [if long then topic.longAbout else topic.about, "", s!"Usage: {topic.usage}"]
    ++ titled "Commands:" (columns commands)
    ++ titled "Options:" (if long && isProgram then paragraphs options else columns options)

end FieldRules.CommandLine
