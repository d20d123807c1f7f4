import FieldRules.CommandLine.Help
import FieldRules.Sanitizer

/-!
# Invocations

What a command line asks for: one of the two commands with its options, the help text or the
version. The switches that set how much is logged may stand before the command or after it.
-/

namespace FieldRules.CommandLine

inductive Verbosity
  | quiet
  | debug
  | unstated
  deriving DecidableEq, Repr

structure ValidateOptions where
  rules : String
  input : Option String
  request : Bool
  sanitize : Bool
  strict : Bool
  json : Bool
  deriving DecidableEq, Repr

structure SanitizeOptions where
  input : Option String
  sanitizer : Sanitizer
  deriving DecidableEq, Repr

inductive Command
  | validate (options : ValidateOptions)
  | sanitize (options : SanitizeOptions)
  deriving DecidableEq, Repr

inductive Invocation
  | command (verbosity : Verbosity) (command : Command)
  | help (topic : Topic) (long : Bool)
  | version
  deriving DecidableEq, Repr

namespace Invocation

/-- A number may have a plus sign and is below the limit of 64 bits. -/
def numberOf? (text : List Char) : Option Nat :=
  let digits := match text with
    | '+' :: t => t
    | t => t
  if digits.isEmpty || !digits.all Char.isDigit then none
  else
    let n := digits.foldl (fun n c => 10 * n + (c.toNat - '0'.toNat)) 0
    if n < Nat.pow 2 64 then some n else none

def checkPath (name : String) : Option String → Except UsageError Unit
  | some "" => .error (.emptyValue name)
  | _ => .ok ()

def checkNumber (name : String) : Option String → Except UsageError Unit
  | some text => if (numberOf? text.toList).isSome then .ok () else .error (.badNumber name text)
  | none => .ok ()

def checkVerbosity (given : List Given) : Except UsageError Unit :=
  if Given.has given "quiet" && Given.has given "debug" then .error (.conflict "debug" "quiet")
  else .ok ()

/-- Quiet wins where both are given, one on each side of the command. -/
def verbosityOf (given : List Given) : Verbosity :=
  if Given.has given "quiet" then .quiet
  else if Given.has given "debug" then .debug
  else .unstated

def checkEnd : List String → Except UsageError Unit
  | [] => .ok ()
  | [w] => if Word.ofString w = .separator then .ok () else .error (.surplusWord w)
  | _ :: w :: _ => .error (.surplusWord w)

/-- The options of `validate`; the rules may be named by the environment instead. -/
def validateOptions (rulesElsewhere : Option String) (given : List Given) :
    Except UsageError ValidateOptions := do
  match (Given.value? given "rules").or rulesElsewhere with
  | none => .error (.missingSwitch "rules")
  | some rules =>
    checkPath "rules" (some rules)
    return ⟨rules, Given.value? given "input", Given.has given "request",
      Given.has given "sanitize", Given.has given "strict", Given.has given "json"⟩

def sanitizeOptions (given : List Given) : SanitizeOptions :=
  let depth := (Given.value? given "max-depth").bind fun text => numberOf? text.toList
  ⟨Given.value? given "input", (depth.map Sanitizer.mk).getD .standard⟩

/-- The long help text is that of a switch by its name. -/
def helpOf (topic : Topic) (given : List Given) : Invocation :=
  help topic (Given.value? given "help").isSome

/-- The switches of a command. Where its help text is asked for, nothing else matters. -/
def readSwitches (known : List Switch) (words : List String) :
    Except UsageError (List Given) := do
  let (given, rest) ← Given.ofWords known words
  Given.checkOnce given
  checkPath "rules" (Given.value? given "rules")
  checkPath "input" (Given.value? given "input")
  checkNumber "max-depth" (Given.value? given "max-depth")
  if Given.has given "help" then return given
  checkEnd rest
  checkVerbosity given
  return given

def ofHelpWords : List String → Except UsageError Invocation
  | [] => .ok (help .program true)
  | [w] => match Topic.commands.find? fun topic => topic.name = w with
    | some topic => .ok (help topic true)
    | none => .error (.unknownCommand w)
  | _ :: w :: _ => .error (.unknownCommand w)

def ofCommand (rulesElsewhere : Option String) (before : List Given) (name : String)
    (words : List String) : Except UsageError Invocation :=
  match name with
  | "validate" => do
    let given ← readSwitches validateSwitches words
    if Given.has given "help" then return helpOf .validate given
    let options ← validateOptions rulesElsewhere given
    checkVerbosity before
    return command (verbosityOf (before ++ given)) (.validate options)
  | "sanitize" => do
    let given ← readSwitches sanitizeSwitches words
    if Given.has given "help" then return helpOf .sanitize given
    checkVerbosity before
    return command (verbosityOf (before ++ given)) (.sanitize (sanitizeOptions given))
  | "help" => ofHelpWords words
  | name => .error (.unknownCommand name)

def ofWords (rulesElsewhere : Option String) (words : List String) :
    Except UsageError Invocation := do
  let (before, rest) ← Given.ofWords leadingSwitches words
  Given.checkOnce before
  if Given.has before "help" then return helpOf .program before
  if Given.has before "version" then return version
  match rest with
  | [] => .error .missingCommand
  | name :: words => ofCommand rulesElsewhere before name words

end Invocation
end FieldRules.CommandLine
