import FieldRules.Text.Pieces

/-!
# Switches

The words of a command line are switches and other words. A switch has a name after two dashes or a
letter after one; letters may share a dash. A value follows its switch as the next word, after `=`,
or right after the letter. `Given.ofWords` reads the switches that stand before the first other
word.
-/

namespace FieldRules.CommandLine

inductive SwitchKind
  | flag
  | value (label : String)
  /-- All that follows is left unread. -/
  | final
  deriving DecidableEq, Repr

structure Switch where
  name : String
  letter : Option Char
  kind : SwitchKind
  about : String
  deriving DecidableEq, Repr

structure Given where
  switch : Switch
  value : Option String
  deriving DecidableEq, Repr

inductive UsageError
  | unknownSwitch (text : String)
  | unknownCommand (text : String)
  | surplusWord (text : String)
  | missingCommand
  | missingValue (name : String)
  | emptyValue (name : String)
  | surplusValue (name text : String)
  | badNumber (name text : String)
  | repeated (name : String)
  | conflict (name other : String)
  | missingSwitch (name : String)
  deriving DecidableEq, Repr

def UsageError.message : UsageError → String
  | unknownSwitch text => s!"unexpected argument '{text}' found"
  | unknownCommand text => s!"unrecognized subcommand '{text}'"
  | surplusWord text => s!"unexpected argument '{text}' found"
  | missingCommand => "a subcommand is required but one was not provided"
  | missingValue name => s!"a value is required for '--{name}' but none was supplied"
  | emptyValue name => s!"a value is required for '--{name}' but none was supplied"
  | surplusValue name text => s!"unexpected value '{text}' for '--{name}' found"
  | badNumber name text => s!"invalid value '{text}' for '--{name}'"
  | repeated name => s!"the argument '--{name}' cannot be used multiple times"
  | conflict name other => s!"the argument '--{name}' cannot be used with '--{other}'"
  | missingSwitch name => s!"the required argument '--{name}' was not provided"

inductive Word
  | separator
  | named (name : String) (value : Option String)
  | letters (letters : List Char)
  | plain (text : String)
  deriving DecidableEq, Repr

namespace Word

/-- A dash alone is a plain word; two dashes alone are the separator. -/
def ofChars : List Char → Word
  | ['-', '-'] => .separator
  | '-' :: '-' :: t => match Text.cutFirst '=' t with
    | some (name, value) => .named (String.ofList name) (some (String.ofList value))
    | none => .named (String.ofList t) none
  | '-' :: c :: t => .letters (c :: t)
  | t => .plain (String.ofList t)

def ofString (s : String) : Word := ofChars s.toList

def isPlain : Word → Bool
  | plain _ => true
  | _ => false

end Word

/-- Letters that share a dash, as far as they complete a switch, and the switch that still needs a
value from the next word. -/
structure Letters where
  given : List Given
  waiting : Option Switch
  final : Bool

namespace Letters

def attached : List Char → List Char
  | '=' :: t => t
  | t => t

def read (known : List Switch) : List Char → Except UsageError Letters
  | [] => .ok ⟨[], none, false⟩
  | c :: rest => match known.find? fun s => s.letter = some c with
    | none => .error (.unknownSwitch (String.ofList ['-', c]))
    | some s => match s.kind with
      | .flag => (read known rest).map fun l => { l with given := ⟨s, none⟩ :: l.given }
      | .final => .ok ⟨[⟨s, none⟩], none, true⟩
      | .value _ =>
        if rest.isEmpty then .ok ⟨[], some s, false⟩
        else .ok ⟨[⟨s, some (String.ofList (attached rest))⟩], none, false⟩

end Letters

namespace Given

/-- The switches at the beginning of a list of words, and the words after them. A switch after which
nothing is read has its own name for a value if it was given by name. -/
def ofWords (known : List Switch) : List String → Except UsageError (List Given × List String)
  | [] => .ok ([], [])
  | w :: rest =>
    let onward := fun (g : List Given) (words : Except UsageError (List Given × List String)) =>
      words.map fun r => (g ++ r.1, r.2)
    match Word.ofString w with
    | .separator => .ok ([], w :: rest)
    | .plain _ => .ok ([], w :: rest)
    | .named name value => match known.find? fun s => s.name = name with
      | none => .error (.unknownSwitch w)
      | some s => match s.kind, value, rest with
        | .flag, none, rest => onward [⟨s, none⟩] (ofWords known rest)
        | .final, none, _ => .ok ([⟨s, some name⟩], [])
        | .value _, some v, rest => onward [⟨s, some v⟩] (ofWords known rest)
        | .value _, none, v :: rest =>
          if (Word.ofString v).isPlain then onward [⟨s, some v⟩] (ofWords known rest)
          else .error (.missingValue name)
        | .value _, none, [] => .error (.missingValue name)
        | _, some v, _ => .error (.surplusValue name v)
    | .letters cs => match Letters.read known cs, rest with
      | .error e, _ => .error e
      | .ok ⟨given, none, final⟩, rest =>
        if final then .ok (given, []) else onward given (ofWords known rest)
      | .ok ⟨given, some s, _⟩, v :: rest =>
        if (Word.ofString v).isPlain then onward (given ++ [⟨s, some v⟩]) (ofWords known rest)
        else .error (.missingValue s.name)
      | .ok ⟨_, some s, _⟩, [] => .error (.missingValue s.name)

def checkOnce : List Given → Except UsageError Unit
  | [] => .ok ()
  | g :: rest =>
    if rest.any fun other => other.switch.name = g.switch.name then .error (.repeated g.switch.name)
    else checkOnce rest

def has (given : List Given) (name : String) : Bool :=
  given.any fun g => g.switch.name = name

def value? (given : List Given) (name : String) : Option String :=
  (given.find? fun g => g.switch.name = name).bind Given.value

end Given
end FieldRules.CommandLine
