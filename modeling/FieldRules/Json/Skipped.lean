import FieldRules.Json.Printer
import FieldRules.Json.Reader

/-!
# Values that are passed over

A value that nobody asks for is looked at only as far as it takes to find its end: its brackets
match and its tokens have the form of tokens. It may be nested to any depth, hold numbers too large
to be read, and name halves of characters. `withoutFurther` puts `null` in the place of such values
in the outermost object of a text, so that reading the text passes over them.
-/

namespace FieldRules.Json

def afterGap (t : List Char) : List Char := t.dropWhile isGap

def afterString? : List Char → Option (List Char)
  | '"' :: t => some t
  | '\\' :: 'u' :: a :: b :: c :: d :: t =>
    if [a, b, c, d].all fun x => (hexValue? x).isSome then afterString? t else none
  | '\\' :: c :: t => if (escaped? c).isSome then afterString? t else none
  | c :: t => if c = '\\' || c.toNat < 0x20 then none else afterString? t
  | [] => none

def afterBare? (t : List Char) : Option (List Char) :=
  let run := t.takeWhile fun c => !Lexer.endsRun c
  let isWord := run = nullText || run = boolText true || run = boolText false
  if isWord || (Numeral.ofText? run).any isStrict then some (t.drop run.length) else none

def afterKey? (t : List Char) : Option (List Char) :=
  match afterGap t with
  | '"' :: t => match (afterString? t).map afterGap with
    | some (':' :: t) => some t
    | _ => none
  | _ => none

mutual

/-- What follows a value, and what closes the open brackets around it. The bound is on the steps. -/
def afterValue? : Nat → List Char → List Char → Option (List Char)
  | 0, _, _ => none
  | steps + 1, brackets, t =>
    match afterGap t with
    | '[' :: t => match afterGap t with
      | ']' :: t => afterItem? steps brackets t
      | t => afterValue? steps ('[' :: brackets) t
    | '{' :: t => match afterGap t with
      | '}' :: t => afterItem? steps brackets t
      | t => (afterKey? t).bind (afterValue? steps ('{' :: brackets))
    | '"' :: t => (afterString? t).bind (afterItem? steps brackets)
    | t => (afterBare? t).bind (afterItem? steps brackets)

def afterItem? : Nat → List Char → List Char → Option (List Char)
  | 0, _, _ => none
  | _ + 1, [], t => some t
  | steps + 1, bracket :: brackets, t =>
    match afterGap t, bracket with
    | ',' :: t, '[' => afterValue? steps (bracket :: brackets) t
    | ',' :: t, _ => (afterKey? t).bind (afterValue? steps (bracket :: brackets))
    | ']' :: t, '[' => afterItem? steps brackets t
    | '}' :: t, '{' => afterItem? steps brackets t
    | _, _ => none

end

/-- The text of an object's members, with `null` for the values of further keys. What has no form is
left as it is. -/
def membersWithoutFurther (known : List String) : Nat → List Char → List Char
  | 0, t => t
  | members + 1, t =>
    match afterKey? t with
    | none => t
    | some value => match afterValue? (2 * value.length + 2) [] value with
      | none => t
      | some rest =>
        let key := t.take (t.length - value.length)
        let isKnown := match Token.ofText? key with
          | some [.string name, .colon] => known.contains name
          | _ => true
        key ++ (if isKnown then value.take (value.length - rest.length) else nullText)
          ++ match afterGap rest with
            | ',' :: t => ',' :: membersWithoutFurther known members t
            | _ => rest

def withoutFurther (known : List String) (t : List Char) : List Char :=
  match afterGap t with
  | '{' :: members => '{' :: membersWithoutFurther known members.length members
  | _ => t

end FieldRules.Json
