import FieldRules.Text.Blank
import FieldRules.Text.Fold
import FieldRules.Text.Removal
import FieldRules.Text.Word

/-!
# Cleaning text

`clean` trims a text and then removes, in three passes, script links, inline event handlers and
tags. Each pass goes through the text once, so what a pass puts together by a removal may be
something that the pass would have removed.
-/

namespace FieldRules.Cleaning

/-- The length of a word at the start of a text, compared without regard to case; zero if it does
not stand there. -/
def wordSize (word t : List Char) : Nat :=
  let start := t.take word.length
  if start.length = word.length && (start.zip word).all fun p => Text.sameLetter p.1 p.2 then
    word.length
  else 0

def scheme : List Char := ['j', 'a', 'v', 'a', 's', 'c', 'r', 'i', 'p', 't', ':']

def isLinkChar (c : Char) : Bool := c != ';' && !Text.isBlank c

def linkSize (t : List Char) : Nat :=
  match wordSize scheme t with
  | 0 => 0
  | n + 1 =>
    let rest := t.drop (n + 1)
    let address := rest.takeWhile isLinkChar
    let closing := if (rest.drop address.length).head? = some ';' then 1 else 0
    n + 1 + address.length + closing

def quotedSize : List Char → Nat
  | [] => 0
  | q :: t =>
    if q = '"' || q = '\'' then
      let inner := t.takeWhile (· != q)
      if inner.length < t.length then inner.length + 2 else 0
    else 0

def bareHandlerSize (t : List Char) : Nat :=
  match wordSize ['o', 'n'] t with
  | 0 => 0
  | n + 1 =>
    let rest := t.drop (n + 1)
    let name := rest.takeWhile Text.isWord
    let rest := rest.drop name.length
    let before := rest.takeWhile Text.isBlank
    match rest.drop before.length with
    | '=' :: rest =>
      let behind := rest.takeWhile Text.isBlank
      match quotedSize (rest.drop behind.length) with
      | 0 => 0
      | value + 1 =>
        if name.isEmpty then 0
        else n + 1 + name.length + before.length + 1 + behind.length + (value + 1)
    | _ => 0

def handlerSize : List Char → Nat
  | [] => 0
  | c :: t =>
    if Text.isBlank c then
      match bareHandlerSize t with
      | 0 => 0
      | n + 1 => n + 2
    else 0

def tagSize : List Char → Nat
  | '<' :: t =>
    let inner := t.takeWhile fun c => c != '<' && c != '>'
    if (t.drop inner.length).head? = some '>' then inner.length + 2 else 0
  | _ => 0

def dropLinks (t : List Char) : List Char := Text.removeAll linkSize t

/-- At the start of the text a handler needs no blank before it. -/
def dropHandlers (t : List Char) : List Char :=
  Text.removeAll handlerSize (t.drop (bareHandlerSize t))

def dropTags (t : List Char) : List Char := Text.removeAll tagSize t

/-- The text without the blanks at its ends, without script links, handlers and tags. -/
def clean (t : List Char) : List Char :=
  dropTags (dropHandlers (dropLinks (Text.trim t)))

def cleanText (s : String) : String := String.ofList (clean s.toList)

@[simp] theorem toList_cleanText (s : String) : (cleanText s).toList = clean s.toList :=
  String.toList_ofList

end FieldRules.Cleaning
