import FieldRules.Yaml.Event
import FieldRules.Yaml.Lexing

/-!
# YAML documents

The document of a text as a tree. Nodes with an anchor carry a label, and an alias names a label. An
anchor gets as its label the number of different anchors before it, and an alias stands for the last
node with its label.
-/

namespace FieldRules.Yaml

inductive Node
  | reference (label : Nat)
  | scalar (label : Option Nat) (tag : Option (List Char)) (style : Style) (text : String)
  | sequence (label : Option Nat) (tag : Option (List Char)) (items : List Node)
  | mapping (label : Option Nat) (members : List (Node × Node))
  deriving Repr, Inhabited

inductive Frame
  | items (label : Option Nat) (tag : Option (List Char)) (read : List Node)
  /-- A key is read when its value is still to come. -/
  | members (label : Option Nat) (read : List (Node × Node)) (key : Option Node)

structure Composition where
  frames : List Frame
  labels : List (List Char × Nat)
  root : Option Node

namespace Composition

def start : Composition := ⟨[], [], none⟩

/-- A node is complete: it goes into the innermost open collection, or is the root. -/
def add (x : Composition) (n : Node) : Composition :=
  match x.frames with
  | [] => { x with root := some n }
  | .items label tag read :: frames => { x with frames := .items label tag (n :: read) :: frames }
  | .members label read none :: frames =>
    { x with frames := .members label read (some n) :: frames }
  | .members label read (some key) :: frames =>
    { x with frames := .members label ((key, n) :: read) none :: frames }

def label (x : Composition) : Option (List Char) → Option Nat × Composition
  | none => (none, x)
  | some name =>
    let id := x.labels.length
    (some id, { x with labels := (name, id) :: x.labels.filter fun l => l.1 ≠ name })

def step? (x : Composition) : Event → Option Composition
  | .reference name => (x.labels.lookup name).map fun id => x.add (.reference id)
  | .scalar marks style text =>
    let (id, x) := x.label marks.anchor
    some (x.add (.scalar id marks.tag style (String.ofList text)))
  | .sequenceStart marks =>
    let (id, x) := x.label marks.anchor
    some { x with frames := .items id marks.tag [] :: x.frames }
  | .mappingStart marks =>
    let (id, x) := x.label marks.anchor
    some { x with frames := .members id [] none :: x.frames }
  | .sequenceEnd => match x.frames with
    | .items label tag read :: frames =>
      some ({ x with frames := frames }.add (.sequence label tag read.reverse))
    | _ => none
  | .mappingEnd => match x.frames with
    | .members label read none :: frames =>
      some ({ x with frames := frames }.add (.mapping label read.reverse))
    | _ => none

end Composition

namespace Node

def ofEvents? (events : List Event) : Option (Option Node) :=
  (events.foldlM Composition.step? Composition.start).map Composition.root

def ofText? (t : List Char) : Option (Option Node) := do
  ofEvents? (← Event.ofTokens? (← Token.ofText? t))

def label? : Node → Option Nat
  | reference _ => none
  | scalar label .. => label
  | sequence label .. => label
  | mapping label .. => label

mutual

def nodes : Node → List Node
  | reference label => [reference label]
  | scalar label tag style text => [scalar label tag style text]
  | sequence label tag items => sequence label tag items :: nodesOfItems items
  | mapping label members => mapping label members :: nodesOfMembers members

def nodesOfItems : List Node → List Node
  | [] => []
  | n :: items => n.nodes ++ nodesOfItems items

def nodesOfMembers : List (Node × Node) → List Node
  | [] => []
  | (k, v) :: members => k.nodes ++ v.nodes ++ nodesOfMembers members

end

/-- The nodes of a tree that an alias may stand for, the last first. -/
def labelled (root : Node) : List Node :=
  (root.nodes.filter fun n => n.label?.isSome).reverse

/-- What a node stands for, given the labelled nodes: an alias stands for one of them. -/
def target? (labelled : List Node) : Node → Option Node
  | reference label => labelled.find? fun n => n.label? == some label
  | n => some n

end Node
end FieldRules.Yaml
