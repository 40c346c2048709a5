import CompilerDriver.Yaml.Grammar
import CompilerDriver.Yaml.Resolution
import CompilerDriver.Yaml.Scanner
/-!
# Documents that are records

A document is read as a record: a mapping whose keys are scalars, or nothing at all. A value is a scalar
or some collection, which is told apart but not looked into. An alias stands for a node with an anchor. A
stream holds one document at most.
-/

namespace CompilerDriver.Yaml

/-- A value as far as a record shows it. -/
inductive Leaf where
  | scalar (tag : Option (List Char)) (style : Style) (text : List Char)
  /-- A sequence or mapping. -/
  | collection
  deriving DecidableEq, Repr

namespace Leaf

/-- The text of a scalar, however it is written. -/
def text? : Leaf → Option String
  | scalar _ _ text => some (String.ofList text)
  | collection => none

/-- The truth value of a plain scalar, or of a literal one that is tagged as a truth value. -/
def boolean? : Leaf → Option Bool
  | scalar tag style text =>
    let isTagged := tag = some "tag:yaml.org,2002:bool".toList
    if style = .plain || (style = .literal && isTagged) then Yaml.boolean? text else none
  | collection => none

end Leaf

/-- The anchors so far. A name stands for a number, namely how many different names there were before it
was last given, and a number for the latest node that got it. Both lists are latest first. -/
structure Anchors where
  names : List (List Char × Nat)
  nodes : List (Nat × Leaf)

namespace Anchors

/-- No anchors. -/
def none : Anchors :=
  ⟨[], []⟩

/-- How many different names there are. -/
def size (anchors : Anchors) : Nat :=
  (anchors.names.map (fun pair => pair.1)).eraseDups.length

/-- The anchors after one more node, with the anchor it may have. -/
def note (anchors : Anchors) (name : Option (List Char)) (leaf : Leaf) : Anchors :=
  match name with
  | some name =>
    ⟨(name, anchors.size) :: anchors.names, (anchors.size, leaf) :: anchors.nodes⟩
  | Option.none => anchors

/-- The number that a name stands for. -/
def number? (anchors : Anchors) (name : List Char) : Option Nat :=
  (anchors.names.find? (fun pair => pair.1 = name)).map (·.2)

/-- The node that a number stands for. -/
def node? (anchors : Anchors) (number : Nat) : Option Leaf :=
  (anchors.nodes.find? (fun pair => pair.1 = number)).map (·.2)

end Anchors

/-- A value or key before aliases are followed, which is when all nodes are known. -/
inductive Item where
  | leaf (value : Leaf)
  | alias (number : Nat)

/-- The value or key that the item stands for. -/
def Item.follow? (anchors : Anchors) : Item → Option Leaf
  | .leaf value => some value
  | .alias number => anchors.node? number

/-- A record that is being read: its entries so far, last first, and the key of the next one. -/
structure RecordReader where
  anchors : Anchors
  /-- The number of collections that are open inside the record. -/
  depth : Nat
  entries : List (Item × Item)
  key : Option Item

namespace RecordReader

/-- The reader after one more node, which is a key or value unless it is inside a collection. -/
def accept (r : RecordReader) (item : Item) : RecordReader :=
  if r.depth ≠ 0 then
    r
  else
    match r.key with
    | none => { r with key := some item }
    | some key => { r with key := none, entries := (key, item) :: r.entries }

/-- The entries with their aliases followed. -/
def followed? (r : RecordReader) : Option (List (Leaf × Leaf)) :=
  r.entries.reverse.mapM fun (key, value) => do
    let key ← key.follow? r.anchors
    let value ← value.follow? r.anchors
    return (key, value)

/-- The entries of the record that the events go on with. Every alias needs a node with its name before
it. -/
def finish? : RecordReader → List Event → Option (List (Leaf × Leaf))
  | _, [] => none
  | r, event :: rest =>
    match event with
    | .scalar anchor tag style text =>
      let leaf := Leaf.scalar tag style text
      finish? { r.accept (.leaf leaf) with anchors := r.anchors.note anchor leaf } rest
    | .collectionStart anchor _ _ =>
      finish?
        { r.accept (.leaf .collection) with
          anchors := r.anchors.note anchor .collection, depth := r.depth + 1 } rest
    | .alias name =>
      match r.anchors.number? name with
      | some number => finish? (r.accept (.alias number)) rest
      | none => none
    | .collectionEnd =>
      if r.depth = 0 then
        if rest = [.documentEnd] then r.followed? else none
      else
        finish? { r with depth := r.depth - 1 } rest
    | .documentStart | .documentEnd => none

end RecordReader

/-- The entries of the record that the events of a stream are. -/
def recordOfEvents? : List Event → Option (List (Leaf × Leaf))
  | [] => some []
  | [.documentStart, .scalar _ _ .plain [], .documentEnd] => some []
  | .documentStart :: .collectionStart anchor _ .mapping :: rest =>
    RecordReader.finish? ⟨Anchors.none.note anchor .collection, 0, [], none⟩ rest
  | _ => none

/-- The entries of the record that a text is, in order. -/
def recordOfText? (cs : List Char) : Option (List (Leaf × Leaf)) := do
  let tokens ← Token.ofText? cs
  let events ← Event.ofTokens? tokens
  recordOfEvents? events

end CompilerDriver.Yaml
