import WorkSchema.Format.Source
import WorkSchema.Yaml.Node

/-!
YAML texts as sources: the node of the document with a copy of the anchored node
for every alias. Nesting and copying have bounds, and what is beyond them cannot
be read.
-/

namespace WorkSchema.Yaml

/-- How deeply collections may be nested. -/
def maxDepth : Nat := 128

/-- How many aliases may be followed for each part of the text. -/
def maxRepetition : Nat := 100

/-- A collection under a tag of the text's own making keeps it. -/
def withTag (tag? : Option String) (source : Source) : Source :=
  match tag? with
  | some tag => if tag.startsWith "!" then .tagged tag source else source
  | none => source

/-- The node behind an alias; `none` if too many aliases have been followed. -/
def follow (anchors : Anchors) (limit : Nat) (node : Node) : StateM Nat (Option Node) := do
  match node with
  | .alias slot =>
      modify (· + 1)
      if limit < (← get) then return none else return anchors.node? slot
  | node => return some node

/-- The source of a node. The state counts the aliases that were followed. -/
def resolve (anchors : Anchors) (limit : Nat) : Nat → Node → StateM Nat Source
  | depth, node => do
      match ← follow anchors limit node, depth with
      | some (.scalar scalar), _ => return .scalar scalar
      | some (.sequence tag? items), depth + 1 =>
          let items ← items.mapM (resolve anchors limit depth)
          return withTag tag? (.sequence items none)
      | some (.mapping tag? members), depth + 1 =>
          let members ← members.mapM fun (key, value) => do
            let key ← resolve anchors limit depth key
            let value ← resolve anchors limit depth value
            return (key, value)
          return withTag tag? (.mapping members none)
      | _, _ => return .unreadable .null

/-- The source of a text; `none` if it is no YAML text. A text without a
document reads like one that has an empty scalar. -/
def parse? (text : String) : Option Source := do
  let tokens ← tokens? text
  let (node?, state) ← Compose.text?.run {tokens}
  let node := node?.getD .empty
  let limit := maxRepetition * state.parts
  some ((resolve state.anchors limit maxDepth node).run 0).1

end WorkSchema.Yaml
