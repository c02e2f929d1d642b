import WorkSchema.Yaml.Token

/-!
The nodes of a YAML text, with aliases still in place. A text has at most one
document.
-/

namespace WorkSchema.Yaml

/-- An alias refers to a slot, and the table of anchors has the node for it. -/
inductive Node where
  | scalar (scalar : Scalar)
  | alias (slot : Nat)
  | sequence (tag? : Option String) (items : List Node)
  | mapping (tag? : Option String) (members : List (Node × Node))

def Node.empty : Node := .scalar {text := ""}

/-- Anchors met so far. `slots` gives the slot of a name and `marks` the number
of the anchor that a slot belongs to, the latest first in both; `nodes` has the
nodes that are complete. A new anchor takes the slot after those of all known
names, so a name that comes again can share its slot with the next new name. -/
structure Anchors where
  slots : List (String × Nat) := []
  marks : List (Nat × Nat) := []
  nodes : List (Nat × Node) := []

namespace Anchors

/-- Notes an anchor where its node begins, and gives its number. -/
def note (anchors : Anchors) (name : String) : Nat × Anchors :=
  let slot := (anchors.slots.map Prod.fst).eraseDups.length
  let number := anchors.marks.length
  (number, {anchors with
    slots := (name, slot) :: anchors.slots, marks := (slot, number) :: anchors.marks})

/-- The node that an alias stands for. -/
def node? (anchors : Anchors) (slot : Nat) : Option Node :=
  (anchors.marks.lookup slot).bind fun number => anchors.nodes.lookup number

end Anchors

/-- What is left of the tokens, and what is known from those before. `parts`
counts the scalars and aliases and the starts and ends of collections. -/
structure Composition where
  tokens : List Token
  handles : List (String × String) := []
  anchors : Anchors := {}
  parts : Nat := 0

abbrev Compose := StateT Composition Option

namespace Compose

def peek? : Compose (Option Token) := return (← get).tokens.head?

def advance : Compose Unit := modify fun state => {state with tokens := state.tokens.drop 1}

def count (parts : Nat) : Compose Unit :=
  modify fun state => {state with parts := state.parts + parts}

/-- What a tag stands for, by the directives for its handle. -/
def expand (tag : TagText) : Compose String := do
  if tag.handle.isEmpty then return tag.suffix
  else
    match (← get).handles.lookup tag.handle with
    | some expansion => return expansion ++ tag.suffix
    | none => failure

structure Properties where
  anchor? : Option String := none
  tag? : Option String := none

/-- The anchor and the tag before a node, in either order. -/
def properties : Compose Properties := do
  match ← peek? with
  | some (.anchor name) =>
      advance
      match ← peek? with
      | some (.tag tag) =>
          advance
          return {anchor? := some name, tag? := some (← expand tag)}
      | _ => return {anchor? := some name}
  | some (.tag tag) =>
      advance
      let tag ← expand tag
      match ← peek? with
      | some (.anchor name) =>
          advance
          return {anchor? := some name, tag? := some tag}
      | _ => return {tag? := some tag}
  | _ => return {}

/-- Composes a node and keeps it for the aliases of its anchor. -/
def anchored (anchor? : Option String) (compose : Compose Node) : Compose Node := do
  match anchor? with
  | none => compose
  | some name =>
      let (number, anchors) := (← get).anchors.note name
      modify fun state => {state with anchors}
      let node ← compose
      modify fun state =>
        {state with anchors := {state.anchors with nodes := (number, node) :: state.anchors.nodes}}
      return node

def emptyNode : Compose Node := do
  count 1
  return .empty

/-- A node, or an empty scalar if a token comes that can only follow a node. -/
def nodeUnless (ends : Token → Bool) (compose : Compose Node) : Compose Node := do
  match ← peek? with
  | some token => if ends token then emptyNode else compose
  | none => compose

def Ends.blockItem : Token → Bool
  | .blockEntry | .blockEnd => true
  | _ => false

def Ends.indentlessItem : Token → Bool
  | .blockEntry | .key | .value | .blockEnd => true
  | _ => false

def Ends.blockMember : Token → Bool
  | .key | .value | .blockEnd => true
  | _ => false

def Ends.flowItem : Token → Bool
  | .flowEntry | .flowSequenceEnd => true
  | _ => false

def Ends.flowMember : Token → Bool
  | .flowEntry | .flowMappingEnd => true
  | _ => false

/-- The value after a key, which is empty without a colon. -/
def value (ends : Token → Bool) (compose : Compose Node) : Compose Node := do
  match ← peek? with
  | some .value =>
      advance
      nodeUnless ends compose
  | _ => emptyNode

/-- A scalar under a tag. The tag that is a mere exclamation mark leaves it as
it is. -/
def scalarNode (text : String) (style : ScalarStyle) (tag? : Option String) : Node :=
  .scalar {text, style, tag? := if tag? = some "!" then none else tag?}

/-- The comma before a further entry of a flow collection. -/
def separator (isFirst : Bool) : Compose Unit := do
  if isFirst then return
  match ← peek? with
  | some .flowEntry => advance
  | _ => failure

mutual

/-- A node. Outside of flow collections it may be a block collection, and where
`indentless` holds a sequence may start at the column of its key. -/
def node (block indentless : Bool) : Nat → Compose Node
  | 0 => failure
  | fuel + 1 => do
      match ← peek? with
      | some (.alias name) =>
          advance
          count 1
          match (← get).anchors.slots.lookup name with
          | some slot => return .alias slot
          | none => failure
      | _ =>
          let {anchor?, tag?} ← properties
          anchored anchor? do
            match ← peek? with
            | some (.scalar text style) =>
                advance
                count 1
                return scalarNode text style tag?
            | some .flowSequenceStart =>
                advance
                count 2
                return .sequence tag? (← flowItems true fuel)
            | some .flowMappingStart =>
                advance
                count 2
                return .mapping tag? (← flowMembers true fuel)
            | some .blockEntry =>
                if indentless then
                  count 2
                  return .sequence tag? (← indentlessItems fuel)
                else leaf anchor? tag?
            | some .blockSequenceStart =>
                if block then
                  advance
                  count 2
                  return .sequence tag? (← blockItems fuel)
                else leaf anchor? tag?
            | some .blockMappingStart =>
                if block then
                  advance
                  count 2
                  return .mapping tag? (← blockMembers fuel)
                else leaf anchor? tag?
            | _ => leaf anchor? tag?
where
  /-- An empty scalar, which needs an anchor or a tag to be seen. -/
  leaf (anchor? tag? : Option String) : Compose Node :=
    if anchor?.isNone && tag?.isNone then failure
    else do
      count 1
      return .scalar {text := "", tag?}

def blockItems : Nat → Compose (List Node)
  | 0 => failure
  | fuel + 1 => do
      match ← peek? with
      | some .blockEntry =>
          advance
          let item ← nodeUnless Ends.blockItem (node true false fuel)
          return item :: (← blockItems fuel)
      | some .blockEnd =>
          advance
          return []
      | _ => failure

def indentlessItems : Nat → Compose (List Node)
  | 0 => failure
  | fuel + 1 => do
      match ← peek? with
      | some .blockEntry =>
          advance
          let item ← nodeUnless Ends.indentlessItem (node true false fuel)
          return item :: (← indentlessItems fuel)
      | _ => return []

def blockMembers : Nat → Compose (List (Node × Node))
  | 0 => failure
  | fuel + 1 => do
      match ← peek? with
      | some .key =>
          advance
          let key ← nodeUnless Ends.blockMember (node true true fuel)
          let value ← value Ends.blockMember (node true true fuel)
          return (key, value) :: (← blockMembers fuel)
      | some .blockEnd =>
          advance
          return []
      | _ => failure

/-- The items of a flow sequence. A key among them begins a mapping with this
one member; if the key is empty, the token behind it is lost. -/
def flowItems (isFirst : Bool) : Nat → Compose (List Node)
  | 0 => failure
  | fuel + 1 => do
      match ← peek? with
      | some .flowSequenceEnd =>
          advance
          return []
      | _ =>
          separator isFirst
          match ← peek? with
          | some .flowSequenceEnd =>
              advance
              return []
          | some .key =>
              advance
              count 2
              let key ← match ← peek? with
                | some .value | some .flowEntry | some .flowSequenceEnd => do
                    advance
                    emptyNode
                | _ => node false false fuel
              let value ← value Ends.flowItem (node false false fuel)
              return .mapping none [(key, value)] :: (← flowItems false fuel)
          | _ =>
              let item ← node false false fuel
              return item :: (← flowItems false fuel)

/-- The members of a flow mapping. A node that is no key has an empty value. -/
def flowMembers (isFirst : Bool) : Nat → Compose (List (Node × Node))
  | 0 => failure
  | fuel + 1 => do
      match ← peek? with
      | some .flowMappingEnd =>
          advance
          return []
      | _ =>
          separator isFirst
          match ← peek? with
          | some .flowMappingEnd =>
              advance
              return []
          | some .key =>
              advance
              let ends (token : Token) : Bool := token matches .value || Ends.flowMember token
              let key ← nodeUnless ends (node false false fuel)
              let value ← value Ends.flowMember (node false false fuel)
              return (key, value) :: (← flowMembers false fuel)
          | _ =>
              let key ← node false false fuel
              let value ← emptyNode
              return (key, value) :: (← flowMembers false fuel)

end

/-- The directives before a document: at most one version, which must be known,
and one expansion for a handle. -/
def directives (versioned : Bool) : Nat → Compose Unit
  | 0 => failure
  | fuel + 1 => do
      match ← peek? with
      | some (.directive (.version major minor)) =>
          if versioned || major != 1 || !(minor == 1 || minor == 2) then failure
          advance
          directives true fuel
      | some (.directive (.tag handle expansion)) =>
          let state ← get
          if (state.handles.map Prod.fst).contains handle then failure
          set {state with handles := (handle, expansion) :: state.handles}
          advance
          directives versioned fuel
      | _ => return

/-- The handles that need no directive. -/
def standardHandles : List (String × String) := [("!", "!"), ("!!", "tag:yaml.org,2002:")]

def addStandardHandles : Compose Unit :=
  modify fun state => {state with handles := state.handles ++ standardHandles}

/-- The node of the document; `none` if the text has no document. -/
def document? : Compose (Option Node) := do
  let fuel := 4 * ((← get).tokens.length + 1)
  let explicit : Compose Node := do
    directives false fuel
    addStandardHandles
    match ← peek? with
    | some .documentStart =>
        advance
        match ← peek? with
        | some (.directive _) | some .documentStart | some .documentEnd | none => emptyNode
        | _ => node true false fuel
    | _ => failure
  match ← peek? with
  | none => return none
  | some (.directive _) | some .documentStart => return some (← explicit)
  | some _ =>
      addStandardHandles
      return some (← node true false fuel)

/-- Nothing but marks of the end may follow the document. -/
def text? : Compose (Option Node) := do
  let node? ← document?
  if (← get).tokens.all (· matches .documentEnd) then return node? else failure

end Compose

end WorkSchema.Yaml
