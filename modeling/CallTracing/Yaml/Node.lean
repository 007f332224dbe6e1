/-
  CallTracing/Yaml/Node.lean
  ==========================
  **The tree of a YAML text**, and YAML as a format for settings.

  The readers go through the tokens of one document.  A node that is not written is an empty plain
  scalar.  An anchor names the node behind it for the aliases that follow; an alias inside the very
  node that it names is kept as `enclosing`.

  A text holds one document at most.  For the settings a record is a mapping, never a sequence, and
  an empty plain scalar stands for an empty record or list.  Any scalar is seen as a text, and the
  plain `true`, `True` and `TRUE` also as a switch.  A name is chosen by a scalar, or by a tag on
  nothing.
-/
import CallTracing.Settings.Decode
import CallTracing.Yaml.Token

namespace CallTracing.Yaml

/-- A node. -/
inductive Node where
  | scalar (style : ScalarStyle) (tag : Option String) (text : String)
  | sequence (tag : Option String) (items : List Node)
  | mapping (tag : Option String) (entries : List (Node × Node))
  /-- An alias to a node around it. -/
  | enclosing
deriving Inhabited, Repr

/-- The node that is not written. -/
def Node.absent : Node := .scalar .plain none ""

/-! ### Reading tokens -/

/-- What is left of the tokens, and what names mean. -/
structure Parsing where
  tokens : List Token
  anchors : List (String × Node) := []
  handles : List (String × String) := [("!", "!"), ("!!", "tag:yaml.org,2002:")]

/-- A computation on tokens; nothing comes of tokens out of order. -/
abbrev Parser := StateT Parsing Option

/-- The next token. -/
def peek : Parser Token := do
  match (← get).tokens with
  | t :: _ => return t
  | [] => failure

/-- Go past the next token. -/
def skip : Parser Unit := modify fun p => { p with tokens := p.tokens.drop 1 }

/-- Go past the next token if it is this one. -/
def accept (t : Token) : Parser Bool := do
  if (← peek) = t then
    skip
    return true
  else return false

/-- Go past the next token, which must be this one. -/
def expect (t : Token) : Parser Unit := do
  if !(← accept t) then failure

/-- The name of a tag, its handle replaced. -/
def resolved (handle suffix : String) : Parser String := do
  if handle.isEmpty then return suffix
  else
    match (← get).handles.lookup handle with
    | some uri => return uri ++ suffix
    | none => failure

/-- Anchor and tag of a node, in either order. -/
def readProperties : Parser (Option String × Option String) := do
  match ← peek with
  | .anchor name => do
    skip
    match ← peek with
    | .tag handle suffix => do
      skip
      return (some name, some (← resolved handle suffix))
    | _ => return (some name, none)
  | .tag handle suffix => do
    skip
    let tag ← resolved handle suffix
    match ← peek with
    | .anchor name => do
      skip
      return (some name, some tag)
    | _ => return (none, some tag)
  | _ => return (none, none)

/-- Make a name stand for a node. -/
def define (anchor : Option String) (node : Node) : Parser Unit :=
  match anchor with
  | none => return ()
  | some name => modify fun p => { p with anchors := (name, node) :: p.anchors }

/-- Whether a value begins in a block mapping. -/
def beginsInMapping (t : Token) : Bool := !(t == .key || t == .value || t == .blockEnd)

mutual

/-- A node.  `isBlock` allows block collections, and `isIndentless` a sequence whose hyphens stand
at the column of the key before it. -/
def readNode : Nat → Bool → Bool → Parser Node
  | 0, _, _ => failure
  | fuel + 1, isBlock, isIndentless => do
    match ← peek with
    | .alias name => do
      skip
      match (← get).anchors.lookup name with
      | some node => return node
      | none => failure
    | _ => do
      let (anchor, tag) ← readProperties
      define anchor .enclosing
      let node ← readContent fuel isBlock isIndentless tag (anchor.isSome || tag.isSome)
      define anchor node
      return node

/-- The content of a node; it may be missing where there is an anchor or a tag. -/
def readContent : Nat → Bool → Bool → Option String → Bool → Parser Node
  | 0, _, _, _, _ => failure
  | fuel + 1, isBlock, isIndentless, tag, mayBeAbsent => do
    match ← peek with
    | .scalar style text => do
      skip
      return .scalar style tag text
    | .flowSequenceStart => do
      skip
      return .sequence tag (← readFlowItems fuel true)
    | .flowMappingStart => do
      skip
      return .mapping tag (← readFlowEntries fuel true)
    | .blockEntry =>
      if isIndentless then return .sequence tag (← readIndentless fuel)
      else if mayBeAbsent then return .scalar .plain tag ""
      else failure
    | .blockSequenceStart =>
      if isBlock then do
        skip
        return .sequence tag (← readBlockItems fuel)
      else if mayBeAbsent then return .scalar .plain tag ""
      else failure
    | .blockMappingStart =>
      if isBlock then do
        skip
        return .mapping tag (← readBlockEntries fuel)
      else if mayBeAbsent then return .scalar .plain tag ""
      else failure
    | _ => if mayBeAbsent then return .scalar .plain tag "" else failure

/-- The items of a block sequence. -/
def readBlockItems : Nat → Parser (List Node)
  | 0 => failure
  | fuel + 1 => do
    if ← accept .blockEnd then return []
    else do
      expect .blockEntry
      let next ← peek
      let item ←
        if next = .blockEntry ∨ next = .blockEnd then pure Node.absent
        else readNode fuel true false
      return item :: (← readBlockItems fuel)

/-- The items of a sequence at the column of its key. -/
def readIndentless : Nat → Parser (List Node)
  | 0 => failure
  | fuel + 1 => do
    if ← accept .blockEntry then do
      let next ← peek
      let item ←
        if next != .blockEntry && beginsInMapping next then readNode fuel true false
        else pure Node.absent
      return item :: (← readIndentless fuel)
    else return []

/-- The entries of a block mapping. -/
def readBlockEntries : Nat → Parser (List (Node × Node))
  | 0 => failure
  | fuel + 1 => do
    if ← accept .blockEnd then return []
    else do
      expect .key
      let name ← if beginsInMapping (← peek) then readNode fuel true true else pure Node.absent
      let value ←
        if ← accept .value then do
          if beginsInMapping (← peek) then readNode fuel true true else pure Node.absent
        else pure Node.absent
      return (name, value) :: (← readBlockEntries fuel)

/-- The items of a flow sequence; commas stand between them, and one may follow the last. -/
def readFlowItems : Nat → Bool → Parser (List Node)
  | 0, _ => failure
  | fuel + 1, isFirst => do
    if ← accept .flowSequenceEnd then return []
    else do
      if !isFirst then expect .flowEntry
      if ← accept .flowSequenceEnd then return []
      else do
        let item ←
          if ← accept .key then do
            let name ← readSingleKey fuel
            let value ←
              if ← accept .value then do
                let next ← peek
                if next = .flowEntry ∨ next = .flowSequenceEnd then pure Node.absent
                else readNode fuel false false
              else pure Node.absent
            pure (Node.mapping none [(name, value)])
          else readNode fuel false false
        return item :: (← readFlowItems fuel false)

/-- The key of an entry that is an item of a flow sequence. -/
def readSingleKey : Nat → Parser Node
  | 0 => failure
  | fuel + 1 => do
    let next ← peek
    if next = .value ∨ next = .flowEntry ∨ next = .flowSequenceEnd then do
      skip
      return Node.absent
    else readNode fuel false false

/-- The entries of a flow mapping; commas stand between them, and one may follow the last. -/
def readFlowEntries : Nat → Bool → Parser (List (Node × Node))
  | 0, _ => failure
  | fuel + 1, isFirst => do
    if ← accept .flowMappingEnd then return []
    else do
      if !isFirst then expect .flowEntry
      if ← accept .flowMappingEnd then return []
      else if ← accept .key then do
        let next ← peek
        let name ←
          if next = .value ∨ next = .flowEntry ∨ next = .flowMappingEnd then pure Node.absent
          else readNode fuel false false
        let value ←
          if ← accept .value then do
            let next ← peek
            if next = .flowEntry ∨ next = .flowMappingEnd then pure Node.absent
            else readNode fuel false false
          else pure Node.absent
        return (name, value) :: (← readFlowEntries fuel false)
      else do
        let name ← readNode fuel false false
        return (name, Node.absent) :: (← readFlowEntries fuel false)

end

/-! ### Documents -/

/-- The directives of a document: at most one version, and no handle twice. -/
def readDirectives : Nat → Bool → List String → Parser Bool
  | 0, _, _ => failure
  | fuel + 1, versioned, defined => do
    match ← peek with
    | .version major minor =>
      if versioned || major != 1 || (minor != 1 && minor != 2) then failure
      else do
        skip
        readDirectives fuel true defined
    | .handle name uri =>
      if defined.contains name then failure
      else do
        skip
        modify fun p => { p with handles := (name, uri) :: p.handles }
        readDirectives fuel versioned (name :: defined)
    | _ => return versioned || !defined.isEmpty

/-- The one document of a text. -/
def readDocument (fuel : Nat) : Parser Node := do
  let hasDirectives ← readDirectives fuel false []
  let isExplicit ← accept .documentStart
  if hasDirectives && !isExplicit then failure
  let next ← peek
  if next = .streamEnd then return Node.absent
  else if isExplicit && (next = .documentStart || next = .documentEnd) then return Node.absent
  else readNode fuel true false

/-- Go past the marks at the end of a document. -/
def skipDocumentEnds : Nat → Parser Unit
  | 0 => failure
  | fuel + 1 => do
    if ← accept .documentEnd then skipDocumentEnds fuel else return ()

/-- The document of a text; of several there is none. -/
def parse? (text : String) : Option Node :=
  (tokens? text).bind fun tokens =>
    let fuel := 3 * tokens.length + 3
    let document : Parser Node := do
      let node ← readDocument fuel
      skipDocumentEnds fuel
      expect .streamEnd
      return node
    (document.run { tokens := tokens }).map (·.1)

/-! ### Settings -/

/-- The tag of a node. -/
def Node.tag? : Node → Option String
  | .scalar _ tag _ => tag
  | .sequence tag _ => tag
  | .mapping tag _ => tag
  | .enclosing => none

/-- Whether a node is an empty plain scalar. -/
def Node.isBlank : Node → Bool
  | .scalar .plain _ "" => true
  | _ => false

/-- The text of a scalar. -/
def Node.text? : Node → Option String
  | .scalar _ _ text => some text
  | _ => none

/-- The entries of a mapping whose keys are all scalars. -/
def namedEntries? (entries : List (Node × Node)) : Option (List (String × Node)) :=
  entries.mapM fun entry => entry.1.text?.map fun name => (name, entry.2)

/-- The switch that a text means. -/
def switchOf? (text : String) : Option Bool :=
  if ["true", "True", "TRUE"].contains text then some true
  else if ["false", "False", "FALSE"].contains text then some false
  else none

/-- Whether a node is a plain scalar for nothing. -/
def Node.isNothing : Node → Bool
  | .scalar .plain _ text => ["", "null", "Null", "NULL", "~"].contains text
  | _ => false

/-- The name that a tag of the document's own chooses. -/
def chosenBy (tag : Option String) : Option String :=
  match (tag.getD "").toList with
  | ['!'] => some "!"
  | '!' :: name => some (String.ofList name)
  | _ => none

/-- How YAML nodes are seen by the settings. -/
def documentView : DocumentView Node where
  switch?
    | .scalar .plain _ text => switchOf? text
    | .scalar .literal (some "tag:yaml.org,2002:bool") text => switchOf? text
    | _ => none
  text? := Node.text?
  list?
    | .sequence _ items => some items
    | node => if node.isBlank then some [] else none
  record?
    | .mapping _ entries => (namedEntries? entries).map .named
    | node => if node.isBlank then some (.named []) else none
  choice? node :=
    match chosenBy node.tag? with
    | some name => if node.isNothing then some name else none
    | none => node.text?

/-- The settings that a YAML text describes. -/
def settings? (text : String) : Option Settings := (parse? text).bind documentView.settings

end CallTracing.Yaml
