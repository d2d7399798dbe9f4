import FacetSearch.Yaml.Layout
import FacetSearch.Yaml.Expansion

namespace FacetSearch.Yaml

/-!
# Reading YAML

Tokens become the nodes of one document.  Whatever is not written where a node
may stand is an empty scalar.  An anchor gets the number of names that were
anchored before it, so a name that is anchored again gets a number of its own,
which the next new name then shares.
-/

namespace Tree

/-- What is left to read, and what is known so far. -/
structure State where
  tokens : List Token
  /-- The names of the anchors so far, with the number that each got last. -/
  anchors : List (String × Nat)
  /-- The shorthands for the start of tags. -/
  handles : List (String × Tag)
  deriving Inhabited

/-- A step through the tokens. -/
abbrev Step (α : Type) := State → Option (α × State)

/-- The next token. -/
def peek (state : State) : Token :=
  state.tokens.headD .streamEnd

/-- Drop the next token. -/
def drop (state : State) : State :=
  { state with tokens := state.tokens.drop 1 }

/-- The shorthands that every document knows. -/
def standardHandles : List (String × Tag) :=
  [("!", Tag.ofText "!"), ("!!", Tag.ofText "tag:yaml.org,2002:")]

/-- The tag that a shorthand and a suffix stand for. -/
def resolveTag? (state : State) (handle : String) (suffix : Tag) : Option Tag :=
  if handle.isEmpty then some suffix
  else (Entries.lookup? handle state.handles).map (·.append suffix)

/-- Number an anchor that stands in front of a node. -/
def register (name : String) (state : State) : Nat × State :=
  let number := state.anchors.length
  (number, { state with anchors := Entries.insert name number state.anchors })

/-- The anchor in front of a node, if one stands here. -/
def anchor (state : State) : Option Nat × State :=
  match state.tokens with
  | .anchor name :: rest =>
      let (number, state) := register name { state with tokens := rest }
      (some number, state)
  | _ => (none, state)

/-- The tag in front of a node, if one stands here. -/
def tag? : Step (Option Tag) := fun state =>
  match state.tokens with
  | .tag handle suffix :: rest =>
      (resolveTag? state handle suffix).map (some ·, { state with tokens := rest })
  | _ => some (none, state)

/-- The properties in front of a node: an anchor and a tag, in either order. -/
def properties? : Step Properties := fun state =>
  match state.tokens with
  | .tag _ _ :: _ => do
      let (tag, state) ← tag? state
      let (anchor, state) := anchor state
      some ({ anchor, tag }, state)
  | _ => do
      let (anchor, state) := anchor state
      let (tag, state) ← tag? state
      some ({ anchor, tag }, state)

/-- Whether a token ends an entry of a block. -/
def endsBlockEntry : Token → Bool
  | .blockEntry | .blockEnd => true
  | _ => false

/-- Whether a token ends an entry of a sequence that is not indented. -/
def endsIndentlessEntry : Token → Bool
  | .blockEntry | .key | .value | .blockEnd => true
  | _ => false

/-- Whether a token ends a key or a value of a block mapping. -/
def endsBlockPair : Token → Bool
  | .key | .value | .blockEnd => true
  | _ => false

mutual
/--
A node.  In a block it may be a block collection; as a value it may also be a
sequence whose dashes are not indented.
-/
def node? (inBlock isIndentless : Bool) : Nat → Step Node
  | 0, _ => none
  | fuel + 1, state =>
      match peek state with
      | .alias name =>
          (Entries.lookup? name state.anchors).map fun number => (.alias number, drop state)
      | _ => do
          let (properties, state) ← properties? state
          content? inBlock isIndentless properties fuel state

/-- The content of a node. -/
def content?
    (inBlock isIndentless : Bool)
    (properties : Properties) :
    Nat → Step Node
  | 0, _ => none
  | fuel + 1, state =>
      match peek state with
      | .blockEntry =>
          if isIndentless then do
            let (items, state) ← indentlessItems? fuel state
            some (.sequence properties items, state)
          else unwritten? properties state
      | .scalar text isPlain => some (.scalar properties text isPlain, drop state)
      | .flowSequenceStart => do
          let (items, state) ← flowItems? true fuel (drop state)
          some (.sequence properties items, state)
      | .flowMappingStart => do
          let (members, state) ← flowMembers? true fuel (drop state)
          some (.mapping properties members, state)
      | .blockSequenceStart =>
          if inBlock then do
            let (items, state) ← blockItems? fuel (drop state)
            some (.sequence properties items, state)
          else unwritten? properties state
      | .blockMappingStart =>
          if inBlock then do
            let (members, state) ← blockMembers? fuel (drop state)
            some (.mapping properties members, state)
          else unwritten? properties state
      | _ => unwritten? properties state

/-- A node of which only the properties are written. -/
def unwritten? (properties : Properties) : Step Node := fun state =>
  if properties.anchor.isSome || properties.tag.isSome then
    some (.scalar properties "" true, state)
  else none

/-- The items of a block sequence. -/
def blockItems? : Nat → Step (List Node)
  | 0, _ => none
  | fuel + 1, state =>
      match peek state with
      | .blockEntry => do
          let (item, state) ← itemUnless? endsBlockEntry fuel (drop state)
          let (items, state) ← blockItems? fuel state
          some (item :: items, state)
      | .blockEnd => some ([], drop state)
      | _ => none

/-- The items of a sequence that is not indented. -/
def indentlessItems? : Nat → Step (List Node)
  | 0, _ => none
  | fuel + 1, state =>
      match peek state with
      | .blockEntry => do
          let (item, state) ← itemUnless? endsIndentlessEntry fuel (drop state)
          let (items, state) ← indentlessItems? fuel state
          some (item :: items, state)
      | _ => some ([], state)

/-- An item of a block sequence; an empty scalar if the entry ends at once. -/
def itemUnless? (ends : Token → Bool) : Nat → Step Node
  | 0, _ => none
  | fuel + 1, state =>
      if ends (peek state) then some (Node.unwritten, state) else node? true false fuel state

/-- The members of a block mapping. -/
def blockMembers? : Nat → Step (List (Node × Node))
  | 0, _ => none
  | fuel + 1, state =>
      match peek state with
      | .key => do
          let (key, state) ← blockPart? fuel (drop state)
          let (value, state) ← blockValue? fuel state
          let (members, state) ← blockMembers? fuel state
          some ((key, value) :: members, state)
      | .blockEnd => some ([], drop state)
      | _ => none

/-- The value of a member of a block mapping. -/
def blockValue? : Nat → Step Node
  | 0, _ => none
  | fuel + 1, state =>
      match peek state with
      | .value => blockPart? fuel (drop state)
      | _ => some (Node.unwritten, state)

/-- A key or a value of a block mapping; an empty scalar if it is not written. -/
def blockPart? : Nat → Step Node
  | 0, _ => none
  | fuel + 1, state =>
      if endsBlockPair (peek state) then some (Node.unwritten, state)
      else node? true true fuel state

/-- The items of a flow sequence; a single pair in one is a mapping. -/
def flowItems? (isFirst : Bool) : Nat → Step (List Node)
  | 0, _ => none
  | fuel + 1, state =>
      match peek state with
      | .flowSequenceEnd => some ([], drop state)
      | token =>
          if !isFirst && token != .flowEntry then none
          else
            let state := if isFirst then state else drop state
            match peek state with
            | .flowSequenceEnd => some ([], drop state)
            | .key => do
                let (item, state) ← flowPair? fuel (drop state)
                let (items, state) ← flowItems? false fuel state
                some (item :: items, state)
            | _ => do
                let (item, state) ← node? false false fuel state
                let (items, state) ← flowItems? false fuel state
                some (item :: items, state)

/-- A single pair in a flow sequence, from behind the mark of its key. -/
def flowPair? : Nat → Step Node
  | 0, _ => none
  | fuel + 1, state => do
      let (key, state) ←
        match peek state with
        | .value | .flowEntry | .flowSequenceEnd => some (Node.unwritten, drop state)
        | _ => node? false false fuel state
      let (value, state) ←
        match peek state with
        | .value =>
            match peek (drop state) with
            | .flowEntry | .flowSequenceEnd => some (Node.unwritten, drop state)
            | _ => node? false false fuel (drop state)
        | _ => some (Node.unwritten, state)
      some (.mapping { anchor := none, tag := none } [(key, value)], state)

/-- The members of a flow mapping; a value may be missing. -/
def flowMembers? (isFirst : Bool) : Nat → Step (List (Node × Node))
  | 0, _ => none
  | fuel + 1, state =>
      match peek state with
      | .flowMappingEnd => some ([], drop state)
      | token =>
          if !isFirst && token != .flowEntry then none
          else
            let state := if isFirst then state else drop state
            match peek state with
            | .flowMappingEnd => some ([], drop state)
            | .key => do
                let (key, state) ←
                  match peek (drop state) with
                  | .value | .flowEntry | .flowMappingEnd => some (Node.unwritten, drop state)
                  | _ => node? false false fuel (drop state)
                let (value, state) ←
                  match peek state with
                  | .value =>
                      match peek (drop state) with
                      | .flowEntry | .flowMappingEnd => some (Node.unwritten, drop state)
                      | _ => node? false false fuel (drop state)
                  | _ => some (Node.unwritten, state)
                let (members, state) ← flowMembers? false fuel state
                some ((key, value) :: members, state)
            | _ => do
                let (key, state) ← node? false false fuel state
                let (members, state) ← flowMembers? false fuel state
                some ((key, Node.unwritten) :: members, state)
end

/-- The directives in front of a document. -/
structure Directives where
  hasVersion : Bool
  handles : List (String × Tag)

/-- Read directives; none may be given twice, and only the versions 1.1 and 1.2 are known. -/
def directives? : List Token → Directives → Option (Directives × List Token)
  | .versionDirective major minor :: rest, directives =>
      if directives.hasVersion || major != 1 || (minor != 1 && minor != 2) then none
      else directives? rest { directives with hasVersion := true }
  | .tagDirective handle start :: rest, directives =>
      if (Entries.lookup? handle directives.handles).isSome then none
      else directives? rest
        { directives with handles := directives.handles ++ [(handle, start)] }
  | tokens, directives => some (directives, tokens)

/-- Drop the marks for the end of a document. -/
def dropEnds (tokens : List Token) : List Token :=
  tokens.dropWhile (· == .documentEnd)

/-- A state in front of the tokens of a document. -/
def State.ofTokens (handles : List (String × Tag)) (tokens : List Token) : State where
  tokens := tokens
  anchors := []
  handles := handles ++ standardHandles

/-- Whether the content of a document is not written. -/
def isBlankDocument : Token → Bool
  | .versionDirective _ _ | .tagDirective _ _ | .documentStart | .documentEnd | .streamEnd => true
  | _ => false

/-- The root of the only document of a list of tokens. -/
def root? (tokens : List Token) : Option Node := do
  let (directives, rest) ← directives? tokens { hasVersion := false, handles := [] }
  let isExplicit := directives.hasVersion || !directives.handles.isEmpty
  let fuel := 4 * tokens.length + 8
  let (node, state) ←
    match rest with
    | .documentStart :: rest =>
        let state := State.ofTokens directives.handles rest
        if isBlankDocument (peek state) then some (Node.unwritten, state)
        else node? true false fuel state
    | .streamEnd :: _ => none
    | rest => if isExplicit then none else node? true false fuel (State.ofTokens [] rest)
  match dropEnds state.tokens with
  | [.streamEnd] => some node
  | _ => none

end Tree

/-- Read a text as its only document. -/
def Document.parse? (text : String) : Option Document := do
  let root ← Tree.root? (← tokens? text)
  some (Document.ofRoot root)

/-- Read what a reader of some shape looks at in the only document of a text. -/
def parse? (shape : Shape) (text : String) : Option Yaml := do
  let document ← Document.parse? text
  document.tree? shape

end FacetSearch.Yaml
