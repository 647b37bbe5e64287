import Provision.Yaml.Lexer
import Provision.Yaml.Node

/-!
# From tokens to nodes

The grammar of documents over their tokens.  A missing node is null, and a reference stands for
the node that its anchor was last put on.
-/

set_option autoImplicit false

namespace Provision.Yaml

/-- The tokens to be read and the anchors so far. -/
structure Reader where
  tokens : List Token
  /-- The number of the anchor that a name was last given to. -/
  names : List (String × Nat)
  /-- The nodes that are complete, by the number of their anchor. -/
  nodes : List (Nat × Node)

/-- A step of reading that may refuse the tokens. -/
abbrev Reading (α : Type) := StateT Reader Option α

namespace Reading

/-- The next token. -/
def peek : Reading (Option Token) := do return (← get).tokens.head?

/-- Past the next token. -/
def advance : Reading Unit := modify fun reader => { reader with tokens := reader.tokens.drop 1 }

/-- Refuses the tokens. -/
def refuse {α : Type} : Reading α := fun _ => none

/-- The null node in place of a missing one. -/
def missing : Reading Node := pure (Node.ofPlain "~")

/-- Gives a name to a new anchor. -/
def enter (name : String) : Reading Nat := do
  let number := (← get).names.length
  modify fun reader => { reader with names := (name, number) :: reader.names }
  pure number

/-- Puts an anchor on a node. -/
def complete (anchor : Option Nat) (node : Node) : Reading Node := do
  match anchor with
  | none => pure node
  | some number =>
      modify fun reader => { reader with nodes := (number, node) :: reader.nodes }
      pure node

/-- The node that a name refers to; void while the node is not complete. -/
def referred (name : String) : Reading Node := do
  let reader ← get
  match reader.names.lookup name with
  | none => refuse
  | some number => pure ((reader.nodes.lookup number).getD .void)

/-- The anchor and the tag in front of a node, in either order. -/
def attributes : Reading (Option Nat × Option (String × String)) := do
  match ← peek with
  | some (.anchor name) =>
      advance
      let number ← enter name
      match ← peek with
      | some (.tag handle suffix) =>
          advance
          pure (some number, some (handle, suffix))
      | _ => pure (some number, none)
  | some (.tag handle suffix) =>
      advance
      match ← peek with
      | some (.anchor name) =>
          advance
          let number ← enter name
          pure (some number, some (handle, suffix))
      | _ => pure (none, some (handle, suffix))
  | _ => pure (none, none)

mutual
/-- Reads a node.  `inBlock` admits block collections and `afterKey` a sequence that is not
indented. -/
def node (inBlock afterKey : Bool) : Nat → Reading Node
  | 0 => refuse
  | fuel + 1 => do
      match ← peek with
      | some (.reference name) =>
          advance
          referred name
      | _ =>
          let (anchor, tag) ← attributes
          match ← peek with
          | some (.scalar isPlain spelling) =>
              advance
              complete anchor (Node.ofScalar isPlain tag spelling)
          | some .flowSequence =>
              advance
              complete anchor (.list (← flowItems fuel true))
          | some .flowMapping =>
              advance
              complete anchor (.table (Node.pairs none (← flowEntries fuel true)))
          | some .blockSequence =>
              if inBlock then
                advance
                complete anchor (.list (← blockItems fuel))
              else unfilled anchor tag
          | some .blockMapping =>
              if inBlock then
                advance
                complete anchor (.table (Node.pairs none (← blockEntries fuel)))
              else unfilled anchor tag
          | some .blockEntry =>
              if afterKey then complete anchor (.list (← looseItems fuel))
              else unfilled anchor tag
          | _ => unfilled anchor tag

/-- A node of which there is only an anchor or a tag. -/
def unfilled (anchor : Option Nat) (tag : Option (String × String)) : Reading Node :=
  if anchor.isSome || tag.isSome then complete anchor (Node.ofScalar true tag "") else refuse

/-- The items of a block sequence and its end. -/
def blockItems : Nat → Reading (List Node)
  | 0 => refuse
  | fuel + 1 => do
      match ← peek with
      | some .blockEnd =>
          advance
          pure []
      | some .blockEntry =>
          advance
          let item ←
            match ← peek with
            | some .blockEntry => missing
            | some .blockEnd => missing
            | _ => node true false fuel
          pure (item :: (← blockItems fuel))
      | _ => refuse

/-- The items of a sequence that is not indented under its key. -/
def looseItems : Nat → Reading (List Node)
  | 0 => refuse
  | fuel + 1 => do
      match ← peek with
      | some .blockEntry =>
          advance
          let item ←
            match ← peek with
            | some .blockEntry => missing
            | some .key => missing
            | some .value => missing
            | some .blockEnd => missing
            | _ => node true false fuel
          pure (item :: (← looseItems fuel))
      | _ => pure []

/-- A key or a value of a block mapping. -/
def blockPart : Nat → Reading Node
  | 0 => refuse
  | fuel + 1 => do
      match ← peek with
      | some .key => missing
      | some .value => missing
      | some .blockEnd => missing
      | _ => node true true fuel

/-- The keys and values of a block mapping in turn, and its end. -/
def blockEntries : Nat → Reading (List Node)
  | 0 => refuse
  | fuel + 1 => do
      let key? ←
        match ← peek with
        | some .key =>
            advance
            some <$> blockPart fuel
        | some .value => some <$> missing
        | some .blockEnd =>
            advance
            pure none
        | _ => refuse
      match key? with
      | none => pure []
      | some key =>
          let value ←
            match ← peek with
            | some .value =>
                advance
                blockPart fuel
            | _ => missing
          pure (key :: value :: (← blockEntries fuel))

/-- The items of a flow sequence and its end. -/
def flowItems : Nat → Bool → Reading (List Node)
  | 0, _ => refuse
  | fuel + 1, isFirst => do
      match ← peek with
      | some .flowSequenceEnd =>
          advance
          pure []
      | found =>
          if !isFirst then
            if found == some .flowEntry then advance else refuse
          match ← peek with
          | some .flowSequenceEnd =>
              advance
              pure []
          | some .key =>
              advance
              let item ← flowPair fuel
              pure (item :: (← flowItems fuel false))
          | _ =>
              let item ← node false false fuel
              pure (item :: (← flowItems fuel false))

/-- A single pair as an item of a flow sequence.  The mark behind a missing key is passed over, so
that such a pair has no value. -/
def flowPair : Nat → Reading Node
  | 0 => refuse
  | fuel + 1 => do
      let key ←
        match ← peek with
        | some .value => do
            advance
            missing
        | some .flowEntry => do
            advance
            missing
        | some .flowSequenceEnd => do
            advance
            missing
        | _ => node false false fuel
      let value ←
        match ← peek with
        | some .value =>
            advance
            match ← peek with
            | some .flowEntry => missing
            | some .flowSequenceEnd => missing
            | _ => node false false fuel
        | _ => missing
      pure (.table (Node.pairs none [key, value]))

/-- The keys and values of a flow mapping in turn, and its end. -/
def flowEntries : Nat → Bool → Reading (List Node)
  | 0, _ => refuse
  | fuel + 1, isFirst => do
      match ← peek with
      | some .flowMappingEnd =>
          advance
          pure []
      | found =>
          if !isFirst then
            if found == some .flowEntry then advance else refuse
          match ← peek with
          | some .flowMappingEnd =>
              advance
              pure []
          | some .key =>
              advance
              let key ←
                match ← peek with
                | some .value => missing
                | some .flowEntry => missing
                | some .flowMappingEnd => missing
                | _ => node false false fuel
              let value ← flowValue fuel
              pure (key :: value :: (← flowEntries fuel false))
          | some .value =>
              let key ← missing
              let value ← flowValue fuel
              pure (key :: value :: (← flowEntries fuel false))
          | _ =>
              let key ← node false false fuel
              let value ← missing
              pure (key :: value :: (← flowEntries fuel false))

/-- The value behind a key of a flow mapping. -/
def flowValue : Nat → Reading Node
  | 0 => refuse
  | fuel + 1 => do
      match ← peek with
      | some .value =>
          advance
          match ← peek with
          | some .flowEntry => missing
          | some .flowMappingEnd => missing
          | _ => node false false fuel
      | _ => missing
end

/-! ## Documents -/

/-- Past the tokens of one kind. -/
def skipAll (token : Token) : Reading Unit :=
  modify fun reader => { reader with tokens := reader.tokens.dropWhile fun next => next == token }

/-- The content of a document behind its start. -/
def content (fuel : Nat) : Reading Node := do
  match ← peek with
  | none => missing
  | some .directive => missing
  | some .documentStart => missing
  | some .documentEnd => missing
  | _ => node true false fuel

/-- A document, if there is one. -/
def document (fuel : Nat) : Reading (Option Node) := do
  match ← peek with
  | none => pure none
  | some .directive =>
      skipAll .directive
      match ← peek with
      | some .documentStart =>
          advance
          some <$> content fuel
      | _ => refuse
  | some .documentStart =>
      advance
      some <$> content fuel
  | _ => some <$> node true false fuel

/-- The only document of a stream. -/
def stream (fuel : Nat) : Reading (Option Node) := do
  let read ← document fuel
  skipAll .documentEnd
  match ← peek with
  | none => pure read
  | some _ => refuse

end Reading

/-- The document of a text: the outer `none` says that the text is malformed or holds several
documents, the inner one that it holds none. -/
def Node.ofText? (text : String) : Option (Option Node) := do
  let tokens ← Token.ofText? text.toList
  let (read, _) ←
    (Reading.stream (4 * tokens.length + 8)).run { tokens, names := [], nodes := [] }
  some read

end Provision.Yaml
