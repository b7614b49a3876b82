import NamespaceManifest.Text.Lines
import NamespaceManifest.Yaml.Scalar
import NamespaceManifest.Yaml.Token

/-!
# YAML documents

The tokens of a text form at most one document.  Its nodes are scalars, sequences and mappings, and
each node denotes a value; an entry that leaves its key or its value out has nothing there.

A text with a second document, with an entry that is not closed, or with a sequence or a mapping as a
key is refused.  So is a text with a scalar that has no value; of several faults in nodes the one that
counts is the least deep one, and the first of these.
-/

namespace NamespaceManifest
namespace Yaml

/-- A node of a document. -/
inductive Node where
  | scalar (text : String) (plain : Bool)
  | sequence (items : List Node)
  | mapping (entries : List (Node × Node))

namespace Node

/-- The node of what is left out. -/
def empty : Node := scalar "" true

/-- Whether the next token is one of some. -/
def nextIs (stops tokens : List Token) : Bool :=
  match tokens with
  | t :: _ => stops.contains t
  | [] => false

/-- Where a node can stand: among block collections or inside a flow collection.  After a key, a
sequence among block collections needs no indentation of its own. -/
inductive Context where
  | block
  | afterKey
  | flow
  deriving BEq, DecidableEq

mutual

/-- A node at the start of some tokens, with the tokens after it. -/
def read (c : Context) : Nat → List Token → Option (Node × List Token)
  | 0, _ => none
  | fuel + 1, tokens =>
      match c, tokens with
      | _, .scalar text plain :: rest => some (scalar text plain, rest)
      | _, .flowSequenceStart :: rest => readFlowItems true [] fuel rest
      | _, .flowMappingStart :: rest => readFlowEntries true [] fuel rest
      | .flow, _ => none
      | .afterKey, .blockEntry :: _ => readLooseItems [] fuel tokens
      | _, .blockSequenceStart :: rest => readItems [] fuel rest
      | _, .blockMappingStart :: rest => readEntries [] fuel rest
      | _, _ => none

/-- A node, or the empty one before some tokens. -/
def readUnless (c : Context) (stops : List Token) : Nat → List Token → Option (Node × List Token)
  | 0, _ => none
  | fuel + 1, tokens => if nextIs stops tokens then some (empty, tokens) else read c fuel tokens

/-- The items of a block sequence, after items that are given last first. -/
def readItems (done : List Node) : Nat → List Token → Option (Node × List Token)
  | 0, _ => none
  | fuel + 1, tokens =>
      match tokens with
      | .blockEntry :: rest =>
          match readUnless .block [.blockEntry, .blockEnd] fuel rest with
          | some (item, more) => readItems (item :: done) fuel more
          | none => none
      | .blockEnd :: rest => some (sequence done.reverse, rest)
      | _ => none

/-- The items of a block sequence without an indentation of its own. -/
def readLooseItems (done : List Node) : Nat → List Token → Option (Node × List Token)
  | 0, _ => none
  | fuel + 1, tokens =>
      match tokens with
      | .blockEntry :: rest =>
          match readUnless .block [.blockEntry, .key, .value, .blockEnd] fuel rest with
          | some (item, more) => readLooseItems (item :: done) fuel more
          | none => none
      | _ => some (sequence done.reverse, tokens)

/-- The entries of a block mapping. -/
def readEntries (done : List (Node × Node)) : Nat → List Token → Option (Node × List Token)
  | 0, _ => none
  | fuel + 1, tokens =>
      match tokens with
      | .key :: rest =>
          match readUnless .afterKey [.key, .value, .blockEnd] fuel rest with
          | some (k, .value :: more) =>
              match readUnless .afterKey [.key, .value, .blockEnd] fuel more with
              | some (v, last) => readEntries ((k, v) :: done) fuel last
              | none => none
          | some (k, more) => readEntries ((k, empty) :: done) fuel more
          | none => none
      | .blockEnd :: rest => some (mapping done.reverse, rest)
      | _ => none

/-- The value of an entry of a flow collection that ends with a token. -/
def readFlowValue (close : Token) : Nat → List Token → Option (Node × List Token)
  | 0, _ => none
  | fuel + 1, tokens =>
      match tokens with
      | .value :: rest => readUnless .flow [.flowEntry, close] fuel rest
      | _ => some (empty, tokens)

/-- The items of a flow sequence; an entry with a key is a mapping of its own. -/
def readFlowItems (first : Bool) (done : List Node) :
    Nat → List Token → Option (Node × List Token)
  | 0, _ => none
  | fuel + 1, tokens =>
      let start : Option (List Token) :=
        match first, tokens with
        | true, _ => some tokens
        | false, .flowEntry :: rest => some rest
        | false, _ => none
      match tokens with
      | .flowSequenceEnd :: rest => some (sequence done.reverse, rest)
      | _ =>
          match start with
          | none => none
          | some (.flowSequenceEnd :: rest) => some (sequence done.reverse, rest)
          | some (.key :: rest) =>
              match readUnless .flow [.value, .flowEntry, .flowSequenceEnd] fuel rest with
              | none => none
              | some (k, afterKey) =>
                  match readFlowValue .flowSequenceEnd fuel afterKey with
                  | none => none
                  | some (v, more) => readFlowItems false (mapping [(k, v)] :: done) fuel more
          | some here =>
              match read .flow fuel here with
              | some (item, more) => readFlowItems false (item :: done) fuel more
              | none => none

/-- The entries of a flow mapping; an entry without a key mark has no value. -/
def readFlowEntries (first : Bool) (done : List (Node × Node)) :
    Nat → List Token → Option (Node × List Token)
  | 0, _ => none
  | fuel + 1, tokens =>
      let start : Option (List Token) :=
        match first, tokens with
        | true, _ => some tokens
        | false, .flowEntry :: rest => some rest
        | false, _ => none
      match tokens with
      | .flowMappingEnd :: rest => some (mapping done.reverse, rest)
      | _ =>
          match start with
          | none => none
          | some (.flowMappingEnd :: rest) => some (mapping done.reverse, rest)
          | some (.key :: rest) =>
              match readUnless .flow [.value, .flowEntry, .flowMappingEnd] fuel rest with
              | none => none
              | some (k, afterKey) =>
                  match readFlowValue .flowMappingEnd fuel afterKey with
                  | none => none
                  | some (v, more) => readFlowEntries false ((k, v) :: done) fuel more
          | some here =>
              match read .flow fuel here with
              | some (k, more) => readFlowEntries false ((k, empty) :: done) fuel more
              | none => none

end

/-- The node of the only document of some tokens; no document at all is no node. -/
def ofTokens (tokens : List Token) : Option (Option Node) :=
  let fuel := 4 * tokens.length + 4
  let isEnd : List Token → Bool := fun rest => rest.all (· == .documentEnd)
  let content (rest : List Token) : Option (Option Node) :=
    match read .block fuel rest with
    | some (node, after) => if isEnd after then some (some node) else none
    | none => none
  match tokens with
  | [] => some none
  | .directive :: _ | .documentStart :: _ =>
      match tokens.dropWhile (· == .directive) with
      | .documentStart :: rest =>
          if isEnd rest then some (some empty)
          else if nextIs [.directive, .documentStart, .documentEnd] rest then none
          else content rest
      | _ => none
  | _ => content tokens

/-- What a scalar denotes. -/
def scalarValue (text : String) (plain : Bool) : Except Failure Value :=
  if plain then Scalar.plain text else .ok (.text text)

/-- What a scalar denotes as a key of a mapping. -/
def keyValue (text : String) (plain : Bool) : Except Failure Value :=
  if text == "=" then .ok (.text text) else scalarValue text plain

/-- The failure of a result, if it is one. -/
def failure? {α : Type} : Except Failure α → Option Failure
  | .ok _ => none
  | .error f => some f

/-- The first faults of two neighbouring nodes, level by level: the one on the left counts. -/
def mergeLevels : List (Option Failure) → List (Option Failure) → List (Option Failure)
  | [], ys => ys
  | xs, [] => xs
  | x :: xs, y :: ys => (x <|> y) :: mergeLevels xs ys

mutual

/-- The first fault of a node on every level: on the level of the node itself, and below it. -/
def faults : Node → List (Option Failure)
  | scalar text plain => [failure? (scalarValue text plain)]
  | sequence items => none :: itemFaults items
  | mapping entries => none :: entryFaults entries

/-- The first faults of the items of a sequence, level by level. -/
def itemFaults : List Node → List (Option Failure)
  | [] => []
  | node :: nodes => mergeLevels (faults node) (itemFaults nodes)

/-- The first faults of the entries of a mapping, level by level. -/
def entryFaults : List (Node × Node) → List (Option Failure)
  | [] => []
  | (k, v) :: entries =>
      mergeLevels (mergeLevels (keyFaults k) (faults v)) (entryFaults entries)

/-- The fault of a key, which must be a scalar. -/
def keyFaults : Node → List (Option Failure)
  | scalar text plain => [failure? (keyValue text plain)]
  | sequence _ => [some .malformed]
  | mapping _ => [some .malformed]

end

mutual

/-- The value that a node without faults denotes. -/
def value : Node → Value
  | scalar text plain => (scalarValue text plain).toOption.getD .null
  | sequence items => .list (itemValues items)
  | mapping entries => .map (entryValues [] entries)

/-- The values of the items of a sequence. -/
def itemValues : List Node → List Value
  | [] => []
  | node :: nodes => value node :: itemValues nodes

/-- The entries of a mapping, after entries that were read already. -/
def entryValues (done : List (Value × Value)) : List (Node × Node) → List (Value × Value)
  | [] => done
  | (k, v) :: entries => entryValues (Value.insert (keyOf k) (value v) done) entries

/-- The value of a key. -/
def keyOf : Node → Value
  | scalar text plain => (keyValue text plain).toOption.getD .null
  | sequence _ => .null
  | mapping _ => .null

end

/-- The value that a node denotes, unless it has a fault. -/
def denote (node : Node) : Except Failure Value :=
  match node.faults.findSome? id with
  | some f => .error f
  | none => .ok node.value

end Node

/-- The value that a text denotes; a text without a document denotes nothing. -/
def parse (text : List Char) : Except Failure Value :=
  match Token.scan (Text.foldNewlines text) with
  | .error f => .error f
  | .ok tokens =>
      match Node.ofTokens tokens with
      | none => .error .malformed
      | some none => .ok .null
      | some (some node) => node.denote

end Yaml
end NamespaceManifest
