import NamespaceManifest.Evaluation.Basic
import NamespaceManifest.Evaluation.Builtin

/-!
# Fragments over a module environment

The fragments that a module environment can evaluate are names, texts between quotes, and lists of
fragments.  A name stands for what the module binds it to, or else for what every environment binds it
to; a few words are constants.  Names with the same composed form are the same name.
-/

namespace NamespaceManifest

/-- An expression of a fragment. -/
inductive Fragment where
  | name (s : String)
  | text (s : String)
  | list (items : List Fragment)

namespace Fragment

/-- Where the reading of an expression goes wrong: at the first of the tokens that are left, or between
two items of a list, the first of which starts on a line. -/
inductive Stop where
  | here (rest : List PlacedToken)
  | betweenItems (line : Nat)

/-- Whether a token is a word that no expression can start with. -/
def isReserved : Token → Bool
  | .name s => Builtin.reservedWords.contains s
  | _ => false

/-- The names after which a second item of a list is never taken for one whose comma is missing. -/
def openNames : List String := ["_", "case", "match", "exec", "print"]

/-- Whether two items of a list that follow each other only lack a comma: the first one starts with a
token, and the second one with another. -/
def lacksComma (item : Fragment) (first next : Token) : Bool :=
  match item, first, next with
  | .name _, .name s, .name _ => !openNames.contains s && !isReserved next
  | .name _, _, _ => false
  | _, _, .name _ => !isReserved next
  | .list _, _, .text _ => true
  | _, _, _ => false

/-- Texts that follow each other, joined. -/
def joinTexts (s : String) : List PlacedToken → String × List PlacedToken
  | (.text t, _) :: rest => joinTexts (s ++ t) rest
  | rest => (s, rest)

mutual

/-- The expression at the start of some tokens, with the tokens after it. -/
def read : Nat → List PlacedToken → Except Stop (Fragment × List PlacedToken)
  | 0, tokens => .error (.here tokens)
  | fuel + 1, tokens =>
      match tokens with
      | (.name s, line) :: rest =>
          if isReserved (.name s) then .error (.here ((.name s, line) :: rest))
          else .ok (name s, rest)
      | (.text s, _) :: rest =>
          let (whole, after) := joinTexts s rest
          .ok (text whole, after)
      | (.opening, _) :: rest => readItems fuel [] rest
      | rest => .error (.here rest)

/-- The items of a list up to its closing bracket, after items that are given last first. -/
def readItems : Nat → List Fragment → List PlacedToken →
    Except Stop (Fragment × List PlacedToken)
  | 0, _, tokens => .error (.here tokens)
  | fuel + 1, done, tokens =>
      match tokens with
      | (.closing, _) :: rest => .ok (list done.reverse, rest)
      | [] => .error (.here [])
      | (first, line) :: _ =>
          match read fuel tokens with
          | .error stop => .error stop
          | .ok (item, rest) =>
              match rest with
              | (.comma, _) :: more => readItems fuel (item :: done) more
              | (.closing, _) :: more => .ok (list (item :: done).reverse, more)
              | (next, _) :: _ =>
                  if lacksComma item first next then .error (.betweenItems line)
                  else .error (.here rest)
              | [] => .error (.here [])

end

/-- The fault of a text in which the reading stopped, with its line.  A fault of the tokens further on
counts first, and so does a bracket that stays open, if it stands on an earlier line. -/
def faultAt (lines : Nat) (ending : Ending) (stop : Stop) : Fault × Nat :=
  let (f, line) : Fault × Nat :=
    match stop with
    | .betweenItems line => (.commaMissing, line)
    | .here ((.indent, line) :: _) => (.indented, line)
    | .here ((_, line) :: _) => (.invalid, line)
    | .here [] => (.invalid, lines)
  let atEnd :=
    match stop with
    | .here [] => true
    | _ => false
  match ending with
  | .finished => (f, line)
  | .fault g place => if f = .indented then (f, line) else (g, place)
  | .unclosed bracket start =>
      if f = .indented then (f, line)
      else if atEnd || start < line then (.neverClosed bracket, start)
      else (f, line)

/-- Whether only line ends are left. -/
def isDone (tokens : List PlacedToken) : Bool :=
  tokens.all fun t => t.1 == .newline

/-- The expression that a text denotes, or why it denotes none and on which line. -/
def parse (s : List Char) : Except (Fault × Nat) Fragment :=
  let text := Text.foldNewlines s
  let lines := text.count '\n' + if text.getLast?.all (· == '\n') then 0 else 1
  let (tokens, ending) := Token.ofText text
  match read (2 * tokens.length + 2) tokens with
  | .error stop => .error (faultAt lines ending stop)
  | .ok (fragment, rest) =>
      if isDone rest && ending = .finished then .ok fragment
      else .error (faultAt lines ending (.here (rest.dropWhile (·.1 == .newline))))

/-- The word that is true in every environment, whatever it is bound to. -/
def debugName : String := "__debug__"

/-- The name under which an environment keeps what is known everywhere. -/
def sharedName : String := "__builtins__"

/-- What is known besides bindings: these can give a mapping of their own for it. -/
def sharedBindings (bindings : Bindings) : Bindings :=
  match bindings.lookup sharedName with
  | some (.map entries) =>
      entries.filterMap fun (key, v) =>
        match key with
        | .text s => some (s, v)
        | _ => none
  | _ => (sharedName, .foreign "dict") :: Builtin.bindings

/-- The value of a name under bindings. -/
def valueOf (bindings : Bindings) (s : String) : Except FragmentFailure Value :=
  let name := Text.composed s
  match Builtin.constants.lookup s with
  | some v => .ok v
  | none =>
      if name == debugName then .ok (.bool true)
      else
        match bindings.lookup name <|> (sharedBindings bindings).lookup name with
        | some v => .ok v
        | none => .error (.unbound name)

mutual

/-- The value of a fragment under bindings. -/
def eval (bindings : Bindings) : Fragment → Except FragmentFailure Value
  | name s => valueOf bindings s
  | text s => .ok (.text s)
  | list items => (evalItems bindings items).map .list

/-- The values of the items of a list; the first failure counts. -/
def evalItems (bindings : Bindings) : List Fragment → Except FragmentFailure (List Value)
  | [] => .ok []
  | item :: items => do
      let v ← eval bindings item
      let vs ← evalItems bindings items
      return v :: vs

end

/-- The value of a fragment of a block under bindings. -/
def run (bindings : Bindings) (code : String) (block : Block) : Except FragmentFailure Value :=
  if code.toList.contains '\x00' then .error .nullCharacter
  else
    match parse code.toList with
    | .ok fragment => fragment.eval bindings
    | .error (f, line) => .error (.malformed f block.location line)

end Fragment

namespace Evaluator

/-- The evaluator of the environment that bindings make up. -/
def ofBindings (bindings : Bindings) : Evaluator :=
  { run := Fragment.run bindings, announced := true }

end Evaluator

end NamespaceManifest
