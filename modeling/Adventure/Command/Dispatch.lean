import Adventure.Command.Help
import Adventure.Command.Parse
import Adventure.Play.Engine

/-! A typed command is read into an `Order` (verb in lower case, arguments trimmed), which is then
carried out; a verb without its arguments answers its usage, an unknown verb nothing. -/

namespace Adventure.Command

open Adventure.Text Adventure.Play Adventure.Story

/-- A text split at its first space, or the whole text and nothing. -/
def splitAtSpace (cs : List Char) : List Char × List Char :=
  match cs.splitOn ' ' with
  | [] => ([], [])
  | first :: rest => (first, if rest.isEmpty then [] else (cs.drop (first.length + 1)))

/-- What a typed command asks for. -/
inductive Order where
  /-- Look around (null) or at what the words name. -/
  | look (target : Value)
  | go (direction : String)
  | take (item : String)
  | examine (target : String)
  | use (item : String) (target : Option String) (number : Option Float)
  | talk (npc : String)
  | talkOption (npc : String) (option : Nat)
  | inventory
  | hint
  | status
  /-- A fixed answer: a usage or help. -/
  | reply (text : String)
  /-- A verb that is not known. -/
  | unknown

/-- The verb of a typed command, in lower case, and its arguments, trimmed. -/
def verbAndArg (cmd : String) : String × String :=
  let (verbChars, argChars) := splitAtSpace (trimChars cmd.toList)
  (lower (String.ofList verbChars), trim (String.ofList argChars))

/-- The usage of a command, as an answer. -/
def Order.usage (name : String) : Order := .reply s!"Usage: {usageOf name}"

/-- Reads a typed command's verb and arguments into an order. -/
def readOrder (verb arg : String) : Except Fault Order :=
  if verb == "look" then .ok (.look (if arg.isEmpty then .null else .str arg))
  else if verb == "go" then .ok (if arg.isEmpty then .reply "Usage: go <direction>" else .go arg)
  else if (verb == "take" || verb == "examine") && arg.isEmpty then
    .ok (.usage verb)
  else if verb == "take" then .ok (.take arg)
  else if verb == "examine" then .ok (.examine arg)
  else if verb == "use" then
    if arg.isEmpty then .ok (.usage "use")
    else
      let (item, target, number) := parseUse arg
      .ok (.use item target number)
  else if verb == "talk" then
    if arg.isEmpty then .ok (.usage "talk")
    else do
      let (npc, option) ← parseTalk arg
      match option with
      | none => return .talk npc
      | some n => return .talkOption npc n
  else if verb == "inventory" || verb == "inv" then .ok .inventory
  else if verb == "hint" then .ok .hint
  else if verb == "status" then .ok .status
  else if verb == "help" then
    .ok (.reply (if arg.isEmpty then "\n".intercalate helpLines else helpTopic arg))
  else .ok .unknown

/-- Reads a typed command into an order. -/
def read (cmd : String) : Except Fault Order :=
  let (verb, arg) := verbAndArg cmd
  readOrder verb arg

/-- Carries out an order; `none` for an unknown verb. -/
def Order.run (g : Game) : Order → Act (Option Value)
  | .look target => some <$> Play.look g target
  | .go direction => (some ∘ .str) <$> Play.go g (.str direction)
  | .take item => (some ∘ .str) <$> Play.take g (.str item)
  | .examine target => some <$> Play.examine g (.str target)
  | .use item target number =>
    let targetValue := match target with
      | some t => Value.str t
      | none => .null
    let numberValue := match number with
      | some f => Value.float f
      | none => .null
    (some ∘ .str) <$> Play.use g (.str item) targetValue numberValue
  | .talk npc => (some ∘ .str) <$> Play.talk g (.str npc)
  | .talkOption npc n => (some ∘ .str) <$> Play.talkOption g (.str npc) (.int n)
  | .inventory => (some ∘ .str) <$> Play.inventory g
  | .hint => (some ∘ .str) <$> Play.hint g
  | .status => (some ∘ .str) <$> Play.statusMessage g
  | .reply text => pure (some (.str text))
  | .unknown => pure none

/-- Runs a typed command; `none` when the verb is unknown. -/
def dispatch (g : Game) (cmd : String) : Act (Option Value) := do
  (← Act.ofExcept (read cmd)).run g

end Adventure.Command
