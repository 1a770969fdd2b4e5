import Adventure.Number.Reading
import Adventure.Text.Blank
import Adventure.Text.Case
import Adventure.Text.Digit
import Adventure.Fault

/-! The words of `use` (an item, `on` or `with` a target, a number) and of `talk` (a character and
the number of a line, which must be written in decimal digits). -/

namespace Adventure.Command

open Adventure.Text Adventure.Number

/-- The words of a use command and its number, if the last word is one. -/
def splitNumber (ws : List String) : List String × Option Float :=
  if ws.length > 1 then
    match readFloatWord (ws.getLast?.getD "") with
    | some f => (ws.dropLast, some f)
    | none => (ws, none)
  else (ws, none)

/-- The first position at which `pattern` occurs in `cs`. -/
def findFrom (pattern : List Char) (cs : List Char) (pos : Nat) : Option Nat :=
  match cs with
  | [] => if pattern.isEmpty then some pos else none
  | _ :: rest => if pattern.isPrefixOf cs then some pos else findFrom pattern rest (pos + 1)

/-- The item, target and number of the arguments of `use`. -/
def parseUse (arg : String) : String × Option String × Option Float :=
  let (ws, number) := splitNumber (words arg)
  let text := " ".intercalate ws
  let lowered := (lower text).toList
  let chars := text.toList
  let separated := [" on ", " with "].findSome? fun sep =>
    (findFrom sep.toList lowered 0).map fun idx =>
      let item := trim (String.ofList (chars.take idx))
      let target := trim (String.ofList (chars.drop (idx + sep.length)))
      (item, if target.isEmpty then none else some target, number)
  separated.getD (text, none, number)

/-- The character and line number of the arguments of `talk`. -/
def parseTalk (arg : String) : Except Fault (String × Option Nat) :=
  let ws := words arg
  match ws.getLast? with
  | some last =>
    if ws.length > 1 && !last.isEmpty && last.toList.all isDigit then
      match readDecimalNat last with
      | some n => .ok (" ".intercalate ws.dropLast, some n)
      | none => .error .badValue
    else .ok (trim arg, none)
  | none => .ok (trim arg, none)

end Adventure.Command
