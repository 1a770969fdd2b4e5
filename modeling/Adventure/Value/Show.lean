import Adventure.Value.Basic
import Adventure.Number.Notation
import Adventure.Text.Printable
import Adventure.Text.Surrogate

/-! The display text and the literal of a value. -/

namespace Adventure

open Adventure.Number Adventure.Text

/-- The lower-case hexadecimal digits of `n`, padded with zeros to `width`. -/
def hexDigits (width : Nat) (n : Nat) : List Char :=
  let ds := Nat.toDigits 16 n
  List.replicate (width - ds.length) '0' ++ ds

/-- How one character is written inside quotes. -/
def quotedChar (quote : Char) (c : Char) : List Char :=
  if c = quote ∨ c = '\\' then ['\\', c]
  else if c = '\t' then ['\\', 't']
  else if c = '\n' then ['\\', 'n']
  else if c = '\r' then ['\\', 'r']
  else if c.toNat < 0x20 ∨ c.toNat = 0x7f then ['\\', 'x'] ++ hexDigits 2 c.toNat
  else if let some n := halfOf? c then ['\\', 'u'] ++ hexDigits 4 n
  else if c.toNat < 0x7f ∨ isPrintable c then [c]
  else if c.toNat ≤ 0xff then ['\\', 'x'] ++ hexDigits 2 c.toNat
  else if c.toNat ≤ 0xffff then ['\\', 'u'] ++ hexDigits 4 c.toNat
  else ['\\', 'U'] ++ hexDigits 8 c.toNat

/-- A text in quotes, with escapes. -/
def quoteText (s : String) : String :=
  let cs := s.toList
  let quote := if cs.contains '\'' && !cs.contains '"' then '"' else '\''
  String.ofList (quote :: cs.flatMap (quotedChar quote) ++ [quote])

/-- The text of an integer. -/
def intText (i : Int) : String := toString i

namespace Value

mutual
/-- The literal of a value. -/
def literal : Value → String
  | .null => "None"
  | .bool true => "True"
  | .bool false => "False"
  | .int i => intText i
  | .float f => FloatStyle.plain.render f
  | .str s => quoteText s
  | .arr items => "[" ++ literalItems items ++ "]"
  | .obj fields => "\x7b" ++ literalFields fields ++ "\x7d"

/-- The literals of list items, separated by commas. -/
def literalItems : List Value → String
  | [] => ""
  | [v] => literal v
  | v :: rest => literal v ++ ", " ++ literalItems rest

/-- The fields of an object as quoted names and literals, separated by commas. -/
def literalFields : List (String × Value) → String
  | [] => ""
  | [(k, v)] => quoteText k ++ ": " ++ literal v
  | (k, v) :: rest => quoteText k ++ ": " ++ literal v ++ ", " ++ literalFields rest
end

/-- The text a message shows for a value: a text as itself, anything else as its literal. -/
def display : Value → String
  | .str s => s
  | v => literal v

end Value

end Adventure
