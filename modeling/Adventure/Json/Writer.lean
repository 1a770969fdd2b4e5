import Adventure.Value.Basic
import Adventure.Number.Notation
import Adventure.Value.Show
import Adventure.Text.Surrogate

/-! Values written in the data format, doubles in their shortest form; the ASCII form escapes every
character outside printable ASCII, the plain form keeps them. -/

namespace Adventure.Json

open Adventure.Number Adventure.Text

/-- An escape `\uXXXX`. -/
def unitEscape (n : Nat) : List Char := ['\\', 'u'] ++ hexDigits 4 n

/-- The two escapes of the surrogate pair of a code point beyond U+FFFF. -/
def pairEscape (n : Nat) : List Char :=
  let v := n - 0x10000
  unitEscape (0xD800 + v / 0x400) ++ unitEscape (0xDC00 + v % 0x400)

/-- How one character is written inside a data text, in the ASCII form when `ascii` holds. -/
def escapeChar (ascii : Bool) (c : Char) : List Char :=
  if c = '"' then ['\\', '"']
  else if c = '\\' then ['\\', '\\']
  else if c = '\n' then ['\\', 'n']
  else if c = '\r' then ['\\', 'r']
  else if c = '\t' then ['\\', 't']
  else if c = '\x08' then ['\\', 'b']
  else if c = '\x0c' then ['\\', 'f']
  else if c.toNat < 0x20 then unitEscape c.toNat
  else if !ascii || c.toNat ≤ 0x7e then [c]
  else match halfOf? c with
    | some n => unitEscape n
    | none => if c.toNat < 0x10000 then unitEscape c.toNat else pairEscape c.toNat

/-- Whether a character keeps the high half of a surrogate pair. -/
def keepsHighHalf (c : Char) : Bool :=
  match halfOf? c with
  | some n => n < 0xDC00
  | none => false

/-- Whether a character keeps the low half of a surrogate pair. -/
def keepsLowHalf (c : Char) : Bool :=
  match halfOf? c with
  | some n => 0xDC00 ≤ n
  | none => false

/-- The characters of a text written inside a data text; `afterHigh` says whether the
character before keeps a high half. -/
def escapeText (ascii : Bool) : Bool → List Char → List Char
  | _, [] => []
  | afterHigh, c :: rest =>
    let written :=
      if ascii && afterHigh && keepsLowHalf c then pairEscape c.toNat else escapeChar ascii c
    written ++ escapeText ascii (keepsHighHalf c) rest

/-- A text written as a data text, quotes included. -/
def writeStringAs (ascii : Bool) (s : String) : String :=
  String.ofList ('"' :: escapeText ascii false s.toList ++ ['"'])

/-- A text written as a data text in the ASCII form, quotes included. -/
def writeString (s : String) : String := writeStringAs true s

mutual
/-- The data text of a value, in the ASCII form when `ascii` holds. -/
def writeAs (ascii : Bool) : Value → String
  | .null => "null"
  | .bool true => "true"
  | .bool false => "false"
  | .int i => intText i
  | .float f => FloatStyle.json.render f
  | .str s => writeStringAs ascii s
  | .arr items => "[" ++ writeItemsAs ascii items ++ "]"
  | .obj fields => "\x7b" ++ writeFieldsAs ascii fields ++ "\x7d"

/-- List items, separated by commas. -/
def writeItemsAs (ascii : Bool) : List Value → String
  | [] => ""
  | [v] => writeAs ascii v
  | v :: rest => writeAs ascii v ++ ", " ++ writeItemsAs ascii rest

/-- Object fields, separated by commas. -/
def writeFieldsAs (ascii : Bool) : List (String × Value) → String
  | [] => ""
  | [(k, v)] => writeStringAs ascii k ++ ": " ++ writeAs ascii v
  | (k, v) :: rest =>
    writeStringAs ascii k ++ ": " ++ writeAs ascii v ++ ", " ++ writeFieldsAs ascii rest
end

/-- The data text of a value in the ASCII form. -/
def write (v : Value) : String := writeAs true v

/-- The data text of a value with its characters beyond ASCII left as they are. -/
def writePlain (v : Value) : String := writeAs false v

/-- The field name that a key value takes in a data text: a text as itself, a number in its
shortest form, `true`, `false` and `null` for the others. Lists and objects are no keys. -/
def keyName? : Value → Option String
  | .str s => some s
  | .int i => some (intText i)
  | .float f => some (FloatStyle.json.render f)
  | .bool true => some "true"
  | .bool false => some "false"
  | .null => some "null"
  | _ => none

end Adventure.Json
