import Adventure.Value.Basic
import Adventure.Number.Reading
import Adventure.Text.Surrogate

/-! The reader of the data format, with `NaN` and the infinities, exact integers, and faults that
name the place where reading stopped; nesting depth and integer digits are limited. -/

namespace Adventure.Json

open Adventure.Number Adventure.Text

/-- Why reading stopped: the text is malformed at an offset, or a limit was reached. -/
inductive ReadError where
  /-- What was expected, and the offset of the place where it was not found. -/
  | malformed (message : String) (offset : Nat)
  /-- A limit of the reader was reached. -/
  | limit (fault : Fault)

/-- The most lists and objects that data may nest, one in another. -/
def nestingLimit : Nat := 988

/-- The unread characters of the text and the offset of the first of them. -/
structure Cursor where
  rest : List Char
  offset : Nat

namespace Cursor

/-- Moves past `n` characters. -/
def advance (c : Cursor) (n : Nat) : Cursor := ⟨c.rest.drop n, c.offset + n⟩

/-- Whether `ch` separates the parts of a data text. -/
def isSpace (ch : Char) : Bool := ch = ' ' || ch = '\t' || ch = '\n' || ch = '\r'

/-- Moves past separating characters. -/
def skipSpace (c : Cursor) : Cursor :=
  let n := (c.rest.takeWhile isSpace).length
  c.advance n

end Cursor

/-- The result of reading a part: the part and the cursor after it. -/
abbrev Reading (α : Type) := Except ReadError (α × Cursor)

/-- The value of a hexadecimal digit. -/
def hexValue? (c : Char) : Option Nat :=
  if '0' ≤ c ∧ c ≤ '9' then some (c.toNat - '0'.toNat)
  else if 'a' ≤ c ∧ c ≤ 'f' then some (c.toNat - 'a'.toNat + 10)
  else if 'A' ≤ c ∧ c ≤ 'F' then some (c.toNat - 'A'.toNat + 10)
  else none

/-- The number written by four hexadecimal digits. -/
def hex4? (cs : List Char) : Option Nat :=
  match cs with
  | [a, b, c, d] => do
    let a ← hexValue? a
    let b ← hexValue? b
    let c ← hexValue? c
    let d ← hexValue? d
    pure (((a * 16 + b) * 16 + c) * 16 + d)
  | _ => none

/-- The character of a code point; a lone half of a surrogate pair is kept as `ofHalf`. -/
def charOfCode (n : Nat) : Char :=
  if isHalfCode n then ofHalf n else Char.ofNat n

/-- The character that a one-letter escape stands for. -/
def simpleEscape? : Char → Option Char
  | '"' => some '"'
  | '\\' => some '\\'
  | '/' => some '/'
  | 'b' => some '\x08'
  | 'f' => some '\x0c'
  | 'n' => some '\n'
  | 'r' => some '\r'
  | 't' => some '\t'
  | _ => none

/-- Reads what follows `\u` in a text, `place` being the offset of the `u`: four hexadecimal
digits, which must not end the text, and for a high surrogate an escaped low surrogate right
after them. Returns the character and how many characters after the `u` it took. -/
def unicodeEscape (place : Nat) (cs : List Char) : Except ReadError (Char × Nat) :=
  if cs.length < 5 then .error (.malformed "Invalid \\uXXXX escape" place)
  else
    match hex4? (cs.take 4) with
    | none => .error (.malformed "Invalid \\uXXXX escape" place)
    | some high =>
      let after := cs.drop 4
      if 0xD800 ≤ high ∧ high ≤ 0xDBFF ∧ after.length > 6 then
        match after with
        | '\\' :: 'u' :: more =>
          match hex4? (more.take 4) with
          | none => .error (.malformed "Invalid \\uXXXX escape" (place + 6))
          | some low =>
            if 0xDC00 ≤ low ∧ low ≤ 0xDFFF then
              .ok (Char.ofNat (0x10000 + (high - 0xD800) * 0x400 + (low - 0xDC00)), 10)
            else .ok (charOfCode high, 4)
        | _ => .ok (charOfCode high, 4)
      else .ok (charOfCode high, 4)

/-- Reads the characters of a text up to its closing quote. `start` is the offset of the
opening quote, `offset` that of the first character of `cs`, and `acc` holds the characters
read so far, reversed. -/
def textBody (start : Nat) (acc : List Char) (offset : Nat) (cs : List Char) :
    Except ReadError (String × Nat × List Char) :=
  match cs with
  | [] => .error (.malformed "Unterminated string starting at" start)
  | '"' :: rest => .ok (String.ofList acc.reverse, offset + 1, rest)
  | '\\' :: rest =>
    match rest with
    | [] => .error (.malformed "Unterminated string starting at" start)
    | 'u' :: more =>
      match unicodeEscape (offset + 1) more with
      | .ok (ch, used) => textBody start (ch :: acc) (offset + 2 + used) (more.drop used)
      | .error e => .error e
    | e :: more =>
      match simpleEscape? e with
      | some ch => textBody start (ch :: acc) (offset + 2) more
      | none => .error (.malformed "Invalid \\escape" offset)
  | ch :: rest =>
    if ch.toNat ≤ 0x1f then .error (.malformed "Invalid control character at" offset)
    else textBody start (ch :: acc) (offset + 1) rest
termination_by cs.length
decreasing_by all_goals simp_all <;> omega

/-- Whether `c` is an ASCII digit. -/
def isAsciiDigit (c : Char) : Bool := '0' ≤ c && c ≤ '9'

/-- The ASCII digits at the start of `cs`. -/
def asciiDigits (cs : List Char) : List Char := cs.takeWhile isAsciiDigit

/-- The length of the integer digits at the start of a number: a single zero, or digits not
starting with zero; `none` when no digit starts the text. -/
def wholeLength : List Char → Option Nat
  | '0' :: _ => some 1
  | c :: rest => if '1' ≤ c ∧ c ≤ '9' then some (1 + (asciiDigits rest).length) else none
  | [] => none

/-- The length of the fraction at the start of `cs`: a point followed by digits. A point not
followed by a digit is no fraction. -/
def fractionLength : List Char → Nat
  | '.' :: d :: rest => if isAsciiDigit d then 2 + (asciiDigits rest).length else 0
  | _ => 0

/-- The length of the exponent at the start of `cs`: `e` or `E`, an optional sign and digits.
A mark not followed by a character, or an exponent without digits, is no exponent. -/
def exponentLength : List Char → Nat
  | m :: next :: rest =>
    if m = 'e' ∨ m = 'E' then
      let (signed, digits) := match next, rest with
        | '+', _ :: _ => (1, asciiDigits rest)
        | '-', _ :: _ => (1, asciiDigits rest)
        | _, _ => (0, asciiDigits (next :: rest))
      if digits.isEmpty then 0 else 1 + signed + digits.length
    else 0
  | _ => 0

/-- The length of the number at the start of `cs` and whether it has a fraction or an
exponent; `none` when no number starts there. A number is an optional minus, then a single
zero or digits not starting with zero, then `.` and digits, then `e` or `E`, an optional sign
and digits. -/
def numberExtent (cs : List Char) : Option (Nat × Bool) :=
  let (signLen, body) := match cs with
    | '-' :: rest => (1, rest)
    | _ => (0, cs)
  match wholeLength body with
  | none => none
  | some w =>
    let afterWhole := body.drop w
    let fracLen := fractionLength afterWhole
    let expLen := exponentLength (afterWhole.drop fracLen)
    some (signLen + w + fracLen + expLen, fracLen > 0 || expLen > 0)

/-- The value of a number text found by `numberExtent`; an integer of more than `digitLimit`
digits is refused. -/
def numberValue (text : List Char) (isFloat : Bool) : Except Fault Value :=
  let (negative, body) := match text with
    | '-' :: rest => (true, rest)
    | _ => (false, text)
  if isFloat then
    match decimalPart body with
    | some (m, shift, rest) =>
      match exponentPart rest with
      | some (k, _) => .ok (.float (decimalFloat negative m (shift + k)))
      | none => .ok (.float (decimalFloat negative m shift))
    | none => .ok .null
  else if body.length > digitLimit then .error .badValue
  else
    let n := digitsValue (body.map fun c => c.toNat - '0'.toNat)
    .ok (.int (if negative then -(n : Int) else n))

/-- Whether `word` starts `cs`. -/
def startsWithWord (cs : List Char) (word : String) : Bool := word.toList.isPrefixOf cs

mutual
/-- Reads one value at the cursor, with room for `room` more nested lists and objects. -/
def readValue : Nat → Nat → Cursor → Reading Value
  | 0, _, c => .error (.malformed "Expecting value" c.offset)
  | fuel + 1, room, c =>
    match c.rest with
    | '"' :: rest =>
      match textBody c.offset [] (c.offset + 1) rest with
      | .ok (s, offset, rest') => .ok (.str s, ⟨rest', offset⟩)
      | .error e => .error e
    | '{' :: _ =>
      match room with
      | 0 => .error (.limit .tooDeep)
      | room + 1 => readObject fuel room (c.advance 1).skipSpace
    | '[' :: _ =>
      match room with
      | 0 => .error (.limit .tooDeep)
      | room + 1 => readArray fuel room (c.advance 1).skipSpace
    | cs =>
      if startsWithWord cs "null" then .ok (.null, c.advance 4)
      else if startsWithWord cs "true" then .ok (.bool true, c.advance 4)
      else if startsWithWord cs "false" then .ok (.bool false, c.advance 5)
      else if startsWithWord cs "NaN" then .ok (.float notANumber, c.advance 3)
      else if startsWithWord cs "Infinity" then .ok (.float (infinity false), c.advance 8)
      else if startsWithWord cs "-Infinity" then .ok (.float (infinity true), c.advance 9)
      else
        match numberExtent cs with
        | some (n, isFloat) =>
          match numberValue (cs.take n) isFloat with
          | .ok v => .ok (v, c.advance n)
          | .error f => .error (.limit f)
        | none => .error (.malformed "Expecting value" c.offset)

/-- Reads the fields of an object after its opening brace and any space. -/
def readObject : Nat → Nat → Cursor → Reading Value
  | 0, _, c => .error (.malformed "Expecting value" c.offset)
  | fuel + 1, room, c =>
    match c.rest with
    | '}' :: _ => .ok (.obj [], c.advance 1)
    | _ => readFields fuel room [] c

/-- Reads fields from a field name on, adding them to `acc`. -/
def readFields : Nat → Nat → List (String × Value) → Cursor → Reading Value
  | 0, _, _, c => .error (.malformed "Expecting value" c.offset)
  | fuel + 1, room, acc, c =>
    match c.rest with
    | '"' :: rest =>
      match textBody c.offset [] (c.offset + 1) rest with
      | .error e => .error e
      | .ok (key, offset, rest') =>
        let afterKey := (Cursor.mk rest' offset).skipSpace
        match afterKey.rest with
        | ':' :: _ =>
          match readValue fuel room (afterKey.advance 1).skipSpace with
          | .error e => .error e
          | .ok (v, next) =>
            let acc := Value.setField acc key v
            let next := next.skipSpace
            match next.rest with
            | '}' :: _ => .ok (.obj acc, next.advance 1)
            | ',' :: _ => readFields fuel room acc (next.advance 1).skipSpace
            | _ => .error (.malformed "Expecting ',' delimiter" next.offset)
        | _ => .error (.malformed "Expecting ':' delimiter" afterKey.offset)
    | _ => .error (.malformed "Expecting property name enclosed in double quotes" c.offset)

/-- Reads the items of a list after its opening bracket and any space. -/
def readArray : Nat → Nat → Cursor → Reading Value
  | 0, _, c => .error (.malformed "Expecting value" c.offset)
  | fuel + 1, room, c =>
    match c.rest with
    | ']' :: _ => .ok (.arr [], c.advance 1)
    | _ => readItems fuel room [] c

/-- Reads items from an item on, adding them to `acc` in reverse. -/
def readItems : Nat → Nat → List Value → Cursor → Reading Value
  | 0, _, _, c => .error (.malformed "Expecting value" c.offset)
  | fuel + 1, room, acc, c =>
    match readValue fuel room c with
    | .error e => .error e
    | .ok (v, next) =>
      let next := next.skipSpace
      match next.rest with
      | ']' :: _ => .ok (.arr (v :: acc).reverse, next.advance 1)
      | ',' :: _ => readItems fuel room (v :: acc) (next.advance 1).skipSpace
      | _ => .error (.malformed "Expecting ',' delimiter" next.offset)
end

/-- The line and column of an offset, both counted from one. -/
def lineAndColumn (text : List Char) (offset : Nat) : Nat × Nat :=
  let before := text.take offset
  let line := before.count '\n' + 1
  let lastBreak := (before.reverse.takeWhile (· != '\n')).length
  (line, lastBreak + 1)

/-- The fault of a failed reading: for a malformed text, what was expected, then line, column
and offset. -/
def ReadError.toFault (e : ReadError) (text : List Char) : Fault :=
  match e with
  | .malformed message offset =>
    let (line, column) := lineAndColumn text offset
    .malformedData s!"{message}: line {line} column {column} (char {offset})"
  | .limit f => f

/-- Reads a whole data text, with room for `room` nested lists and objects: one value with
optional space around it and nothing else. -/
def readDataWithin (room : Nat) (text : String) : Except Fault Value :=
  let cs := text.toList
  let fail (e : ReadError) : Except Fault Value := .error (e.toFault cs)
  match cs with
  | '\uFEFF' :: _ => fail (.malformed "Unexpected UTF-8 BOM (decode using utf-8-sig)" 0)
  | _ =>
    match readValue (2 * cs.length + 2) room (Cursor.mk cs 0).skipSpace with
    | .error e => fail e
    | .ok (v, next) =>
      let next := next.skipSpace
      if next.rest.isEmpty then .ok v else fail (.malformed "Extra data" next.offset)

/-- Reads a whole data text, nested at most `nestingLimit` deep. -/
def readData (text : String) : Except Fault Value := readDataWithin nestingLimit text

end Adventure.Json
