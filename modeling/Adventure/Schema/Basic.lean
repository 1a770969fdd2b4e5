import Adventure.Value.Show

/-! A small schema language with the keywords the game and save formats need; checking a value
lists its problems with their paths and messages. -/

namespace Adventure.Schema

/-- The kinds of value a schema can ask for. -/
inductive Kind where
  | object | array | string | number | integer | boolean | null
  deriving BEq, Repr

namespace Kind

/-- The name of a kind. -/
def name : Kind → String
  | .object => "object" | .array => "array" | .string => "string" | .number => "number"
  | .integer => "integer" | .boolean => "boolean" | .null => "null"

/-- Whether a value is of a kind. -/
def admits : Kind → Value → Bool
  | .object, .obj _ => true
  | .array, .arr _ => true
  | .string, .str _ => true
  | .number, .int _ => true
  | .number, .float _ => true
  | .integer, .int _ => true
  | .integer, .float f => f == f.round && f - f == 0.0
  | .boolean, .bool _ => true
  | .null, .null => true
  | _, _ => false

end Kind

mutual
/-- A schema: a reference to a named definition, or keywords. -/
inductive Shape where
  /-- The definition of the given name. -/
  | ref (name : String)
  /-- Keywords, checked in order. -/
  | keywords (ks : List Keyword)

/-- One keyword of a schema. -/
inductive Keyword where
  | type (kinds : List Kind)
  | required (names : List String)
  | properties (props : List (String × Shape))
  | additionalProperties (s : Shape)
  | noAdditionalProperties
  | items (s : Shape)
  | itemsEach (ss : List Shape)
  | minItems (n : Nat)
  | maxItems (n : Nat)
  | minLength (n : Nat)
  | minimum (n : Int)
  | oneOf (alternatives : List Shape)
end

/-- A schema together with its named definitions. -/
structure Document where
  definitions : List (String × Shape)
  root : Shape

/-- One step of a path into a value: a field name or a list position. -/
inductive Step where
  | field (name : String)
  | index (i : Nat)
  deriving BEq

/-- The text of a step. -/
def Step.text : Step → String
  | .field n => n
  | .index i => toString i

/-- What kind of keyword found a problem: `oneOf` problems are the weakest. -/
inductive Source where
  | alternatives
  | other
  deriving BEq

/-- A problem found by checking: where, what, which kind of keyword, and whether the value was
at least of a kind its schema allows. -/
structure Issue where
  path : List Step
  message : String
  source : Source
  kindFits : Bool

end Adventure.Schema
