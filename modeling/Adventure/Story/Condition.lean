import Adventure.Value.Basic

/-! Conditions are trees of leaves under `and`, `or` and `not`; an effect is one change to the play
state. -/

namespace Adventure.Story

/-- The kinds of leaf condition. -/
inductive Test where
  | eq | ne | gt | gte | lt | lte
  | truthy | falsy
  | has | lacks
  | present | absent
  | once
  | isAt
  deriving BEq, Repr, Inhabited

namespace Test

/-- Every kind of leaf, in the order of their names' listing. -/
def all : List Test :=
  [.eq, .ne, .gt, .gte, .lt, .lte, .truthy, .falsy, .has, .lacks, .present, .absent, .once, .isAt]

/-- The name of a kind of leaf in content. -/
def name : Test → String
  | .eq => "eq" | .ne => "ne" | .gt => "gt" | .gte => "gte" | .lt => "lt" | .lte => "lte"
  | .truthy => "truthy" | .falsy => "falsy" | .has => "has" | .lacks => "lacks"
  | .present => "present" | .absent => "absent" | .once => "once" | .isAt => "is_at"

end Test

/-- A condition tree. -/
inductive Condition where
  /-- A test of the value at `path`, against `value` where the test has one. -/
  | leaf (test : Test) (path : Value) (value : Value)
  /-- Passes when every child passes (`and`). -/
  | all (children : List Condition)
  /-- Passes when some child passes (`or`). -/
  | any (children : List Condition)
  /-- Passes when its child fails (`not`). -/
  | negate (child : Condition)
  deriving Inhabited

/-- The kinds of effect. -/
inductive Change where
  | set | add | subtract | consume | markOnce | addItem | removeItem
  deriving BEq, Repr, Inhabited

namespace Change

/-- Every kind of effect. -/
def all : List Change := [.set, .add, .subtract, .consume, .markOnce, .addItem, .removeItem]

/-- The name of a kind of effect in content. -/
def name : Change → String
  | .set => "set" | .add => "add" | .subtract => "subtract" | .consume => "consume"
  | .markOnce => "markOnce" | .addItem => "addItem" | .removeItem => "removeItem"

end Change

/-- One change to the play state: its kind, the path it addresses and the value it uses. -/
structure Effect where
  change : Change
  path : Value
  value : Value
  deriving Inhabited

end Adventure.Story
