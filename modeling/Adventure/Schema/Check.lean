import Adventure.Schema.Basic

/-! The report of a value's problems sorted by path, and the one problem that best explains a
failure. -/

namespace Adventure.Schema

/-- Whether the keywords of a schema allow the kind of a value; without a `type` keyword
they do not say. -/
def kindFits (siblings : List Keyword) (v : Value) : Bool :=
  siblings.any fun
    | .type kinds => kinds.any (·.admits v)
    | _ => false

/-- The names of the `properties` keyword among `siblings`. -/
def declaredNames (siblings : List Keyword) : List String :=
  siblings.flatMap fun
    | .properties props => props.map (·.1)
    | _ => []

/-- The message of a value that is too short, or empty where it should not be. -/
def tooShort (v : Value) (n : Nat) : String :=
  if n = 1 then s!"{v.literal} should be non-empty" else s!"{v.literal} is too short"

/-- The problems that one keyword finds in a value; `sub` checks a part against a schema. -/
def keywordIssues (sub : Shape → Value → List Step → Except Fault (List Issue))
    (siblings : List Keyword) (k : Keyword) (v : Value) (path : List Step) :
    Except Fault (List Issue) :=
  let issueFrom (source : Source) (message : String) : Issue :=
    ⟨path, message, source, kindFits siblings v⟩
  let issue := issueFrom .other
  match k, v with
  | .type kinds, _ =>
    if kinds.any (·.admits v) then .ok []
    else
      let names := ", ".intercalate (kinds.map fun kind => quoteText kind.name)
      .ok [issue s!"{v.literal} is not of type {names}"]
  | .required names, .obj fields =>
    .ok ((names.filter fun n => !fields.any (·.1 == n)).map fun n =>
      issue s!"{quoteText n} is a required property")
  | .properties props, .obj fields =>
    List.flatten <$> props.mapM fun (name, s) =>
      match fields.find? (·.1 == name) with
      | some (_, w) => sub s w (path ++ [.field name])
      | none => .ok []
  | .additionalProperties s, .obj fields =>
    let declared := declaredNames siblings
    List.flatten <$> (fields.filter fun kv => !declared.contains kv.1).mapM fun (name, w) =>
      sub s w (path ++ [.field name])
  | .noAdditionalProperties, .obj fields =>
    let declared := declaredNames siblings
    let extras := (fields.filter fun kv => !declared.contains kv.1).map (·.1)
    if extras.isEmpty then .ok []
    else
      let verb := if extras.length = 1 then "was" else "were"
      let listed := ", ".intercalate (extras.map quoteText)
      .ok [issue s!"Additional properties are not allowed ({listed} {verb} unexpected)"]
  | .items s, .arr elems =>
    List.flatten <$> elems.zipIdx.mapM fun (w, i) => sub s w (path ++ [.index i])
  | .itemsEach ss, .arr elems =>
    List.flatten <$> (elems.zip ss).zipIdx.mapM fun ((w, s), i) => sub s w (path ++ [.index i])
  | .minItems n, .arr elems => .ok (if elems.length < n then [issue (tooShort v n)] else [])
  | .maxItems n, .arr elems =>
    if elems.length > n then
      .ok [issue (if n = 0 then s!"{v.literal} is expected to be empty" else s!"{v.literal} is too long")]
    else .ok []
  | .minLength n, .str t => .ok (if t.length < n then [issue (tooShort v n)] else [])
  | .minimum n, _ =>
    match v with
    | .bool _ => .ok []
    | _ =>
      match v.num? with
      | some x =>
        .ok (if x.lt (.int n) then [issue s!"{v.literal} is less than the minimum of {n}"] else [])
      | none => .ok []
  | .oneOf alternatives, _ => do
    let outcomes ← alternatives.mapM fun s => sub s v path
    if outcomes.any (·.isEmpty) then return []
    else return [issueFrom .alternatives s!"{v.literal} is not valid under any of the given schemas"]
  | _, _ => .ok []

/-- The nested checks a keyword needs room for beyond its own: the helpers it calls to test
the kind of a value. -/
def keywordReach : Nat := 4

/-- The problems of a value against a schema, with room for `room` nested checks. A check
takes one place, a keyword one more, a reference one more before the definition it names is
checked, and a keyword needs `keywordReach` places beyond its own; a check that finds no room
fails with `Fault.tooDeep`. -/
def checkSchema (doc : Document) : Nat → Shape → Value → List Step → Except Fault (List Issue)
  | 0, _, _, _ => .error .tooDeep
  | room + 1, .ref name, v, path =>
    match room with
    | 0 => .error .tooDeep
    | room + 1 =>
      match doc.definitions.find? (·.1 == name) with
      | some (_, s) => checkSchema doc room s v path
      | none => .ok []
  | room + 1, .keywords ks, v, path =>
    match room with
    | 0 => .error .tooDeep
    | inner + 1 =>
      if inner < keywordReach then .error .tooDeep
      else List.flatten <$> ks.mapM fun k => keywordIssues (checkSchema doc inner) ks k v path

/-- The room a check of a whole value starts with. -/
def checkRoom : Nat := 991

namespace Document

/-- The problems of a value, in the order the keywords find them. -/
def issues (doc : Document) (v : Value) : Except Fault (List Issue) :=
  checkSchema doc checkRoom doc.root v []

/-- The texts of the steps of a path. -/
def pathTexts (path : List Step) : List String := path.map Step.text

/-- Whether one list of texts comes before another, text by text. -/
def textsBefore : List String → List String → Bool
  | [], [] => false
  | [], _ :: _ => true
  | _ :: _, [] => false
  | a :: as, b :: bs => if a == b then textsBefore as bs else Text.textBefore a b

/-- Problems sorted by the texts of their paths, equal paths keeping their order. -/
def sortByPath (issues : List Issue) : List Issue :=
  issues.mergeSort fun a b => !textsBefore (pathTexts b.path) (pathTexts a.path)

/-- The problems of a value as lines `path: message`, sorted by path. -/
def report (doc : Document) (v : Value) : Except Fault (List String) := do
  return (sortByPath (← doc.issues v)).map fun i =>
    let joined := "/".intercalate (pathTexts i.path)
    let place := if joined.isEmpty then "<root>" else joined
    s!"{place}: {i.message}"

/-- Whether one path comes before another, step by step; names compare as texts, positions as
numbers, and a shorter path that the other continues comes first. -/
def stepsBefore : List Step → List Step → Bool
  | [], [] => false
  | [], _ :: _ => true
  | _ :: _, [] => false
  | a :: as, b :: bs =>
    if a == b then stepsBefore as bs
    else match a, b with
      | .field x, .field y => Text.textBefore x y
      | .index x, .index y => decide (x < y)
      | .field _, .index _ => true
      | .index _, .field _ => false

/-- Whether the first problem explains a failure strictly better than the second. -/
def explainsBetter (a b : Issue) : Bool :=
  if a.path.length != b.path.length then a.path.length < b.path.length
  else if a.path != b.path then stepsBefore b.path a.path
  else if a.source != b.source then a.source == .other
  else !a.kindFits && b.kindFits

/-- The problem that best explains why a value fails, if it fails. -/
def worstIssue (doc : Document) (v : Value) : Except Fault (Option Issue) := do
  match ← doc.issues v with
  | [] => return none
  | first :: rest =>
    return some (rest.foldl (fun best i => if explainsBetter i best then i else best) first)

end Document

end Adventure.Schema
