import Adventure.Value.Basic

/-! Flags: a map from keys to values that keeps the order in which keys were first set. -/

namespace Adventure.Story

/-- Values under keys, in the order the keys were first set. -/
structure Flags where
  entries : List (Value × Value)
  deriving Inhabited

namespace Flags

/-- No flags. -/
def empty : Flags := ⟨[]⟩

/-- The value under `key`: the first entry whose key is the same member as `key`, as a map finds
its keys. -/
def get? (fl : Flags) (key : Value) : Option Value :=
  (fl.entries.find? fun e => e.1.sameItem key).map (·.2)

/-- The keys, in order. -/
def keys (fl : Flags) : List Value := fl.entries.map (·.1)

/-- Sets `key` to `v`: in place when the key is there, else as the last key. -/
def set (fl : Flags) (key v : Value) : Flags :=
  if fl.entries.any (fun e => e.1.sameItem key) then
    ⟨fl.entries.map fun e => if e.1.sameItem key then (e.1, v) else e⟩
  else ⟨fl.entries ++ [(key, v)]⟩

/-- Sets `key` to `v`, refusing a key that cannot be one. -/
def insert (fl : Flags) (key v : Value) : Except Fault Flags :=
  if key.hashable then .ok (fl.set key v) else .error .wrongKind

/-- The key and value of one entry of a sequence of pairs: a list, text or object of exactly
two members. -/
def pairOf (v : Value) : Except Fault (Value × Value) :=
  match v with
  | .arr _ | .str _ | .obj _ => do
    let ms ← v.members
    match ms with
    | [k, w] => pure (k, w)
    | _ => throw .badValue
  | _ => throw .wrongKind

/-- Sets every entry of `source` in turn: the fields of an object, or the pairs of a sequence. -/
def update (fl : Flags) (source : Value) : Except Fault Flags :=
  match source with
  | .obj fields => .ok (fields.foldl (fun acc kv => acc.set (.str kv.1) kv.2) fl)
  | _ => do
    let items ← source.members
    items.foldlM (fun acc item => do
      let (k, w) ← pairOf item
      acc.insert k w) fl

end Flags

end Adventure.Story
