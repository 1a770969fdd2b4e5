import Adventure.Proofs.Schema.Passing
import Adventure.Story.Build

/-! Content that passes the game schema is read without fault when the fields of each of its
objects have distinct names. -/

namespace Adventure

namespace Value

mutual
/-- Whether the fields of every object in a value have distinct names. -/
def keysDistinct : Value → Bool
  | .arr items => keysDistinctItems items
  | .obj fields => decide (fields.map (·.1)).Nodup && keysDistinctFields fields
  | _ => true

/-- Whether the fields of every object in the items of a list have distinct names. -/
def keysDistinctItems : List Value → Bool
  | [] => true
  | v :: rest => v.keysDistinct && keysDistinctItems rest

/-- Whether the fields of every object in the values of fields have distinct names. -/
def keysDistinctFields : List (String × Value) → Bool
  | [] => true
  | (_, v) :: rest => v.keysDistinct && keysDistinctFields rest
end

/-- Every item of sequences whose objects have distinct names has them too. -/
theorem keysDistinct_of_mem_items : ∀ {items : List Value} {w : Value},
    keysDistinctItems items → w ∈ items → w.keysDistinct
  | _ :: _, _, h, hw => by
    simp only [keysDistinctItems, Bool.and_eq_true] at h
    rcases List.mem_cons.mp hw with rfl | hw
    · exact h.1
    · exact keysDistinct_of_mem_items h.2 hw

/-- Every value of fields whose objects have distinct names has them too. -/
theorem keysDistinct_of_mem_fields : ∀ {fields : List (String × Value)} {kv : String × Value},
    keysDistinctFields fields → kv ∈ fields → kv.2.keysDistinct
  | _ :: _, _, h, hkv => by
    simp only [keysDistinctFields, Bool.and_eq_true] at h
    rcases List.mem_cons.mp hkv with rfl | hkv
    · exact h.1
    · exact keysDistinct_of_mem_fields h.2 hkv

variable {items : List Value} {fields : List (String × Value)} {v w : Value}

/-- An item of a sequence whose objects have distinct names has them too. -/
theorem keysDistinct_item (h : (Value.arr items).keysDistinct) (hw : w ∈ items) : w.keysDistinct :=
  keysDistinct_of_mem_items (by simpa [keysDistinct] using h) hw

/-- A field of an object whose objects have distinct names has them too. -/
theorem keysDistinct_field {n : String} (h : (Value.obj fields).keysDistinct)
    (hw : (Value.obj fields).field? n = some w) : w.keysDistinct := by
  simp only [field?, Option.map_eq_some_iff] at hw
  obtain ⟨kv, hfind, rfl⟩ := hw
  simp only [keysDistinct, Bool.and_eq_true] at h
  exact keysDistinct_of_mem_fields h.2 (List.mem_of_find?_eq_some hfind)

/-- An object whose objects have distinct names has fields of distinct names. -/
theorem keysDistinct_names (h : (Value.obj fields).keysDistinct) : (fields.map (·.1)).Nodup := by
  simp only [keysDistinct, Bool.and_eq_true, decide_eq_true_eq] at h
  exact h.1

end Value

namespace Schema

variable {v w : Value}

/-- A value passes a schema of the game, or is the default `d` a reader puts in its place, and
its objects have fields of distinct names. -/
def Fits (s : Shape) (d v : Value) : Prop :=
  (v = d ∨ Passes gameDocument s v) ∧ v.keysDistinct

section Fields

variable {names : List String} {props : List (String × Shape)} {fields : List (String × Value)}
  {n : String} {s : Shape}

/-- A declared field read with a default fits its schema. -/
theorem Record.fieldOr (hr : Record gameDocument names props fields)
    (hk : (Value.obj fields).keysDistinct) (hp : (n, s) ∈ props) (d : Value) (hd : d.keysDistinct) :
    ∃ w, (Value.obj fields).getOr n d = .ok w ∧ Fits s d w := by
  obtain ⟨w, hw, hfits⟩ := hr.getOr hp d
  refine ⟨w, hw, hfits, ?_⟩
  cases hfield : (Value.obj fields).field? n with
  | none =>
    simp only [Value.field?, Option.map_eq_none_iff] at hfield
    simp only [Value.getOr, hfield, Option.map_none, Option.getD_none, Except.ok.injEq] at hw
    exact hw ▸ hd
  | some u =>
    have hu : (Value.obj fields).getOr n d = .ok u := by
      simp only [Value.field?] at hfield
      simp [Value.getOr, hfield]
    rw [hu, Except.ok.injEq] at hw
    exact hw ▸ Value.keysDistinct_field hk hfield

/-- A required field is there and passes its schema. -/
theorem Record.needed (hr : Record gameDocument names props fields)
    (hk : (Value.obj fields).keysDistinct) (hn : n ∈ names) (hp : (n, s) ∈ props) :
    ∃ w, (Value.obj fields).need n = .ok w ∧ Passes gameDocument s w ∧ w.keysDistinct := by
  obtain ⟨w, hw, hpass⟩ := hr.need hn hp
  obtain ⟨u, hu⟩ := hr.has n hn
  refine ⟨w, hw, hpass, ?_⟩
  have huw : u = w := by
    simp only [Value.field?, Option.map_eq_some_iff] at hu
    obtain ⟨kv, hfind, rfl⟩ := hu
    simpa [Value.need, hfind] using hw
  exact huw ▸ Value.keysDistinct_field hk hu

/-- A declared list field read with an empty default is a list whose items pass their schema. -/
theorem Record.items (hr : Record gameDocument names props fields)
    (hk : (Value.obj fields).keysDistinct) (hp : (n, listOf s) ∈ props) :
    ∃ items, (Value.obj fields).getOr n (.arr []) = .ok (.arr items) ∧
      ∀ w ∈ items, Passes gameDocument s w ∧ w.keysDistinct := by
  obtain ⟨w, hw, heq | hpass, hwk⟩ := hr.fieldOr hk hp (.arr []) rfl
  · subst heq
    exact ⟨[], hw, by simp⟩
  · obtain ⟨items, rfl, hitems⟩ := hpass.listOf
    exact ⟨items, hw, fun u hu => ⟨hitems u hu, Value.keysDistinct_item hwk hu⟩⟩

end Fields

/-- A value of a schema that asks for a text first is a text. -/
theorem Passes.text {rest : List Keyword} (h : Passes doc (.keywords (.type [.string] :: rest)) v) :
    ∃ t, v = .str t :=
  Kind.admits_string.mp (by simpa using (h.keyword List.mem_cons_self).admits)

/-- A text, or the absent value a reader puts in its place. -/
theorem Fits.text {rest : List Keyword} (h : Fits (.keywords (.type [.string] :: rest)) .null v) :
    v = .null ∨ ∃ t, v = .str t := by
  obtain ⟨rfl | hpass, -⟩ := h
  · exact .inl rfl
  · exact .inr hpass.text

end Schema

namespace Story

open Schema

variable {v w : Value}

section Conditions

/-- A payload that reads as a path and a value: a pair, or a value that is not a list. -/
def PairOrLone (w : Value) : Prop := ∀ items, w = .arr items → items.length = 2

/-- A text is a lone payload. -/
theorem pairOrLone_of_text (h : Kind.string.admits w) : PairOrLone w := by
  obtain ⟨t, rfl⟩ := Kind.admits_string.mp h
  intro items h
  cases h

/-- A payload that passes the path schema reads as a path and a value. -/
theorem pairOrLone_of_path (h : Passes gameDocument pathSchema w) : PairOrLone w :=
  pairOrLone_of_text (by simpa using (h.keyword List.mem_cons_self).admits)

/-- A payload that passes a pair shape reads as a path and a value. -/
theorem pairOrLone_of_pair {a b : Shape} (h : Passes gameDocument (pair a b) w) :
    PairOrLone w := by
  obtain ⟨x, y, rfl, -⟩ := h.pair
  intro items h
  cases h
  rfl

/-- A pair or a lone payload reads as a path and a value. -/
theorem pathAndValue_ok (h : PairOrLone w) : ∃ pv, pathAndValue w = .ok pv := by
  cases w with
  | arr items =>
    match items, h items rfl with
    | [p, x], _ => exact ⟨(p, x), rfl⟩
  | _ => exact ⟨_, rfl⟩

/-- A condition of the game schema is an object with one field, named for a kind of condition
and holding that kind's payload: conditions for `and` and `or`, a condition for `not`, and a
path or a pair for a test. -/
theorem conditionShape (hv : Passes gameDocument (.ref "condition") v) (hk : v.keysDistinct) :
    ∃ key w, v = .obj [(key, w)] ∧
      ((conditionKind? key = some .both ∨ conditionKind? key = some .either) ∧
          Passes gameDocument conditionList w ∨
        conditionKind? key = some .negation ∧ Passes gameDocument (.ref "condition") w ∨
        (∃ t, conditionKind? key = some (.test t)) ∧ PairOrLone w) := by
  obtain ⟨s, hs, hpass⟩ := ((hv.ref rfl).keyword List.mem_cons_self).alternative
  have hnames := fun fields (h : v = .obj fields) => Value.keysDistinct_names (h ▸ hk)
  simp only [List.mem_cons, List.not_mem_nil, or_false] at hs
  -- one alternative for each kind of condition, the payload of each checked by the field
  rcases hs with rfl | rfl | rfl | rfl | rfl | rfl | rfl | rfl | rfl | rfl | rfl | rfl | rfl |
    rfl | rfl | rfl | rfl
  all_goals
    obtain ⟨w, rfl, hw⟩ := hpass.single hnames
    refine ⟨_, w, rfl, ?_⟩
  all_goals first
    | exact .inr (.inr ⟨⟨_, rfl⟩, pairOrLone_of_pair hw⟩)
    | exact .inr (.inr ⟨⟨_, rfl⟩, pairOrLone_of_path hw⟩)
    | exact .inl ⟨.inl rfl, hw⟩
    | exact .inl ⟨.inr rfl, hw⟩
    | exact .inr (.inl ⟨rfl, hw⟩)

/-- An item of a sequence nests less deeply than the sequence. -/
theorem depth_lt_of_mem_items {items : List Value} : ∀ {w : Value}, w ∈ items →
    w.depth < (Value.arr items).depth := by
  induction items with
  | nil => intro w hw; cases hw
  | cons x rest ih =>
    intro w hw
    simp only [Value.depth, Value.depthItems] at ih ⊢
    rcases List.mem_cons.mp hw with rfl | hw
    · omega
    · have := ih hw
      omega

/-- The value of a single-field object nests less deeply than the object. -/
theorem depth_lt_single {key : String} : w.depth < (Value.obj [(key, w)]).depth := by
  simp [Value.depth, Value.depthFields]

/-- Reading a condition succeeds when the fuel exceeds its depth. -/
theorem conditionOf_ok : ∀ (fuel : Nat) {v : Value}, v.depth < fuel →
    Passes gameDocument (.ref "condition") v → v.keysDistinct → ∃ c, conditionOf fuel v = .ok c
  | 0, _, hdepth, _, _ => absurd hdepth (Nat.not_lt_zero _)
  | fuel + 1, v, hdepth, hv, hk => by
    obtain ⟨key, w, rfl, hkind⟩ := conditionShape hv hk
    have hwk : w.keysDistinct := Value.keysDistinct_field hk (n := key) (by simp [Value.field?])
    have hwd : w.depth < fuel := by
      have : w.depth < (Value.obj [(key, w)]).depth := depth_lt_single
      omega
    rcases hkind with ⟨hkey, hw⟩ | ⟨hkey, hw⟩ | ⟨⟨t, hkey⟩, hw⟩
    · -- `and` and `or`: each member is shallower than the list
      obtain ⟨items, rfl, hitems⟩ := hw.listOf
      obtain ⟨cs, hcs⟩ := mapM_ok_of_forall (f := conditionOf fuel) fun x hx =>
        conditionOf_ok fuel (Nat.lt_trans (depth_lt_of_mem_items hx) hwd) (hitems x hx)
          (Value.keysDistinct_item hwk hx)
      rcases hkey with hkey | hkey
      · exact ⟨.all cs, by simp [conditionOf, soleField, Value.size?, hkey, Value.members, hcs,
          bind, Except.bind, pure, Except.pure]⟩
      · exact ⟨.any cs, by simp [conditionOf, soleField, Value.size?, hkey, Value.members, hcs,
          bind, Except.bind, pure, Except.pure]⟩
    · obtain ⟨c, hc⟩ := conditionOf_ok fuel hwd hw hwk
      exact ⟨.negate c, by simp [conditionOf, soleField, Value.size?, hkey, hc, bind, Except.bind,
        pure, Except.pure]⟩
    · obtain ⟨pv, hpv⟩ := pathAndValue_ok hw
      exact ⟨.leaf t pv.1 pv.2, by simp [conditionOf, soleField, Value.size?, hkey, hpv, bind,
        Except.bind, pure, Except.pure]⟩

/-- Conditions that fit their schema are read. -/
theorem readConditions_ok {raw : Value} (h : Fits conditionList .null raw) :
    ∃ cs, readConditions raw = .ok cs := by
  obtain ⟨rfl | hpass, hk⟩ := h
  · exact ⟨[], rfl⟩
  · obtain ⟨items, rfl, hitems⟩ := hpass.listOf
    obtain ⟨cs, hcs⟩ := mapM_ok_of_forall (f := readCondition) fun x hx =>
      conditionOf_ok _ (Nat.lt_succ_self _) (hitems x hx) (Value.keysDistinct_item hk hx)
    by_cases ht : (Value.arr items).truthy
    · exact ⟨cs, by simp [readConditions, ht, Value.members, hcs, bind, Except.bind]⟩
    · exact ⟨[], by simp [readConditions, ht, pure, Except.pure]⟩

end Conditions

section Effects

/-- An effect of the game schema is an object with one field, named for a kind of effect and
holding a path, a pair or a text. -/
theorem effectShape (hv : Passes gameDocument (.ref "effect") v) (hk : v.keysDistinct) :
    ∃ key w c, v = .obj [(key, w)] ∧ Change.all.find? (·.name == key) = some c ∧ PairOrLone w := by
  obtain ⟨s, hs, hpass⟩ := ((hv.ref rfl).keyword List.mem_cons_self).alternative
  have hnames := fun fields (h : v = .obj fields) => Value.keysDistinct_names (h ▸ hk)
  simp only [List.mem_cons, List.not_mem_nil, or_false] at hs
  rcases hs with rfl | rfl | rfl | rfl | rfl | rfl | rfl
  all_goals
    obtain ⟨w, rfl, hw⟩ := hpass.single hnames
    refine ⟨_, w, _, rfl, rfl, ?_⟩
  all_goals first
    | exact pairOrLone_of_pair hw
    | exact pairOrLone_of_path hw
    | exact pairOrLone_of_text hw.ofKind

/-- An effect that passes its schema is read. -/
theorem readEffect_ok (hv : Passes gameDocument (.ref "effect") v) (hk : v.keysDistinct) :
    ∃ e, readEffect v = .ok e := by
  obtain ⟨key, w, c, rfl, hc, hw⟩ := effectShape hv hk
  obtain ⟨pv, hpv⟩ := pathAndValue_ok hw
  simp [readEffect, soleField, Value.size?, hc, hpv, bind, Except.bind, pure, Except.pure]

/-- Effects that fit their schema are read. -/
theorem readEffects_ok {raw : Value} (h : Fits effectList .null raw) :
    ∃ es, readEffects raw = .ok es := by
  obtain ⟨rfl | hpass, hk⟩ := h
  · exact ⟨[], rfl⟩
  · obtain ⟨items, rfl, hitems⟩ := hpass.listOf
    obtain ⟨es, hes⟩ := mapM_ok_of_forall (f := readEffect) fun x hx =>
      readEffect_ok (hitems x hx) (Value.keysDistinct_item hk hx)
    by_cases ht : (Value.arr items).truthy <;>
      simp [readEffects, ht, Value.members, hes, bind, Except.bind, pure, Except.pure]

/-- Declared effects that fit their schema are read. -/
theorem readDeclaredEffects_ok {raw : Value} (h : Fits effectList .null raw) :
    ∃ es, readDeclaredEffects raw = .ok es := by
  obtain ⟨es, hes⟩ := readEffects_ok h
  cases raw <;> simp [readDeclaredEffects, hes, Functor.map, Except.map]

end Effects

section Texts

/-- A fragment that passes its schema is read. -/
theorem readFragment_ok (hv : Passes gameDocument (.ref "fragment") v) (hk : v.keysDistinct) :
    ∃ f, readFragment v = .ok f := by
  obtain ⟨fields, rfl, hr⟩ := (hv.ref rfl).record
  obtain ⟨say, hsay, -⟩ := hr.needed hk (n := "say") (s := ofKind .string) (by simp) (by simp)
  obtain ⟨when, hwhen, hfits⟩ := hr.fieldOr hk (n := "when") (s := conditionList) (by simp) .null rfl
  obtain ⟨cs, hcs⟩ := readConditions_ok hfits
  simp only [readFragment, hsay, hwhen, hcs, bind, Except.bind]
  simp [Value.getOr, pure, Except.pure]

/-- A text reads when it is absent, a plain text, or a passage of fragments. -/
theorem readText_ok {raw d : Value} (h : Fits textSchema d raw) (hd : d = .null ∨ ∃ t, d = .str t) :
    ∃ t, readText raw = .ok t := by
  obtain ⟨rfl | hpass, hk⟩ := h
  · rcases hd with rfl | ⟨t, rfl⟩
    · exact ⟨_, rfl⟩
    · exact ⟨_, rfl⟩
  · obtain ⟨s, hs, hpass⟩ := ((hpass.ref rfl).keyword List.mem_cons_self).alternative
    simp only [List.mem_cons, List.not_mem_nil, or_false] at hs
    rcases hs with rfl | rfl
    · obtain ⟨t, rfl⟩ := hpass.text
      exact ⟨_, rfl⟩
    · obtain ⟨fields, rfl, hr⟩ := hpass.record
      obtain ⟨items, hitems, hfragments⟩ := hr.items hk (n := "fragments") (s := .ref "fragment")
        (by simp)
      obtain ⟨fs, hfs⟩ := mapM_ok_of_forall (f := readFragment) fun x hx =>
        readFragment_ok (hfragments x hx).1 (hfragments x hx).2
      simp only [readText, hitems, Value.members, hfs, bind, Except.bind]
      simp [Value.getOr, pure, Except.pure]

end Texts

section Parts

/-- A trigger that passes its schema is read. -/
theorem readTrigger_ok (hv : Passes gameDocument (.ref "trigger") v) (hk : v.keysDistinct) :
    ∃ t, readTrigger v = .ok t := by
  obtain ⟨fields, rfl, hr⟩ := (hv.ref rfl).record
  obtain ⟨when, hwhen, hfw⟩ := hr.fieldOr hk (n := "when") (s := conditionList) (by simp) .null rfl
  obtain ⟨cs, hcs⟩ := readConditions_ok hfw
  obtain ⟨effects, heff, hfe⟩ := hr.fieldOr hk (n := "effects") (s := effectList) (by simp) .null rfl
  obtain ⟨es, hes⟩ := readEffects_ok hfe
  obtain ⟨message, hmsg, hfm⟩ := hr.fieldOr hk (n := "message") (s := textSchema) (by simp) .null rfl
  obtain ⟨text, htext⟩ := readText_ok hfm (.inl rfl)
  simp only [readTrigger, hwhen, hcs, heff, hes, hmsg, htext, bind, Except.bind]
  simp [Value.getOr, pure, Except.pure]

/-- A use action that passes its schema is read. -/
theorem readUseAction_ok (hv : Passes gameDocument (.ref "useAction") v) (hk : v.keysDistinct) :
    ∃ a, readUseAction v = .ok a := by
  obtain ⟨fields, rfl, hr⟩ := (hv.ref rfl).record
  obtain ⟨response, hresp, hfr⟩ := hr.needed hk (n := "response") (s := textSchema) (by simp)
    (by simp)
  obtain ⟨text, htext⟩ := readText_ok (d := .null) ⟨.inr hfr.1, hfr.2⟩ (.inl rfl)
  obtain ⟨requires, hreq, hfq⟩ := hr.fieldOr hk (n := "requires") (s := conditionList) (by simp)
    .null rfl
  obtain ⟨cs, hcs⟩ := readConditions_ok hfq
  obtain ⟨effects, heff, hfe⟩ := hr.fieldOr hk (n := "effects") (s := effectList) (by simp) .null rfl
  obtain ⟨es, hes⟩ := readDeclaredEffects_ok hfe
  simp only [readUseAction, hresp, htext, hreq, hcs, heff, hes, bind, Except.bind]
  simp [Value.getOr, pure, Except.pure]

/-- The references of an item, as the reference checks look them up: its id is a text, and so
is its location when it has one. -/
structure Item.TextRefs (item : Item) : Prop where
  id : ∃ t, item.id = .str t
  location : item.location = .null ∨ ∃ t, item.location = .str t

/-- An item that passes its schema is read, with texts for its references. -/
theorem readItem_ok (hv : Passes gameDocument (.ref "item") v) (hk : v.keysDistinct) :
    ∃ item, readItem v = .ok item ∧ item.TextRefs := by
  obtain ⟨fields, rfl, hr⟩ := (hv.ref rfl).record
  obtain ⟨actions, hactions, hfa⟩ := hr.items hk (n := "useActions") (s := .ref "useAction")
    (by simp)
  obtain ⟨uses, huses⟩ := mapM_ok_of_forall (f := readUseAction) fun x hx =>
    readUseAction_ok (hfa x hx).1 (hfa x hx).2
  obtain ⟨onTake, honTake, hfo⟩ := hr.fieldOr hk (n := "onTake") (s := effectList) (by simp) .null rfl
  obtain ⟨es, hes⟩ := readDeclaredEffects_ok hfo
  obtain ⟨id, hid, hfi⟩ := hr.needed hk (n := "id") (s := kw [.type [.string], .minLength 1])
    (by simp) (by simp)
  obtain ⟨name, hname, -⟩ := hr.needed hk (n := "name") (s := ofKind .string) (by simp) (by simp)
  obtain ⟨desc, hdesc, hfd⟩ := hr.fieldOr hk (n := "description") (s := textSchema) (by simp)
    (.str "") rfl
  obtain ⟨descText, hdescText⟩ := readText_ok hfd (.inr ⟨_, rfl⟩)
  obtain ⟨exam, hexam, hfx⟩ := hr.fieldOr hk (n := "examineText") (s := textSchema) (by simp)
    (.str "") rfl
  obtain ⟨examText, hexamText⟩ := readText_ok hfx (.inr ⟨_, rfl⟩)
  obtain ⟨aliases, haliases, -⟩ := hr.items hk (n := "aliases") (s := ofKind .string) (by simp)
  obtain ⟨location, hlocation, hfl⟩ := hr.fieldOr hk (n := "location") (s := ofKind .string)
    (by simp) .null rfl
  obtain ⟨takeWhen, htakeWhen, hft⟩ := hr.fieldOr hk (n := "takeWhen") (s := conditionList)
    (by simp) .null rfl
  obtain ⟨cs, hcs⟩ := readConditions_ok hft
  obtain ⟨takeText, htakeText, hfk⟩ := hr.fieldOr hk (n := "onTakeText") (s := textSchema)
    (by simp) .null rfl
  obtain ⟨onTakeText, honTakeText⟩ := readText_ok hfk (.inl rfl)
  simp only [readItem, hactions, Value.members, huses, honTake, hes, hid, hname, hdesc, hdescText,
    hexam, hexamText, haliases, hlocation, htakeWhen, hcs, htakeText, honTakeText, bind,
    Except.bind]
  simp only [Value.getOr, pure, Except.pure, Except.ok.injEq, exists_eq_left']
  exact ⟨hfi.1.text, hfl.text⟩

/-- A dialogue line that passes its schema is read. -/
theorem readDialogueLine_ok (hv : Passes gameDocument (.ref "dialogueLine") v)
    (hk : v.keysDistinct) : ∃ d, readDialogueLine v = .ok d := by
  obtain ⟨fields, rfl, hr⟩ := (hv.ref rfl).record
  obtain ⟨line, hline, -⟩ := hr.needed hk (n := "playerLine") (s := ofKind .string) (by simp)
    (by simp)
  obtain ⟨response, hresp, hfr⟩ := hr.needed hk (n := "response") (s := textSchema) (by simp)
    (by simp)
  obtain ⟨text, htext⟩ := readText_ok (d := .null) ⟨.inr hfr.1, hfr.2⟩ (.inl rfl)
  obtain ⟨when, hwhen, hfw⟩ := hr.fieldOr hk (n := "when") (s := conditionList) (by simp) .null rfl
  obtain ⟨cs, hcs⟩ := readConditions_ok hfw
  obtain ⟨effects, heff, hfe⟩ := hr.fieldOr hk (n := "effects") (s := effectList) (by simp) .null rfl
  obtain ⟨es, hes⟩ := readDeclaredEffects_ok hfe
  simp only [readDialogueLine, hline, hresp, htext, hwhen, hcs, heff, hes, bind, Except.bind]
  simp [Value.getOr, pure, Except.pure]

/-- A character that passes its schema is read. -/
theorem readNpc_ok (hv : Passes gameDocument (.ref "npc") v) (hk : v.keysDistinct) :
    ∃ npc, readNpc v = .ok npc := by
  obtain ⟨fields, rfl, hr⟩ := (hv.ref rfl).record
  obtain ⟨lines, hlines, hfl⟩ := hr.items hk (n := "dialogue") (s := .ref "dialogueLine") (by simp)
  obtain ⟨dialogue, hdialogue⟩ := mapM_ok_of_forall (f := readDialogueLine) fun x hx =>
    readDialogueLine_ok (hfl x hx).1 (hfl x hx).2
  obtain ⟨id, hid, -⟩ := hr.needed hk (n := "id") (s := kw [.type [.string], .minLength 1])
    (by simp) (by simp)
  obtain ⟨name, hname, -⟩ := hr.needed hk (n := "name") (s := ofKind .string) (by simp) (by simp)
  obtain ⟨aliases, haliases, -⟩ := hr.items hk (n := "aliases") (s := ofKind .string) (by simp)
  simp only [readNpc, hlines, Value.members, hdialogue, hid, hname, haliases, bind, Except.bind]
  simp [Value.getOr, pure, Except.pure]

/-- The references of an exit, as the reference checks look them up: its target is a text, and
so is the item it requires when it names one. -/
structure Exit.TextRefs (ex : Exit) : Prop where
  target : ∃ t, ex.target = .str t
  requiredItem : ex.requiredItem = .null ∨ ∃ t, ex.requiredItem = .str t

/-- An exit that passes its schema is read, with texts for its references. -/
theorem readExit_ok (hv : Passes gameDocument (.ref "exit") v) (hk : v.keysDistinct) :
    ∃ ex, readExit v = .ok ex ∧ ex.TextRefs := by
  obtain ⟨fields, rfl, hr⟩ := (hv.ref rfl).record
  obtain ⟨aliases, haliases, -⟩ := hr.items hk (n := "aliases") (s := ofKind .string) (by simp)
  obtain ⟨target, htarget, hft⟩ := hr.needed hk (n := "targetRoomId") (s := ofKind .string)
    (by simp) (by simp)
  obtain ⟨item, hitem, hfi⟩ := hr.fieldOr hk (n := "requiredItem") (s := ofKind .string) (by simp)
    .null rfl
  obtain ⟨requires, hreq, hfq⟩ := hr.fieldOr hk (n := "requires") (s := conditionList) (by simp)
    .null rfl
  obtain ⟨cs, hcs⟩ := readConditions_ok hfq
  obtain ⟨blocked, hblocked, hfb⟩ := hr.fieldOr hk (n := "blockedMessage") (s := textSchema)
    (by simp) .null rfl
  obtain ⟨text, htext⟩ := readText_ok hfb (.inl rfl)
  simp only [readExit, haliases, Value.members, htarget, hitem, hreq, hcs, hblocked, htext, bind,
    Except.bind]
  simp only [Value.getOr, pure, Except.pure, Except.ok.injEq, exists_eq_left']
  exact ⟨hft.1.text, hfi.text⟩

/-- The references of a room, as the reference checks look them up: its id is a text, and so
are the references of its exits and items. -/
structure Room.TextRefs (room : Room) : Prop where
  id : ∃ t, room.id = .str t
  exits : ∀ ex ∈ room.exits, ex.TextRefs
  items : ∀ item ∈ room.items, item.TextRefs

/-- A room that passes its schema is read, with texts for its references. -/
theorem readRoom_ok (hv : Passes gameDocument (.ref "room") v) (hk : v.keysDistinct) :
    ∃ room, readRoom v = .ok room ∧ room.TextRefs := by
  obtain ⟨fields, rfl, hr⟩ := (hv.ref rfl).record
  obtain ⟨id, hid, hfi⟩ := hr.needed hk (n := "id") (s := kw [.type [.string], .minLength 1])
    (by simp) (by simp)
  obtain ⟨name, hname, -⟩ := hr.needed hk (n := "name") (s := ofKind .string) (by simp) (by simp)
  obtain ⟨desc, hdesc, hfd⟩ := hr.fieldOr hk (n := "description") (s := textSchema) (by simp)
    (.str "") rfl
  obtain ⟨descText, hdescText⟩ := readText_ok hfd (.inr ⟨_, rfl⟩)
  obtain ⟨itemValues, hitemValues, hfit⟩ := hr.items hk (n := "items") (s := .ref "item") (by simp)
  obtain ⟨items, hitems, hitemRefs⟩ := mapM_ok_keeping (f := readItem) fun x hx =>
    readItem_ok (hfit x hx).1 (hfit x hx).2
  obtain ⟨npcValues, hnpcValues, hfn⟩ := hr.items hk (n := "npcs") (s := .ref "npc") (by simp)
  obtain ⟨npcs, hnpcs⟩ := mapM_ok_of_forall (f := readNpc) fun x hx =>
    readNpc_ok (hfn x hx).1 (hfn x hx).2
  obtain ⟨exitValues, hexitValues, hfe⟩ := hr.items hk (n := "exits") (s := .ref "exit") (by simp)
  obtain ⟨exits, hexits, hexitRefs⟩ := mapM_ok_keeping (f := readExit) fun x hx =>
    readExit_ok (hfe x hx).1 (hfe x hx).2
  obtain ⟨triggerValues, htriggerValues, hft⟩ := hr.items hk (n := "triggers") (s := .ref "trigger")
    (by simp)
  obtain ⟨triggers, htriggers⟩ := mapM_ok_of_forall (f := readTrigger) fun x hx =>
    readTrigger_ok (hft x hx).1 (hft x hx).2
  simp only [readRoom, hid, hname, hdesc, hdescText, hitemValues, Value.members, hitems, hnpcValues,
    hnpcs, hexitValues, hexits, htriggerValues, htriggers, bind, Except.bind]
  simp only [pure, Except.pure, Except.ok.injEq, exists_eq_left']
  exact ⟨hfi.1.text, hexitRefs, hitemRefs⟩

/-- A hint that passes its schema is read. -/
theorem readHint_ok (hv : Passes gameDocument (.ref "hint") v) (hk : v.keysDistinct) :
    ∃ hint, readHint v = .ok hint := by
  obtain ⟨fields, rfl, hr⟩ := (hv.ref rfl).record
  obtain ⟨raw, hraw, hfr⟩ := hr.needed hk (n := "text") (s := textSchema) (by simp) (by simp)
  obtain ⟨text, htext⟩ := readText_ok (d := .null) ⟨.inr hfr.1, hfr.2⟩ (.inl rfl)
  obtain ⟨when, hwhen, hfw⟩ := hr.fieldOr hk (n := "when") (s := conditionList) (by simp) .null rfl
  obtain ⟨cs, hcs⟩ := readConditions_ok hfw
  simp only [readHint, hraw, htext, hwhen, hcs, bind, Except.bind]
  simp [Value.getOr, pure, Except.pure]

end Parts

/-- The references of a game, as the reference checks look them up: its starting room is a
text, and so are the references of its rooms. -/
structure Game.TextRefs (g : Game) : Prop where
  startingRoom : ∃ t, g.startingRoom = .str t
  rooms : ∀ room ∈ g.rooms, room.TextRefs

/-- Content that passes the game schema, its objects with fields of distinct names, is read
without fault, into a game whose references are texts. -/
theorem readGame_ok {d : Value} (hd : gameDocument.issues d = .ok []) (hk : d.keysDistinct) :
    ∃ g, readGame d = .ok g ∧ g.TextRefs := by
  obtain ⟨fields, rfl, hr⟩ := (Document.passes_root hd).record
  obtain ⟨roomsValue, hroomsValue, hfr⟩ := hr.fieldOr hk (n := "rooms")
    (s := kw [.type [.array], .minItems 1, .items (.ref "room")]) (by simp) (.arr []) rfl
  -- the rooms are a list of at least one room, where the other lists may be absent
  obtain ⟨roomValues, rfl, hroomPass⟩ : ∃ items, roomsValue = .arr items ∧
      ∀ w ∈ items, Passes gameDocument (.ref "room") w ∧ w.keysDistinct := by
    obtain ⟨rfl | hpass, hkr⟩ := hfr
    · exact ⟨[], rfl, by simp⟩
    · obtain ⟨items, rfl, hitems⟩ := hpass.arrayOf (s := .ref "room") (by simp) (by simp)
      exact ⟨items, rfl, fun w hw => ⟨hitems w hw, Value.keysDistinct_item hkr hw⟩⟩
  obtain ⟨rooms, hrooms, hroomRefs⟩ := mapM_ok_keeping (f := readRoom) fun x hx =>
    readRoom_ok (hroomPass x hx).1 (hroomPass x hx).2
  obtain ⟨hintValues, hhintValues, hfh⟩ := hr.items hk (n := "hints") (s := .ref "hint") (by simp)
  obtain ⟨hints, hhints⟩ := mapM_ok_of_forall (f := readHint) fun x hx =>
    readHint_ok (hfh x hx).1 (hfh x hx).2
  obtain ⟨start, hstart, hfs⟩ := hr.fieldOr hk (n := "startingRoom") (s := ofKind .string)
    (by simp) (.str "") rfl
  obtain ⟨intro, hintro, hfi⟩ := hr.fieldOr hk (n := "introText") (s := textSchema) (by simp)
    (.str "") rfl
  obtain ⟨introText, hintroText⟩ := readText_ok hfi (.inr ⟨_, rfl⟩)
  obtain ⟨win, hwin, hfw⟩ := hr.fieldOr hk (n := "winMessage") (s := textSchema) (by simp)
    (.str "") rfl
  obtain ⟨winText, hwinText⟩ := readText_ok hfw (.inr ⟨_, rfl⟩)
  obtain ⟨flags, hflags, hff⟩ := hr.fieldOr hk (n := "initialFlags")
    (s := kw [.type [.object], .additionalProperties scalarSchema]) (by simp) (.obj []) rfl
  obtain ⟨flagFields, rfl⟩ : ∃ entries, flags = .obj entries := by
    obtain ⟨rfl | hpass, -⟩ := hff
    · exact ⟨[], rfl⟩
    · exact Kind.admits_object.mp (by simpa using (hpass.keyword List.mem_cons_self).admits)
  obtain ⟨triggerValues, htriggerValues, hft⟩ := hr.items hk (n := "globalTriggers")
    (s := .ref "trigger") (by simp)
  obtain ⟨triggers, htriggers⟩ := mapM_ok_of_forall (f := readTrigger) fun x hx =>
    readTrigger_ok (hft x hx).1 (hft x hx).2
  have hstartText : ∃ t, start = .str t := by
    obtain ⟨rfl | hpass, -⟩ := hfs
    · exact ⟨"", rfl⟩
    · exact hpass.text
  simp only [readGame, hroomsValue, Value.members, hrooms, hhintValues, hhints, hstart, hintro,
    hintroText, hwin, hwinText, hflags, Flags.update, htriggerValues, htriggers, bind, Except.bind]
  simp only [Value.getOr, pure, Except.pure, Except.ok.injEq, exists_eq_left']
  exact ⟨hstartText, hroomRefs⟩

end Story

end Adventure
