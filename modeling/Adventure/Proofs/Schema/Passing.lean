import Adventure.Schema.Check
import Adventure.Schema.Game
import Adventure.Proofs.Mapping

/-! What a passing schema check says about a value (`Passes`), keyword by keyword and for the
shapes the game schema is built from. -/

namespace Adventure.Schema

variable {doc : Document} {v w : Value}

/-- A value passes a schema: a check of it with some room, at some path, finds no problem. -/
def Passes (doc : Document) (s : Shape) (v : Value) : Prop :=
  ∃ room path, checkSchema doc room s v path = .ok []

/-- A keyword among `siblings` finds no problem in a value, with some room and at some path. -/
def KeywordPasses (doc : Document) (siblings : List Keyword) (k : Keyword) (v : Value) : Prop :=
  ∃ room path, keywordIssues (checkSchema doc room) siblings k v path = .ok []

section Unfolding

/-! One equation for each case of a check and for each keyword the shapes below use; the proofs
cite these instead of unfolding the checks. -/

variable {sub : Shape → Value → List Step → Except Fault (List Issue)} {siblings : List Keyword}
  {path : List Step}

/-- With no room left the check is refused as too deep. -/
theorem checkSchema_zero (s : Shape) : checkSchema doc 0 s v path = .error .tooDeep := rfl

/-- With room for one step only the check is refused as too deep. -/
theorem checkSchema_one (s : Shape) : checkSchema doc 1 s v path = .error .tooDeep := by
  cases s <;> rfl

/-- A reference checks the value against the definition it names, and passes when there is none. -/
theorem checkSchema_ref (room : Nat) (name : String) :
    checkSchema doc (room + 2) (.ref name) v path =
      match doc.definitions.find? (·.1 == name) with
      | some (_, s) => checkSchema doc room s v path
      | none => .ok [] := rfl

/-- Keywords check the value one after the other, their issues joined, unless the room left is below
their reach. -/
theorem checkSchema_keywords (inner : Nat) (ks : List Keyword) :
    checkSchema doc (inner + 2) (.keywords ks) v path =
      if inner < keywordReach then .error .tooDeep
      else List.flatten <$> ks.mapM fun k => keywordIssues (checkSchema doc inner) ks k v path :=
  rfl

/-- A type keyword reports a value of none of its kinds. -/
theorem keywordIssues_type (kinds : List Kind) :
    keywordIssues sub siblings (.type kinds) v path =
      let names := ", ".intercalate (kinds.map fun kind => quoteText kind.name)
      if kinds.any (·.admits v) then .ok []
      else .ok [⟨path, s!"{v.literal} is not of type {names}", .other, kindFits siblings v⟩] :=
  rfl

/-- A required keyword reports every name the object lacks. -/
theorem keywordIssues_required (names : List String) (fields : List (String × Value)) :
    keywordIssues sub siblings (.required names) (.obj fields) path =
      .ok ((names.filter fun n => !fields.any (·.1 == n)).map fun n =>
        let quoted := quoteText n
        ⟨path, s!"{quoted} is a required property", .other, kindFits siblings (.obj fields)⟩) :=
  rfl

/-- A properties keyword checks every declared field the object has. -/
theorem keywordIssues_properties (props : List (String × Shape))
    (fields : List (String × Value)) :
    keywordIssues sub siblings (.properties props) (.obj fields) path =
      List.flatten <$> props.mapM fun (name, s) =>
        match fields.find? (·.1 == name) with
        | some (_, w) => sub s w (path ++ [.field name])
        | none => .ok [] := rfl

/-- Forbidding other properties reports the fields no sibling keyword declares. -/
theorem keywordIssues_noAdditionalProperties (fields : List (String × Value)) :
    keywordIssues sub siblings .noAdditionalProperties (.obj fields) path =
      let extras := (fields.filter fun kv => !(declaredNames siblings).contains kv.1).map (·.1)
      let verb := if extras.length = 1 then "was" else "were"
      let listed := ", ".intercalate (extras.map quoteText)
      if extras.isEmpty then .ok []
      else .ok [⟨path, s!"Additional properties are not allowed ({listed} {verb} unexpected)",
        .other, kindFits siblings (.obj fields)⟩] := rfl

/-- An items keyword checks every item, at its index. -/
theorem keywordIssues_items (s : Shape) (elems : List Value) :
    keywordIssues sub siblings (.items s) (.arr elems) path =
      List.flatten <$> elems.zipIdx.mapM fun (w, i) => sub s w (path ++ [.index i]) := rfl

/-- A positional items keyword checks each item against the shape at its position. -/
theorem keywordIssues_itemsEach (ss : List Shape) (elems : List Value) :
    keywordIssues sub siblings (.itemsEach ss) (.arr elems) path =
      List.flatten <$> (elems.zip ss).zipIdx.mapM fun ((w, s), i) => sub s w (path ++ [.index i]) :=
  rfl

/-- A minimum-items keyword reports a sequence that is too short. -/
theorem keywordIssues_minItems (n : Nat) (elems : List Value) :
    keywordIssues sub siblings (.minItems n) (.arr elems) path =
      .ok (if elems.length < n then [⟨path, tooShort (.arr elems) n, .other,
        kindFits siblings (.arr elems)⟩] else []) := rfl

/-- A maximum-items keyword reports a sequence that is too long. -/
theorem keywordIssues_maxItems (n : Nat) (elems : List Value) :
    keywordIssues sub siblings (.maxItems n) (.arr elems) path =
      let shown := (Value.arr elems).literal
      if elems.length > n then
        .ok [⟨path, if n = 0 then s!"{shown} is expected to be empty" else s!"{shown} is too long",
          .other, kindFits siblings (.arr elems)⟩]
      else .ok [] := rfl

/-- An alternatives keyword passes when some alternative finds nothing, and reports the value
otherwise. -/
theorem keywordIssues_oneOf (alternatives : List Shape) :
    keywordIssues sub siblings (.oneOf alternatives) v path =
      (do
        let outcomes ← alternatives.mapM fun s => sub s v path
        if outcomes.any (·.isEmpty) then return []
        else return [⟨path, s!"{v.literal} is not valid under any of the given schemas",
          .alternatives, kindFits siblings v⟩]) := rfl

end Unfolding

section Faults

/-- The schemas that a keyword checks parts of a value against. -/
def Keyword.subs : Keyword → List Shape
  | .properties props => props.map (·.2)
  | .additionalProperties s => [s]
  | .items s => [s]
  | .itemsEach ss => ss
  | .oneOf alternatives => alternatives
  | _ => []

/-- A keyword fails only where a nested check against one of its schemas fails, with its fault. -/
theorem keywordIssues_fault {sub : Shape → Value → List Step → Except Fault (List Issue)}
    {siblings : List Keyword} {k : Keyword} {path : List Step} {e : Fault}
    (h : keywordIssues sub siblings k v path = .error e) :
    ∃ s ∈ k.subs, ∃ w p, sub s w p = .error e := by
  unfold keywordIssues at h
  dsimp only at h
  split at h
  -- the keywords that find problems themselves never fail
  all_goals first
    | (split at h <;> cases h)
    | cases h
    | skip
  -- `properties`, `additionalProperties`, `items` and `itemsEach` fail where a part does
  · obtain ⟨x, hx_mem, hx⟩ := exists_error_of_flatten_mapM h
    split at hx
    · exact ⟨x.2, List.mem_map_of_mem hx_mem, _, _, hx⟩
    · cases hx
  · obtain ⟨_, -, hx⟩ := exists_error_of_flatten_mapM h
    exact ⟨_, List.mem_singleton_self _, _, _, hx⟩
  · obtain ⟨_, -, hx⟩ := exists_error_of_flatten_mapM h
    exact ⟨_, List.mem_singleton_self _, _, _, hx⟩
  · obtain ⟨x, hx_mem, hx⟩ := exists_error_of_flatten_mapM h
    exact ⟨_, (List.of_mem_zip (List.fst_mem_of_mem_zipIdx hx_mem)).2, _, _, hx⟩
  -- `minimum` never fails
  · split at h
    · cases h
    · split at h <;> cases h
  -- `oneOf` fails where an alternative does
  · rename_i alternatives
    cases hm : (alternatives.mapM fun s => sub s v path) with
    | error e' =>
      simp only [hm, bind, Except.bind, Except.error.injEq] at h
      obtain ⟨s, hs, hx⟩ := exists_error_of_mapM hm
      exact ⟨s, hs, _, _, h ▸ hx⟩
    | ok outcomes =>
      simp only [hm, bind, Except.bind, pure, Except.pure] at h
      split at h <;> cases h

/-- A check fails only for lack of room. -/
theorem checkSchema_fault : ∀ (room : Nat) {s : Shape} {v : Value} {path : List Step} {e : Fault},
    checkSchema doc room s v path = .error e → e = .tooDeep
  | 0, s, _, _, _, h => by simpa [checkSchema_zero] using h.symm
  | 1, s, _, _, _, h => by simpa [checkSchema_one] using h.symm
  | room + 2, .ref name, _, _, _, h => by
    rw [checkSchema_ref] at h
    split at h
    · exact checkSchema_fault room h
    · cases h
  | inner + 2, .keywords ks, _, _, _, h => by
    rw [checkSchema_keywords] at h
    split at h
    · simpa using h.symm
    · obtain ⟨k, -, hk⟩ := exists_error_of_flatten_mapM h
      obtain ⟨_, -, _, _, hsub⟩ := keywordIssues_fault hk
      exact checkSchema_fault inner hsub

/-- The check of a whole value fails only for lack of room. -/
theorem Document.issues_fault {e : Fault} (h : doc.issues v = .error e) : e = .tooDeep :=
  checkSchema_fault _ h

/-- A keyword whose schemas are checked without failing anywhere does not fail. -/
theorem keywordIssues_ok {sub : Shape → Value → List Step → Except Fault (List Issue)}
    {siblings : List Keyword} {k : Keyword} {path : List Step}
    (hsubs : ∀ s ∈ k.subs, ∀ w p, ∃ issues, sub s w p = .ok issues) :
    ∃ issues, keywordIssues sub siblings k v path = .ok issues := by
  cases h : keywordIssues sub siblings k v path with
  | ok issues => exact ⟨issues, rfl⟩
  | error e =>
    obtain ⟨s, hs, w, p, hsub⟩ := keywordIssues_fault h
    obtain ⟨issues, hok⟩ := hsubs s hs w p
    rw [hok] at hsub
    cases hsub

/-- A check of a schema with `room` completes, for every value at every path. -/
def Completes (doc : Document) (room : Nat) (s : Shape) : Prop :=
  ∀ v path, ∃ issues, checkSchema doc room s v path = .ok issues

/-- Keywords complete with room for their own check and for what their schemas need. -/
theorem Completes.keywords {inner : Nat} {ks : List Keyword} (hreach : keywordReach ≤ inner)
    (hks : ∀ k ∈ ks, ∀ s ∈ k.subs, Completes doc inner s) :
    Completes doc (inner + 2) (.keywords ks) := by
  intro v path
  rw [checkSchema_keywords, if_neg (Nat.not_lt.mpr hreach)]
  have hkeyword : ∀ k ∈ ks, ∃ issues,
      keywordIssues (checkSchema doc inner) ks k v path = .ok issues :=
    fun k hk => keywordIssues_ok fun s hs => hks k hk s hs
  obtain ⟨results, hresults⟩ := mapM_ok_of_forall hkeyword
  exact ⟨_, by rw [hresults]; rfl⟩

/-- A report has one line for each problem the check finds. -/
theorem Document.report_ok {lines : List String} (h : doc.report v = .ok lines) :
    ∃ issues, doc.issues v = .ok issues ∧ lines.length = issues.length := by
  unfold Document.report at h
  cases hi : doc.issues v with
  | error e => simp [hi, bind, Except.bind] at h
  | ok issues =>
    simp only [hi, bind, Except.bind, pure, Except.pure, Except.ok.injEq] at h
    refine ⟨issues, rfl, ?_⟩
    rw [← h, List.length_map, Document.sortByPath, List.length_mergeSort]

/-- A report fails only where the check does. -/
theorem Document.report_fault {e : Fault} (h : doc.report v = .error e) :
    doc.issues v = .error e := by
  unfold Document.report at h
  cases hi : doc.issues v with
  | error e' =>
    simp only [hi, bind, Except.bind, Except.error.injEq] at h
    rw [h]
  | ok issues => simp [hi, bind, Except.bind, pure, Except.pure] at h

end Faults

section Keywords

variable {siblings : List Keyword}

/-- A whole value with no problem passes the document's root schema. -/
theorem Document.passes_root (h : doc.issues v = .ok []) : Passes doc doc.root v :=
  ⟨checkRoom, [], h⟩

/-- The definition a reference names passes what the reference passes. -/
theorem Passes.ref {name : String} {entry : String × Shape} (h : Passes doc (.ref name) v)
    (hdef : doc.definitions.find? (·.1 == name) = some entry) : Passes doc entry.2 v := by
  obtain ⟨room, path, h⟩ := h
  match room, h with
  | 0, h => simp [checkSchema_zero] at h
  | 1, h => simp [checkSchema_one] at h
  | room + 2, h =>
    rw [checkSchema_ref, hdef] at h
    exact ⟨room, path, h⟩

/-- Each keyword of a schema passes what the schema passes. -/
theorem Passes.keyword {ks : List Keyword} {k : Keyword} (h : Passes doc (.keywords ks) v)
    (hk : k ∈ ks) : KeywordPasses doc ks k v := by
  obtain ⟨room, path, h⟩ := h
  match room, h with
  | 0, h => simp [checkSchema_zero] at h
  | 1, h => simp [checkSchema_one] at h
  | inner + 2, h =>
    rw [checkSchema_keywords] at h
    split at h
    · cases h
    · exact ⟨inner, path, forall_nil_of_flatten_mapM h k hk⟩

/-- A value that passes a type keyword is of one of its kinds. -/
theorem KeywordPasses.admits {kinds : List Kind} (h : KeywordPasses doc siblings (.type kinds) v) :
    kinds.any (·.admits v) := by
  obtain ⟨room, path, h⟩ := h
  rw [keywordIssues_type] at h
  dsimp only at h
  cases hk : kinds.any (·.admits v)
  · simp [hk] at h
  · rfl

/-- An object that passes a required keyword has every name it requires. -/
theorem KeywordPasses.present {names : List String} {fields : List (String × Value)} {n : String}
    (h : KeywordPasses doc siblings (.required names) (.obj fields)) (hn : n ∈ names) :
    ∃ w, (Value.obj fields).field? n = some w := by
  obtain ⟨room, path, h⟩ := h
  simp only [keywordIssues_required, Except.ok.injEq, List.map_eq_nil_iff,
    List.filter_eq_nil_iff] at h
  have hany : fields.any (·.1 == n) := by simpa using h n hn
  obtain ⟨kv, hkv, hname⟩ := List.any_eq_true.mp hany
  cases hfind : fields.find? (·.1 == n) with
  | none => exact absurd hname (List.find?_eq_none.mp hfind kv hkv)
  | some found => exact ⟨found.2, by simp [Value.field?, hfind]⟩

/-- A field of an object that passes a properties keyword passes its declared shape. -/
theorem KeywordPasses.field {props : List (String × Shape)} {fields : List (String × Value)}
    {n : String} {s : Shape} (h : KeywordPasses doc siblings (.properties props) (.obj fields))
    (hp : (n, s) ∈ props) (hw : (Value.obj fields).field? n = some w) : Passes doc s w := by
  obtain ⟨room, path, h⟩ := h
  rw [keywordIssues_properties] at h
  have hx := forall_nil_of_flatten_mapM h (n, s) hp
  simp only [Value.field?, Option.map_eq_some_iff] at hw
  obtain ⟨⟨n', w'⟩, hfind, rfl⟩ := hw
  simp only [hfind] at hx
  exact ⟨room, _, hx⟩

/-- Every item of a sequence that passes an items keyword passes its shape. -/
theorem KeywordPasses.item {s : Shape} {elems : List Value}
    (h : KeywordPasses doc siblings (.items s) (.arr elems)) (hw : w ∈ elems) : Passes doc s w := by
  obtain ⟨room, path, h⟩ := h
  rw [keywordIssues_items] at h
  obtain ⟨i, hi⟩ := List.mem_iff_getElem?.mp hw
  exact ⟨room, _, forall_nil_of_flatten_mapM h (w, i) (List.mem_zipIdx_iff_getElem?.mpr hi)⟩

/-- Each item of a sequence that passes a positional items keyword passes the shape at its
position. -/
theorem KeywordPasses.eachItem {ss : List Shape} {elems : List Value} {s : Shape}
    (h : KeywordPasses doc siblings (.itemsEach ss) (.arr elems)) (hw : (w, s) ∈ elems.zip ss) :
    Passes doc s w := by
  obtain ⟨room, path, h⟩ := h
  rw [keywordIssues_itemsEach] at h
  obtain ⟨i, hi⟩ := List.mem_iff_getElem?.mp hw
  exact ⟨room, _, forall_nil_of_flatten_mapM h ((w, s), i) (List.mem_zipIdx_iff_getElem?.mpr hi)⟩

/-- A sequence that passes a minimum-items keyword is at least that long. -/
theorem KeywordPasses.minItems {n : Nat} {elems : List Value}
    (h : KeywordPasses doc siblings (.minItems n) (.arr elems)) : n ≤ elems.length := by
  obtain ⟨room, path, h⟩ := h
  by_contra hlt
  simp [keywordIssues_minItems, Nat.lt_of_not_le hlt] at h

/-- A sequence that passes a maximum-items keyword is at most that long. -/
theorem KeywordPasses.maxItems {n : Nat} {elems : List Value}
    (h : KeywordPasses doc siblings (.maxItems n) (.arr elems)) : elems.length ≤ n := by
  obtain ⟨room, path, h⟩ := h
  by_contra hlt
  simp [keywordIssues_maxItems, Nat.lt_of_not_le hlt] at h

/-- Every field of an object that passes the ban on other properties is declared by a sibling
keyword. -/
theorem KeywordPasses.declared {fields : List (String × Value)} {kv : String × Value}
    (h : KeywordPasses doc siblings .noAdditionalProperties (.obj fields)) (hkv : kv ∈ fields) :
    (declaredNames siblings).contains kv.1 := by
  obtain ⟨room, path, h⟩ := h
  rw [keywordIssues_noAdditionalProperties] at h
  dsimp only at h
  split at h
  · rename_i hempty
    simp only [List.isEmpty_iff, List.map_eq_nil_iff, List.filter_eq_nil_iff] at hempty
    simpa using hempty kv hkv
  · cases h

/-- A value that passes an alternatives keyword passes one of the alternatives. -/
theorem KeywordPasses.alternative {alternatives : List Shape}
    (h : KeywordPasses doc siblings (.oneOf alternatives) v) : ∃ s ∈ alternatives, Passes doc s v := by
  obtain ⟨room, path, h⟩ := h
  rw [keywordIssues_oneOf] at h
  cases hm : alternatives.mapM fun s => checkSchema doc room s v path with
  | error e => simp [hm, bind, Except.bind] at h
  | ok outcomes =>
    simp only [hm, bind, Except.bind, pure, Except.pure] at h
    split at h
    · rename_i hany
      obtain ⟨o, ho, hempty⟩ := List.any_eq_true.mp hany
      obtain ⟨s, hs, hso⟩ := exists_of_mem_mapM hm ho
      refine ⟨s, hs, room, path, ?_⟩
      rw [hso, List.isEmpty_iff.mp hempty]
    · cases h

end Keywords

section Shapes

/-- The array kind admits exactly the sequences. -/
theorem Kind.admits_array : Kind.array.admits v ↔ ∃ items, v = .arr items := by
  cases v <;> simp [Kind.admits]

/-- The object kind admits exactly the objects. -/
theorem Kind.admits_object : Kind.object.admits v ↔ ∃ fields, v = .obj fields := by
  cases v <;> simp [Kind.admits]

/-- The string kind admits exactly the texts. -/
theorem Kind.admits_string : Kind.string.admits v ↔ ∃ t, v = .str t := by
  cases v <;> simp [Kind.admits]

/-- A value that passes the shape of a kind is of that kind. -/
theorem Passes.ofKind {k : Kind} (h : Passes doc (ofKind k) v) : k.admits v := by
  simpa using (h.keyword List.mem_cons_self).admits

/-- A value that a schema asks to be a list with items of `s` is such a list. -/
theorem Passes.arrayOf {ks : List Keyword} {s : Shape} (h : Passes doc (.keywords ks) v)
    (htype : .type [.array] ∈ ks) (hitems : .items s ∈ ks) :
    ∃ items, v = .arr items ∧ ∀ w ∈ items, Passes doc s w := by
  obtain ⟨items, rfl⟩ := Kind.admits_array.mp (by simpa using (h.keyword htype).admits)
  exact ⟨items, rfl, fun w hw => (h.keyword hitems).item hw⟩

/-- A value that passes a list shape is a sequence whose items pass the item shape. -/
theorem Passes.listOf {s : Shape} (h : Passes doc (listOf s) v) :
    ∃ items, v = .arr items ∧ ∀ w ∈ items, Passes doc s w :=
  h.arrayOf (by simp) (by simp)

/-- A value that passes a pair shape is a sequence of two passing items. -/
theorem Passes.pair {a b : Shape} (h : Passes doc (pair a b) v) :
    ∃ x y, v = .arr [x, y] ∧ Passes doc a x ∧ Passes doc b y := by
  obtain ⟨items, rfl⟩ := Kind.admits_array.mp (by simpa using (h.keyword List.mem_cons_self).admits)
  have hmin := (h.keyword (k := .minItems 2) (by simp)).minItems
  have hmax := (h.keyword (k := .maxItems 2) (by simp)).maxItems
  have heach := h.keyword (k := .itemsEach [a, b]) (by simp)
  -- the bounds leave exactly two items, which the two schemas check in turn
  match items, hmin, hmax with
  | [x, y], _, _ => exact ⟨x, y, rfl, heach.eachItem (by simp), heach.eachItem (by simp)⟩

/-- Fields whose names are distinct and all `key` are the one field `key`. -/
theorem eq_single_of_names {fields : List (String × Value)} {key : String}
    (hnodup : (fields.map (·.1)).Nodup) (honly : ∀ kv ∈ fields, kv.1 = key)
    (hw : (Value.obj fields).field? key = some w) : fields = [(key, w)] := by
  match fields, hnodup, honly, hw with
  | [], _, _, hw => simp [Value.field?] at hw
  | [(k, u)], _, honly, hw =>
    have hk : k = key := honly _ List.mem_cons_self
    subst hk
    simp_all [Value.field?]
  | kv₁ :: kv₂ :: rest, hnodup, honly, _ =>
    have h₁ := honly kv₁ List.mem_cons_self
    have h₂ := honly kv₂ (by simp)
    simp_all

/-- An object of distinct names that passes a single-key shape has that key alone, with a passing
value. -/
theorem Passes.single {key : String} {p : Shape} (h : Passes doc (single key p) v)
    (hkeys : ∀ fields, v = .obj fields → (fields.map (·.1)).Nodup) :
    ∃ w, v = .obj [(key, w)] ∧ Passes doc p w := by
  obtain ⟨fields, rfl⟩ := Kind.admits_object.mp (by simpa using (h.keyword List.mem_cons_self).admits)
  obtain ⟨w, hw⟩ := (h.keyword (k := .required [key]) (by simp)).present
    List.mem_cons_self
  have hno := h.keyword (k := .noAdditionalProperties) (by simp)
  have honly : ∀ kv ∈ fields, kv.1 = key := fun kv hkv => by
    simpa [declaredNames, single, kw] using hno.declared hkv
  obtain rfl := eq_single_of_names (hkeys fields rfl) honly hw
  exact ⟨w, rfl, (h.keyword (k := .properties [(key, p)]) (by simp)).field
    List.mem_cons_self hw⟩

/-- An object with the fields that are `required`, each declared field passing its schema. -/
structure Record (doc : Document) (names : List String) (props : List (String × Shape))
    (fields : List (String × Value)) : Prop where
  has : ∀ n ∈ names, ∃ w, (Value.obj fields).field? n = some w
  passes : ∀ n s, (n, s) ∈ props → ∀ w, (Value.obj fields).field? n = some w → Passes doc s w

/-- A value that passes a record shape is an object whose fields make a record. -/
theorem Passes.record {names : List String} {props : List (String × Shape)}
    (h : Passes doc (kw [.type [.object], .required names, .properties props]) v) :
    ∃ fields, v = .obj fields ∧ Record doc names props fields := by
  obtain ⟨fields, rfl⟩ := Kind.admits_object.mp (by simpa using (h.keyword List.mem_cons_self).admits)
  exact ⟨fields, rfl, fun n hn => (h.keyword (by simp)).present hn,
    fun n s hp w hw => (h.keyword (by simp)).field hp hw⟩

variable {names : List String} {props : List (String × Shape)} {fields : List (String × Value)}
  {n : String} {s : Shape}

/-- A declared field read with a default is the default or passes its schema. -/
theorem Record.getOr (hr : Record doc names props fields) (hp : (n, s) ∈ props) (d : Value) :
    ∃ w, (Value.obj fields).getOr n d = .ok w ∧ (w = d ∨ Passes doc s w) := by
  cases hw : (Value.obj fields).field? n with
  | none =>
    refine ⟨d, ?_, .inl rfl⟩
    simp only [Value.field?, Option.map_eq_none_iff] at hw
    simp [Value.getOr, hw]
  | some w =>
    refine ⟨w, ?_, .inr (hr.passes n s hp w hw)⟩
    simp only [Value.field?, Option.map_eq_some_iff] at hw
    obtain ⟨kv, hfind, rfl⟩ := hw
    simp [Value.getOr, hfind]

/-- A required field is there and passes its schema. -/
theorem Record.need (hr : Record doc names props fields) (hn : n ∈ names) (hp : (n, s) ∈ props) :
    ∃ w, (Value.obj fields).need n = .ok w ∧ Passes doc s w := by
  obtain ⟨w, hw⟩ := hr.has n hn
  refine ⟨w, ?_, hr.passes n s hp w hw⟩
  simp only [Value.field?, Option.map_eq_some_iff] at hw
  obtain ⟨kv, hfind, rfl⟩ := hw
  simp [Value.need, hfind]

end Shapes

end Adventure.Schema
