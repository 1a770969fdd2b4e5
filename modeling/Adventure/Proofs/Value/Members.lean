import Adventure.Proofs.Number.Equality
import Adventure.Proofs.Json.RoundTrip

/-! Values as members of lists and keys of maps: the same member is an equal value or another
not-a-number. A value as the data reader gives it is read back as itself and is the same member as
itself. -/

namespace Adventure

namespace Value

variable {x y : Value}

/-- Equal values are the same item. -/
theorem sameItem_of_equals (h : x.equals y = true) : x.sameItem y = true := by
  simp [sameItem, h]

/-- Beside a value that is no not-a-number, being the same member is being equal. -/
theorem sameItem_eq_equals (h : x.isNaN = false) : x.sameItem y = x.equals y := by
  simp [sameItem, h]

/-- A value equal to itself is no not-a-number. -/
theorem isNaN_eq_false_of_equals_self (h : x.equals x = true) : x.isNaN = false := by
  cases x with
  | float f =>
    -- a not-a-number is neither below, above nor level with itself, so it compares to nothing
    have hself : (f == f) = true := by
      by_contra hne
      simp [equals, num?, Num.eq, Num.compare?, Number.not_lt_self, hne] at h
    simp [isNaN, hself]
  | _ => rfl

mutual
/-- Whether a value is as the data reader gives values: the fields of every object have distinct
names, and every not-a-number is the quiet one. -/
def canonical : Value → Bool
  | .float f => (Json.canonFloat f).toBits == f.toBits
  | .arr items => canonicalItems items
  | .obj fields => decide (fields.map (·.1)).Nodup && canonicalFields fields
  | _ => true

/-- Whether every item of a list is as the data reader gives values. -/
def canonicalItems : List Value → Bool
  | [] => true
  | v :: rest => v.canonical && canonicalItems rest

/-- Whether the value of every field is as the data reader gives values. -/
def canonicalFields : List (String × Value) → Bool
  | [] => true
  | (_, v) :: rest => v.canonical && canonicalFields rest
end

@[simp] theorem canonicalItems_iff {items : List Value} :
    canonicalItems items = true ↔ ∀ v ∈ items, v.canonical = true := by
  induction items with
  | nil => simp [canonicalItems]
  | cons v rest ih => simp [canonicalItems, ih]

@[simp] theorem canonicalFields_iff {fields : List (String × Value)} :
    canonicalFields fields = true ↔ ∀ kv ∈ fields, kv.2.canonical = true := by
  induction fields with
  | nil => simp [canonicalFields]
  | cons kv rest ih => simp [canonicalFields, ih]

/-- An object as the reader gives it has fields of distinct names whose values are as the reader
gives them. -/
theorem canonical_obj_iff {fields : List (String × Value)} :
    (Value.obj fields).canonical = true ↔
      (fields.map (·.1)).Nodup ∧ ∀ kv ∈ fields, kv.2.canonical = true := by
  simp [canonical]

/-- Among fields of distinct names, a field is the one found under its name. -/
theorem find?_name_of_nodup : ∀ {fields : List (String × Value)} {kv : String × Value},
    (fields.map (·.1)).Nodup → kv ∈ fields → fields.find? (·.1 == kv.1) = some kv
  | kv' :: rest, kv, hnodup, hmem => by
    rw [List.map_cons, List.nodup_cons] at hnodup
    rcases List.mem_cons.mp hmem with rfl | hrest
    · simp
    · -- the first field has another name, so the search goes on to the rest
      have hne : kv'.1 ≠ kv.1 := fun h => hnodup.1 (h ▸ List.mem_map_of_mem hrest)
      simp [hne, find?_name_of_nodup hnodup.2 hrest]

/-- Setting a field under a new name appends it. -/
theorem setField_of_not_mem {fields : List (String × Value)} {key : String}
    (h : key ∉ fields.map (·.1)) (v : Value) : setField fields key v = fields ++ [(key, v)] := by
  have hany : fields.any (·.1 == key) = false := by
    refine List.any_eq_false.mpr fun kv hkv heq => h ?_
    rw [← beq_iff_eq.mp heq]
    exact List.mem_map_of_mem hkv
  simp [setField, hany]

mutual
/-- A value as the data reader gives it is read back as itself. -/
theorem canon_of_canonical : ∀ {v : Value}, v.canonical = true → v.canon = v
  | .float f, h => by
    have hbits : (Json.canonFloat f).toBits = f.toBits := by simpa [canonical] using h
    simp [canon, Float.toBits_inj.mp hbits]
  | .arr items, h => by
    rw [canon, canonItems_of_canonical (by simpa [canonical] using h)]
  | .obj fields, h => by
    obtain ⟨hnodup, _⟩ := canonical_obj_iff.mp h
    rw [canon, @canonFields_of_canonical fields [] (by simpa using hnodup)
      (by simp only [canonical, Bool.and_eq_true] at h; exact h.2)]
    rfl
  | .null, _ | .bool _, _ | .int _, _ | .str _, _ => rfl

/-- Items already as the reader gives them are left unchanged by putting them in that form. -/
theorem canonItems_of_canonical : ∀ {items : List Value}, canonicalItems items = true →
    canonItems items = items
  | [], _ => rfl
  | v :: rest, h => by
    simp only [canonicalItems, Bool.and_eq_true] at h
    rw [canonItems, canon_of_canonical h.1, canonItems_of_canonical h.2]

/-- Fields of distinct names set one after the other over `acc` are appended to it. -/
theorem canonFields_of_canonical : ∀ {fields acc : List (String × Value)},
    ((acc ++ fields).map (·.1)).Nodup → canonicalFields fields = true →
    canonFields acc fields = acc ++ fields
  | [], acc, _, _ => by simp [canonFields]
  | (k, v) :: rest, acc, hnodup, h => by
    simp only [canonicalFields, Bool.and_eq_true] at h
    have hnew : k ∉ acc.map (·.1) := by
      simp only [List.map_append, List.map_cons] at hnodup
      exact fun hk => List.disjoint_of_nodup_append hnodup hk List.mem_cons_self
    rw [canonFields, canon_of_canonical h.1, setField_of_not_mem hnew,
      canonFields_of_canonical (by simpa using hnodup) h.2]
    simp
end

mutual
/-- A value as the data reader gives it is the same member as itself. -/
theorem sameItem_self_of_canonical : ∀ {v : Value}, v.canonical = true → v.sameItem v = true
  | .float f, _ => by
    cases hnan : (Value.float f).isNaN with
    | true => simp [sameItem, hnan]
    | false =>
      rw [sameItem_eq_equals hnan]
      exact Num.eq_self (n := .float f) hnan
  | .arr items, h => by
    simp only [sameItem, isNaN, Bool.and_false, Bool.false_or, equals]
    exact equalsList_self (by simpa [canonical] using h)
  | .obj fields, h => by
    obtain ⟨hnodup, _⟩ := canonical_obj_iff.mp h
    simp only [sameItem, isNaN, Bool.and_false, Bool.false_or, equals, beq_self_eq_true,
      Bool.true_and]
    exact fieldsWithin_self hnodup (fun _ hkv => hkv)
      (by simp only [canonical, Bool.and_eq_true] at h; exact h.2)
  | .null, _ => rfl
  | .bool _, _ | .int _, _ => sameItem_of_equals (Num.eq_self rfl)
  | .str t, _ => by simp [sameItem, equals]

/-- A list of values as the reader gives them equals itself: no not-a-number is among them to break
it. -/
theorem equalsList_self : ∀ {items : List Value}, canonicalItems items = true →
    equalsList items items = true
  | [], _ => rfl
  | v :: rest, h => by
    simp only [canonicalItems, Bool.and_eq_true] at h
    have hv : (v.isNaN && v.isNaN || v.equals v) = true := sameItem_self_of_canonical h.1
    simp only [equalsList, hv, equalsList_self h.2, Bool.true_and]

/-- Every field of `sub` has its own value, the same member as itself, under its name in
`whole`, whose names are distinct. -/
theorem fieldsWithin_self : ∀ {sub whole : List (String × Value)},
    (whole.map (·.1)).Nodup → (∀ kv ∈ sub, kv ∈ whole) → canonicalFields sub = true →
    fieldsWithin sub whole = true
  | [], _, _, _, _ => rfl
  | (k, v) :: rest, whole, hnodup, hsub, h => by
    simp only [canonicalFields, Bool.and_eq_true] at h
    have hfind : whole.find? (·.1 == k) = some (k, v) :=
      find?_name_of_nodup hnodup (hsub (k, v) List.mem_cons_self)
    have hv : (v.isNaN && v.isNaN || v.equals v) = true := sameItem_self_of_canonical h.1
    have hrest := fieldsWithin_self hnodup (fun kv hkv => hsub kv (List.mem_cons_of_mem _ hkv)) h.2
    simp only [fieldsWithin, hfind, hv, hrest, Bool.true_and]
end

end Value

end Adventure
