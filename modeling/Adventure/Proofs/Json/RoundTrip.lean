import Adventure.Proofs.Json.Numbers
import Adventure.Proofs.Json.Texts

/-! Reading the ASCII text of a value gives back the value as the reader builds values, and fails
exactly when the value exceeds the reader's limits. -/

namespace Adventure

namespace Value

mutual
/-- A value as reading its data text gives it back: not-a-numbers made quiet, and the fields of
each object set one after the other, so that a name given twice keeps its first place and its
last value. -/
def canon : Value → Value
  | .float f => .float (Json.canonFloat f)
  | .arr items => .arr (canonItems items)
  | .obj fields => .obj (canonFields [] fields)
  | v => v

/-- The items of a list, each as read back. -/
def canonItems : List Value → List Value
  | [] => []
  | v :: rest => canon v :: canonItems rest

/-- The fields of an object set one after the other over `acc`, each value as read back. -/
def canonFields (acc : List (String × Value)) : List (String × Value) → List (String × Value)
  | [] => acc
  | (k, v) :: rest => canonFields (setField acc k (canon v)) rest
end

mutual
/-- Whether the reader can read a value back with room for `room` nested lists and objects:
the value nests no deeper, and every integer in it has at most `digitLimit` digits. -/
def fits (room : Nat) : Value → Bool
  | .int i => decide ((Nat.toDigits 10 i.natAbs).length ≤ Number.digitLimit)
  | .arr items =>
    match room with
    | 0 => false
    | room + 1 => fitsItems room items
  | .obj fields =>
    match room with
    | 0 => false
    | room + 1 => fitsFields room fields
  | _ => true

/-- Whether every item of a list fits. -/
def fitsItems (room : Nat) : List Value → Bool
  | [] => true
  | v :: rest => fits room v && fitsItems room rest

/-- Whether every value of the fields fits. -/
def fitsFields (room : Nat) : List (String × Value) → Bool
  | [] => true
  | (_, v) :: rest => fits room v && fitsFields room rest
end

mutual
/-- A bound on the fuel that reading a value takes. -/
def size : Value → Nat
  | .arr items => sizeItems items + 2
  | .obj fields => sizeFields fields + 2
  | _ => 1

/-- A bound on the fuel that reading the items of a list takes. -/
def sizeItems : List Value → Nat
  | [] => 0
  | v :: rest => v.size + sizeItems rest + 1

/-- A bound on the fuel that reading the fields of an object takes. -/
def sizeFields : List (String × Value) → Nat
  | [] => 0
  | (_, v) :: rest => v.size + sizeFields rest + 1
end

end Value

namespace Json

open Adventure.Number Adventure.Text

-----------------------------------------------------------------------------------------------
-- The written text
-----------------------------------------------------------------------------------------------

/-- A sequence is written as its items between brackets. -/
theorem writeAs_arr_toList (items : List Value) :
    (writeAs true (.arr items)).toList = '[' :: ((writeItemsAs true items).toList ++ [']']) := by
  simp [writeAs]

/-- An object is written as its fields between braces. -/
theorem writeAs_obj_toList (fields : List (String × Value)) :
    (writeAs true (.obj fields)).toList =
      '{' :: ((writeFieldsAs true fields).toList ++ ['}']) := by
  simp [writeAs]

/-- Items are written one after the other, separated by a comma and a space. -/
theorem writeItemsAs_cons_toList (v w : Value) (rest : List Value) :
    (writeItemsAs true (v :: w :: rest)).toList =
      (writeAs true v).toList ++ ',' :: ' ' :: (writeItemsAs true (w :: rest)).toList := by
  simp [writeItemsAs]

/-- A field is written as its name, a colon, a space and its value. -/
theorem writeFieldsAs_one_toList (k : String) (v : Value) :
    (writeFieldsAs true [(k, v)]).toList =
      (writeStringAs true k).toList ++ ':' :: ' ' :: (writeAs true v).toList := by
  simp [writeFieldsAs]

/-- Fields are written one after the other, separated by a comma and a space. -/
theorem writeFieldsAs_cons_toList (k : String) (v : Value) (f : String × Value)
    (rest : List (String × Value)) :
    (writeFieldsAs true ((k, v) :: f :: rest)).toList =
      (writeStringAs true k).toList ++ ':' :: ' ' :: ((writeAs true v).toList ++
        ',' :: ' ' :: (writeFieldsAs true (f :: rest)).toList) := by
  simp [writeFieldsAs]

/-- A text whose first character can open a value or a field name: it is not a separating
space, a closing bracket or brace, or the byte order mark that the reader refuses. -/
def Opens (cs : List Char) : Prop :=
  ∃ c t, cs = c :: t ∧ Cursor.isSpace c = false ∧ c ≠ ']' ∧ c ≠ '}' ∧ c ≠ '\uFEFF'

/-- Text that opens a value still opens one with more text after it. -/
theorem Opens.append {cs : List Char} (h : Opens cs) (tail : List Char) : Opens (cs ++ tail) := by
  obtain ⟨c, t, rfl, hc⟩ := h
  exact ⟨c, t ++ tail, rfl, hc⟩

/-- A quote opens a value. -/
theorem opens_quote (t : List Char) : Opens ('"' :: t) :=
  ⟨_, t, rfl, rfl, by decide, by decide, by decide⟩

/-- The start of a number opens a value. -/
theorem NumberStart.opens {cs : List Char} (h : NumberStart cs) : Opens cs := by
  obtain ⟨c, t, rfl, hc⟩ := h
  refine ⟨c, t, rfl, ?_⟩
  rcases hc with hd | ⟨rfl, -⟩
  · simp only [isAsciiDigit, Bool.and_eq_true, decide_eq_true_eq] at hd
    simp only [Cursor.isSpace, Bool.or_eq_false_iff, decide_eq_false_iff_not]
    refine ⟨⟨⟨⟨?_, ?_⟩, ?_⟩, ?_⟩, ?_, ?_, ?_⟩ <;> (rintro rfl; revert hd; decide)
  · exact ⟨rfl, by decide, by decide, by decide⟩

/-- The text of every value opens a value. -/
theorem writeAs_opens (v : Value) : Opens (writeAs true v).toList := by
  cases v with
  | null => exact ⟨'n', _, rfl, rfl, by decide, by decide, by decide⟩
  | bool b => cases b <;> exact ⟨_, _, rfl, rfl, by decide, by decide, by decide⟩
  | int i =>
    have := numberStart_whole (decide (i < 0)) (isWhole_toDigits i.natAbs) []
    rw [List.append_nil] at this
    simpa [writeAs, intText_toList] using this.opens
  | float f =>
    cases hf : Binary.ofFloat f with
    | nan =>
      exact ⟨'N', "aN".toList, by simp [writeAs, FloatStyle.render, hf, FloatStyle.json], rfl,
        by decide, by decide, by decide⟩
    | infinite negative =>
      cases negative
      · exact ⟨'I', "nfinity".toList, by simp [writeAs, FloatStyle.render, hf, FloatStyle.json],
          rfl, by decide, by decide, by decide⟩
      · exact ⟨'-', "Infinity".toList, by simp [writeAs, FloatStyle.render, hf, FloatStyle.json],
          rfl, by decide, by decide, by decide⟩
    | finite negative m e =>
      obtain ⟨whole, frac, exp, htext, hrender, -⟩ := render_finite hf
      have := numberStart_whole negative htext.lead (fractionText frac ++ exponentText exp)
      rw [writeAs, hrender, floatText, List.append_assoc]
      exact this.opens
  | str s => exact writeStringAs_toList s ▸ opens_quote _
  | arr items => exact ⟨'[', _, writeAs_arr_toList items, rfl, by decide, by decide, by decide⟩
  | obj fields => exact ⟨'{', _, writeAs_obj_toList fields, rfl, by decide, by decide, by decide⟩

/-- So does the text of the items of a list that is not empty. -/
theorem writeItemsAs_opens (v : Value) (rest : List Value) :
    Opens (writeItemsAs true (v :: rest)).toList := by
  cases rest with
  | nil => simpa [writeItemsAs] using writeAs_opens v
  | cons w ws =>
    rw [writeItemsAs_cons_toList]
    exact (writeAs_opens v).append _

/-- The text of the fields of an object that is not empty opens with the quote of a name. -/
theorem writeFieldsAs_opens (f : String × Value) (rest : List (String × Value)) :
    Opens (writeFieldsAs true (f :: rest)).toList := by
  obtain ⟨k, v⟩ := f
  cases rest with
  | nil => rw [writeFieldsAs_one_toList, writeStringAs_toList, List.cons_append]
           exact opens_quote _
  | cons g gs =>
    rw [writeFieldsAs_cons_toList, writeStringAs_toList, List.cons_append]
    exact opens_quote _

/-- Skipping space stops at once before a character that is no space. -/
theorem skipSpace_nonspace {c : Char} {t : List Char} (off : Nat) (hc : Cursor.isSpace c = false) :
    Cursor.skipSpace ⟨c :: t, off⟩ = ⟨c :: t, off⟩ := by
  simp [Cursor.skipSpace, Cursor.advance, hc]

/-- Skipping space before a value skips nothing. -/
theorem Opens.skipSpace {cs : List Char} (h : Opens cs) (off : Nat) :
    Cursor.skipSpace ⟨cs, off⟩ = ⟨cs, off⟩ := by
  obtain ⟨c, t, rfl, hc, -⟩ := h
  exact skipSpace_nonspace off hc

/-- Skipping space before a value after one space skips that space. -/
theorem Opens.skipSpace_space {cs : List Char} (h : Opens cs) (off : Nat) :
    Cursor.skipSpace ⟨' ' :: cs, off⟩ = ⟨cs, off + 1⟩ := by
  obtain ⟨c, t, rfl, hc, -⟩ := h
  have hstop : List.takeWhile Cursor.isSpace (c :: t) = [] := by simp [hc]
  have hspace : Cursor.isSpace ' ' = true := rfl
  simp [Cursor.skipSpace, Cursor.advance, hspace, hstop]

/-- A comma or a closing bracket or brace ends a number. -/
theorem endsNumber_cons {c : Char} (t : List Char) (hc : c = ',' ∨ c = ']' ∨ c = '}') :
    EndsNumber (c :: t) := by
  intro d hd
  cases hd
  rcases hc with rfl | rfl | rfl <;> decide

/-- The end of the text ends a number. -/
theorem endsNumber_nil : EndsNumber [] := fun _ h => by cases h

-----------------------------------------------------------------------------------------------
-- Steps of the reader
-----------------------------------------------------------------------------------------------

section Steps

variable {fuel room : Nat} {acc : List Value} {kept : List (String × Value)} {off n : Nat}
  {rest cs vs : List Char} {c : Cursor} {v : Value}

/-- An opening bracket with room to nest reads a sequence. -/
theorem readValue_openList (r : Nat) (cs : List Char) :
    readValue (fuel + 1) (r + 1) ⟨'[' :: cs, off⟩ =
      readArray fuel r (Cursor.skipSpace ⟨cs, off + 1⟩) := by
  rw [readValue.eq_def]
  simp [Cursor.advance]

/-- An opening brace with room to nest reads an object. -/
theorem readValue_openObject (r : Nat) (cs : List Char) :
    readValue (fuel + 1) (r + 1) ⟨'{' :: cs, off⟩ =
      readObject fuel r (Cursor.skipSpace ⟨cs, off + 1⟩) := by
  rw [readValue.eq_def]
  simp [Cursor.advance]

/-- An opening bracket or brace with no room left to nest is refused as too deep. -/
theorem readValue_tooDeep {b : Char} (cs : List Char) (hb : b = '[' ∨ b = '{') :
    readValue (fuel + 1) 0 ⟨b :: cs, off⟩ = .error (.limit .tooDeep) := by
  rw [readValue.eq_def]
  rcases hb with rfl | rfl <;> simp

/-- A closing bracket right after the opening one reads the empty sequence. -/
theorem readArray_close :
    readArray (fuel + 1) room (Cursor.skipSpace ⟨']' :: rest, off⟩) =
      .ok (.arr [], ⟨rest, off + 1⟩) := by
  rw [skipSpace_nonspace off rfl, readArray.eq_def]
  simp [Cursor.advance]

/-- A sequence that opens a value goes on to read its items. -/
theorem readArray_items (h : Opens cs) :
    readArray (fuel + 1) room (Cursor.skipSpace ⟨cs, off⟩) = readItems fuel room [] ⟨cs, off⟩ := by
  obtain ⟨c, t, rfl, hc, hne, -⟩ := h
  rw [skipSpace_nonspace off hc, readArray.eq_def]
  simp [hne]

/-- A closing brace right after the opening one reads the empty object. -/
theorem readObject_close :
    readObject (fuel + 1) room (Cursor.skipSpace ⟨'}' :: rest, off⟩) =
      .ok (.obj [], ⟨rest, off + 1⟩) := by
  rw [skipSpace_nonspace off rfl, readObject.eq_def]
  simp [Cursor.advance]

/-- An object that opens a value goes on to read its fields. -/
theorem readObject_fields (h : Opens cs) :
    readObject (fuel + 1) room (Cursor.skipSpace ⟨cs, off⟩) =
      readFields fuel room [] ⟨cs, off⟩ := by
  obtain ⟨c, t, rfl, hc, -, hne⟩ := h
  rw [skipSpace_nonspace off hc, readObject.eq_def]
  simp [hne]

/-- An item followed by a closing bracket is the last, and the sequence read is the items in
order. -/
theorem readItems_last (h : readValue fuel room c = .ok (v, ⟨']' :: rest, n⟩)) :
    readItems (fuel + 1) room acc c = .ok (.arr (v :: acc).reverse, ⟨rest, n + 1⟩) := by
  rw [readItems.eq_def]
  simp [h, skipSpace_nonspace n (rfl : Cursor.isSpace ']' = false), Cursor.advance]

/-- An item followed by a comma and a space is kept, and the items go on. -/
theorem readItems_next (hcs : Opens cs) (h : readValue fuel room c = .ok (v, ⟨',' :: ' ' :: cs, n⟩)) :
    readItems (fuel + 1) room acc c = readItems fuel room (v :: acc) ⟨cs, n + 2⟩ := by
  rw [readItems.eq_def]
  simp [h, skipSpace_nonspace n (rfl : Cursor.isSpace ',' = false), Cursor.advance,
    hcs.skipSpace_space (n + 1)]

/-- An item that fails to read fails the sequence. -/
theorem readItems_error (e : ReadError) (h : readValue fuel room c = .error e) :
    readItems (fuel + 1) room acc c = .error e := by
  rw [readItems.eq_def]
  simp [h]

/-- A written field name is read as the name, up to its closing quote. -/
theorem textBody_key (k : String) (tail : List Char) :
    textBody off [] (off + 1) (escapeText true false k.toList ++ '"' :: tail) =
      .ok (k, off + (writeStringAs true k).length, tail) := by
  have hlen : (writeStringAs true k).length = (escapeText true false k.toList).length + 2 := by
    rw [← String.length_toList, writeStringAs_toList]
    simp
  have hoff : off + 1 + (escapeText true false k.toList).length + 1 =
      off + ((escapeText true false k.toList).length + 2) := by omega
  rw [textBody_escapeText, hlen, hoff]
  simp only [List.reverse_nil, List.nil_append, String.ofList_toList]

/-- A field followed by a closing brace is the last, and it is set over the fields read. -/
theorem readFields_last (k : String) (hvs : Opens vs)
    (h : readValue fuel room ⟨vs, off + (writeStringAs true k).length + 2⟩ =
      .ok (v, ⟨'}' :: rest, n⟩)) :
    readFields (fuel + 1) room kept ⟨(writeStringAs true k).toList ++ ':' :: ' ' :: vs, off⟩ =
      .ok (.obj (Value.setField kept k v), ⟨rest, n + 1⟩) := by
  rw [readFields.eq_def, writeStringAs_toList]
  simp [textBody_key, skipSpace_nonspace _ (rfl : Cursor.isSpace ':' = false), Cursor.advance,
    hvs.skipSpace_space, h, skipSpace_nonspace n (rfl : Cursor.isSpace '}' = false)]

/-- A field followed by a comma and a space is set over the fields read, and the fields go on. -/
theorem readFields_next (k : String) (hvs : Opens vs) (hcs : Opens cs)
    (h : readValue fuel room ⟨vs, off + (writeStringAs true k).length + 2⟩ =
      .ok (v, ⟨',' :: ' ' :: cs, n⟩)) :
    readFields (fuel + 1) room kept ⟨(writeStringAs true k).toList ++ ':' :: ' ' :: vs, off⟩ =
      readFields fuel room (Value.setField kept k v) ⟨cs, n + 2⟩ := by
  rw [readFields.eq_def, writeStringAs_toList]
  simp [textBody_key, skipSpace_nonspace _ (rfl : Cursor.isSpace ':' = false), Cursor.advance,
    hvs.skipSpace_space, h, skipSpace_nonspace n (rfl : Cursor.isSpace ',' = false),
    hcs.skipSpace_space]

/-- A field whose value fails to read fails the object. -/
theorem readFields_error (k : String) (e : ReadError) (hvs : Opens vs)
    (h : readValue fuel room ⟨vs, off + (writeStringAs true k).length + 2⟩ = .error e) :
    readFields (fuel + 1) room kept ⟨(writeStringAs true k).toList ++ ':' :: ' ' :: vs, off⟩ =
      .error e := by
  rw [readFields.eq_def, writeStringAs_toList]
  simp [textBody_key, skipSpace_nonspace _ (rfl : Cursor.isSpace ':' = false), Cursor.advance,
    hvs.skipSpace_space, h]

end Steps

-----------------------------------------------------------------------------------------------
-- Reading back
-----------------------------------------------------------------------------------------------

/-- What reading gives when it should give `expected` exactly when `ok` holds: that, and
otherwise a failure. -/
def Outcome (ok : Bool) (expected : Value × Cursor) (res : Reading Value) : Prop :=
  if ok then res = .ok expected else ∃ e, res = .error e

/-- The outcome of a reading that should succeed is the expected value. -/
theorem Outcome.eq_ok {ok : Bool} {expected : Value × Cursor} {res : Reading Value}
    (h : Outcome ok expected res) (hok : ok = true) : res = .ok expected := by
  simpa [Outcome, hok] using h

/-- The outcome of a reading that should fail is a failure. -/
theorem Outcome.eq_error {ok : Bool} {expected : Value × Cursor} {res : Reading Value}
    (h : Outcome ok expected res) (hok : ok = false) : ∃ e, res = .error e := by
  simpa [Outcome, hok] using h

/-- A reading that gives the expected value has the outcome of success. -/
theorem Outcome.of_ok {expected : Value × Cursor} {res : Reading Value}
    (h : res = .ok expected) : Outcome true expected res := by
  simpa [Outcome] using h

/-- A reading that fails has the outcome of failure. -/
theorem Outcome.of_error {expected : Value × Cursor} {res : Reading Value} (e : ReadError)
    (h : res = .error e) : Outcome false expected res := by
  simp only [Outcome, Bool.false_eq_true, if_false]
  exact ⟨e, h⟩

mutual
/-- Reading the text of a value gives the value as read back and stops right after the text,
when the value fits the room; otherwise reading fails. By recursion on the value; the items of a
list and the fields of an object are read by `readItems_write` and `readFields_write`. -/
theorem readValue_write (v : Value) (fuel room off : Nat) (rest : List Char)
    (hfuel : v.size ≤ fuel) (hrest : EndsNumber rest) :
    Outcome (v.fits room) (v.canon, ⟨rest, off + (writeAs true v).toList.length⟩)
      (readValue fuel room ⟨(writeAs true v).toList ++ rest, off⟩) := by
  obtain ⟨F, rfl⟩ : ∃ F, fuel = F + 1 :=
    ⟨fuel - 1, by cases v <;> simp only [Value.size] at hfuel <;> omega⟩
  match v with
  | .null =>
    apply Outcome.of_ok
    rw [readValue.eq_def]
    simp [writeAs, startsWithWord, Cursor.advance, Value.canon]
  | .bool b =>
    apply Outcome.of_ok
    rw [readValue.eq_def]
    cases b <;> simp [writeAs, startsWithWord, Cursor.advance, Value.canon]
  | .int i =>
    simp only [writeAs, Value.fits, Value.canon, String.length_toList]
    rw [readValue_intText F room off i hrest]
    by_cases hlen : (Nat.toDigits 10 i.natAbs).length ≤ digitLimit
    · simp [Outcome, hlen, Nat.not_lt.2 hlen]
    · simp [Outcome, hlen, Nat.lt_of_not_le hlen]
  | .float f =>
    apply Outcome.of_ok
    simp only [writeAs, Value.canon, String.length_toList]
    exact readValue_render F room off f hrest
  | .str s =>
    apply Outcome.of_ok
    simp only [writeAs, Value.canon, String.length_toList]
    exact readValue_writeString F room off s rest
  | .arr items =>
    obtain ⟨G, rfl⟩ : ∃ G, F = G + 1 := ⟨F - 1, by simp only [Value.size] at hfuel; omega⟩
    have hitems := fun hne => readItems_write items hne G (room - 1) [] (off + 1) rest
      (by simp only [Value.size] at hfuel; omega)
    rw [writeAs_arr_toList, List.cons_append, List.append_assoc, List.singleton_append]
    cases room with
    | zero => exact Outcome.of_error _ (readValue_tooDeep _ (.inl rfl))
    | succ r =>
      simp only [Value.fits, Value.canon, Nat.add_sub_cancel] at hitems ⊢
      rw [readValue_openList]
      cases items with
      | nil =>
        apply Outcome.of_ok
        rw [writeItemsAs, show "".toList = [] from rfl, List.nil_append, readArray_close]
        rfl
      | cons w ws =>
        rw [readArray_items ((writeItemsAs_opens w ws).append _)]
        convert hitems (List.cons_ne_nil w ws) using 3
        · simp
        · simp only [List.length_cons, List.length_append, List.length_nil]
          omega
  | .obj fields =>
    obtain ⟨G, rfl⟩ : ∃ G, F = G + 1 := ⟨F - 1, by simp only [Value.size] at hfuel; omega⟩
    have hfields := fun hne => readFields_write fields hne G (room - 1) [] (off + 1) rest
      (by simp only [Value.size] at hfuel; omega)
    rw [writeAs_obj_toList, List.cons_append, List.append_assoc, List.singleton_append]
    cases room with
    | zero => exact Outcome.of_error _ (readValue_tooDeep _ (.inr rfl))
    | succ r =>
      simp only [Value.fits, Value.canon, Nat.add_sub_cancel] at hfields ⊢
      rw [readValue_openObject]
      cases fields with
      | nil =>
        apply Outcome.of_ok
        rw [writeFieldsAs, show "".toList = [] from rfl, List.nil_append, readObject_close]
        rfl
      | cons f fs =>
        rw [readObject_fields ((writeFieldsAs_opens f fs).append _)]
        convert hfields (List.cons_ne_nil f fs) using 3
        simp only [List.length_cons, List.length_append, List.length_nil]
        omega

/-- Reading the text of the items of a list that is not empty, and the closing bracket after
it, gives the list with the items read before, when every item fits the room. -/
theorem readItems_write (items : List Value) (hne : items ≠ []) (fuel room : Nat)
    (acc : List Value) (off : Nat) (rest : List Char) (hfuel : Value.sizeItems items ≤ fuel) :
    Outcome (Value.fitsItems room items)
      (.arr (acc.reverse ++ Value.canonItems items),
        ⟨rest, off + (writeItemsAs true items).toList.length + 1⟩)
      (readItems fuel room acc ⟨(writeItemsAs true items).toList ++ ']' :: rest, off⟩) := by
  match items with
  | [] => exact absurd rfl hne
  | v :: more =>
    obtain ⟨F, rfl⟩ : ∃ F, fuel = F + 1 :=
      ⟨fuel - 1, by simp only [Value.sizeItems] at hfuel; omega⟩
    have hmore := fun hne => readItems_write more hne F room (v.canon :: acc)
      (off + (writeAs true v).toList.length + 2) rest
      (by simp only [Value.sizeItems] at hfuel; omega)
    cases more with
    | nil =>
      have hv := readValue_write v F room off (']' :: rest)
        (by simp only [Value.sizeItems] at hfuel; omega) (endsNumber_cons rest (by simp))
      simp only [writeItemsAs, Value.fitsItems, Value.canonItems, Bool.and_true]
      cases hfit : v.fits room
      · obtain ⟨e, he⟩ := hv.eq_error hfit
        exact Outcome.of_error e (readItems_error e he)
      · apply Outcome.of_ok
        rw [readItems_last (hv.eq_ok hfit)]
        simp
    | cons w ws =>
      have hv := readValue_write v F room off
        (',' :: ' ' :: ((writeItemsAs true (w :: ws)).toList ++ ']' :: rest))
        (by simp only [Value.sizeItems] at hfuel; omega) (endsNumber_cons _ (by simp))
      rw [writeItemsAs_cons_toList]
      simp only [Value.fitsItems, Value.canonItems, List.append_assoc, List.cons_append]
      cases hfit : v.fits room
      · obtain ⟨e, he⟩ := hv.eq_error hfit
        exact Outcome.of_error e (readItems_error e he)
      · rw [readItems_next ((writeItemsAs_opens w ws).append _) (hv.eq_ok hfit)]
        convert hmore (List.cons_ne_nil w ws) using 3
        · simp [Value.fitsItems]
        · simp [Value.canonItems]
        · simp only [List.length_append, List.length_cons]
          omega

/-- Reading the text of the fields of an object that is not empty, and the closing brace after
it, gives the object with its fields set over the ones read before, when every value fits the
room. -/
theorem readFields_write (fields : List (String × Value)) (hne : fields ≠ []) (fuel room : Nat)
    (acc : List (String × Value)) (off : Nat) (rest : List Char)
    (hfuel : Value.sizeFields fields ≤ fuel) :
    Outcome (Value.fitsFields room fields)
      (.obj (Value.canonFields acc fields),
        ⟨rest, off + (writeFieldsAs true fields).toList.length + 1⟩)
      (readFields fuel room acc ⟨(writeFieldsAs true fields).toList ++ '}' :: rest, off⟩) := by
  match fields with
  | [] => exact absurd rfl hne
  | (k, v) :: more =>
    obtain ⟨F, rfl⟩ : ∃ F, fuel = F + 1 :=
      ⟨fuel - 1, by simp only [Value.sizeFields] at hfuel; omega⟩
    have hmore := fun hne => readFields_write more hne F room (Value.setField acc k v.canon)
      (off + (writeStringAs true k).length + 2 + (writeAs true v).toList.length + 2) rest
      (by simp only [Value.sizeFields] at hfuel; omega)
    have hlen : (writeStringAs true k).length = (writeStringAs true k).toList.length :=
      String.length_toList.symm
    cases more with
    | nil =>
      have hv := readValue_write v F room (off + (writeStringAs true k).length + 2) ('}' :: rest)
        (by simp only [Value.sizeFields] at hfuel; omega) (endsNumber_cons rest (by simp))
      rw [writeFieldsAs_one_toList]
      simp only [Value.fitsFields, Value.canonFields, Bool.and_true, List.append_assoc,
        List.cons_append]
      cases hfit : v.fits room
      · obtain ⟨e, he⟩ := hv.eq_error hfit
        exact Outcome.of_error e (readFields_error k e ((writeAs_opens v).append _) he)
      · apply Outcome.of_ok
        rw [readFields_last k ((writeAs_opens v).append _) (hv.eq_ok hfit)]
        simp only [List.length_append, List.length_cons, hlen]
        congr 3
        omega
    | cons g gs =>
      have hv := readValue_write v F room (off + (writeStringAs true k).length + 2)
        (',' :: ' ' :: ((writeFieldsAs true (g :: gs)).toList ++ '}' :: rest))
        (by simp only [Value.sizeFields] at hfuel; omega) (endsNumber_cons _ (by simp))
      rw [writeFieldsAs_cons_toList]
      simp only [Value.fitsFields, Value.canonFields, List.append_assoc, List.cons_append]
      cases hfit : v.fits room
      · obtain ⟨e, he⟩ := hv.eq_error hfit
        exact Outcome.of_error e (readFields_error k e ((writeAs_opens v).append _) he)
      · rw [readFields_next k ((writeAs_opens v).append _) ((writeFieldsAs_opens g gs).append _)
          (hv.eq_ok hfit)]
        convert hmore (List.cons_ne_nil g gs) using 3
        · simp [Value.fitsFields]
        · simp [Value.canonFields]
        · simp only [List.length_append, List.length_cons, hlen]
          omega
end

mutual
/-- Reading a value never takes more fuel than twice the length of its text. -/
theorem size_lt_write (v : Value) : v.size < 2 * (writeAs true v).toList.length := by
  obtain ⟨c, t, htext, -⟩ := writeAs_opens v
  match v with
  | .arr items =>
    have := sizeItems_le_write items
    rw [writeAs_arr_toList]
    simp only [Value.size, List.length_cons, List.length_append]
    omega
  | .obj fields =>
    have := sizeFields_le_write fields
    rw [writeAs_obj_toList]
    simp only [Value.size, List.length_cons, List.length_append]
    omega
  | .null | .bool _ | .int _ | .float _ | .str _ =>
    rw [htext]
    simp only [Value.size, List.length_cons]
    omega

/-- The size of items is at most twice the length of their text. -/
theorem sizeItems_le_write (items : List Value) :
    Value.sizeItems items ≤ 2 * (writeItemsAs true items).toList.length := by
  match items with
  | [] => simp [Value.sizeItems]
  | v :: more =>
    have hv := size_lt_write v
    have hmore := sizeItems_le_write more
    cases more with
    | nil => simp [Value.sizeItems, writeItemsAs]; omega
    | cons w ws =>
      rw [writeItemsAs_cons_toList]
      simp only [Value.sizeItems, List.length_append, List.length_cons] at hmore ⊢
      omega

/-- The size of fields is at most twice the length of their text. -/
theorem sizeFields_le_write (fields : List (String × Value)) :
    Value.sizeFields fields ≤ 2 * (writeFieldsAs true fields).toList.length := by
  match fields with
  | [] => simp [Value.sizeFields]
  | (k, v) :: more =>
    have hv := size_lt_write v
    have hmore := sizeFields_le_write more
    cases more with
    | nil =>
      rw [writeFieldsAs_one_toList]
      simp only [Value.sizeFields, List.length_append, List.length_cons]
      omega
    | cons g gs =>
      rw [writeFieldsAs_cons_toList]
      simp only [Value.sizeFields, List.length_append, List.length_cons] at hmore ⊢
      omega
end

/-- Reading the text of a value that fits the room gives the value as read back. -/
theorem readDataWithin_write (room : Nat) (v : Value) (hfits : v.fits room = true) :
    readDataWithin room (write v) = .ok v.canon := by
  obtain ⟨c, t, htext, hspace, -, -, hbom⟩ := writeAs_opens v
  have hread := (readValue_write v (2 * (write v).toList.length + 2) room 0 []
    (by have := size_lt_write v; simp only [write]; omega) endsNumber_nil).eq_ok hfits
  unfold readDataWithin
  simp only [write, List.append_nil] at hread ⊢
  rw [htext] at hread ⊢
  simp only [List.length_cons] at hread
  simp [hbom, skipSpace_nonspace 0 hspace, hread]
  simp [Cursor.skipSpace, Cursor.advance]

/-- Reading the text of a value that does not fit the room fails. -/
theorem readDataWithin_write_error (room : Nat) (v : Value) (hfits : v.fits room = false) :
    ∃ f, readDataWithin room (write v) = .error f := by
  obtain ⟨c, t, htext, hspace, -, -, hbom⟩ := writeAs_opens v
  obtain ⟨e, he⟩ := (readValue_write v (2 * (write v).toList.length + 2) room 0 []
    (by have := size_lt_write v; simp only [write]; omega) endsNumber_nil).eq_error hfits
  unfold readDataWithin
  simp only [write, List.append_nil] at he ⊢
  rw [htext] at he ⊢
  simp only [List.length_cons] at he
  simp [hbom, skipSpace_nonspace 0 hspace, he]

end Json

end Adventure
