import Countersign.Proofs.Rlp.Codec

/-! The number of a record's fields: a list that ends before them lacks elements, and a list that
goes on behind them has too many, whatever the fields hold. -/

namespace Countersign.Rlp

variable {α β : Type}

/-- Fields stand one behind the other as they are written each by itself, and a payload that ends
between two of them lacks an element. -/
structure Fields.Counted (fields : Fields α) (forms : α → List (Except EncodeError Bytes)) :
    Prop where
  /-- The fields obey the laws for the integers that they hold. -/
  exists_lawful : ∃ integers, fields.Lawful integers
  /-- All fields are written exactly when each of them is. -/
  write_eq_ok_iff : ∀ {value : α} {payload : Bytes}, fields.write value = .ok payload ↔
    ∃ parts : List Bytes, forms value = parts.map .ok ∧ payload = parts.flatten
  /-- The first few fields are not enough. -/
  read_take : ∀ {value : α} {parts : List Bytes} {count : Nat}, forms value = parts.map .ok →
    count < parts.length → (parts.take count).flatten.length < 2 ^ 64 →
      fields.read (parts.take count).flatten = .error .tooFewElements

/-- A record is written as the list of its fields as they are written each by itself; a list of the
first few of them lacks an element, and a list of all of them and more has one too many. -/
structure Codec.Counted (codec : Codec α) (forms : α → List (Except EncodeError Bytes)) :
    Prop where
  /-- A record is written exactly when each of its fields is. -/
  write_eq_ok_iff : ∀ {value : α} {wire : Bytes}, codec.write value = .ok wire ↔
    ∃ parts : List Bytes, forms value = parts.map .ok ∧ wire = (Item.list parts.flatten).write
  /-- The first few fields are not enough. -/
  ofItem_take : ∀ {value : α} {parts : List Bytes} {count : Nat}, forms value = parts.map .ok →
    count < parts.length → (parts.take count).flatten.length < 2 ^ 64 →
      codec.ofItem (.list (parts.take count).flatten) = .error .tooFewElements
  /-- More than all fields are too many. -/
  ofItem_append : ∀ {value : α} {parts : List Bytes} {more : Bytes},
    forms value = parts.map .ok → parts.flatten.length < 2 ^ 64 → more ≠ [] →
      codec.ofItem (.list (parts.flatten ++ more)) = .error .tooManyElements

/-- No fields are no items. -/
theorem Fields.nil_counted : Fields.nil.Counted fun _ => [] where
  exists_lawful := ⟨_, Fields.nil_lawful⟩
  write_eq_ok_iff {value payload} := by
    simp [Fields.nil, eq_comm]
  read_take written short _ := by
    -- There is no shorter list than the empty one.
    rw [List.nil_eq, List.map_eq_nil_iff] at written
    simp [written] at short

variable {codec : Codec α} {fields : Fields α} {others : Fields β} {integers : α → List Int}
variable {forms : α → List (Except EncodeError Bytes)}
variable {otherForms : β → List (Except EncodeError Bytes)}

/-- A field in front of others is written in front of them and counts as one more. -/
theorem Codec.Lawful.counted (lawful : codec.Lawful integers)
    (othersCounted : others.Counted otherForms) :
    (Fields.cons codec others).Counted fun value =>
      codec.write value.1 :: otherForms value.2 where
  exists_lawful := by
    obtain ⟨otherIntegers, othersLawful⟩ := othersCounted.exists_lawful
    exact ⟨_, lawful.cons othersLawful⟩
  write_eq_ok_iff {value payload} := by
    rw [Fields.cons, append_eq_ok_iff]
    constructor
    · intro written
      obtain ⟨front, back, frontWritten, backWritten, rfl⟩ := written
      obtain ⟨parts, othersWritten, rfl⟩ := othersCounted.write_eq_ok_iff.mp backWritten
      exact ⟨front :: parts, by rw [frontWritten, othersWritten, List.map_cons], rfl⟩
    · intro listed
      obtain ⟨parts, written, rfl⟩ := listed
      cases parts with
      | nil => cases written
      | cons front parts =>
        obtain ⟨frontWritten, othersWritten⟩ := List.cons.inj written
        exact ⟨front, parts.flatten, frontWritten,
          othersCounted.write_eq_ok_iff.mpr ⟨parts, othersWritten, rfl⟩, rfl⟩
  read_take {value parts count} written short bounded := by
    cases parts with
    | nil => cases written
    | cons front parts =>
      obtain ⟨frontWritten, othersWritten⟩ := List.cons.inj written
      cases count with
      | zero => rfl
      | succ count =>
        -- The first field is complete, so the others are what ends too early.
        obtain ⟨item, made, rfl⟩ := map_eq_ok_iff.mp frontWritten
        rw [List.take_succ_cons, List.flatten_cons] at bounded ⊢
        rw [List.length_append] at bounded
        have found : Item.split? (item.write ++ (parts.take count).flatten) =
            .ok (some (item, (parts.take count).flatten)) :=
          Item.split?_eq_some_iff.mpr ⟨rfl, by omega⟩
        have first := lawful.ofItem_of_toItem made (by omega)
        have lacking := othersCounted.read_take othersWritten
          (by simpa using short) (by omega)
        simp only [Fields.cons, found, first, lacking, bind, Except.bind]

/-- A record is the list of its fields. -/
theorem Fields.Counted.record (counted : fields.Counted forms) {pack : α → β} {unpack : β → α} :
    (fields.record pack unpack).Counted fun value => forms (unpack value) where
  write_eq_ok_iff {value wire} := by
    rw [Codec.write, map_eq_ok_iff]
    constructor
    · intro written
      obtain ⟨item, made, rfl⟩ := written
      obtain ⟨payload, payloadWritten, rfl⟩ := map_eq_ok_iff.mp made
      obtain ⟨parts, listed, rfl⟩ := counted.write_eq_ok_iff.mp payloadWritten
      exact ⟨parts, listed, rfl⟩
    · intro written
      obtain ⟨parts, listed, rfl⟩ := written
      have payloadWritten := counted.write_eq_ok_iff.mpr ⟨parts, listed, rfl⟩
      exact ⟨.list parts.flatten, map_eq_ok_iff.mpr ⟨_, payloadWritten, rfl⟩, rfl⟩
  ofItem_take written short bounded := by
    have lacking := counted.read_take written short bounded
    simp only [Fields.record, Item.payload, lacking, bind, Except.bind]
  ofItem_append {value parts more} written bounded goesOn := by
    obtain ⟨integers, lawful⟩ := counted.exists_lawful
    have payloadWritten := counted.write_eq_ok_iff.mpr ⟨parts, written, rfl⟩
    -- All fields are read, and what follows them is left over.
    have read := lawful.read_of_write more payloadWritten bounded
    have left : (!more.isEmpty) = true := by simpa using goesOn
    simp only [Fields.record, Item.payload, read, bind, Except.bind, left, if_true]
    rfl

end Countersign.Rlp
