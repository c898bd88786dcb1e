import Countersign.Rlp.Cursor
import Countersign.Proofs.Rlp.Codec

/-! Reads at a cursor: each takes the written form of one item off the front of the data. -/

namespace Countersign.Rlp.Cursor

variable {α : Type} {codec : Codec α} {integers : α → List Int}

/-- The next item is the one whose written form the data begins with. -/
theorem next_eq_ok_iff {cursor behind : Cursor} {item : Item} :
    cursor.next = .ok (item, behind) ↔
      cursor.data = item.write ++ behind.data ∧ item.write.length < 2 ^ 64 ∧
        behind.inList = cursor.inList := by
  rw [next, bind_eq_ok_iff]
  constructor
  · intro steps
    obtain ⟨split, found, made⟩ := steps
    cases split with
    -- At the end there is no item to be found.
    | none => cases made
    | some pair =>
      cases made
      obtain ⟨layout, bounded⟩ := Item.split?_eq_some_iff.mp found
      exact ⟨layout, bounded, rfl⟩
  · intro laidOut
    obtain ⟨layout, bounded, same⟩ := laidOut
    -- Only the data moves on, so the two cursors are the same.
    refine ⟨some (item, behind.data), Item.split?_eq_some_iff.mpr ⟨layout, bounded⟩, ?_⟩
    cases behind
    cases same
    rfl

/-- Whatever comes of an item, reading it passes its written form. -/
theorem read_write_append (codec : Codec α) {item : Item} (bounded : item.write.length < 2 ^ 64)
    (rest : Bytes) (inList : Bool) :
    (Cursor.mk (item.write ++ rest) inList).read codec =
      (codec.ofItem item, Cursor.mk rest inList) := by
  -- The next item is this one, and the codec judges it alone.
  have found : (Cursor.mk (item.write ++ rest) inList).next = .ok (item, ⟨rest, inList⟩) :=
    next_eq_ok_iff.mpr ⟨rfl, bounded, rfl⟩
  rw [read, found]

/-- A value is read exactly when the next item is the item of that value. -/
theorem read_eq_ok_iff {cursor behind : Cursor} {value : α} :
    cursor.read codec = (.ok value, behind) ↔
      ∃ item, cursor.next = .ok (item, behind) ∧ codec.ofItem item = .ok value := by
  unfold read
  constructor
  · intro found
    -- A bad header has no value.
    split at found
    · cases found
    · rename_i item left nextFound
      obtain ⟨valueRead, rfl⟩ := Prod.mk.inj found
      exact ⟨item, nextFound, valueRead⟩
  · intro steps
    obtain ⟨item, nextFound, valueRead⟩ := steps
    simp only [nextFound, valueRead]

/-- The written form of a value in front of other octets is read as that value. -/
theorem read_of_write (lawful : codec.Lawful integers) {value : α} {front : Bytes}
    (written : codec.write value = .ok front) (bounded : front.length < 2 ^ 64) (rest : Bytes)
    (inList : Bool) :
    (Cursor.mk (front ++ rest) inList).read codec = (.ok value, Cursor.mk rest inList) := by
  -- What is written is an item, from which the value is read.
  obtain ⟨item, itemMade, rfl⟩ := map_eq_ok_iff.mp written
  rw [read_write_append codec bounded, lawful.ofItem_of_toItem itemMade bounded]

/-- Everything has been read exactly when no data is left. -/
theorem finish_eq_ok_iff {cursor : Cursor} : cursor.finish = .ok () ↔ cursor.data = [] := by
  unfold finish isEmpty
  -- With data left the error depends on the kind of cursor, but there is one.
  cases cursor.data with
  | nil => simp
  | cons => cases cursor.inList <;> simp

end Countersign.Rlp.Cursor
