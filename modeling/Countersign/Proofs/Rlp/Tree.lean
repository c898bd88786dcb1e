import Countersign.Proofs.Rlp.Reader

/-! Trees of strings and lists, written and read down to their leaves. What is read at a cursor is
what was written there, and octets that were not written so are refused for what is wrong with
them. -/

namespace Countersign.Rlp

/-- A tree whose leaves are strings and whose nodes are lists. -/
inductive Tree where
  /-- A string. -/
  | leaf (content : Bytes)
  /-- A list. -/
  | node (children : List Tree)

namespace Tree

mutual

/-- The item of a tree. -/
def item : Tree → Item
  | .leaf content => .octets content
  | .node children => .list (writeAll children)

/-- The written forms of trees, one behind the other. -/
def writeAll : List Tree → Bytes
  | [] => []
  | tree :: others => tree.item.write ++ writeAll others

end

mutual

/-- The written form of a tree, if no computation on the way leaves its range. -/
def compute : Tree → Option Bytes
  | .leaf content => Words.write (.octets content)
  | .node children => do Words.write (.list (← computeAll children))

/-- The written forms of trees, one behind the other, if no computation leaves its range. -/
def computeAll : List Tree → Option Bytes
  | [] => some []
  | tree :: others => do return (← tree.compute) ++ (← computeAll others)

end

end Tree

/-- The item that stands at a cursor is the one whose written form does. -/
theorem Reader.runAt_item_eq_ok_iff {cursor behind : Cursor} {item : Item} :
    Reader.item.runAt cursor = some (.ok item, behind) ↔
      cursor.data = item.write ++ behind.data ∧ item.write.length < 2 ^ 64 ∧
        behind.inList = cursor.inList := by
  -- Every item is judged to be itself, so the cursor alone decides.
  rw [item_passes.runAt_eq_ok_iff, ← Cursor.next_eq_ok_iff]
  simp

/-- The written form of an item is read as that item. -/
theorem Reader.runAt_item {item : Item} (bounded : item.write.length < 2 ^ 64) {rest : Bytes}
    {inList : Bool} :
    Reader.item.runAt ⟨item.write ++ rest, inList⟩ = some (.ok item, ⟨rest, inList⟩) :=
  -- Nothing else than the bound is needed in this direction.
  runAt_item_eq_ok_iff.mpr ⟨rfl, bounded, rfl⟩

/-- The header of a list stands in front of its payload. -/
theorem Item.length_payload_lt (payload : Bytes) :
    payload.length < (Item.list payload).write.length := by
  -- There is at least one octet of header.
  have headed := List.length_pos_iff.mpr (header_ne_nil listBase payload.length)
  rw [write_list, List.length_append]
  omega

namespace Tree

/-- The trees that make up a payload, read item after item down to the strings. -/
def readAll (payload : Bytes) : ExceptT DecodeError Option (List Tree) :=
  if payload.isEmpty then return []
  else
    match _found : Reader.item.runAt (.ofPayload payload) with
    | none => ExceptT.mk none
    | some (.error error, _) => throw error
    | some (.ok (.octets content), behind) => do return .leaf content :: (← readAll behind.data)
    | some (.ok (.list inner), behind) => do
      let children ← readAll inner
      return .node children :: (← readAll behind.data)
termination_by payload.length
decreasing_by
  · exact Reader.item_passes.shortens _found
  · obtain ⟨layout, -, -⟩ := Reader.runAt_item_eq_ok_iff.mp _found
    have whole := congrArg List.length layout
    have inside := Item.length_payload_lt inner
    rw [List.length_append] at whole
    change payload.length = _ at whole
    omega
  · exact Reader.item_passes.shortens _found

/-- The tree of an item. -/
def ofItem : Item → ExceptT DecodeError Option Tree
  | .octets content => return .leaf content
  | .list payload => do return .node (← readAll payload)

end Tree

/-- A tree. -/
def Reader.tree : Reader Tree := do
  let outcome ← (Tree.ofItem (← item)).run
  outcome

namespace Tree

mutual

/-- A tree is written without leaving any range if a word can say how long its written form is. -/
theorem compute_eq : ∀ tree : Tree, tree.item.write.length < 2 ^ 64 →
    tree.compute = some tree.item.write
  | .leaf content, bounded => Words.write_eq bounded
  -- The payload is shorter than the whole, so the bound passes on to the children.
  | .node children, bounded => by
    have inside := Item.length_payload_le (writeAll children)
    rw [item] at bounded
    rw [compute, computeAll_eq children (by omega)]
    exact Words.write_eq bounded

/-- So are trees one behind the other. -/
theorem computeAll_eq : ∀ trees : List Tree, (writeAll trees).length < 2 ^ 64 →
    computeAll trees = some (writeAll trees)
  | [], _ => rfl
  -- Together the trees are within the bound, so each one is.
  | tree :: others, bounded => by
    rw [writeAll, List.length_append] at bounded
    rw [computeAll, compute_eq tree (by omega), computeAll_eq others (by omega)]
    rfl

end

/-- A payload that begins with an item is the tree of that item and the trees behind it. -/
theorem readAll_of_runAt_item {payload : Bytes} {item : Item} {behind : Cursor}
    (filled : payload.isEmpty = false)
    (found : Reader.item.runAt (.ofPayload payload) = some (.ok item, behind)) :
    readAll payload = (do
      let tree ← ofItem item
      return tree :: (← readAll behind.data)) := by
  rw [readAll]
  simp only [filled, Bool.false_eq_true, ↓reduceIte]
  -- The item that is read decides between the branches, and only one is left.
  split
  · rename_i same
    rw [found] at same
    cases same
  · rename_i same
    rw [found] at same
    cases same
  · rename_i same
    rw [found] at same
    cases same
    rfl
  · rename_i same
    rw [found] at same
    cases same
    simp only [ofItem, bind_assoc, pure_bind]

-- The induction follows the tree and not the octets, as each level has its own cursor.
mutual

/-- The item of a tree is read as that tree. -/
theorem ofItem_item : ∀ tree : Tree, tree.item.write.length < 2 ^ 64 →
    ofItem tree.item = pure tree
  | .leaf content, _ => rfl
  -- As when writing, the payload of a node is within the bound of the node.
  | .node children, bounded => by
    have inside := Item.length_payload_le (writeAll children)
    rw [item] at bounded
    rw [item, ofItem, readAll_writeAll children (by omega), pure_bind]

/-- Trees that are written one behind the other are read back in their order. -/
theorem readAll_writeAll : ∀ trees : List Tree, (writeAll trees).length < 2 ^ 64 →
    readAll (writeAll trees) = pure trees
  | [], _ => by
    rw [readAll]
    rfl
  -- The head is read as an item, from which its tree is built before the others are read.
  | tree :: others, bounded => by
    rw [writeAll, List.length_append] at bounded
    have filled : (writeAll (tree :: others)).isEmpty = false := by
      simp [writeAll, tree.item.write_ne_nil]
    have found : Reader.item.runAt (.ofPayload (writeAll (tree :: others))) =
        some (.ok tree.item, .ofPayload (writeAll others)) :=
      Reader.runAt_item_eq_ok_iff.mpr ⟨rfl, by omega, rfl⟩
    rw [readAll_of_runAt_item filled found, ofItem_item tree (by omega), pure_bind,
      Cursor.ofPayload, readAll_writeAll others (by omega), pure_bind]

end

end Tree

/-- The written form of a tree is read back as that tree, up to where it ends. -/
theorem Reader.runAt_tree (tree : Tree) (bounded : tree.item.write.length < 2 ^ 64) (rest : Bytes)
    (inList : Bool) :
    Reader.tree.runAt ⟨tree.item.write ++ rest, inList⟩ = some (.ok tree, ⟨rest, inList⟩) := by
  -- The tree is built from the item that has been passed, so the cursor stays behind it.
  have whole : (Tree.ofItem tree.item).run = some (.ok tree) :=
    congrArg ExceptT.run (tree.ofItem_item bounded)
  rw [Reader.tree, runAt_bind_of_ok (runAt_item bounded), runAt_bind_of_ok (runAt_some whole _)]
  exact runAt_except _ _

/-- Reading an item computes within every range, whatever the cursor stands before. It finds what
was written there, of lengths that are the lengths of sequences in memory, or has an error that says
why nothing was. What is short enough is written without leaving any range as well, so trees are
written and read back. -/
theorem item_read_iff_written (cursor : Cursor) :
    (∃ outcome behind, Reader.item.runAt cursor = some (outcome, behind)) ∧
    (∀ content behind, content.length < 2 ^ 63 →
      (Reader.item.runAt cursor = some (.ok (.octets content), behind) ↔
        cursor.data = (Item.octets content).write ++ behind.data ∧
          behind.inList = cursor.inList)) ∧
    (∀ payload behind, payload.length < 2 ^ 63 →
      (Reader.item.runAt cursor = some (.ok (.list payload), behind) ↔
        cursor.data = header listBase payload.length ++ (payload ++ behind.data) ∧
          behind.inList = cursor.inList)) ∧
    (∀ error behind, Reader.item.runAt cursor = some (.error error, behind) ↔
      behind = cursor ∧
        (cursor.data = [] ∧ error = (if cursor.inList then .tooFewElements else .unexpectedEnd) ∨
          Malformed cursor.data error)) ∧
    (∀ item, item.write.length < 2 ^ 64 → Words.write item = some item.write) ∧
    ∀ tree : Tree, tree.item.write.length < 2 ^ 64 → tree.compute = some tree.item.write ∧
      ∀ rest, Reader.tree.runAt ⟨tree.item.write ++ rest, cursor.inList⟩ =
        some (.ok tree, ⟨rest, cursor.inList⟩) := by
  refine ⟨?_, ?_, ?_, ?_, ?_, ?_⟩
  -- No range is left: there is an outcome at every cursor.
  · rw [Reader.item_passes]
    exact ⟨_, _, rfl⟩
  -- A length below the bound leaves room for the header within a word.
  · intro content behind small
    rw [Reader.runAt_item_eq_ok_iff, and_iff_right (Words.length_write_octets_lt small)]
  · intro payload behind small
    rw [Reader.runAt_item_eq_ok_iff, Item.write_list,
      and_iff_right (Words.length_header_append_lt small), List.append_assoc]
  -- An item has no errors but those of its header.
  · intro error behind
    rw [Reader.item_passes.runAt_eq_error_iff, Cursor.next_eq_error_iff]
    simp [and_comm]
  -- Writing needs only that a word can hold the length of the whole.
  · intro item bounded
    exact Words.write_eq bounded
  · intro tree bounded
    exact ⟨tree.compute_eq bounded, fun rest => Reader.runAt_tree tree bounded rest _⟩

/-- A string with the shortest of the long headers is read, a length that no word holds together
with its header is refused where it stands, and a tree is read up to what follows it. -/
theorem item_read_iff_written_forms :
    Reader.item.runAt ⟨0xB8 :: 0x38 :: Bytes.zeros 56, false⟩ =
        some (.ok (.octets (Bytes.zeros 56)), ⟨[], false⟩) ∧
      Reader.item.runAt ⟨0xBF :: List.replicate 8 0xFF, true⟩ =
        some (.error .lengthOverflow, ⟨0xBF :: List.replicate 8 0xFF, true⟩) ∧
      Reader.tree.runAt ⟨[0xC2, 0x61, 0xC0, 0x07], true⟩ =
        some (.ok (.node [.leaf [0x61], .node []]), ⟨[0x07], true⟩) := by
  obtain ⟨-, strings, -⟩ := item_read_iff_written ⟨0xB8 :: 0x38 :: Bytes.zeros 56, false⟩
  -- A string of fifty-six octets is the first that needs a length of its own.
  have string := (strings (Bytes.zeros 56) ⟨[], false⟩ (by decide)).mpr ⟨by decide +kernel, rfl⟩
  obtain ⟨-, -, -, errors, -, trees⟩ := item_read_iff_written ⟨0xBF :: List.replicate 8 0xFF, true⟩
  -- Eight octets declare the length, and they are all there.
  have declared : DeclaresWidth 0xBF 8 := ⟨by decide, by decide, by decide⟩
  have overflow : BadLength 8 (List.replicate 8 0xFF ++ []) .lengthOverflow :=
    .overflow rfl (by decide) (by decide)
  have refused := (errors .lengthOverflow _).mpr ⟨rfl, .inr (.badLength declared overflow)⟩
  -- The tree has a list inside a list, with an octet behind the whole.
  obtain ⟨-, back⟩ := trees (.node [.leaf [0x61], .node []]) (by decide +kernel)
  have form : (Tree.node [.leaf [0x61], .node []]).item.write = [0xC2, 0x61, 0xC0] := by
    decide +kernel
  rw [form] at back
  exact ⟨string, refused, back [0x07]⟩

end Countersign.Rlp
