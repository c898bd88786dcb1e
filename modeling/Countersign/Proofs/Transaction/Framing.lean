import Countersign.Proofs.Rlp.Truncation
import Countersign.Proofs.Transaction.Wire

/-! The frame around a body: what stands in front of it names its kind, and the wire form of a
transaction can be read neither in part nor with anything behind it. -/

namespace Countersign.Transaction

open Rlp (Cursor DecodeError Item)

/-- Octets behind the written form of a tag, whether or not it is the tag of a kind. -/
def tagged (tag : UInt64) (rest : Bytes) : Bytes :=
  (Item.octets (Bytes.ofNat tag.toNat)).write ++ rest

/-- The transaction of a kind whose body is all that follows the tag. -/
def readBody (kind : Kind) (data : Bytes) : Except DecodeError Transaction := do
  let (item, left) ← (Cursor.mk data false).next
  let tx ← ofBody kind item
  left.finish
  return tx

/-- The written form of a tag takes nine octets at most. -/
theorem length_write_tag_le (tag : UInt64) :
    (Item.octets (Bytes.ofNat tag.toNat)).write.length ≤ 9 := by
  -- A word has eight octets at most, and a header of one is enough for them.
  have digits : (Bytes.ofNat tag.toNat).length ≤ 8 :=
    Bytes.length_ofNat_le (by have := tag.toNat_lt; omega)
  have limit : Rlp.shortLimit = 55 := rfl
  rcases Item.write_octets_cases (Bytes.ofNat tag.toNat) with ⟨octet, -, -, written⟩ | ⟨-, written⟩
  · simp [written]
  · rw [written, Rlp.length_header_append, if_pos (by omega)]
    omega

/-- Behind a tag the body of its kind is read, if there is one. -/
theorem decode_tagged (tag : UInt64) (rest : Bytes) :
    decode (tagged tag rest) =
      match Kind.ofTag? tag.toNat with
      | none => .error (.unknownKind tag.toNat)
      | some kind => readBody kind rest := by
  have bounded : (Item.octets (Bytes.ofNat tag.toNat)).write.length < 2 ^ 64 := by
    have := length_write_tag_le tag
    omega
  have written : Rlp.Codec.word64.write tag = .ok (Item.octets (Bytes.ofNat tag.toNat)).write := rfl
  -- The tag is read whatever follows it, and only then looked up.
  have tagRead := Cursor.read_of_write Rlp.Codec.word64_lawful written bounded rest false
  simp only [decode, tagged, Cursor.ofBytes, tagRead, bind, Except.bind]
  cases Kind.ofTag? tag.toNat <;> rfl

/-- Behind the tag of a kind its body is read. -/
theorem decode_tagged_of_kind {kind : Kind} {tag : UInt64} (named : kind.tag = tag.toNat)
    (rest : Bytes) : decode (tagged tag rest) = readBody kind rest := by
  -- The number names this kind and no other.
  rw [decode_tagged, Kind.ofTag?_eq_some_iff.mpr named]

/-- The tag in front of a wire form is that of a kind. -/
theorem decode_tagItem (kind : Kind) (rest : Bytes) :
    decode (tagItem kind ++ rest) = readBody kind rest := by
  -- The tag of a kind is a word like any other.
  rw [← decode_tagged_of_kind (Kind.toNat_tag kind).symm, tagged, Kind.toNat_tag, tagItem]

/-- A body is read exactly when it is one item, and the item is that of the kind's codec. -/
theorem readBody_eq_ok_iff {kind : Kind} {data : Bytes} {tx : Transaction} :
    readBody kind data = .ok tx ↔
      ∃ item, Item.split? data = .ok (some (item, [])) ∧ ofBody kind item = .ok tx := by
  rw [readBody, bind_eq_ok_iff]
  constructor
  -- The item, the body in it and the end of the data are read in this order.
  · intro steps
    obtain ⟨⟨item, left⟩, itemNext, afterItem⟩ := steps
    obtain ⟨found, read, afterBody⟩ := bind_eq_ok_iff.mp afterItem
    obtain ⟨_, finished, made⟩ := bind_eq_ok_iff.mp afterBody
    cases made
    obtain ⟨layout, bounded, -⟩ := Cursor.next_eq_ok_iff.mp itemNext
    rw [Cursor.finish_eq_ok_iff.mp finished] at layout
    exact ⟨item, Item.split?_eq_some_iff.mpr ⟨layout, bounded⟩, read⟩
  -- The item is the whole data, so nothing is left behind it.
  · intro whole
    obtain ⟨item, found, read⟩ := whole
    obtain ⟨layout, bounded⟩ := Item.split?_eq_some_iff.mp found
    refine ⟨(item, ⟨[], false⟩), Cursor.next_eq_ok_iff.mpr ⟨layout, bounded, rfl⟩, ?_⟩
    simp only [read, bind, Except.bind]
    rfl

/-- What is read as a body of a kind is of that kind. -/
theorem kind_of_readBody {kind : Kind} {data : Bytes} {tx : Transaction}
    (read : readBody kind data = .ok tx) : tx.kind = kind := by
  obtain ⟨item, -, bodyRead⟩ := readBody_eq_ok_iff.mp read
  -- Each kind has a body of its own.
  exact (bodyItem_of_ofBody bodyRead).1

/-- What is read behind the tag of a kind is of that kind. -/
theorem kind_of_decode_tagged {kind : Kind} {tag : UInt64} {rest : Bytes} {tx : Transaction}
    (named : kind.tag = tag.toNat) (read : decode (tagged tag rest) = .ok tx) :
    tx.kind = kind := by
  -- Behind the tag there is nothing but a body of the kind.
  rw [decode_tagged_of_kind named] at read
  exact kind_of_readBody read

/-- A tag with a transaction behind it is that of a kind. -/
theorem exists_kind_of_decode {tag : UInt64} {rest : Bytes} {tx : Transaction}
    (read : decode (tagged tag rest) = .ok tx) :
    ∃ kind, Kind.tag kind = tag.toNat ∧ readBody kind rest = .ok tx := by
  rw [decode_tagged] at read
  cases found : Kind.ofTag? tag.toNat with
  -- Without a kind there would be no transaction.
  | none =>
    rw [found] at read
    cases read
  | some kind =>
    rw [found] at read
    exact ⟨kind, Kind.ofTag?_eq_some_iff.mp found, read⟩

/-- Numbers above eight name no kind. -/
theorem ofTag?_eq_none_of_lt {tag : Nat} (above : 8 < tag) : Kind.ofTag? tag = none := by
  cases found : Kind.ofTag? tag with
  | none => rfl
  -- The tags of all nine kinds are at most eight.
  | some kind =>
    have tagged := Kind.ofTag?_eq_some_iff.mp found
    cases kind <;> simp [Kind.tag] at tagged <;> omega

/-- A body that is cut off anywhere, also in front of its first octet, lacks octets. -/
theorem readBody_of_write_append {item : Item} {front back : Bytes} (kind : Kind)
    (layout : item.write = front ++ back) (bounded : item.write.length < 2 ^ 64)
    (unfinished : back ≠ []) : readBody kind front = .error .unexpectedEnd := by
  -- In front of the first octet nothing has begun, and the error is the same.
  have lacking : (Cursor.mk front false).next = .error .unexpectedEnd := by
    by_cases begun : front = []
    · subst begun
      rfl
    · rw [Cursor.next, Item.split?_of_write_append layout bounded begun unfinished]
      rfl
  rw [readBody, lacking]
  rfl

/-- A body with anything behind it is refused. -/
theorem readBody_append {kind : Kind} {item : Item} {tx : Transaction} {more : Bytes}
    (read : ofBody kind item = .ok tx) (bounded : item.write.length < 2 ^ 64)
    (followed : more ≠ []) : readBody kind (item.write ++ more) = .error .trailingBytes := by
  have itemNext : (Cursor.mk (item.write ++ more) false).next = .ok (item, ⟨more, false⟩) :=
    Cursor.next_eq_ok_iff.mpr ⟨rfl, bounded, rfl⟩
  -- The body is read before it is asked whether the data is at its end.
  have left : (Cursor.mk more false).finish = .error .trailingBytes := by
    simp [Cursor.finish, Cursor.isEmpty, followed]
  simp [readBody, itemNext, read, left, bind, Except.bind]

/-- Of a wire form no part in front is read, for want of octets, and nothing that goes on behind it,
as long as sixty-four bits hold its length. A number that is the tag of no kind is named, whatever
stands behind it. -/
theorem decode_framed :
    (∀ (tx : Transaction) (wire : Bytes), tx.encode = .ok wire → wire.length < 2 ^ 64 →
      (∀ front back, wire = front ++ back → back ≠ [] →
        decode front = .error .unexpectedEnd) ∧
      ∀ more, more ≠ [] → decode (wire ++ more) = .error .trailingBytes) ∧
    ∀ (tag : UInt64) (rest : Bytes), 8 < tag.toNat →
      decode (tagged tag rest) = .error (.unknownKind tag.toNat) := by
  refine ⟨?_, ?_⟩
  · intro tx wire written bounded
    obtain ⟨item, made, rfl⟩ := encode_eq_ok_iff.mp written
    have inside : item.write.length < 2 ^ 64 := by
      rw [List.length_append] at bounded
      omega
    refine ⟨?_, ?_⟩
    · intro front back layout unfinished
      cases front with
      | nil => rfl
      | cons first others =>
        -- The tag is a single octet, so what is cut off belongs to the body.
        obtain ⟨octet, single⟩ := List.length_eq_one_iff.mp (length_tagItem tx.kind)
        rw [single, List.cons_append, List.cons_append, List.cons.injEq] at layout
        obtain ⟨rfl, layout⟩ := layout
        have cutBody := readBody_of_write_append tx.kind layout inside unfinished
        rwa [← decode_tagItem, single] at cutBody
    · intro more followed
      rw [List.append_assoc, decode_tagItem]
      exact readBody_append (ofBody_of_bodyItem made inside) inside followed
  · intro tag rest above
    rw [decode_tagged, ofTag?_eq_none_of_lt above]

/-- The wire form of the release is read neither without its last octet, nor up to the middle of its
sequence, nor with an octet behind it; and the greatest number is the tag of no kind. -/
theorem decode_framed_boundaryWire :
    boundaryRelease.encode = .ok boundaryWire ∧ boundaryWire.length < 2 ^ 64 ∧
      boundaryWire = boundaryWire.dropLast ++ [0x80] ∧
      decode boundaryWire.dropLast = .error .unexpectedEnd ∧
      decode (boundaryWire.take 36) = .error .unexpectedEnd ∧
      decode (boundaryWire ++ [0]) = .error .trailingBytes ∧
      8 < (18446744073709551615 : UInt64).toNat ∧
      decode (tagged 18446744073709551615 [0xC0]) =
        .error (.unknownKind 18446744073709551615) := by
  obtain ⟨frames, unknown⟩ := decode_framed
  have written : boundaryRelease.encode = .ok boundaryWire := by decide +kernel
  have bounded : boundaryWire.length < 2 ^ 64 := by decide
  -- The last octet is the field that is zero.
  have last : boundaryWire = boundaryWire.dropLast ++ [0x80] := by decide
  obtain ⟨parts, followed⟩ := frames boundaryRelease boundaryWire written bounded
  refine ⟨written, bounded, last, parts _ _ last (by simp), ?_, followed [0] (by simp), ?_, ?_⟩
  · exact parts _ _ (List.take_append_drop 36 boundaryWire).symm (by decide)
  · decide
  · exact unknown _ _ (by decide)

end Countersign.Transaction
