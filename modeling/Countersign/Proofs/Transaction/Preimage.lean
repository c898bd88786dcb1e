import Countersign.Transaction.Preimage
import Countersign.Proofs.Transaction.Wire

/-! The octets that are signed: they read back as the chain and the view they were made from, so
equal octets mean equal chains and equal views, whatever function made them. -/

namespace Countersign

open Rlp (Codec Cursor EncodeError Fields Item)

/-- The six items of the list that is signed. -/
structure Envelope where
  /-- The first zero, where a transfer has its counter. -/
  nonce : UInt64
  /-- The second zero, where a transfer has the price of gas. -/
  gasPrice : UInt64
  /-- The third zero, where a transfer has its limit of gas. -/
  gasLimit : UInt64
  /-- The zero octets where a transfer has its recipient. -/
  recipient : Bytes
  /-- The last zero, where a transfer has its value. -/
  value : UInt64
  /-- What is signed. -/
  data : Bytes
  deriving DecidableEq

/-- The envelope around some data: everything else is zero. -/
def Envelope.ofData (data : Bytes) : Envelope := ⟨0, 0, 0, Bytes.zeros 20, 0, data⟩

/-- An envelope is the list of its items. -/
def Rlp.envelope : Codec Envelope :=
  Fields.record
    (.cons .word64 (.cons .word64 (.cons .word64 (.cons .bytes (.cons .word64
      (.cons .bytes .nil))))))
    (fun (nonce, gasPrice, gasLimit, recipient, value, data, _) =>
      ⟨nonce, gasPrice, gasLimit, recipient, value, data⟩)
    (fun envelope => (envelope.nonce, envelope.gasPrice, envelope.gasLimit, envelope.recipient,
      envelope.value, envelope.data, ()))

/-- An envelope obeys the laws of its items. -/
theorem Rlp.envelope_lawful : Rlp.envelope.Lawful fun _ => [] :=
  -- Six items, of which four are words and two are strings.
  (Codec.word64_lawful.cons (Codec.word64_lawful.cons (Codec.word64_lawful.cons
    (Codec.bytes_lawful.cons (Codec.word64_lawful.cons (Codec.bytes_lawful.cons
      Fields.nil_lawful)))))).record (fun _ => rfl) (fun _ => rfl)

/-- What is signed of a chain and a wire form: the chain as a string, then the wire form. -/
def signedData (chain : String) (wire : Bytes) : Bytes :=
  -- Only the chain has a header here.
  (Item.octets (Bytes.ofText chain)).write ++ wire

/-- Octets hold a chain and a transaction: they are one list of an envelope's items, and its data
is the string of the chain in front of the transaction's wire form. -/
def Holds (octets : Bytes) (chain : String) (tx : Transaction) : Prop :=
  -- Each read leaves the rest in place, and the last one must use it up.
  ∃ data wire,
    (Cursor.ofBytes octets).read Rlp.envelope = (.ok (.ofData data), .ofBytes []) ∧
      (Cursor.ofBytes data).read Codec.text = (.ok chain, .ofBytes wire) ∧
      Transaction.decode wire = .ok tx

/-- The list around a chain and a wire form is the envelope of the two. -/
theorem write_envelope (chain : String) (wire : Bytes) :
    Rlp.envelope.write (.ofData (signedData chain wire)) = .ok (envelope chain wire) := by
  -- Zero is the empty string, and appending the items one by one or in turn is the same.
  simp [Rlp.envelope, Fields.record, Fields.cons, Fields.nil, Codec.write, Codec.word64,
    Codec.bytes, Envelope.ofData, signedData, envelope, bind, Except.bind, pure, Except.pure,
    Except.map]

/-- The data is no longer than the list around it. -/
theorem length_data_le (chain : String) (wire : Bytes) :
    (signedData chain wire).length ≤ (envelope chain wire).length := by
  -- The data is the content of the last item of the payload.
  have inside := Item.length_content_le (signedData chain wire)
  refine Nat.le_trans inside (Nat.le_trans ?_ (Item.length_payload_le _))
  simp only [List.length_append, signedData]
  omega

/-- The list around a transaction's wire form holds the chain and that transaction. -/
theorem holds_wrapped {tx : Transaction} {chain : String} {octets : Bytes}
    (made : tx.wrapped chain = .ok octets) (bounded : octets.length < 2 ^ 63) :
    Holds octets chain tx := by
  obtain ⟨wire, written, rfl⟩ := map_eq_ok_iff.mp made
  have dataInside := length_data_le chain wire
  have dataLength : (signedData chain wire).length =
      (Item.octets (Bytes.ofText chain)).write.length + wire.length := List.length_append
  refine ⟨signedData chain wire, wire, ?_, ?_, ?_⟩
  · -- The envelope is the only item of the octets.
    have read := Cursor.read_of_write Rlp.envelope_lawful (write_envelope chain wire)
      (by omega) [] false
    rwa [List.append_nil] at read
  · -- The chain announces its own length, so the wire form begins where it must.
    exact Cursor.read_of_write Codec.text_lawful rfl (by omega) wire false
  · exact Transaction.decode_eq_ok_of_encode written (by omega)

/-- What octets hold is determined by the octets. -/
theorem Holds.unique {octets : Bytes} {chain otherChain : String} {tx other : Transaction}
    (held : Holds octets chain tx) (otherHeld : Holds octets otherChain other) :
    chain = otherChain ∧ tx = other := by
  obtain ⟨data, wire, dataRead, chainRead, txRead⟩ := held
  obtain ⟨otherData, otherWire, otherDataRead, otherChainRead, otherRead⟩ := otherHeld
  -- Each of the three readings has one result.
  have sameEnvelope := (Prod.mk.inj (dataRead.symm.trans otherDataRead)).1
  obtain rfl : data = otherData := (Envelope.mk.inj (Except.ok.inj sameEnvelope)).2.2.2.2.2
  obtain ⟨sameChain, sameRest⟩ := Prod.mk.inj (chainRead.symm.trans otherChainRead)
  obtain rfl : wire = otherWire := (Cursor.mk.inj sameRest).1
  exact ⟨Except.ok.inj sameChain, Except.ok.inj (txRead.symm.trans otherRead)⟩

/-- One of the three ways to make the octets that are signed. -/
inductive Preimage where
  /-- The octets that endorsers sign. -/
  | endorsers (tx : Transaction)
  /-- The octets that the source of a payment signs. -/
  | source (body : ServicePayment)
  /-- The octets that the target of a payment signs. -/
  | target (body : ServicePayment)
  deriving DecidableEq

namespace Preimage

/-- The octets, under a chain. -/
def octets (preimage : Preimage) (chain : String) : Except EncodeError Bytes :=
  match preimage with
  | .endorsers tx => tx.signBytes chain
  | .source body => body.sourceSignBytes chain
  | .target body => body.targetSignBytes chain

/-- The transaction that the octets embed. -/
def view : Preimage → Transaction
  | .endorsers tx =>
    -- Every signature is cleared.
    tx.mapEndorsements fun slot => { slot with signature := .empty }
  | .source body =>
    -- The source is reduced to address and amount, the target to its address.
    .servicePayment { body with
      fee := ⟨0, 0⟩
      source := ⟨body.source.address, body.source.amount, 0, .empty⟩
      target := ⟨body.target.address, ⟨0, 0⟩, 0, .empty⟩ }
  | .target body =>
    -- Only the target's signature is cleared.
    .servicePayment { body with target := { body.target with signature := .empty } }

/-- The octets wrap the view, whichever function makes them. -/
theorem octets_eq (preimage : Preimage) (chain : String) :
    preimage.octets chain = preimage.view.wrapped chain := by
  -- Each of the three functions wraps a view of its own.
  cases preimage <;> rfl

/-- Octets that are signed are equal exactly when their chains and their views are, and all of them
read back as the chain and the view that they were made from. -/
theorem octets_eq_iff {left right : Preimage} {leftChain rightChain : String}
    {leftOctets rightOctets : Bytes} (leftMade : left.octets leftChain = .ok leftOctets)
    (rightMade : right.octets rightChain = .ok rightOctets)
    (leftBounded : leftOctets.length < 2 ^ 63) (rightBounded : rightOctets.length < 2 ^ 63) :
    (leftOctets = rightOctets ↔ leftChain = rightChain ∧ left.view = right.view) ∧
      Holds leftOctets leftChain left.view ∧ Holds rightOctets rightChain right.view := by
  rw [octets_eq] at leftMade rightMade
  have leftHolds := holds_wrapped leftMade leftBounded
  have rightHolds := holds_wrapped rightMade rightBounded
  refine ⟨?_, leftHolds, rightHolds⟩
  -- Equal octets hold one chain and one view.
  constructor
  · intro same
    rw [← same] at rightHolds
    exact leftHolds.unique rightHolds
  -- The octets are a function of both.
  · intro same
    obtain ⟨sameChain, sameView⟩ := same
    rw [sameChain, sameView] at leftMade
    exact Except.ok.inj (leftMade.symm.trans rightMade)

/-- A payment that only its target has signed. -/
def targetSigned : ServicePayment where
  fee := ⟨1, 0⟩
  source := ⟨.zero, ⟨2, 0⟩, 3, .empty⟩
  target := ⟨.zero, ⟨0, 4⟩, 5, ⟨[9]⟩⟩
  paymentSequence := 6
  reserveSequence := 7
  resourceId := "r"

/-- The octets that its target has signed under the chain `net`. -/
def targetSignedOctets : Bytes :=
  [0xF8, 0x5E, 0x80, 0x80, 0x80, 0x94] ++ Bytes.zeros 20 ++
    [0x80, 0xB8, 0x43, 0x83, 0x6E, 0x65, 0x74, 0x05, 0xF8, 0x3C, 0xC2, 0x01, 0x80, 0xDA, 0x94] ++
    Bytes.zeros 20 ++ [0xC2, 0x02, 0x80, 0x03, 0x80, 0xDA, 0x94] ++ Bytes.zeros 20 ++
    [0xC2, 0x80, 0x04, 0x05, 0x80, 0x06, 0x07, 0x72]

/-- While the source has not signed, the target's octets are those that endorsers would sign. -/
theorem octets_eq_iff_targetSigned :
    (endorsers (.servicePayment targetSigned)).octets "net" = .ok targetSignedOctets ∧
      (target targetSigned).octets "net" = .ok targetSignedOctets ∧
      targetSignedOctets.length < 2 ^ 63 ∧
      (endorsers (.servicePayment targetSigned)).view = (target targetSigned).view ∧
      Holds targetSignedOctets "net" (target targetSigned).view := by
  -- Both octets are computed, and they are the same ones.
  have generalMade : (endorsers (.servicePayment targetSigned)).octets "net" =
      .ok targetSignedOctets := by decide +kernel
  have targetMade : (target targetSigned).octets "net" = .ok targetSignedOctets := by
    decide +kernel
  have bounded : targetSignedOctets.length < 2 ^ 63 := by decide
  obtain ⟨same, -, held⟩ := octets_eq_iff generalMade targetMade bounded bounded
  exact ⟨generalMade, targetMade, bounded, (same.mp rfl).2, held⟩

end Preimage

end Countersign
