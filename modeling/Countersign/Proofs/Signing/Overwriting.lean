import Countersign.Proofs.Signing.Filling
import Countersign.Proofs.Transaction.Wire
import Countersign.Transaction.Requests

/-! Requests to fill slots, in any number and for any addresses: what an endorsement is left with is
what its address was given last. -/

namespace Countersign

/-- The shape in which a signature is handed over leaves no trace in it. -/
theorem Signature.Given.toSignature_eq (given : Signature.Given) :
    given.toSignature = ⟨given.octets⟩ := by
  -- An array, a vector and a slice are all copied octet by octet.
  cases given <;> rfl

namespace Request

/-- A request as an address with its signature. -/
def signed (request : Request) : Signed := ⟨request.address, request.given.toSignature⟩

/-- Two requests give the same octets to the same address. -/
def IsLike (request other : Request) : Prop :=
  request.address = other.address ∧ request.given.octets = other.given.octets

/-- Like requests give their address the same signature. -/
theorem IsLike.signed_eq {request other : Request} (like : request.IsLike other) :
    request.signed = other.signed := by
  obtain ⟨owner, octets⟩ := like
  -- The shape is lost when the signature is made of the octets.
  simp only [signed, Signature.Given.toSignature_eq, owner, octets]

end Request

/-- What requests leave of an endorsement: the signature that its address was given last, or all of
it as it was if its address was given none. -/
inductive Leaves (requests : List Request) (slot : Endorsement) : Endorsement → Prop where
  /-- No request behind the last one for the address is for the address. -/
  | signed (front back : List Request) (last : Request)
      (layout : requests = front ++ last :: back) (own : last.address = slot.address)
      (others : ∀ later ∈ back, later.address ≠ slot.address) :
      Leaves requests slot (slot.sign last.given.toSignature)
  /-- No request is for the address. -/
  | untouched (others : ∀ request ∈ requests, request.address ≠ slot.address) :
      Leaves requests slot slot

/-- A request in front of others is overwritten by those for its address, and is the last one if
there are none. -/
theorem Leaves.cons {request : Request} {rest : List Request} {slot left : Endorsement}
    (leaves : Leaves rest (if slot.address == request.address then
      slot.sign request.given.toSignature else slot) left) :
    Leaves (request :: rest) slot left := by
  generalize change : (if slot.address == request.address then
    slot.sign request.given.toSignature else slot) = filled at leaves
  have owner : filled.address = slot.address := by
    rw [← change]
    split <;> rfl
  cases leaves with
  | signed front back last layout own others =>
    -- The slot holds the later signature, whatever it held before.
    have again : filled.sign last.given.toSignature = slot.sign last.given.toSignature := by
      rw [← change]
      split <;> rfl
    rw [owner] at own others
    rw [again]
    exact .signed (request :: front) back last (congrArg _ layout) own others
  | untouched others =>
    rw [owner] at others
    by_cases own : slot.address = request.address
    · rw [if_pos (beq_iff_eq.mpr own)] at change
      rw [← change]
      exact .signed [] rest request rfl own.symm others
    · rw [if_neg (mt beq_iff_eq.mp own)] at change
      rw [← change]
      exact .untouched (List.forall_mem_cons.mpr ⟨Ne.symm own, others⟩)

namespace Transaction

/-- Requests are signatures that go in one behind the other, and an answer tells whether its address
is to sign. -/
theorem fillAll_eq (tx : Transaction) (requests : List Request) :
    tx.fillAll requests = (tx.setSignatures (requests.map Request.signed),
      requests.map fun request => decide (request.address ∈ tx.signers)) := by
  -- Filling slots changes nobody's answer.
  induction requests generalizing tx with
  | nil => rfl
  | cons request rest ih =>
    have answer : tx.hasSigner request.address = decide (request.address ∈ tx.signers) := by
      rw [Bool.eq_iff_iff, hasSigner_eq_true_iff, decide_eq_true_iff]
    simp only [fillAll, fill, ih, signers_setSignature, answer]
    rfl

/-- Every endorsement is left with what its address was given last. -/
theorem forall₂_leaves_fillAll (tx : Transaction) (requests : List Request) :
    List.Forall₂ (Leaves requests) tx.endorsements (tx.fillAll requests).1.endorsements := by
  -- What is left of a filled slot is what the requests from its filling on leave of the slot.
  induction requests generalizing tx with
  | nil => exact List.forall₂_same.mpr fun slot _ => .untouched (by simp)
  | cons request rest ih =>
    have later := ih (tx.fill request).1
    rw [fill, setSignature, endorsements_mapEndorsements, List.forall₂_map_left_iff] at later
    exact later.imp fun _ _ leaves => leaves.cons

/-- A signature goes in over another one of its address. -/
theorem setSignature_setSignature (tx : Transaction) (address : Address)
    (first second : Signature) :
    (tx.setSignature address first).setSignature address second =
      tx.setSignature address second := by
  -- Both pass over all endorsements, so they pass over them at once.
  simp only [setSignature, mapEndorsements_mapEndorsements]
  congr 1
  funext slot
  by_cases own : slot.address = address <;> simp [own, Endorsement.sign]

/-- The first of several signatures is filled in before the others. -/
theorem setSignatures_cons (tx : Transaction) (answer : Signed) (rest : List Signed) :
    tx.setSignatures (answer :: rest) =
      (tx.setSignature answer.address answer.signature).setSignatures rest := rfl

/-- Signatures are filled in from the front to the back. -/
theorem setSignatures_append (tx : Transaction) (front back : List Signed) :
    tx.setSignatures (front ++ back) = (tx.setSignatures front).setSignatures back :=
  List.foldl_append

/-- Filling slots in turn leaves the integers alone. -/
@[simp] theorem integers_setSignatures (tx : Transaction) (answers : List Signed) :
    (tx.setSignatures answers).integers = tx.integers := by
  -- No integer is lost when slots are emptied.
  rw [← integers_unsigned, unsigned_setSignatures, integers_unsigned]

/-- After any requests every endorsement holds the signature that its address was given last, or its
own if there was none, and nothing else is changed; each request is answered with whether its
address is to sign. So neighbouring requests for different addresses can change places, a request
can be repeated, and the shapes make no difference. Of what can be written the signatures are
written and read back. -/
theorem fillAll_overwrites (tx : Transaction) (requests : List Request) :
    (tx.fillAll requests).1.unsigned = tx.unsigned ∧
    List.Forall₂ (Leaves requests) tx.endorsements (tx.fillAll requests).1.endorsements ∧
    (tx.fillAll requests).2 =
      requests.map (fun request => decide (request.address ∈ tx.signers)) ∧
    (∀ front first second back, requests = front ++ first :: second :: back →
      first.address ≠ second.address →
      (tx.fillAll (front ++ second :: first :: back)).1 = (tx.fillAll requests).1) ∧
    (∀ front request back, requests = front ++ request :: back →
      (tx.fillAll (front ++ request :: request :: back)).1 = (tx.fillAll requests).1) ∧
    (∀ others, List.Forall₂ Request.IsLike others requests →
      tx.fillAll others = tx.fillAll requests) ∧
    ((∃ wire, tx.encode = .ok wire) → ∃ signed, (tx.fillAll requests).1.encode = .ok signed ∧
      (signed.length < 2 ^ 64 → decode signed = .ok (tx.fillAll requests).1)) := by
  refine ⟨?_, forall₂_leaves_fillAll tx requests, ?_, ?_, ?_, ?_, ?_⟩
  · rw [fillAll_eq, unsigned_setSignatures]
  · rw [fillAll_eq]
  · intro front first second back layout distinct
    have apart : second.signed.address ≠ first.signed.address := distinct.symm
    simp only [layout, fillAll_eq, List.map_append, List.map_cons, setSignatures_append,
      setSignatures_cons]
    rw [setSignature_comm _ apart]
  · intro front request back layout
    simp only [layout, fillAll_eq, List.map_append, List.map_cons, setSignatures_append,
      setSignatures_cons, setSignature_setSignature]
  · intro others alike
    -- All that counts of a request is the address with its signature.
    have sameSigned : others.map Request.signed = requests.map Request.signed := by
      induction alike with
      | nil => rfl
      | cons like _ ih => rw [List.map_cons, List.map_cons, like.signed_eq, ih]
    have answers (asked : List Request) :
        asked.map (fun request => decide (request.address ∈ tx.signers)) =
          (asked.map Request.signed).map fun answer => decide (answer.address ∈ tx.signers) := by
      rw [List.map_map]
      rfl
    rw [fillAll_eq, fillAll_eq, answers, answers, sameSigned]
  · intro writable
    obtain ⟨wire, written⟩ := writable
    have nonnegative : ∀ value ∈ (tx.setSignatures (requests.map Request.signed)).integers,
        0 ≤ value := by
      rw [integers_setSignatures]
      exact nonnegative_of_encode written
    obtain ⟨signed, signedWritten⟩ := exists_encode nonnegative
    rw [fillAll_eq]
    exact ⟨signed, signedWritten, decode_eq_ok_of_encode signedWritten⟩

/-- An address that owns no slot of the shared transfer. -/
def outsider : Address := ⟨List.replicate 20 0x22, rfl⟩

/-- A transfer that lists one address twice and another one between, with two slots signed. -/
def sharedSlots : Transaction :=
  .transfer {
    fee := ⟨1, 0⟩
    endorsements := [
      ⟨.zero, ⟨2, 0⟩, 3, .empty⟩,
      ⟨⟨List.replicate 20 0x11, rfl⟩, ⟨0, 4⟩, 5, ⟨[5]⟩⟩,
      ⟨.zero, ⟨6, 0⟩, 7, ⟨[7]⟩⟩]
    payouts := [] }

/-- Three requests: two for the address that is listed twice, in different shapes. -/
def threeRequests : List Request :=
  [⟨.zero, .vector [1]⟩, ⟨outsider, .array (.leftJustified [2])⟩,
    ⟨.zero, .slice [8, 9, 10] 1 1⟩]

/-- Both slots of the address that is listed twice hold what it was given last, in whatever order
and shape and however often, and the transfer is written and read back with it. -/
theorem fillAll_overwrites_sharedSlots :
    (sharedSlots.fillAll threeRequests).2 = [true, false, true] ∧
      (sharedSlots.fillAll threeRequests).1.endorsements.map Endorsement.signature =
        [⟨[9]⟩, ⟨[5]⟩, ⟨[9]⟩] ∧
      (sharedSlots.fillAll [⟨.zero, .vector [1]⟩, ⟨.zero, .slice [8, 9, 10] 1 1⟩,
        ⟨outsider, .array (.leftJustified [2])⟩]).1 = (sharedSlots.fillAll threeRequests).1 ∧
      (sharedSlots.fillAll (threeRequests ++ [⟨.zero, .slice [8, 9, 10] 1 1⟩])).1 =
        (sharedSlots.fillAll threeRequests).1 ∧
      sharedSlots.fillAll [⟨.zero, .slice [1] 0 1⟩, ⟨outsider, .array (.leftJustified [2])⟩,
        ⟨.zero, .wrapped ⟨[9]⟩⟩] = sharedSlots.fillAll threeRequests ∧
      ∃ signed, (sharedSlots.fillAll threeRequests).1.encode = .ok signed ∧
        decode signed = .ok (sharedSlots.fillAll threeRequests).1 := by
  -- Five parts of the general result are used, each on requests of its own.
  obtain ⟨-, -, answers, swap, again, shapes, survive⟩ :=
    fillAll_overwrites sharedSlots threeRequests
  have writable : ∃ wire, sharedSlots.encode = .ok wire := exists_encode (by decide)
  obtain ⟨signed, written, reads⟩ := survive writable
  -- Only the length of the written form is computed, not that it is read back.
  have short : ((sharedSlots.fillAll threeRequests).1.encode.toOption.any fun wire =>
      decide (wire.length < 2 ^ 64)) = true := by decide +kernel
  obtain ⟨other, otherWritten, bounded⟩ := exists_of_any short
  obtain rfl : other = signed := Except.ok.inj (otherWritten.symm.trans written)
  refine ⟨answers.trans (by decide), rfl, swap [_] _ _ [] rfl (by decide),
    again [_, _] _ [] rfl, shapes _ ?_, _, written, reads (of_decide_eq_true bounded)⟩
  -- The three requests are like the other three one by one.
  exact .cons ⟨rfl, rfl⟩ (.cons ⟨rfl, rfl⟩ (.cons ⟨rfl, rfl⟩ .nil))

end Transaction

end Countersign
