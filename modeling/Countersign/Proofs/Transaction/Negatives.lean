import Countersign.Proofs.Transaction.Preimage
import Countersign.Transaction.Bodies

/-! Negative integers: whatever writes, hashes or wraps a transaction refuses it for the first
negative integer in it. Only the source of a payment signs without regard to the fee and to what is
promised to the target. -/

namespace Countersign

open Rlp (EncodeError firstNegative firstNegative_append firstNegative_eq_none_iff)

/-- A negative integer with none in front of it. -/
def IsFirstNegative (integers : List Int) (value : Int) : Prop :=
  ∃ before after, integers = before ++ value :: after ∧ value < 0 ∧
    ∀ earlier ∈ before, 0 ≤ earlier

/-- An error names the first negative one of some integers, in decimal digits. -/
def NamesFirstNegative (error : EncodeError) (integers : List Int) : Prop :=
  ∃ value, IsFirstNegative integers value ∧ error = .negativeInteger value ∧
    error.message = "negative integer cannot be encoded: " ++ toString value

/-- The integer that is found is negative, and none in front of it is. -/
theorem firstNegative_eq_some_iff {integers : List Int} {value : Int} :
    firstNegative integers = some value ↔ IsFirstNegative integers value := by
  -- Searching says the same with the two conditions in another order.
  simp only [firstNegative, List.find?_eq_some_iff_append, decide_eq_true_eq, Bool.not_eq_true',
    decide_eq_false_iff_not, Int.not_lt]
  constructor
  · intro found
    obtain ⟨negative, before, after, layout, earlier⟩ := found
    exact ⟨before, after, layout, negative, earlier⟩
  · intro first
    obtain ⟨before, after, layout, negative, earlier⟩ := first
    exact ⟨negative, before, after, layout, earlier⟩

/-- The error of an integer names the one that is found. -/
theorem namesFirstNegative_iff {integers : List Int} {value : Int} :
    NamesFirstNegative (.negativeInteger value) integers ↔
      firstNegative integers = some value := by
  -- There is one error for each integer, so they name the same.
  rw [firstNegative_eq_some_iff]
  constructor
  · intro named
    obtain ⟨first, isFirst, same, -⟩ := named
    cases same
    exact isFirst
  · intro isFirst
    exact ⟨value, isFirst, rfl, rfl⟩

/-- Some error names the first negative integer exactly when there is a negative one. -/
theorem exists_namesFirstNegative_iff {integers : List Int} :
    (∃ error, NamesFirstNegative error integers) ↔ ∃ value ∈ integers, value < 0 := by
  constructor
  · intro named
    obtain ⟨_, value, ⟨before, after, rfl, negative, -⟩, -, -⟩ := named
    exact ⟨value, by simp, negative⟩
  · intro negatives
    cases found : firstNegative integers with
    | some value => exact ⟨_, namesFirstNegative_iff.mpr found⟩
    | none =>
      -- The search only ends without a find when there is nothing to be found.
      obtain ⟨value, member, negative⟩ := negatives
      have := firstNegative_eq_none_iff.mp found value member
      omega

namespace Preimage

/-- The integers that what is signed depends on: of a voucher, those alone that the source pays. -/
def integers : Preimage → List Int
  | .endorsers tx => tx.integers
  | .source body => body.source.amount.integers
  | .target body => (Transaction.servicePayment body).integers

variable (preimage : Preimage) (chain : String)

/-- What a preimage holds and what its owner covers have the same first negative integer. -/
theorem firstNegative_view :
    firstNegative preimage.view.integers = firstNegative preimage.integers := by
  cases preimage with
  | endorsers tx => exact congrArg firstNegative tx.integers_unsigned
  | source body =>
    -- In front of what the source pays stands a fee of zero, and behind it a promise of zero.
    have layout : (view (.source body)).integers =
        [0, 0] ++ (body.source.amount.integers ++ [0, 0]) := rfl
    have zeros : firstNegative [0, 0] = none := by decide
    rw [layout, firstNegative_append, firstNegative_append, zeros, Option.none_or, Option.or_none]
    rfl
  | target body => rfl

/-- What is signed cannot be made exactly when a negative integer stands in it. -/
theorem octets_eq_error_iff {error : EncodeError} :
    preimage.octets chain = .error error ↔ NamesFirstNegative error preimage.integers := by
  obtain ⟨value⟩ := error
  -- Around what has been written an envelope can always be put.
  rw [octets_eq, Transaction.wrapped, map_eq_error_iff, Transaction.encode_eq_error_iff,
    firstNegative_view, namesFirstNegative_iff]

/-- What is signed can be made exactly when no negative integer stands in it. -/
theorem exists_octets_iff :
    (∃ bytes, preimage.octets chain = .ok bytes) ↔ ∀ value ∈ preimage.integers, 0 ≤ value := by
  have refused (error : EncodeError) : preimage.octets chain = .error error ↔
      NamesFirstNegative error preimage.integers := preimage.octets_eq_error_iff chain
  rw [← firstNegative_eq_none_iff]
  cases made : preimage.octets chain with
  | ok bytes =>
    simp only [Except.ok.injEq, exists_eq', true_iff]
    cases found : firstNegative preimage.integers with
    | none => rfl
    | some value =>
      -- A negative integer would have been the error.
      rw [(refused _).mpr (namesFirstNegative_iff.mpr found)] at made
      cases made
  | error error =>
    obtain ⟨value⟩ := error
    simp [namesFirstNegative_iff.mp ((refused _).mp made)]

end Preimage

namespace Transaction

variable {tx : Transaction}

/-- Writing fails exactly with the error that names the first negative integer. -/
theorem encode_eq_error_iff_names {error : EncodeError} :
    tx.encode = .error error ↔ NamesFirstNegative error tx.integers := by
  -- Writing has no other error.
  obtain ⟨value⟩ := error
  rw [encode_eq_error_iff, namesFirstNegative_iff]

/-- The wire form of a body is that of the transaction around it. -/
theorem toBytes_eq_encode (kind : Kind) (body : kind.Body) :
    kind.toBytes body = (kind.pack body).encode := by
  -- Packing a body leaves its kind and its fields as they are.
  have fields : (kind.pack body).writeBody = kind.codec.write body := by cases kind <;> rfl
  have named : (kind.pack body).kind = kind := by cases kind <;> rfl
  rw [Kind.toBytes, write_tag, encode, fields, named]
  cases kind.codec.write body <;> rfl

/-- A transaction cannot be written exactly when some integer in it is negative, and the error names
the first one in decimal digits. Its body by itself, its digest, the octets that endorsers sign and
those that the target of a payment signs exist or fail in the same way; those that the source signs
fail for what the source pays, and for nothing else. Of what has been read all of them exist. -/
theorem encode_refused (tx : Transaction) :
    ((∃ error, tx.encode = .error error) ↔ ∃ value ∈ tx.integers, value < 0) ∧
    (∀ error, tx.encode = .error error ↔ NamesFirstNegative error tx.integers) ∧
    (∀ kind (body : Kind.Body kind), kind.pack body = tx →
      FailsAs (kind.toBytes body) tx.encode) ∧
    FailsAs tx.hash tx.encode ∧
    (∀ chain, FailsAs (tx.signBytes chain) tx.encode) ∧
    (∀ body, tx = .servicePayment body → ∀ chain,
      FailsAs (body.targetSignBytes chain) tx.encode ∧
      ∀ error, body.sourceSignBytes chain = .error error ↔
        NamesFirstNegative error body.source.amount.integers) ∧
    ∀ wire, decode wire = .ok tx → ∀ chain, (∃ octets, tx.signBytes chain = .ok octets) ∧
      ∀ body, tx = .servicePayment body →
        (∃ octets, body.targetSignBytes chain = .ok octets) ∧
        ∃ octets, body.sourceSignBytes chain = .ok octets := by
  have refused (error : EncodeError) : tx.encode = .error error ↔
      NamesFirstNegative error tx.integers := encode_eq_error_iff_names
  refine ⟨?_, refused, ?_, ?_, ?_, ?_, ?_⟩
  · rw [← exists_namesFirstNegative_iff]
    exact exists_congr refused
  · intro kind body packed error
    rw [toBytes_eq_encode, packed]
  · intro error
    rw [hash, map_eq_error_iff]
  · intro chain error
    exact ((Preimage.endorsers tx).octets_eq_error_iff chain).trans (refused error).symm
  · intro body payment chain
    subst payment
    refine ⟨?_, fun error => (Preimage.source body).octets_eq_error_iff chain⟩
    intro error
    exact ((Preimage.target body).octets_eq_error_iff chain).trans (refused error).symm
  · intro wire read chain
    -- Only what can be written is read.
    have nonnegative := nonnegative_of_encode (encode_eq_ok_of_decode read)
    refine ⟨((Preimage.endorsers tx).exists_octets_iff chain).mpr nonnegative, ?_⟩
    intro body payment
    subst payment
    refine ⟨((Preimage.target body).exists_octets_iff chain).mpr nonnegative, ?_⟩
    refine ((Preimage.source body).exists_octets_iff chain).mpr ?_
    intro value paid
    exact nonnegative value (List.mem_append_left _ (List.mem_append_right _ paid))

/-- A payment whose fee is negative, and what it promises to the target as well. -/
def overdrawnPayment : ServicePayment where
  fee := ⟨0, -1⟩
  source := ⟨.zero, ⟨2, 0⟩, 3, .empty⟩
  target := ⟨.zero, ⟨-4, 0⟩, 5, ⟨[9]⟩⟩
  paymentSequence := 6
  reserveSequence := 7
  resourceId := "r"

/-- The payment is refused for its fee, also when the target wants to sign it; the source can sign
it. The release on the boundary is read, so endorsers can sign it. -/
theorem encode_refused_overdrawnPayment :
    (servicePayment overdrawnPayment).encode = .error (.negativeInteger (-1)) ∧
      (EncodeError.negativeInteger (-1)).message = "negative integer cannot be encoded: -1" ∧
      overdrawnPayment.targetSignBytes "net" = .error (.negativeInteger (-1)) ∧
      (∃ octets, overdrawnPayment.sourceSignBytes "net" = .ok octets) ∧
      decode boundaryWire = .ok boundaryRelease ∧
      ∃ octets, boundaryRelease.signBytes "net" = .ok octets := by
  obtain ⟨-, refused, -, -, -, payments, -⟩ := encode_refused (servicePayment overdrawnPayment)
  obtain ⟨-, -, -, -, -, -, readable⟩ := encode_refused boundaryRelease
  -- The second component of the fee is negative, and the first is not.
  have named : NamesFirstNegative (.negativeInteger (-1))
      (servicePayment overdrawnPayment).integers :=
    ⟨-1, ⟨[0], [2, 0, -4, 0], rfl, by decide, by decide⟩, rfl, rfl⟩
  have unwritten := (refused _).mpr named
  obtain ⟨alike, voucher⟩ := payments overdrawnPayment rfl "net"
  -- The source covers its own amount only, and that is not negative.
  have issued : ∃ octets, overdrawnPayment.sourceSignBytes "net" = .ok octets := by
    cases made : overdrawnPayment.sourceSignBytes "net" with
    | ok octets => exact ⟨octets, rfl⟩
    | error error =>
      have paid : ∀ value ∈ overdrawnPayment.source.amount.integers, 0 ≤ value := by decide
      obtain ⟨value, member, negative⟩ :=
        exists_namesFirstNegative_iff.mp ⟨error, (voucher error).mp made⟩
      exact absurd (paid value member) (by omega)
  have read : decode boundaryWire = .ok boundaryRelease := by decide +kernel
  exact ⟨unwritten, by decide +kernel, (alike _).mpr unwritten, issued, read,
    (readable boundaryWire read "net").1⟩

end Transaction

end Countersign
