import Countersign.Proofs.Address
import Countersign.Proofs.Json.Integer
import Countersign.Transaction.Json
import Countersign.Transaction.Preimage

/-! Transactions and their parts are read back from their JSON texts. -/

namespace Countersign

namespace Json.Form

/-- An address is written as a text, which is parsed as the address again. -/
theorem address_lawful : Form.address.Lawful := by
  apply refine_lawful
  intro address
  -- The form is the one that addresses are displayed in.
  rw [Address.parse_display]
  rfl

/-- An empty signature is written as nothing, and nothing is read as an empty one. -/
theorem signature_lawful : Form.signature.Lawful where
  plain signature := by
    obtain ⟨bytes⟩ := signature
    cases bytes with
    | nil => exact .null
    | cons first rest => exact hexBytes_lawful.plain (first :: rest)
  read_write signature := by
    -- An empty signature is no text at all.
    obtain ⟨bytes⟩ := signature
    cases bytes with
    | nil => rfl
    | cons first rest =>
      have written : Form.signature.write ⟨first :: rest⟩ = hexBytes.write (first :: rest) := rfl
      have digits : hexBytes.write (first :: rest) =
        .text (some (Hex.encodeMarked (first :: rest))) := rfl
      have read := hexBytes_lawful.read_write (first :: rest)
      -- There is an octet, so the text is that of the octets.
      rw [digits] at read
      rw [written, digits, Form.signature]
      simp only [read, Except.map]

/-- A balance is written as an object of two integers and read back. -/
theorem amount_lawful : Form.amount.Lawful :=
  -- No two of the names are the same, which is decided.
  .record (.cons integer_lawful (.cons integer_lawful .nil)) (by decide) fun _ => rfl

/-- An endorsement is written as an object and read back, also without a signature. -/
theorem endorsement_lawful : Form.endorsement.Lawful :=
  -- The signature may be left out, which stands for an empty one.
  .record (.cons address_lawful (.cons amount_lawful (.cons word64_lawful (.optional
    signature_lawful .nil)))) (by decide) fun _ => rfl

/-- A payout is written as an object and read back. -/
theorem payout_lawful : Form.payout.Lawful :=
  .record (.cons address_lawful (.cons amount_lawful .nil)) (by decide) fun _ => rfl

/-- A split is written as an object and read back. -/
theorem split_lawful : Form.split.Lawful :=
  .record (.cons address_lawful (.cons word32_lawful .nil)) (by decide) fun _ => rfl

/-- The body of an issuance is read back. -/
theorem issuance_lawful : Form.issuance.Lawful :=
  .record (.cons endorsement_lawful (.cons (.list payout_lawful) (.cons word64_lawful .nil)))
    (by decide) fun _ => rfl

/-- The body of a penalty is read back. -/
theorem slash_lawful : Form.slash.Lawful :=
  .record (.cons endorsement_lawful (.cons address_lawful (.cons word64_lawful (.cons
    hexBytes_lawful .nil)))) (by decide) fun _ => rfl

/-- The body of a transfer is read back. -/
theorem transfer_lawful : Form.transfer.Lawful :=
  .record (.cons amount_lawful (.cons (.list endorsement_lawful) (.cons (.list payout_lawful)
    .nil))) (by decide) fun _ => rfl

/-- The body of a reserve is read back. -/
theorem reserveFund_lawful : Form.reserveFund.Lawful :=
  .record (.cons amount_lawful (.cons endorsement_lawful (.cons amount_lawful (.cons (.list
    text_lawful) (.cons word64_lawful .nil))))) (by decide) fun _ => rfl

/-- The body of a release is read back. -/
theorem releaseFund_lawful : Form.releaseFund.Lawful :=
  .record (.cons amount_lawful (.cons endorsement_lawful (.cons word64_lawful .nil))) (by decide)
    fun _ => rfl

/-- The body of a service payment is read back. -/
theorem servicePayment_lawful : Form.servicePayment.Lawful :=
  .record (.cons amount_lawful (.cons endorsement_lawful (.cons endorsement_lawful (.cons
    word64_lawful (.cons word64_lawful (.cons text_lawful .nil)))))) (by decide) fun _ => rfl

/-- The body of a rule for dividing revenue is read back. -/
theorem splitRule_lawful : Form.splitRule.Lawful :=
  .record (.cons amount_lawful (.cons text_lawful (.cons endorsement_lawful (.cons (.list
    split_lawful) (.cons word64_lawful .nil))))) (by decide) fun _ => rfl

/-- The body of a contract call is read back. -/
theorem smartContract_lawful : Form.smartContract.Lawful :=
  .record (.cons endorsement_lawful (.cons payout_lawful (.cons word64_lawful (.cons integer_lawful
    (.cons hexBytes_lawful .nil))))) (by decide) fun _ => rfl

/-- The body of a stake is read back. -/
theorem stakeDeposit_lawful : Form.stakeDeposit.Lawful :=
  .record (.cons amount_lawful (.cons (.list endorsement_lawful) (.cons (.list payout_lawful)
    .nil))) (by decide) fun _ => rfl

/-- The body of a transaction of any kind has a text. -/
theorem plain_writeBody (tx : Transaction) : (writeBody tx).Plain := by
  -- Each body is written in the form of its kind.
  cases tx with
  | issuance body => exact issuance_lawful.plain body
  | slash body => exact slash_lawful.plain body
  | transfer body => exact transfer_lawful.plain body
  | reserveFund body => exact reserveFund_lawful.plain body
  | releaseFund body => exact releaseFund_lawful.plain body
  | servicePayment body => exact servicePayment_lawful.plain body
  | splitRule body => exact splitRule_lawful.plain body
  | smartContract body => exact smartContract_lawful.plain body
  | stakeDeposit body => exact stakeDeposit_lawful.plain body

/-- Whatever is made of a value is made of what is read back. -/
theorem Lawful.map_read_write {α β : Type} {form : Form α} (lawful : form.Lawful) (f : α → β)
    (value : α) : (form.read (form.write value)).map f = .ok (f value) := by
  -- The two values are one.
  rw [lawful.read_write]
  rfl

/-- The body of a transaction is read back under its kind. -/
theorem readBody_writeBody (tx : Transaction) : readBody tx.kind (writeBody tx) = .ok tx := by
  -- On the kind: its reader gives the body back, and puts it under the kind again.
  cases tx with
  | issuance body => exact issuance_lawful.map_read_write Transaction.issuance body
  | slash body => exact slash_lawful.map_read_write Transaction.slash body
  | transfer body => exact transfer_lawful.map_read_write Transaction.transfer body
  | reserveFund body => exact reserveFund_lawful.map_read_write Transaction.reserveFund body
  | releaseFund body => exact releaseFund_lawful.map_read_write Transaction.releaseFund body
  | servicePayment body =>
    exact servicePayment_lawful.map_read_write Transaction.servicePayment body
  | splitRule body => exact splitRule_lawful.map_read_write Transaction.splitRule body
  | smartContract body => exact smartContract_lawful.map_read_write Transaction.smartContract body
  | stakeDeposit body => exact stakeDeposit_lawful.map_read_write Transaction.stakeDeposit body

/-- The name of a kind finds the reader of that kind. -/
theorem lookup_name (kind : Kind) :
    (Kind.all.map fun kind => (kind.name, readBody kind)).lookup kind.name =
      some (readBody kind) := by
  -- No two kinds have the same name.
  cases kind <;> rfl

/-- A transaction is written as its body next to the name of its kind, and read back. -/
theorem transaction_lawful : Form.transaction.Lawful := by
  apply tagged_lawful plain_writeBody
  -- The name of the kind is looked up among all names.
  intro tx
  exact ⟨readBody tx.kind, lookup_name tx.kind, readBody_writeBody tx⟩

/-- Values read back from their texts, and reading what was written for a text that was read. -/
structure RoundTrips {α : Type} (form : Form α) : Prop where
  /-- Every value is read back from its shortest text, -/
  parse_render : ∀ value, form.parse (form.render value) = .ok value
  /-- and from its indented one. -/
  parse_renderIndented : ∀ value, form.parse (form.write value).renderIndented = .ok value
  /-- The value of any text that is accepted is written as a text that is accepted for that value,
  and written once more as the same text. -/
  stable : ∀ text value, form.parse text = .ok value →
    ∃ again, form.parse (form.render value) = .ok again ∧ again = value ∧
      form.render again = form.render value

/-- A form that reads back what it writes survives both ways of laying out its text. -/
theorem Lawful.roundTrips {α : Type} {form : Form α} (lawful : form.Lawful) : form.RoundTrips where
  parse_render := lawful.parse_render
  parse_renderIndented := lawful.parse_renderIndented
  -- What has been read is the value itself, so it is written as before.
  stable _ value _ := ⟨value, lawful.parse_render value, rfl, rfl⟩

/-- Every transaction and every part of one is read back from its JSON text, so that its wire form,
its hash and the octets to be signed are the same as before. -/
theorem roundTrips_transaction :
    Form.transaction.RoundTrips ∧ Form.amount.RoundTrips ∧ Form.address.RoundTrips ∧
    Form.signature.RoundTrips ∧ Form.endorsement.RoundTrips ∧ Form.payout.RoundTrips ∧
    Form.split.RoundTrips ∧
    ∀ tx, ∃ copy, Form.transaction.parse (Form.transaction.render tx) = .ok copy ∧
      copy.encode = tx.encode ∧ copy.hash = tx.hash ∧
      ∀ chain, copy.signBytes chain = tx.signBytes chain ∧
        ∀ address, copy.slotOf chain address = tx.slotOf chain address := by
  refine ⟨transaction_lawful.roundTrips, amount_lawful.roundTrips, address_lawful.roundTrips,
    signature_lawful.roundTrips, endorsement_lawful.roundTrips, payout_lawful.roundTrips,
    split_lawful.roundTrips, ?_⟩
  -- The copy is the transaction itself, and so has all that is computed from it.
  intro tx
  exact ⟨tx, transaction_lawful.parse_render tx, rfl, rfl, fun chain => ⟨rfl, fun _ => rfl⟩⟩

end Json.Form

end Countersign
