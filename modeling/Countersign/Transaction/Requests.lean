import Countersign.Transaction.Body

/-! Requests to fill the slots of an address, one behind the other. -/

namespace Countersign

/-- A request to fill the slots of an address. -/
structure Request where
  /-- The owner of the slots. -/
  address : Address
  /-- What goes into the slots, in any shape. -/
  given : Signature.Given
  deriving DecidableEq

namespace Transaction

/-- The transaction with the slots of an address filled, and whether there was one to be filled. -/
def fill (tx : Transaction) (request : Request) : Transaction × Bool :=
  -- A request for an address without slots is no error.
  (tx.setSignature request.address request.given.toSignature, tx.hasSigner request.address)

/-- The transaction after a sequence of requests, with the answer to each of them. -/
def fillAll (tx : Transaction) : List Request → Transaction × List Bool
  | [] => (tx, [])
  | request :: rest =>
    let (filled, attached) := tx.fill request
    let (final, answers) := filled.fillAll rest
    (final, attached :: answers)

end Transaction

end Countersign
