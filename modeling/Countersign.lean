import Countersign.Log.Filter
import Countersign.Proofs.Address.Casing
import Countersign.Proofs.Config
import Countersign.Proofs.Device.Worker
import Countersign.Proofs.Keystore
import Countersign.Proofs.Signing.EmptySlots
import Countersign.Proofs.Signing.Overwriting
import Countersign.Proofs.Signing.Payment
import Countersign.Proofs.Signing.Succession
import Countersign.Proofs.Transaction.Arity
import Countersign.Proofs.Transaction.Retagging
import Countersign.Proofs.Rlp.Integers
import Countersign.Proofs.Rlp.Tree
import Countersign.Proofs.Transaction.Readers
