import Countersign.Device.Transport
import Countersign.Path
import Countersign.Signing.Signer

/-! A device that follows a script: its keys hang on a label, its failures are set beforehand. -/

namespace Countersign.Device

/-- A call to a device. -/
inductive Call where
  /-- Ask for the state of the device. -/
  | status
  /-- Begin a session over a stream, under a passphrase. -/
  | open (link : Link) (passphrase : String)
  /-- End the session. -/
  | close
  /-- Ask for a sign of life. -/
  | heartbeat
  /-- Ask for the address at a path. -/
  | derive (path : Path)
  /-- Ask for the signature of octets with the key at a path. -/
  | sign (path : Path) (bytes : Bytes)
  deriving DecidableEq, Repr

/-- What a device answers to a call. -/
inductive Reply where
  /-- The state of the device. -/
  | state (name : String)
  /-- The call was carried out. -/
  | done
  /-- An address. -/
  | address (address : Address)
  /-- A signature with the address it is for. -/
  | signed (signed : Signed)
  deriving DecidableEq

/-- The driver of a device: its answer to a call, and the state of the device after it. -/
abbrev Driver (δ : Type) := Call → δ → Except SignerError Reply × δ

/-- A device that follows a script. -/
structure Scripted where
  /-- What its keys are made from. -/
  label : String
  /-- Whether it is plugged in. -/
  isPresent : Bool
  /-- Whether a session is open. -/
  isOpen : Bool
  /-- The failures of the next calls, in order. -/
  failures : List SignerError
  /-- The address to report in place of the key's own. -/
  reported : Option Address
  /-- All calls so far, in order. -/
  calls : List Call
  /-- The stream in memory. -/
  transport : Transport

namespace Scripted

/-- A device that has just been plugged in. -/
def ofLabel (label : String) : Scripted := ⟨label, true, false, [], none, [], .empty⟩

/-- The key pair at a path. -/
def keyPairAt (device : Scripted) (path : Path) : KeyPair :=
  -- The secret is readable, so that the key can be computed elsewhere.
  KeyPair.ofSecret (device.label ++ "/" ++ path.display)

/-- The device with one more failure in its script. -/
def failNext (device : Scripted) (error : SignerError) : Scripted :=
  -- Failures happen in the order in which they were set.
  { device with failures := device.failures ++ [error] }

/-- The device taken out; the session ends with it. -/
def unplug (device : Scripted) : Scripted := { device with isPresent := false, isOpen := false }

/-- The device with another address to report. -/
def report (device : Scripted) (address : Address) : Scripted :=
  -- Signatures are still made with the key at the path.
  { device with reported := some address }

/-- Whether a call makes sense only within a session. -/
def needsSession : Call → Bool
  | .status => false
  | .open _ _ => false
  | .close => false
  | .heartbeat => true
  | .derive _ => true
  | .sign _ _ => true

/-- The device after a call has been noted, and the error that stops the call, if any. -/
def enter (device : Scripted) (call : Call) : Option SignerError × Scripted :=
  -- A scripted failure goes before everything that could be wrong otherwise.
  let noted := { device with calls := device.calls ++ [call] }
  match noted.failures with
  | error :: rest => (some error, { noted with failures := rest })
  | [] =>
    if !noted.isPresent then (some .deviceNotFound, noted)
    else if needsSession call && !noted.isOpen then (some .disconnected, noted)
    else (none, noted)

/-- What the device does in a call that nothing stops. -/
def perform (device : Scripted) : Call → Except SignerError Reply × Scripted
  | .status => (.ok (.state (if device.isOpen then "ready" else "locked")), device)
  -- Any passphrase will do.
  | .open (.broken wording) _ => (.error (.driver wording), device)
  | .open .memory _ =>
    -- A greeting is written before the session is open.
    (.ok .done, { device with
      isOpen := true
      transport := device.transport.write (Bytes.ofText "open") })
  | .close => (.ok .done, { device with isOpen := false })
  | .heartbeat => (.ok .done, device)
  | .derive path => (.ok (.address (device.keyPairAt path).address), device)
  | .sign path bytes =>
    let pair := device.keyPairAt path
    (.ok (.signed ⟨device.reported.getD pair.address, .ofMessage bytes pair.seed⟩), device)

/-- The driver of the device. -/
def driver : Driver Scripted := fun call device =>
  -- A stopped call has no effect but its note.
  match device.enter call with
  | (some error, noted) => (.error error, noted)
  | (none, noted) => noted.perform call

/-- The octets that were given for signing, in order. -/
def payloads (device : Scripted) : List Bytes :=
  -- Calls that failed count too.
  device.calls.filterMap fun
    | .sign _ bytes => some bytes
    | _ => none

end Scripted

end Countersign.Device
