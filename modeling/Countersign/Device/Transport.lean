import Countersign.Bytes

/-! A byte stream in memory: what was written to it, and what it will answer. -/

namespace Countersign.Device

/-- A byte stream in memory. -/
structure Transport where
  /-- Everything written so far. -/
  written : Bytes
  /-- What has been queued for reading and not yet been read. -/
  replies : Bytes
  deriving DecidableEq, Repr

namespace Transport

/-- A stream that nothing has been written to. -/
def empty : Transport := ⟨[], []⟩

/-- The stream with more octets queued for reading. -/
def enqueue (transport : Transport) (bytes : Bytes) : Transport :=
  -- Replies keep their order.
  { transport with replies := transport.replies ++ bytes }

/-- Up to `count` octets read from the queue, and the stream without them. -/
def read (transport : Transport) (count : Nat) : Bytes × Transport :=
  -- An empty queue gives nothing.
  (transport.replies.take count, { transport with replies := transport.replies.drop count })

/-- The stream with more octets written to it. -/
def write (transport : Transport) (bytes : Bytes) : Transport :=
  -- Writing never fails and never falls short.
  { transport with written := transport.written ++ bytes }

end Transport

/-- Octets read into a buffer of a fixed size, zero where nothing was read. -/
def fillBuffer (size : Nat) (bytes : Bytes) : Bytes := bytes ++ Bytes.zeros (size - bytes.length)

/-- The stream that a device is opened over. -/
inductive Link where
  /-- The stream in memory. -/
  | memory
  /-- A stream that fails every write in its own words. -/
  | broken (wording : String)
  deriving DecidableEq, Repr

end Countersign.Device
