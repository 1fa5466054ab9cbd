import PgNats.Lib.Rust
import PgNats.Lib.Fifo

/-!
# The launcher's message bus: `RingQueue`

The model of `src/bgw/ring_queue.rs`. A queue is a byte array of `CAPACITY` bytes with a read and a
write index, and `is_full` tells a full queue from an empty one when the indices are equal. Each
message is stored as a record, which is its length in `HEADER_SIZE` little-endian bytes and then its
bytes, and a record may run past the end of the array to its start.

`trySend` and `tryRecv` follow the source's branches and evaluate every index, slice range, and copy
through `PgNats.Rust`, so a call that would panic in Rust is an `error` here. The contents of the
array after a panic are not modelled.
-/

namespace PgNats

open Rust (Panic Profile slice copyInto zeroed toLeBytes fromLeBytes)

/-- `size_of::<usize>()` on a 64-bit target: the bytes of a record's length. -/
def HEADER_SIZE : ℕ := 8

/-- The queue in shared memory. -/
structure RingQueue (CAPACITY : ℕ) where
  /-- Where the oldest pending record starts. -/
  read : ℕ
  /-- Where the next record will start. -/
  write : ℕ
  /-- Whether equal indices mean a full queue rather than an empty one. -/
  is_full : Bool
  /-- The bytes of the records. -/
  buffer : List.Vector UInt8 CAPACITY

namespace RingQueue

variable {CAPACITY : ℕ}

/-- `RingQueue::new`: an empty queue over zeroed bytes. -/
def new : RingQueue CAPACITY where
  read := 0
  write := 0
  is_full := false
  buffer := List.Vector.replicate CAPACITY 0

/-- The copy of a header or of a message in the branch `write >= read` of `try_send`: at `pos` when
it fits before the end, and otherwise split between the end and the start of the buffer. -/
def copyWrapping (p : Profile) (buffer : List.Vector UInt8 CAPACITY) (pos : ℕ) (data : List UInt8) :
    Except Panic (List.Vector UInt8 CAPACITY) := do
  let end_space ← Rust.sub p CAPACITY pos
  if end_space ≥ data.length then
    copyInto buffer pos (← Rust.add p pos data.length) data
  else
    let buffer ← copyInto buffer pos CAPACITY (← slice data 0 end_space)
    copyInto buffer 0 (← Rust.sub p data.length end_space) (← slice data end_space data.length)

/-- The end of `try_send`: the write index moves past the record, and the queue is full when it
reaches the read index. -/
def commit (p : Profile) (q : RingQueue CAPACITY) (buffer : List.Vector UInt8 CAPACITY)
    (total_len : ℕ) : Except Panic (RingQueue CAPACITY × Except Unit Unit) := do
  let write := (← Rust.add p q.write total_len) % CAPACITY
  return ({ read := q.read, write, is_full := decide (write = q.read), buffer }, .ok ())

/-- `RingQueue::try_send`. -/
def trySend (p : Profile) (q : RingQueue CAPACITY) (msg : List UInt8) :
    Except Panic (RingQueue CAPACITY × Except Unit Unit) := do
  if q.is_full then
    return (q, .error ())
  let msg_len := msg.length
  if msg_len > (← Rust.sub p CAPACITY HEADER_SIZE) then
    return (q, .error ())
  let total_len ← Rust.add p HEADER_SIZE msg_len
  if q.write ≥ q.read then
    let free ← Rust.sub p CAPACITY (← Rust.sub p q.write q.read)
    if free < total_len then
      return (q, .error ())
    let header ← Rust.add p q.write HEADER_SIZE
    let buffer ← copyWrapping p q.buffer q.write (toLeBytes HEADER_SIZE msg_len)
    let buffer ← copyWrapping p buffer (header % CAPACITY) msg
    commit p q buffer total_len
  else
    let free ← Rust.sub p q.read q.write
    if free < total_len then
      return (q, .error ())
    -- Here the free bytes do not reach the end of the buffer.
    let header ← Rust.add p q.write HEADER_SIZE
    let buffer ← copyInto q.buffer q.write header (toLeBytes HEADER_SIZE msg_len)
    let buffer ← copyInto buffer header (← Rust.add p header msg_len) msg
    commit p q buffer total_len

/-- The copy out of the buffer in the branch `write < read` of `try_recv`: `len` bytes from `pos`,
in one piece when they end before the buffer does, and otherwise in two. -/
def readWrapping (p : Profile) (buffer : List.Vector UInt8 CAPACITY) (pos len : ℕ)
    (dst : List.Vector UInt8 len) : Except Panic (List.Vector UInt8 len) := do
  let end_space ← Rust.sub p CAPACITY pos
  if len ≤ end_space then
    copyInto dst 0 len (← slice buffer.toList pos (← Rust.add p pos len))
  else
    let dst ← copyInto dst 0 end_space (← slice buffer.toList pos CAPACITY)
    copyInto dst end_space len (← slice buffer.toList 0 (← Rust.sub p len end_space))

/-- The guard of `try_recv` against a corrupted length: unless the queue is full, the record must
lie in the `used` bytes. The sum is evaluated only then. -/
def corrupted (p : Profile) (is_full : Bool) (used : Except Panic ℕ) (msg_len : ℕ) :
    Except Panic Bool := do
  if is_full then
    return false
  let used ← used
  return decide (used < (← Rust.add p HEADER_SIZE msg_len))

/-- `RingQueue::try_recv`. -/
def tryRecv (p : Profile) (q : RingQueue CAPACITY) :
    Except Panic (RingQueue CAPACITY × Option (List UInt8)) := do
  let header ← Rust.add p q.read HEADER_SIZE
  if q.read = q.write ∧ ¬ q.is_full then
    return (q, none)
  if q.write ≥ q.read then
    let len_bytes ← copyInto (List.Vector.replicate HEADER_SIZE 0) 0 HEADER_SIZE
      (← slice q.buffer.toList q.read header)
    let msg_len := fromLeBytes len_bytes.toList
    if ← corrupted p q.is_full (Rust.sub p q.write q.read) msg_len then
      return (q, none)
    -- The record is read as if it never ran past the end of the buffer.
    let msg ← zeroed msg_len
    let stop ← Rust.add p header msg_len
    let msg ← copyInto msg 0 msg_len (← slice q.buffer.toList header stop)
    return ({ q with read := stop, is_full := false }, some msg.toList)
  else
    let len_bytes ← readWrapping p q.buffer q.read HEADER_SIZE (List.Vector.replicate HEADER_SIZE 0)
    let msg_len := fromLeBytes len_bytes.toList
    if ← corrupted p q.is_full (do Rust.sub p CAPACITY (← Rust.sub p q.read q.write)) msg_len then
      return (q, none)
    let msg ← zeroed msg_len
    let msg ← readWrapping p q.buffer (header % CAPACITY) msg_len msg
    let stop ← Rust.add p (← Rust.add p q.read HEADER_SIZE) msg_len
    return ({ q with read := stop % CAPACITY, is_full := false }, some msg.toList)

/-- One call on the queue, by any process: the calls are serialised by the lock around the queue,
which is all the state that they share. -/
def step (p : Profile) (q : RingQueue CAPACITY) :
    Fifo.Op UInt8 → Except Panic (RingQueue CAPACITY × Fifo.Reply UInt8)
  | .send msg => do
    let (q, result) ← trySend p q msg
    return (q, .sent result)
  | .recv => do
    let (q, msg) ← tryRecv p q
    return (q, .received msg)

/-- A call with the process that makes it. -/
structure Call where
  /-- The calling process. -/
  pid : ℕ
  /-- What it calls. -/
  op : Fifo.Op UInt8

/-- A sequence of calls, in the order in which the processes get the lock: the queue at the end,
and the replies. -/
def run (p : Profile) : RingQueue CAPACITY → List Call →
    Except Panic (RingQueue CAPACITY × List (Fifo.Reply UInt8))
  | q, [] => .ok (q, [])
  | q, call :: calls => do
    let (q, reply) ← step p q call.op
    let (q, replies) ← run p q calls
    return (q, reply :: replies)

end RingQueue

end PgNats
