import Mathlib.Data.List.Basic

namespace FileZilla

/-! Asynchronous file I/O: leased buffers, writers and readers. What the
threads behind them answer is an input of every call. -/

abbrev Bytes := List UInt8

inductive AioResult
  | ok
  | wait
  | error
  deriving DecidableEq

structure Buffer where
  capacity : Nat
  bytes : Bytes

/-- A `buffer_lease`; a lease that was moved away or never granted is `none`. -/
abbrev Lease := Option Buffer

def leaseBytes : Lease → Bytes
  | none => []
  | some buffer => buffer.bytes

@[simp] theorem leaseBytes_none : leaseBytes none = [] := rfl

@[simp] theorem leaseBytes_some (buffer : Buffer) :
    leaseBytes (some buffer) = buffer.bytes := rfl

@[simp] theorem leaseBytes_consume (lease : Lease) (count : Nat) :
    leaseBytes (lease.map fun buffer =>
      { buffer with bytes := buffer.bytes.drop count }) =
      (leaseBytes lease).drop count := by
  cases lease with
  | none => simp
  | some buffer => rfl

def leaseEmpty (lease : Lease) : Bool :=
  (leaseBytes lease).isEmpty

/-- A `writer_base`: the offset it was opened at and the bytes it was given,
in order. -/
structure Writer where
  offset : Nat
  bytes : Bytes
  deriving DecidableEq

/-- An empty lease is accepted without being moved, and a failed writer moves
nothing either. -/
def Writer.addBuffer (writer : Writer) (lease : Lease) (answer : AioResult) :
    AioResult × Writer × Lease :=
  match answer with
  | .error => (.error, writer, lease)
  | answer =>
    if leaseEmpty lease then
      (.ok, writer, lease)
    else
      (answer, { writer with bytes := writer.bytes ++ leaseBytes lease }, none)

theorem Writer.addBuffer_bytes (writer : Writer) (lease : Lease) (answer : AioResult) :
    (writer.addBuffer lease answer).2.1.bytes ++ leaseBytes (writer.addBuffer lease answer).2.2 =
      writer.bytes ++ leaseBytes lease := by
  cases answer <;> simp only [addBuffer]
  all_goals split <;> simp

theorem Writer.addBuffer_offset (writer : Writer) (lease : Lease) (answer : AioResult) :
    (writer.addBuffer lease answer).2.1.offset = writer.offset := by
  cases answer <;> simp only [addBuffer]
  all_goals split <;> rfl

/-- Unless it fails, `add_buffer` leaves no byte behind in the lease. -/
theorem Writer.addBuffer_lease {writer : Writer} {lease : Lease} {answer : AioResult}
    (accepted : (writer.addBuffer lease answer).1 ≠ .error) :
    leaseBytes (writer.addBuffer lease answer).2.2 = [] := by
  cases answer with
  | error => exact absurd rfl accepted
  | ok | wait =>
    simp only [addBuffer]
    split
    · rename_i empty
      simpa [leaseEmpty] using empty
    · rfl

theorem Writer.addBuffer_wait {writer : Writer} {lease : Lease}
    {answer : AioResult} (waits : (writer.addBuffer lease answer).1 = .wait) :
    (writer.addBuffer lease answer).2.2 = none := by
  cases answer with
  | error => cases waits
  | ok | wait =>
    simp only [addBuffer] at waits ⊢
    split
    · rename_i empty
      simp [empty] at waits
    · rfl

theorem Writer.addBuffer_error {writer : Writer} {lease : Lease}
    {answer : AioResult} (fails : (writer.addBuffer lease answer).1 = .error) :
    answer = .error := by
  cases answer with
  | error => rfl
  | ok | wait =>
    simp only [addBuffer] at fails
    split at fails <;> cases fails

/-- A `reader_base`: the bytes not handed out yet. -/
structure Reader where
  remaining : Bytes

/-- Buffers are non-empty until the content is used up; the end is an empty
lease. `chunk` is how many bytes beyond the first the thread had ready. -/
def Reader.getBuffer (reader : Reader) (answer : AioResult) (chunk : Nat) :
    AioResult × Reader × Lease :=
  match answer with
  | .wait => (.wait, reader, none)
  | .error => (.error, reader, none)
  | .ok =>
    if reader.remaining.isEmpty then
      (.ok, reader, none)
    else
      let bytes := reader.remaining.take (chunk + 1)
      (.ok, { remaining := reader.remaining.drop (chunk + 1) },
        some { capacity := bytes.length, bytes := bytes })

theorem Reader.getBuffer_bytes (reader : Reader) (answer : AioResult) (chunk : Nat) :
    leaseBytes (reader.getBuffer answer chunk).2.2 ++
        (reader.getBuffer answer chunk).2.1.remaining =
      reader.remaining := by
  cases answer <;> simp only [getBuffer]
  · split <;> simp
  all_goals rfl

theorem Reader.getBuffer_wait {reader : Reader} {answer : AioResult}
    {chunk : Nat} (waits : (reader.getBuffer answer chunk).1 = .wait) :
    leaseBytes (reader.getBuffer answer chunk).2.2 = [] := by
  cases answer with
  | wait | error => rfl
  | ok =>
    simp only [getBuffer] at waits
    split at waits <;> cases waits

theorem Reader.getBuffer_end {reader : Reader} {answer : AioResult}
    {chunk : Nat} (handed : (reader.getBuffer answer chunk).1 = .ok)
    (empty : leaseEmpty (reader.getBuffer answer chunk).2.2 = true) :
    reader.remaining = [] := by
  cases answer with
  | wait | error => simp [getBuffer] at handed
  | ok =>
    by_cases done : reader.remaining = []
    · exact done
    · simp [getBuffer, leaseEmpty, done] at empty

end FileZilla
