import FileZilla.Text

namespace FileZilla

namespace Ftp

/-- `m_Response` and `m_MultilineResponseLines` -/
structure Reply where
  response : WString
  multilineResponseLines : List WString := []

inductive CloseReason
  | connectionClosedByServer
  | tooLongLine
  | tooManyLines
  | byOperation

variable {σ : Type}

/-- The state of the connection as far as it concerns what is received, together with the
state of the operations. All replies that have been given to `ParseResponse` are recorded. -/
structure Receiver (σ : Type) where
  receiveBuffer : List UInt8 := []
  multilineResponseCode : WString := []
  multilineResponseLines : List WString := []
  operations : σ
  presented : List Reply := []
  closed : Option CloseReason := none

/-- The conversion of the control socket, and what the operations do with a line and with a
reply, where none says that the connection gets closed. -/
structure ReplyHandling (σ : Type) where
  convToLocal : List UInt8 → WString
  parseLine : WString → σ → Option σ
  parseResponse : Reply → σ → Option σ

namespace Receiver

def maxLength : Nat := 65536

def maxLines : Nat := 10000

def endsLine (byte : UInt8) : Bool :=
  byte == 13 || byte == 10 || byte == 0

/-- `DoClose`, of which `ResetSocket` clears what has been received. -/
def doClose (reason : CloseReason) (self : Receiver σ) : Receiver σ :=
  { self with
    receiveBuffer := []
    multilineResponseCode := []
    multilineResponseLines := []
    closed := some reason }

variable (handling : ReplyHandling σ)

def present (response : WString) (self : Receiver σ) :
    Receiver σ :=
  let reply : Reply := ⟨response, self.multilineResponseLines⟩
  let self := { self with presented := self.presented ++ [reply] }
  match handling.parseResponse reply self.operations with
  | none => self.doClose .byOperation
  | some operations => { self with operations }

/-- The part of `ParseLine` that looks for replies of several lines. -/
def parseReplyLine (line : WString) (self : Receiver σ) :
    Receiver σ :=
  if line.length ≤ 3 then self
  else if self.multilineResponseCode ≠ [] then
    if line.take 4 = self.multilineResponseCode then
      let self := { self with multilineResponseCode := [] }.present handling line
      { self with multilineResponseLines := [] }
    else if self.multilineResponseLines.length < maxLines then
      { self with multilineResponseLines := self.multilineResponseLines ++ [line] }
    else self.doClose .tooManyLines
  else if (line)[3]? = some '-'.toNat then
    { self with
      multilineResponseCode := line.take 3 ++ [32]
      multilineResponseLines := self.multilineResponseLines ++ [line] }
  else self.present handling line

def parseLine (line : WString) (self : Receiver σ) : Receiver σ :=
  match handling.parseLine line self.operations with
  | none => self.doClose .byOperation
  | some operations => { self with operations }.parseReplyLine handling line

theorem present_receiveBuffer (response : WString)
    (self : Receiver σ) :
    (self.present handling response).receiveBuffer.length ≤ self.receiveBuffer.length := by
  unfold present
  dsimp only
  split
  · exact Nat.zero_le _
  · exact Nat.le_refl _

theorem parseLine_receiveBuffer (line : WString)
    (self : Receiver σ) :
    (self.parseLine handling line).receiveBuffer.length ≤ self.receiveBuffer.length := by
  unfold parseLine
  split
  · exact Nat.zero_le _
  · unfold parseReplyLine
    split
    · exact Nat.le_refl _
    · split
      · split
        · exact present_receiveBuffer handling line _
        · split
          · exact Nat.le_refl _
          · exact Nat.zero_le _
      · split
        · exact Nat.le_refl _
        · exact present_receiveBuffer handling line _

/-- The loop over the buffer: `i` bytes of it do not end a line. -/
def scan (handling : ReplyHandling σ) (i : Nat) (self : Receiver σ) : Receiver σ :=
  if inside : i < self.receiveBuffer.length then
    if endsLine self.receiveBuffer[i] then
      if i = 0 then scan handling 0 { self with receiveBuffer := self.receiveBuffer.drop 1 }
      else
        let line := handling.convToLocal (self.receiveBuffer.take i)
        let consumed := { self with receiveBuffer := self.receiveBuffer.drop (i + 1) }
        if (consumed.parseLine handling line).closed.isSome then consumed.parseLine handling line
        else scan handling 0 (consumed.parseLine handling line)
    else scan handling (i + 1) self
  else self
termination_by self.receiveBuffer.length - i
decreasing_by
  · simp only [List.length_drop]
    omega
  · have shorter := parseLine_receiveBuffer handling
      (handling.convToLocal (self.receiveBuffer.take i))
      { self with receiveBuffer := self.receiveBuffer.drop (i + 1) }
    simp only [List.length_drop] at shorter
    omega
  · omega

/-- One turn of the loop of `OnReceive`, in which the socket has given these bytes. -/
def onRead (bytes : List UInt8) (self : Receiver σ) : Receiver σ :=
  let self := { self with receiveBuffer := self.receiveBuffer ++ bytes }.scan handling
    self.receiveBuffer.length
  if self.closed = none ∧ self.receiveBuffer.length = maxLength then self.doClose .tooLongLine
  else self

/-- `OnReceive` when these bytes have arrived at the socket. Reading no byte means the end of
the connection. -/
def onReceive (handling : ReplyHandling σ) (arrived : List UInt8) (self : Receiver σ) :
    Receiver σ :=
  if self.closed.isSome ∨ arrived = [] then self
  else
    let toRead := maxLength - self.receiveBuffer.length
    if toRead = 0 then self.doClose .connectionClosedByServer
    else onReceive handling (arrived.drop toRead) (self.onRead handling (arrived.take toRead))
termination_by arrived.length
decreasing_by
  have some : arrived.length ≠ 0 := by
    simp_all
  simp only [List.length_drop]
  omega

def receive (chunks : List (List UInt8)) (self : Receiver σ) :
    Receiver σ :=
  chunks.foldl (fun self arrived => self.onReceive handling arrived) self

/-! What the operations keep to when they handle lines and replies, they keep to in every read. -/

section

variable {handling : ReplyHandling σ} {Invariant : σ → Prop}
  (line : ∀ text operations next, Invariant operations →
    handling.parseLine text operations = some next → Invariant next)
  (response : ∀ reply operations next, Invariant operations →
    handling.parseResponse reply operations = some next → Invariant next)

variable {self : Receiver σ}

include response in
theorem present_invariant (kept : Invariant self.operations)
    (text : WString) : Invariant (self.present handling text).operations := by
  unfold present
  dsimp only
  split
  case h_1 => exact kept
  case h_2 next parsed => exact response _ _ next kept parsed

include line response in
theorem parseLine_invariant (kept : Invariant self.operations)
    (text : WString) : Invariant (self.parseLine handling text).operations := by
  unfold parseLine
  split
  case h_1 => exact kept
  case h_2 next parsed =>
    have later := line _ _ next kept parsed
    unfold parseReplyLine
    split
    · exact later
    · split
      · split
        · exact present_invariant response later text
        · split
          · exact later
          · exact later
      · split
        · exact later
        · exact present_invariant response later text

include line response in
theorem scan_invariant (i : Nat) (self : Receiver σ) (kept : Invariant self.operations) :
    Invariant (self.scan handling i).operations := by
  induction i, self using scan.induct handling with
  | case1 self inside ends ih =>
    rw [scan, dif_pos inside, if_pos ends, if_pos rfl]
    exact ih kept
  | case2 i self inside ends some text consumed closed =>
    rw [scan, dif_pos inside, if_pos ends, if_neg some]
    dsimp only
    rw [if_pos closed]
    have parsed : Invariant consumed.operations := kept
    exact parseLine_invariant line response parsed _
  | case3 i self inside ends some text consumed opened ih =>
    rw [scan, dif_pos inside, if_pos ends, if_neg some]
    dsimp only
    rw [if_neg opened]
    have parsed : Invariant consumed.operations := kept
    exact ih (parseLine_invariant line response parsed _)
  | case4 i self inside goes ih =>
    rw [scan, dif_pos inside, if_neg goes]
    exact ih kept
  | case5 i self outside =>
    rw [scan, dif_neg outside]
    exact kept

include line response in
theorem onRead_invariant (kept : Invariant self.operations)
    (bytes : List UInt8) : Invariant (self.onRead handling bytes).operations := by
  have scanned := scan_invariant line response self.receiveBuffer.length
    { self with receiveBuffer := self.receiveBuffer ++ bytes } kept
  unfold onRead
  dsimp only
  split
  · exact scanned
  · exact scanned

end

end Receiver

end Ftp

end FileZilla
