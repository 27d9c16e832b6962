import FileZilla.Runs

namespace FileZilla.Http

/-! `CHttpFileTransferOpData` together with the `CHttpRequestOpData` it starts. The only header that
the operation itself sets is `Range`. -/

def nosize : Nat := 18446744073709551615

inductive Reply
  | ok
  | error
  | criticalError
  | notSupported
  deriving DecidableEq

inductive OpState
  | init
  | transfer
  | waittransfer
  deriving DecidableEq

inductive Continuation
  | next
  | done
  | error

/-- An answer to a `CFileExistsNotification`. The ways to overwrite under a condition come down to
`overwrite` or `skip`, and `rename` comes with the file of the new name. -/
inductive FileExistsAction
  | overwrite
  | resume
  | rename (file : Option (List UInt8))
  | skip

/-- `target` is where the location of a redirect leads if it is one that can be followed. `opens`
tells whether the writer can be opened, `body` is what it gets, and `success` is what the client
reports in the end. -/
structure Response (Uri : Type) where
  code : Nat
  target : Option Uri := none
  opens : Bool := true
  body : List UInt8 := []
  success : Bool := true

/-- A writer that was opened: the reply and the range of the request it answers, what the file
held before, and the offset. -/
structure Opening where
  code : Nat
  range : Option Nat
  before : List UInt8
  offset : Nat

/-- `file` is the local file, if there is a `writer_factory_`. `pending_` and `error_` belong to the
`CHttpRequestOpData`, which is only there while requests are pending. -/
structure CHttpFileTransferOpData (Uri : Type) where
  uri_ : Uri
  file : Option (Option (List UInt8))
  opState : OpState := .init
  resume_ : Bool := false
  localFileSize_ : Option Nat := none
  range_ : Option Nat := none
  redirectCount_ : Nat := 0
  pending_ : Nat := 0
  error_ : Bool := false
  opened : List Opening := []
  result : Option Reply := none

inductive Event (Uri : Type)
  | answer (action : FileExistsAction)
  | response (reply : Response Uri)
  | failed

open List

namespace CHttpFileTransferOpData

variable {Uri : Type} (self : CHttpFileTransferOpData Uri)

def request : CHttpFileTransferOpData Uri :=
  if self.pending_ = 0 then { self with pending_ := 1, error_ := false }
  else { self with pending_ := self.pending_ + 1 }

/-- `Send` in the state `filetransfer_transfer` -/
def send : CHttpFileTransferOpData Uri :=
  let range_ := if self.resume_ = true ∧ self.localFileSize_ ≠ some 0 ∧ self.localFileSize_ ≠ none
    then self.localFileSize_ else self.range_
  request { self with range_, opState := .waittransfer }

/-- Whether the user is asked depends on the file being there. -/
def checkOverwriteFile (file : Option (List UInt8)) :
    CHttpFileTransferOpData Uri :=
  let self := { self with file := some file, localFileSize_ := file.map length }
  if file = none then self.send else self

/-- `Send` in its initial state; `body` tells whether the body of the request can be opened. -/
def sendInit (download uriEmpty body : Bool) :
    CHttpFileTransferOpData Uri :=
  if !download then { self with result := some .notSupported }
  else if uriEmpty then { self with result := some .error }
  else if !body then { self with result := some .criticalError }
  else
    let self := { self with opState := .transfer }
    match self.file with
    | none => self.send
    | some file => self.checkOverwriteFile file

def setFileExistsAction :
    FileExistsAction → CHttpFileTransferOpData Uri
  | .overwrite => self.send
  | .resume => send { self with resume_ := self.resume_ || self.localFileSize_.isSome }
  | .rename file => self.checkOverwriteFile file
  | .skip => { self with result := some .ok }

def opening (reply : Response Uri)
    (file : Option (List UInt8)) : Opening where
  code := reply.code
  range := self.range_
  before := file.getD []
  offset := if self.resume_ then self.localFileSize_.getD nosize else 0

def onHeader (reply : Response Uri) :
    Continuation × CHttpFileTransferOpData Uri :=
  if reply.code = 416 ∧ self.resume_ = true then
    (.error, { self with resume_ := false, opState := .transfer })
  else if reply.code < 200 ∨ 400 ≤ reply.code then (.error, self)
  else if 300 ≤ reply.code then
    let self := { self with redirectCount_ := self.redirectCount_ + 1 }
    if 6 ≤ self.redirectCount_ ∨ reply.code = 305 then (.error, self)
    else
      match reply.target with
      | none => (.error, self)
      | some location => (.done, request { self with uri_ := location })
  else
    let self := { self with resume_ := self.resume_ && reply.code = 206 }
    match self.file with
    | none => (.next, self)
    | some file =>
      if !reply.opens then (.error, self)
      else (.next, { self with opened := self.opened ++ [self.opening reply file] })

def receive (body : List UInt8) :
    CHttpFileTransferOpData Uri :=
  match self.opened.getLast? with
  | none => self
  | some opening => { self with file := some (some (opening.before.take opening.offset ++ body)) }

def subcommandResult (prevResult : Reply) :
    CHttpFileTransferOpData Uri :=
  if self.opState = .transfer then self.send else { self with result := some prevResult }

/-- `CHttpRequestOpData::OnResponse` -/
def onResponse (success : Bool) :
    CHttpFileTransferOpData Uri :=
  let self := { self with
    error_ := self.error_ || !success
    pending_ := self.pending_ - 1 }
  if self.pending_ = 0 then self.subcommandResult (if self.error_ then .error else .ok) else self

def handle (reply : Response Uri) :
    CHttpFileTransferOpData Uri :=
  match self.onHeader reply with
  | (.error, self) => self.onResponse false
  | (.done, self) => self.onResponse reply.success
  | (.next, self) => (self.receive reply.body).onResponse reply.success

def step (event : Event Uri) :
    Option (CHttpFileTransferOpData Uri) :=
  if self.result ≠ none then none
  else
    match event with
    | .answer action => if self.pending_ = 0 then some (self.setFileExistsAction action) else none
    | .response reply => if self.pending_ = 0 then none else some (self.handle reply)
    | .failed => if self.pending_ = 0 then none else some (self.onResponse false)

/-- Bodies that are complete are those of the entity. -/
def Truthful (entity : List UInt8) (self : CHttpFileTransferOpData Uri) : Event Uri → Prop
  | .response reply => 200 ≤ reply.code → reply.code < 300 →
      reply.code = 200 ∧ (reply.success = true → reply.body = entity) ∨
      reply.code = 206 ∧ ∃ size, self.range_ = some size ∧
        (reply.success = true → reply.body = entity.drop size)
  | _ => True

def ResumeRefused : Event Uri → Prop
  | .response reply => reply.code = 416 ∧ self.resume_ = true
  | _ => False

end CHttpFileTransferOpData

variable {Uri : Type}

/-- What the local file is to hold in the end -/
def Opening.expected (self : Opening) (entity : List UInt8) : List UInt8 :=
  if self.offset = 0 then entity else self.before ++ entity.drop self.before.length

namespace CHttpFileTransferOpData

/-- The writer only goes on behind the old file where the server has agreed to it. -/
structure Stored (entity : List UInt8) (op : CHttpFileTransferOpData Uri) : Prop where
  whole : op.result = some .ok → ∀ opening ∈ op.opened,
    op.file = some (some (opening.expected entity))
  resumed : ∀ opening ∈ op.opened, opening.offset ≠ 0 →
    opening.offset = opening.before.length ∧ opening.code = 206 ∧
      opening.range = some opening.offset

/-- The transfer starts over without a range. -/
structure Restarted (op : CHttpFileTransferOpData Uri) : Prop where
  result : op.result = none
  pending : op.pending_ = 1
  range : op.range_ = none

structure Downloads (entity : List UInt8)
    (trace : List (CHttpFileTransferOpData Uri × Event Uri)) (op : CHttpFileTransferOpData Uri) :
    Prop extends Stored entity op where
  restarted : ∀ taken ∈ trace, taken.1.ResumeRefused taken.2 →
    ∀ next ∈ taken.1.step taken.2, Restarted next

/-- The header of an earlier request is still there when a resumed transfer starts over. -/
def KeepsRange (self : CHttpFileTransferOpData Uri) (event : Event Uri) : Prop :=
  self.ResumeRefused event ∧ self.range_ ≠ none

variable {self : CHttpFileTransferOpData Uri} {entity : List UInt8}

/-- A request has the range of the local file only as long as the transfer is a resumed one. -/
structure Ready (op : CHttpFileTransferOpData Uri) : Prop where
  unopened : op.opened = []
  size : ∀ file ∈ op.file, op.localFileSize_ = file.map length
  range : op.range_ = none ∨ op.resume_ = true ∧ op.range_ = op.localFileSize_

structure Waiting (op : CHttpFileTransferOpData Uri) : Prop extends Ready op where
  pending : op.pending_ = 0 ∧ op.range_ = none ∨ op.pending_ = 1 ∧ op.opState = .waittransfer

structure Sound (entity : List UInt8) (op : CHttpFileTransferOpData Uri) : Prop
    extends Stored entity op where
  waiting : op.result = none → Waiting op

theorem Stored.of_unopened (unopened : self.opened = []) : Stored entity self where
  whole _ opening member := by simp [unopened] at member
  resumed opening member := by simp [unopened] at member

theorem Sound.of_waiting (waiting : Waiting self) : Sound entity self :=
  ⟨.of_unopened waiting.unopened, fun _ => waiting⟩

theorem Sound.of_ended {reply : Reply} (ended : self.result = some reply)
    (unopened : self.opened = []) : Sound entity self :=
  ⟨.of_unopened unopened, fun unfinished => by cases ended.symm.trans unfinished⟩

theorem Ready.send (ready : Ready self) (idle : self.pending_ = 0) :
    Waiting self.send ∧ self.send.pending_ = 1 ∧ self.send.result = self.result ∧
      (self.resume_ = false → self.send.range_ = self.range_) := by
  unfold CHttpFileTransferOpData.send request
  rw [if_pos idle]
  refine ⟨⟨⟨ready.unopened, ready.size, ?_⟩, .inr ⟨rfl, rfl⟩⟩, rfl, rfl, fun fresh => ?_⟩
  · dsimp only
    split
    case isTrue resumes => exact .inr ⟨resumes.1, rfl⟩
    case isFalse => exact ready.range
  · exact if_neg (by simp [fresh])

theorem checkOverwriteFile_waiting (unopened : self.opened = []) (fresh : self.range_ = none)
    (idle : self.pending_ = 0) (file : Option (List UInt8)) :
    Waiting (self.checkOverwriteFile file) := by
  have ready : Ready { self with file := some file, localFileSize_ := file.map length } :=
    ⟨unopened, fun _ same => Option.some.inj same ▸ rfl, .inl fresh⟩
  unfold checkOverwriteFile
  dsimp only
  split
  case isTrue => exact (ready.send idle).1
  case isFalse => exact ⟨ready, .inl ⟨idle, fresh⟩⟩

theorem sendInit_sound (initial : self.opened = [] ∧ self.range_ = none ∧ self.pending_ = 0)
    (download uriEmpty body : Bool) : Sound entity (self.sendInit download uriEmpty body) := by
  obtain ⟨unopened, fresh, idle⟩ := initial
  unfold sendInit
  iterate 3
    split
    case isTrue => exact .of_ended rfl unopened
  dsimp only
  split
  case h_1 none =>
    have ready : Ready { self with opState := .transfer } :=
      ⟨unopened, fun _ same => by simp [none] at same, .inl fresh⟩
    exact .of_waiting (ready.send idle).1
  case h_2 file _ =>
    refine .of_waiting (checkOverwriteFile_waiting ?_ ?_ ?_ file) <;> assumption

theorem setFileExistsAction_sound (waiting : Waiting self) (idle : self.pending_ = 0)
    (action : FileExistsAction) : Sound entity (self.setFileExistsAction action) := by
  have fresh : self.range_ = none :=
    (waiting.pending.resolve_right fun busy => by omega).2
  cases action with
  | overwrite => exact .of_waiting (waiting.toReady.send idle).1
  | resume =>
    have ready : Ready { self with resume_ := self.resume_ || self.localFileSize_.isSome } :=
      ⟨waiting.unopened, waiting.size, .inl fresh⟩
    exact .of_waiting (ready.send idle).1
  | rename file => exact .of_waiting (checkOverwriteFile_waiting waiting.unopened fresh idle file)
  | skip => exact .of_ended rfl waiting.unopened

theorem onResponse_last (last : self.pending_ = 1) (state : self.opState = .waittransfer)
    (success : Bool) :
    self.onResponse success = { self with
      error_ := self.error_ || !success
      pending_ := 0
      result := some (if self.error_ || !success then .error else .ok) } := by
  unfold onResponse subcommandResult
  simp [last, state]

theorem onResponse_sound (last : self.pending_ = 1) (state : self.opState = .waittransfer)
    (unopened : self.opened = []) (success : Bool) : Sound entity (self.onResponse success) := by
  rw [onResponse_last last state]
  exact .of_ended rfl unopened

theorem handle_refused (waiting : Waiting self) (busy : self.pending_ = 1) {reply : Response Uri}
    (refused : reply.code = 416 ∧ self.resume_ = true) (fresh : self.range_ = none)
    (unfinished : self.result = none) :
    Waiting (self.handle reply) ∧ Restarted (self.handle reply) := by
  have ready : Ready { self with
      resume_ := false
      opState := .transfer
      error_ := self.error_ || !false
      pending_ := 0 } := ⟨waiting.unopened, waiting.size, .inl fresh⟩
  obtain ⟨sent, pending, result, range⟩ := ready.send rfl
  unfold handle onHeader
  rw [if_pos refused]
  unfold onResponse subcommandResult
  simp only [busy]
  exact ⟨sent, result.trans unfinished, pending, (range rfl).trans fresh⟩

theorem opening_expected (ready : Ready self) {file : Option (List UInt8)}
    (here : self.file = some file) {reply : Response Uri}
    (truthful : reply.code = 200 ∧ (reply.success = true → reply.body = entity) ∨
      reply.code = 206 ∧ ∃ size, self.range_ = some size ∧
        (reply.success = true → reply.body = entity.drop size)) :
    let opening := opening { self with resume_ := self.resume_ && reply.code = 206 } reply file
    (reply.success = true →
        opening.before.take opening.offset ++ reply.body = opening.expected entity) ∧
      (opening.offset ≠ 0 → opening.offset = opening.before.length ∧ opening.code = 206 ∧
        opening.range = some opening.offset) := by
  rcases truthful with ⟨whole, complete⟩ | ⟨part, size, range, complete⟩
  · dsimp only [opening, Opening.expected]
    simp only [whole, Nat.reduceEqDiff, decide_false, Bool.and_false, Bool.false_eq_true, if_false,
      if_true]
    exact ⟨complete, fun some => absurd rfl some⟩
  · obtain ⟨resumes, same⟩ := ready.range.resolve_left (by simp [range])
    have sized : file.map length = some size :=
      (ready.size file here).symm.trans (same.symm.trans range)
    obtain ⟨old, rfl, rfl⟩ := Option.map_eq_some_iff.mp sized
    dsimp only [opening, Opening.expected]
    simp only [resumes, part, decide_true, Bool.and_true, if_true, ← same, range,
      Option.getD_some, take_length]
    refine ⟨fun success => ?_, fun _ => by simp⟩
    rw [complete success]
    split
    case isTrue none => simp [eq_nil_of_length_eq_zero none]
    case isFalse => rfl

theorem handle_sound (waiting : Waiting self) (busy : self.pending_ = 1)
    {reply : Response Uri} (truthful : self.Truthful entity (.response reply))
    (other : ¬ (reply.code = 416 ∧ self.resume_ = true)) : Sound entity (self.handle reply) := by
  have state : self.opState = .waittransfer :=
    (waiting.pending.resolve_left fun idle => by omega).2
  have unopened := waiting.unopened
  unfold handle
  cases header : self.onHeader reply with
  | mk continuation op =>
    unfold onHeader at header
    rw [if_neg other] at header
    split at header
    case isTrue =>
      cases header
      apply onResponse_sound <;> assumption
    case isFalse inside =>
      dsimp only at header
      split at header
      case isTrue =>
        split at header
        case isTrue =>
          cases header
          apply onResponse_sound <;> assumption
        case isFalse =>
          split at header
          case h_1 =>
            cases header
            apply onResponse_sound <;> assumption
          case h_2 location _ =>
            cases header
            unfold request onResponse
            rw [if_neg (by simp [busy])]
            simp only [busy]
            exact .of_waiting ⟨⟨unopened, waiting.size, waiting.range⟩, .inr ⟨rfl, state⟩⟩
      case isFalse few =>
        split at header
        case h_1 =>
          cases header
          have kept : receive { self with resume_ := self.resume_ && reply.code = 206 } reply.body =
              { self with resume_ := self.resume_ && reply.code = 206 } := by
            simp [receive, unopened]
          dsimp only
          rw [kept]
          apply onResponse_sound <;> assumption
        case h_2 file here =>
          split at header
          case isTrue =>
            cases header
            apply onResponse_sound <;> assumption
          case isFalse =>
            cases header
            obtain ⟨received, resumed⟩ := opening_expected waiting.toReady here
              (truthful (by omega) (by omega))
            dsimp only [receive]
            rw [unopened]
            dsimp only [nil_append, getLast?_singleton]
            rw [onResponse_last]
            case last => exact busy
            case state => exact state
            refine ⟨⟨fun ok opening member => ?_, fun opening member => ?_⟩,
              fun unfinished => by simp at unfinished⟩
            all_goals cases mem_singleton.mp member
            · have success : reply.success = true := by
                cases heard : reply.success with
                | true => rfl
                | false => simp [heard] at ok
              exact congrArg (some <| some ·) (received success)
            · exact resumed

theorem step_sound {next : CHttpFileTransferOpData Uri} {event : Event Uri}
    (sound : Sound entity self) (truthful : self.Truthful entity event)
    (clears : ¬ self.KeepsRange event) (taken : self.step event = some next) :
    Sound entity next ∧ (self.ResumeRefused event → Restarted next) := by
  unfold step at taken
  obtain ⟨unfinished, taken⟩ := of_refusal taken
  have unfinished := Decidable.not_not.mp unfinished
  have waiting := sound.waiting unfinished
  have busy (some : ¬ self.pending_ = 0) := waiting.pending.resolve_left fun idle => some idle.1
  cases event with
  | answer action =>
    obtain ⟨idle, rfl⟩ := some_of_guard taken
    exact ⟨setFileExistsAction_sound waiting idle action, False.elim⟩
  | response reply =>
    obtain ⟨some, rfl⟩ := some_of_refusal taken
    by_cases refused : reply.code = 416 ∧ self.resume_ = true
    case pos =>
      have fresh : self.range_ = none :=
        Decidable.not_not.mp fun range => clears ⟨refused, range⟩
      obtain ⟨sent, restarted⟩ := handle_refused waiting (busy some).1 refused fresh unfinished
      exact ⟨.of_waiting sent, fun _ => restarted⟩
    case neg =>
      exact ⟨handle_sound waiting (busy some).1 truthful refused,
        fun impossible => absurd impossible refused⟩
  | failed =>
    obtain ⟨some, rfl⟩ := some_of_refusal taken
    exact ⟨onResponse_sound (busy some).1 (busy some).2 waiting.unopened false, False.elim⟩

/-- Two bytes of three are there. -/
def resumedStart : CHttpFileTransferOpData Unit :=
  sendInit { uri_ := (), file := some (some [1, 2]) } true false true

/-- The server does not continue the file at first. Asked in the same way again it does. -/
theorem downloads_not_whole :
    ¬ ∀ (entity : List UInt8) (file : Option (Option (List UInt8)))
      (trace : List (CHttpFileTransferOpData Unit × Event Unit)) (self : CHttpFileTransferOpData Unit),
      Run step (sendInit { uri_ := (), file } true false true) trace self →
      (∀ taken ∈ trace, taken.1.Truthful entity taken.2) → Downloads entity trace self := by
  intro every
  have run := ((Run.refl.step (show resumedStart.step (.answer .resume) = some _ from rfl)).step
    (show step _ (.response { code := 416 }) = some _ from rfl)).step
    (show step _ (.response { code := 206, body := [3] }) = some _ from rfl)
  have downloads := every [1, 2, 3] _ _ _ run (by
    simp only [nil_append, cons_append, forall_mem_cons]
    exact ⟨trivial, fun _ impossible => by simp at impossible,
      fun _ _ => .inr ⟨rfl, 2, rfl, fun _ => rfl⟩, forall_mem_nil _⟩)
  have whole := downloads.whole rfl _ (mem_singleton_self _)
  exact absurd whole (by decide)

end CHttpFileTransferOpData

end FileZilla.Http
