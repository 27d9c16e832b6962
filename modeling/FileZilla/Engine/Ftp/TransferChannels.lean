import FileZilla.Engine.Ftp.Operations

namespace FileZilla

namespace Ftp

/-! The two channels of a raw transfer: the replies to the transfer command, and the end of the
data connection. -/

/-- `CTransferSocket` as far as its end goes: `m_transferEndReason`, and the number of
`TransferEndEvent`s that are still queued. -/
structure DataConnection where
  transferEndReason : TransferEndReason := .none
  queued : Nat := 0

def DataConnection.transferEnd (reason : TransferEndReason) (self : DataConnection) :
    DataConnection :=
  if self.transferEndReason ≠ .none then self
  else { transferEndReason := reason, queued := self.queued + 1 }

structure TransferReplies where
  preliminary : Bool := false
  final : Option Nat := none

namespace TransferReplies

/-- The server sends no second preliminary reply, and nothing after the final one. -/
def Expects (self : TransferReplies) (code : Nat) : Prop :=
  self.final = none ∧ (code = 1 → self.preliminary = false)

instance (self : TransferReplies) (code : Nat) : Decidable (self.Expects code) :=
  inferInstanceAs (Decidable (_ ∧ _))

def record (code : Nat) (self : TransferReplies) : TransferReplies :=
  if code = 1 then { self with preliminary := true } else { self with final := some code }

end TransferReplies

/-- A raw transfer after its command has been sent. The replies that have come, and whether the
end event has been handled, are recorded. -/
structure Channels where
  transfer : RawTransfer
  connection : DataConnection := {}
  replies : TransferReplies := {}
  endHandled : Bool := false
  ended : Option EndCode := none

inductive ChannelEvent
  | reply (code : Nat) (input : Input)
  | connectionEnd (reason : TransferEndReason)
  | transferEnd (input : Input)

namespace Channels

/-- `Transfer` has set the reason to successful, and the command is under way. -/
def start (transfer : RawTransfer) : Channels where
  transfer :=
    { transfer with
      opState := .transfer
      transferEndReason := .successful
      tranferCommandSent := true }

/-- `SendNextCommand`, while the transfer socket is there -/
def sendNextCommand (input : Input) (self : Channels) : Channels :=
  match self.transfer.send { input with transferSocket := true } {} with
  | (.answer (.finish code), transfer, _) => { self with transfer, ended := some code }
  | (_, transfer, _) => { self with transfer }

def reply (code : Nat) (input : Input) (self : Channels) : Channels :=
  let arrived := { self with replies := self.replies.record code }
  if self.ended.isSome then arrived
  else
    match self.transfer.parseResponse input code {} with
    | (.finish code, transfer, _) => { arrived with transfer, ended := some code }
    | (_, transfer, _) => { arrived with transfer }.sendNextCommand input

def transferEnd (input : Input) (self : Channels) : Channels :=
  let handled :=
    { self with
      connection := { self.connection with queued := self.connection.queued - 1 }
      endHandled := true }
  if self.ended.isSome then handled
  else
    let (ended, transfer) := self.transfer.transferEnd
      { input with
        transferSocket := true
        endReason := self.connection.transferEndReason }
    { handled with transfer, ended }

variable (self : Channels)

def step : ChannelEvent → Option Channels
  | .reply code input =>
    if self.replies.Expects code then some (self.reply code input) else none
  | .connectionEnd reason =>
    if reason = .none then none
    else some { self with connection := self.connection.transferEnd reason }
  | .transferEnd input =>
    if self.connection.queued = 0 then none else some (self.transferEnd input)

open RawTransfer

def Accepted : Prop :=
  ∃ code, self.replies.final = some code ∧ positive code = true

def Refused : Prop :=
  ∃ code, self.replies.final = some code ∧ positive code = false

def EndedWith (reason : TransferEndReason) : Prop :=
  self.endHandled = true ∧ self.connection.transferEndReason = reason

def expected (replies : TransferReplies) (endHandled : Bool) : Option RawTransferState :=
  match replies.final, endHandled with
  | none, false => some (if replies.preliminary then .waitfinish else .transfer)
  | none, true => some (if replies.preliminary then .waittransfer else .waittransferpre)
  | some code, false => if positive code then some .waitsocket else none
  | some _, true => none

structure EndsOnce (channels : Channels) : Prop where
  running : channels.connection.transferEndReason = .none →
    channels.connection.queued = 0 ∧ channels.endHandled = false
  closed : channels.connection.transferEndReason ≠ .none →
    channels.connection.queued = if channels.endHandled then 0 else 1

structure Waits (channels : Channels) : Prop where
  opState : expected channels.replies channels.endHandled = some channels.transfer.opState
  reason : channels.transfer.transferEndReason =
    if channels.endHandled then channels.connection.transferEndReason else .successful
  resumption : channels.endHandled = true →
    channels.connection.transferEndReason ≠ .failedTlsResumption

structure EndsRightly (channels : Channels) (code : EndCode) : Prop where
  ok : code = .ok ↔ channels.Accepted ∧ channels.EndedWith .successful
  known : (channels.Accepted ∧ channels.endHandled = true) ∨ channels.Refused ∨
    channels.EndedWith .failedTlsResumption

structure Coherent (channels : Channels) : Prop where
  once : EndsOnce channels
  waits : channels.ended = none → Waits channels
  ends : ∀ code, channels.ended = some code → EndsRightly channels code

variable {self next : Channels} {input : Input}

theorem start_coherent (transfer : RawTransfer) : Coherent (start transfer) where
  once := ⟨fun _ => ⟨rfl, rfl⟩, fun closed => absurd rfl closed⟩
  waits _ := ⟨rfl, rfl, fun handled => absurd handled (by simp [start])⟩
  ends _ ended := absurd ended (by simp [start])

theorem sendNextCommand_quiet (quiet : self.transfer.Quiet) :
    self.sendNextCommand input = self := by
  unfold sendNextCommand
  rcases quiet with waits | waits | waits | waits <;> simp [send, waits]

variable {transfer : RawTransfer}

theorem finish_coherent {code : EndCode} (once : EndsOnce self) (ends : EndsRightly self code) :
    Coherent { self with transfer, ended := some code } where
  once := ⟨once.running, once.closed⟩
  waits running := absurd running (by simp)
  ends other same := by
    cases same
    exact ⟨ends.ok, ends.known⟩

theorem refused_ends (refused : self.Refused) {code : EndCode} (failed : code ≠ .ok) :
    EndsRightly self code where
  ok := by
    refine ⟨fun ok => absurd ok failed, ?_⟩
    rintro ⟨⟨reply, final, positive⟩, -⟩
    obtain ⟨other, same, negative⟩ := refused
    cases final.symm.trans same
    rw [positive] at negative
    contradiction
  known := .inr (.inl refused)

theorem unresumed_ends (unresumed : self.EndedWith .failedTlsResumption) {code : EndCode}
    (failed : code ≠ .ok) : EndsRightly self code where
  ok := by
    refine ⟨fun ok => absurd ok failed, ?_⟩
    rintro ⟨-, -, successful⟩
    cases unresumed.2.symm.trans successful
  known := .inr (.inr unresumed)

variable {ended : EndCode}

theorem EndsRightly.reply (rightly : EndsRightly self ended)
    (unanswered : self.replies.final = none) (replies : TransferReplies) :
    EndsRightly { self with replies } ended := by
  have unresumed : self.EndedWith .failedTlsResumption := by
    rcases rightly.known with ⟨⟨code, final, -⟩, -⟩ | ⟨code, final, -⟩ | unresumed
    · cases unanswered.symm.trans final
    · cases unanswered.symm.trans final
    · exact unresumed
  have later : EndedWith { self with replies } .failedTlsResumption := unresumed
  apply unresumed_ends later
  rintro rfl
  obtain ⟨⟨code, final, -⟩, -⟩ := rightly.ok.mp rfl
  cases unanswered.symm.trans final

structure ReplyParsed (channels : Channels) (code : Nat)
    (result : Answer FtpOperation × RawTransfer × SharedState) : Prop where
  blocks : ∀ waiting, result.1 ≠ .wouldBlock waiting
  proceeds : ∀ pushed, result.1 = .proceed pushed → result.2.1.Quiet ∧
    expected (channels.replies.record code) channels.endHandled = some result.2.1.opState ∧
    result.2.1.transferEndReason = channels.transfer.transferEndReason
  finishes : ∀ ended, result.1 = .finish ended →
    EndsRightly { channels with replies := channels.replies.record code } ended

variable {code : Nat} {shared : SharedState}

theorem ReplyParsed.of_proceed (quiet : transfer.Quiet)
    (state : expected (self.replies.record code) self.endHandled = some transfer.opState)
    (reason : transfer.transferEndReason = self.transfer.transferEndReason) :
    ReplyParsed self code (.proceed none, transfer, shared) where
  blocks _ := by simp
  proceeds _ _ := ⟨quiet, state, reason⟩
  finishes _ impossible := absurd impossible (by simp)

theorem ReplyParsed.of_finish
    (rightly : EndsRightly { self with replies := self.replies.record code } ended) :
    ReplyParsed self code (.finish ended, transfer, shared) where
  blocks _ := by simp
  proceeds _ impossible := absurd impossible (by simp)
  finishes other same := by
    obtain rfl := Answer.finish.inj same
    exact rightly

theorem record_final {replies : TransferReplies} (final : code ≠ 1) :
    (replies.record code).final = some code := by
  simp [TransferReplies.record, final]

open ReplyParsed

theorem ReplyParsed.of_refused (final : code ≠ 1) (negative : positive code = false) :
    ReplyParsed self code (.finish .error, transfer, shared) := by
  apply of_finish
  exact refused_ends ⟨code, record_final final, negative⟩ (by simp)

theorem accepted_ends (final : code ≠ 1) (positive : positive code = true)
    (handled : self.endHandled = true)
    (ok : ended = .ok ↔ self.connection.transferEndReason = .successful) :
    EndsRightly { self with replies := self.replies.record code } ended where
  ok := by
    rw [ok]
    exact ⟨fun successful => ⟨⟨code, record_final final, positive⟩, handled, successful⟩,
      fun both => both.2.2⟩
  known := .inl ⟨⟨code, record_final final, positive⟩, handled⟩

theorem ReplyParsed.of_accepted (final : code ≠ 1) (positive : positive code = true)
    (handled : self.endHandled = true)
    (reason : self.transfer.transferEndReason = self.connection.transferEndReason) :
    ReplyParsed self code (if self.transfer.transferEndReason ≠ .successful then
        (.finish .error, self.transfer, shared)
      else (.finish .ok, self.transfer, shared)) := by
  split
  case isTrue failed =>
    apply of_finish
    apply accepted_ends final positive handled
    simpa [← reason] using failed
  case isFalse successful =>
    apply of_finish
    apply accepted_ends final positive handled
    simpa [← reason] using successful

theorem parseResponse_waiting (waits : Waits self) (expects : self.replies.Expects code)
    (shared : SharedState) :
    ReplyParsed self code (self.transfer.parseResponse input code shared) := by
  obtain ⟨unanswered, once⟩ := expects
  have state := waits.opState
  have reason := waits.reason
  simp only [expected, unanswered] at state
  cases handled : self.endHandled with
  | false =>
    simp only [handled, Option.some.injEq] at state
    cases preliminary : self.replies.preliminary with
    | false =>
      simp only [preliminary, Bool.false_eq_true, if_false] at state
      simp only [parseResponse, ← state]
      by_cases first : code = 1
      · rw [if_pos first]
        refine of_proceed (.inl rfl) ?_ rfl
        simp [expected, handled, TransferReplies.record, first, unanswered]
      · rw [if_neg first]
        cases positive : positive code with
        | false => exact of_refused first positive
        | true =>
          refine of_proceed (.inr (.inr (.inr rfl))) ?_ rfl
          simp [expected, handled, record_final first, positive]
    | true =>
      have final : code ≠ 1 := fun first => by simp [once first] at preliminary
      simp only [preliminary, if_true] at state
      simp only [parseResponse, ← state]
      cases positive : positive code with
      | false => exact of_refused final positive
      | true =>
        refine of_proceed (.inr (.inr (.inr rfl))) ?_ rfl
        simp [expected, handled, record_final final, positive]
  | true =>
    simp only [handled, Option.some.injEq] at state
    simp only [handled, if_true] at reason
    cases preliminary : self.replies.preliminary with
    | false =>
      simp only [preliminary, Bool.false_eq_true, if_false] at state
      simp only [parseResponse, ← state]
      by_cases first : code = 1
      · rw [if_pos first]
        refine of_proceed (.inr (.inr (.inl rfl))) ?_ rfl
        simp [expected, handled, TransferReplies.record, first, unanswered]
      · rw [if_neg first]
        cases positive : positive code with
        | false => exact of_refused first positive
        | true => exact of_accepted first positive handled reason
    | true =>
      have final : code ≠ 1 := fun first => by simp [once first] at preliminary
      simp only [preliminary, if_true] at state
      simp only [parseResponse, ← state]
      cases positive : positive code with
      | false => exact of_refused final positive
      | true => exact of_accepted final positive handled reason

theorem reply_coherent (coherent : Coherent self) (expects : self.replies.Expects code) :
    Coherent (self.reply code input) := by
  have once := coherent.once
  cases running : self.ended with
  | some ended =>
    have closed : self.reply code input = { self with replies := self.replies.record code } := by
      simp [reply, running]
    rw [closed]
    exact
      { once := ⟨once.running, once.closed⟩
        waits := fun impossible => absurd (running.symm.trans impossible) (by simp)
        ends := fun other same => (coherent.ends other same).reply expects.1 _ }
  | none =>
    have waits := coherent.waits running
    have parsed : ReplyParsed self code (self.transfer.parseResponse input code {}) :=
      parseResponse_waiting waits expects {}
    simp only [reply, running, Option.isSome_none, Bool.false_eq_true, if_false]
    split
    case h_1 ended transfer shared same =>
      rw [same] at parsed
      have arrived : EndsOnce { self with replies := self.replies.record code } :=
        ⟨once.running, once.closed⟩
      exact finish_coherent arrived (parsed.finishes ended rfl)
    case h_2 answer transfer shared unfinished same =>
      rw [same] at parsed
      cases answer with
      | wouldBlock waiting => exact absurd rfl (parsed.blocks waiting)
      | finish ended => exact absurd rfl (unfinished ended)
      | proceed pushed =>
        obtain ⟨quiet, state, reason⟩ := parsed.proceeds pushed rfl
        rw [sendNextCommand_quiet quiet]
        exact
          { once := ⟨once.running, once.closed⟩
            waits := fun _ => ⟨state, reason.trans waits.reason, waits.resumption⟩
            ends := fun other same => absurd same (by simp) }

variable {reason : TransferEndReason}

theorem connectionEnd_coherent (coherent : Coherent self) (real : reason ≠ .none) :
    Coherent { self with connection := self.connection.transferEnd reason } := by
  have once := coherent.once
  by_cases running : self.connection.transferEndReason = .none
  · obtain ⟨idle, unhandled⟩ := once.running running
    have ends : self.connection.transferEnd reason = ⟨reason, 1⟩ := by
      simp [DataConnection.transferEnd, running, idle]
    rw [ends]
    refine ⟨⟨fun impossible => absurd impossible real, fun _ => by simp [unhandled]⟩, ?_, ?_⟩
    · intro alive
      have waits := coherent.waits alive
      have successful := waits.reason
      rw [if_neg (by simp [unhandled])] at successful
      refine ⟨waits.opState, ?_, fun handled => absurd handled (by simp [unhandled])⟩
      rw [successful, if_neg (by simp [unhandled])]
    · intro code ended
      have rightly := coherent.ends code ended
      have refused : self.Refused := by
        rcases rightly.known with ⟨-, handled⟩ | refused | ⟨handled, -⟩
        · exact absurd handled (by simp [unhandled])
        · exact refused
        · exact absurd handled (by simp [unhandled])
      have later : Refused { self with connection := ⟨reason, 1⟩ } := refused
      apply refused_ends later
      rintro rfl
      exact absurd (rightly.ok.mp rfl).2.1 (by simp [unhandled])
  · have same : self.connection.transferEnd reason = self.connection := by
      simp [DataConnection.transferEnd, running]
    rw [same]
    exact coherent

theorem failWith_reason (successful : transfer.transferEndReason = .successful) :
    transfer.failWith reason = { transfer with transferEndReason := reason } := by
  simp [failWith, successful]

structure EndTaken (channels : Channels) (result : Option EndCode × RawTransfer) : Prop where
  waits : result.1 = none →
    Waits { channels with transfer := result.2, endHandled := true, ended := none }
  ends : ∀ code, result.1 = some code →
    EndsRightly { channels with endHandled := true } code

theorem EndTaken.of_waits (state : expected self.replies true = some transfer.opState)
    (reason : transfer.transferEndReason = self.connection.transferEndReason)
    (resumed : self.connection.transferEndReason ≠ .failedTlsResumption) :
    EndTaken self (none, transfer) where
  waits _ := ⟨state, reason, fun _ => resumed⟩
  ends _ impossible := absurd impossible (by simp)

theorem EndTaken.of_ends (rightly : EndsRightly { self with endHandled := true } ended) :
    EndTaken self (some ended, transfer) where
  waits impossible := absurd impossible (by simp)
  ends other same := by
    cases same
    exact rightly

theorem transferEnd_waiting (waits : Waits self) (unhandled : self.endHandled = false)
    (same : self.connection.transferEndReason = reason) (real : reason ≠ .none) :
    EndTaken self (self.transfer.transferEnd
      { input with transferSocket := true, endReason := reason }) := by
  have successful := waits.reason
  rw [if_neg (by simp [unhandled])] at successful
  have state := waits.opState
  simp only [expected, unhandled] at state
  simp only [RawTransfer.transferEnd, real, failWith_reason successful, Bool.not_true,
    Bool.false_eq_true, or_self, if_false]
  split
  case isTrue unresumed =>
    apply EndTaken.of_ends
    have later : EndedWith { self with endHandled := true } .failedTlsResumption :=
      ⟨rfl, same.trans unresumed⟩
    exact unresumed_ends later (by simp)
  case isFalse resumed =>
    have other : self.connection.transferEndReason ≠ .failedTlsResumption := same ▸ resumed
    cases final : self.replies.final with
    | none =>
      simp only [final, Option.some.injEq] at state
      cases preliminary : self.replies.preliminary with
      | false =>
        simp only [preliminary, Bool.false_eq_true, if_false] at state
        simp only [← state]
        refine EndTaken.of_waits ?_ same.symm other
        simp [expected, final, preliminary]
      | true =>
        simp only [preliminary, if_true] at state
        simp only [← state]
        refine EndTaken.of_waits ?_ same.symm other
        simp [expected, final, preliminary]
    | some code =>
      simp only [final, Option.ite_none_right_eq_some, Option.some.injEq] at state
      obtain ⟨positive, state⟩ := state
      simp only [← state]
      apply EndTaken.of_ends
      refine ⟨⟨fun ok => ⟨⟨code, final, positive⟩, rfl, ?_⟩, fun both => ?_⟩, ?_⟩
      · by_contra failed
        rw [same] at failed
        simp [failed] at ok
      · rw [if_pos (same.symm.trans both.2.2)]
      · exact .inl ⟨⟨code, final, positive⟩, rfl⟩

theorem EndsRightly.handled (rightly : EndsRightly self ended)
    (unhandled : self.endHandled = false) :
    EndsRightly { self with endHandled := true } ended := by
  have refused : self.Refused := by
    rcases rightly.known with ⟨-, handled⟩ | refused | ⟨handled, -⟩
    · exact absurd handled (by simp [unhandled])
    · exact refused
    · exact absurd handled (by simp [unhandled])
  have later : Refused { self with endHandled := true } := refused
  apply refused_ends later
  rintro rfl
  exact absurd (rightly.ok.mp rfl).2.1 (by simp [unhandled])

theorem transferEnd_coherent (coherent : Coherent self) (queued : self.connection.queued ≠ 0) :
    Coherent (self.transferEnd input) := by
  have closed : self.connection.transferEndReason ≠ .none := fun running =>
    queued (coherent.once.running running).1
  have pending := coherent.once.closed closed
  have unhandled : self.endHandled = false := by
    by_contra handled
    simp only [Bool.not_eq_false] at handled
    simp [handled, queued] at pending
  have once : ∀ transfer ended, EndsOnce
      { self with
        transfer, ended
        connection := { self.connection with queued := self.connection.queued - 1 }
        endHandled := true } := by
    intro transfer ended
    refine ⟨fun running => absurd running closed, fun _ => ?_⟩
    simp [pending, unhandled]
  cases running : self.ended with
  | some ended =>
    simp only [transferEnd, running, Option.isSome_some, if_true]
    refine ⟨once _ _, fun alive => absurd alive (by simp), ?_⟩
    intro code same
    have rightly := (coherent.ends code (running.trans same)).handled unhandled
    exact ⟨rightly.ok, rightly.known⟩
  | none =>
    have taken : EndTaken self (self.transfer.transferEnd
        { input with
          transferSocket := true, endReason := self.connection.transferEndReason }) :=
      transferEnd_waiting (coherent.waits running) unhandled rfl closed
    simp only [transferEnd, running, Option.isSome_none, Bool.false_eq_true, if_false]
    refine ⟨once _ _, fun alive => ?_, fun code same => ?_⟩
    · have waits := taken.waits alive
      exact ⟨waits.opState, waits.reason, waits.resumption⟩
    · have rightly := taken.ends code same
      exact ⟨rightly.ok, rightly.known⟩

theorem step_coherent {event : ChannelEvent} (coherent : Coherent self)
    (taken : self.step event = some next) : Coherent next := by
  cases event with
  | reply code input =>
    obtain ⟨expects, rfl⟩ := some_of_guard taken
    exact reply_coherent coherent expects
  | connectionEnd reason =>
    simp only [step, Option.ite_none_left_eq_some, Option.some.injEq] at taken
    obtain ⟨real, rfl⟩ := taken
    exact connectionEnd_coherent coherent real
  | transferEnd input =>
    simp only [step, Option.ite_none_left_eq_some, Option.some.injEq] at taken
    obtain ⟨queued, rfl⟩ := taken
    exact transferEnd_coherent coherent queued

theorem run_coherent {trace : List (Channels × ChannelEvent)}
    (run : Run step (start transfer) trace self) : Coherent self :=
  run.invariant (start_coherent transfer) fun _ _ _ coherent taken =>
    step_coherent coherent taken

theorem Coherent.settled (coherent : Coherent self) (final : self.replies.final ≠ none)
    (handled : self.endHandled = true) : self.ended ≠ none := by
  intro running
  have state := (coherent.waits running).opState
  cases last : self.replies.final with
  | none => exact final last
  | some code => simp [expected, last, handled] at state

/-- The transfer succeeds when the reply and the data connection do. Otherwise it may end with an
error as soon as there is a negative reply, or a data connection whose TLS session has not been
resumed. -/
theorem rawTransfer_succeeds_iff {transfer : RawTransfer}
    {trace : List (Channels × ChannelEvent)} (run : Run step (start transfer) trace self) :
    (self.ended = some .ok ↔ self.Accepted ∧ self.EndedWith .successful) ∧
      (self.ended ≠ none → (self.replies.final ≠ none ∧ self.endHandled = true) ∨
          (self.ended ≠ some .ok ∧ (self.Refused ∨ self.EndedWith .failedTlsResumption))) ∧
      (self.replies.final ≠ none → self.endHandled = true → self.ended ≠ none) := by
  have coherent := run_coherent run
  refine ⟨⟨fun ok => (coherent.ends .ok ok).ok.mp rfl, fun both => ?_⟩, fun closed => ?_,
    coherent.settled⟩
  · obtain ⟨⟨code, final, positive⟩, handled, successful⟩ := both
    obtain ⟨ended, same⟩ := Option.ne_none_iff_exists'.mp
      (coherent.settled (by simp [final]) handled)
    have ok := (coherent.ends ended same).ok.mpr ⟨⟨code, final, positive⟩, handled, successful⟩
    exact same.trans (congrArg some ok)
  · obtain ⟨ended, same⟩ := Option.ne_none_iff_exists'.mp closed
    have rightly := coherent.ends ended same
    by_cases both : self.replies.final ≠ none ∧ self.endHandled = true
    · exact .inl both
    · refine .inr ⟨fun ok => ?_, ?_⟩
      · cases same.symm.trans ok
        obtain ⟨⟨code, final, -⟩, handled, -⟩ := rightly.ok.mp rfl
        exact both ⟨by simp [final], handled⟩
      · rcases rightly.known with ⟨⟨code, final, -⟩, handled⟩ | failed
        · exact absurd ⟨by simp [final], handled⟩ both
        · exact failed

def listTransfer : Channels :=
  start { cmd := .list, binary := false, resumeOffset := 0 }

theorem rawTransfer_succeeds_iff_listed :
    ∃ trace channels, Run step listTransfer trace channels ∧
      channels.ended = some .ok ∧ channels.Accepted ∧ channels.EndedWith .successful := by
  obtain ⟨trace, channels, run, ended⟩ := @exists_run_of_execute _ _ step listTransfer
      [.reply 1 {}, .connectionEnd .successful, .transferEnd {}, .reply 2 {}]
      (fun _ channels => channels.ended = some .ok) (by decide)
  have ok : channels.ended = some .ok := of_decide_eq_true ended
  exact ⟨trace, channels, run, ok, (rawTransfer_succeeds_iff run).1.mp ok⟩

/-- A negative reply ends the transfer while its data connection is still open. -/
theorem rawTransfer_ends_early :
    ∃ trace channels, Run step listTransfer trace channels ∧
      channels.ended = some .error ∧ channels.endHandled = false := by
  obtain ⟨trace, channels, run, ended⟩ :=
    @exists_run_of_execute _ _ step listTransfer [.reply 5 {}]
      (fun _ channels => channels.ended = some .error ∧ channels.endHandled = false) (by decide)
  exact ⟨trace, channels, run, of_decide_eq_true ended⟩

end Channels

end Ftp

end FileZilla
