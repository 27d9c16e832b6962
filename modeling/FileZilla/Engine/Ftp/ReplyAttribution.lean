import FileZilla.Engine.Ftp.ControlSocket

namespace FileZilla

open List

namespace Ftp

variable {ω ς κ ρ ι σ : Type}

inductive Successor (ops : Operations ω ς κ ρ ι) : ω → ω → Prop
  | send (input : ι) (operation : ω) (shared : ς) :
      Successor ops operation (ops.send input operation shared).2.1
  | parseResponse (input : ι) (reply : ρ) (operation : ω) (shared : ς) :
      Successor ops operation (ops.parseResponse input reply operation shared).2.1
  | subcommandResult (input : ι) (code : EndCode) (previous operation : ω) (shared : ς) :
      Successor ops operation (ops.subcommandResult input code previous operation shared).2.1
  | setAsyncRequestReply (input : ι) (operation : ω) (shared : ς) :
      Successor ops operation (ops.setAsyncRequestReply input operation shared).2.1
  | transferEnd (input : ι) (operation : ω) (shared : ς) :
      Successor ops operation (ops.transferEnd input operation shared).2.1

inductive Continues (ops : Operations ω ς κ ρ ι) (prepared quiet : ω → Prop) : ω → ω → Prop
  | send (input : ι) (operation : ω) (shared : ς) (calm : quiet operation) :
      Continues ops prepared quiet operation (ops.send input operation shared).2.1
  | parseResponse (input : ι) (reply : ρ) (operation : ω) (shared : ς)
      (ready : prepared operation) (early : ops.preliminary reply = true) :
      Continues ops prepared quiet operation (ops.parseResponse input reply operation shared).2.1
  | setAsyncRequestReply (input : ι) (operation : ω) (shared : ς) :
      Continues ops prepared quiet operation (ops.setAsyncRequestReply input operation shared).2.1
  | transferEnd (input : ι) (operation : ω) (shared : ς) :
      Continues ops prepared quiet operation (ops.transferEnd input operation shared).2.1

theorem Continues.successor {ops : Operations ω ς κ ρ ι} {prepared quiet : ω → Prop}
    {before after : ω} (continues : Continues ops prepared quiet before after) :
    Successor ops before after := by
  cases continues with
  | send input operation shared => exact .send input _ shared
  | parseResponse input reply operation shared => exact .parseResponse input reply _ shared
  | setAsyncRequestReply input operation shared => exact .setAsyncRequestReply input _ shared
  | transferEnd input operation shared => exact .transferEnd input _ shared

/-- The operation neither sends another command nor starts another operation. -/
def Answer.Holds (answer : Answer ω) : Prop :=
  answer = .wouldBlock .reply ∨ ∃ code, answer = .finish code

def Answer.Alone (answer : Answer ω) : Prop :=
  ∀ operation, answer ≠ .proceed (some operation)

/-- What the operations have to keep to for a server that sends preliminary replies:
`prepared` ones expect a preliminary reply and get `quiet` by it, until the final reply. Nothing
is asked of the `exempt` ones, which start no other operation. -/
structure Disciplined (ops : Operations ω ς κ ρ ι) (sends : ω → κ → Prop)
    (prepared quiet exempt : ω → Prop) : Prop where
  sends_send : ∀ input operation shared command,
    (ops.send input operation shared).1 = .command command →
    sends (ops.send input operation shared).2.1 command
  sends_kept : ∀ {before after command}, Continues ops prepared quiet before after →
    sends before command → sends after command
  rawTransfer_kept : ∀ {before after}, Successor ops before after →
    ops.isRawTransfer before = true → ops.isRawTransfer after = true
  exempt_kept : ∀ {before after}, Successor ops before after → exempt before → exempt after
  quiet_send : ∀ input operation shared, quiet operation →
    ∃ answer, (ops.send input operation shared).1 = .answer answer ∧ answer.Holds
  preliminary_response : ∀ input {reply operation} shared, prepared operation →
    ops.preliminary reply = true → (ops.parseResponse input reply operation shared).1.Holds ∨
    ((ops.parseResponse input reply operation shared).1 = .proceed none ∧
      quiet (ops.parseResponse input reply operation shared).2.1)
  request_reply : ∀ input {operation} shared, ops.isRawTransfer operation = true →
    (ops.setAsyncRequestReply input operation shared).1.Holds
  exempt_send : ∀ input operation shared answer, exempt operation →
    (ops.send input operation shared).1 = .answer answer → answer.Alone
  exempt_response : ∀ input reply {operation} shared, exempt operation →
    (ops.parseResponse input reply operation shared).1.Alone
  exempt_request : ∀ input {operation} shared, exempt operation →
    (ops.setAsyncRequestReply input operation shared).1.Alone

namespace ControlSocket

structure Accounted (exempt : ω → Prop) (socket : ControlSocket ω ς κ σ) : Prop where
  counted : socket.pendingReplies = socket.outstanding.length
  skipped : socket.repliesToSkip = 0 ∨ socket.repliesToSkip = socket.pendingReplies
  sent : ∀ record ∈ socket.sent, record.repliesToSkip = 0
  delivered : ∀ record ∈ socket.delivered, ¬ exempt record.operation →
    record.answered.sender = some record.serial ∧
    record.lastSent = some record.answered.number

structure Awaits (ops : Operations ω ς κ ρ ι) (sends : ω → κ → Prop) (quiet : ω → Prop)
    (top : Entry ω) (command : Outstanding κ) (control : Control ω) : Prop where
  sender : command.sender = some top.serial
  last : top.lastSent = some command.number
  issued : ∀ text, command.command = some text → sends top.data text
  waiting : top.waiting = .reply ∨
    (top.waiting = .request ∧ ops.isRawTransfer top.data = true)
  quiet : control = .sendNextCommand → quiet top.data

/-- No command of an operation that is still there is outstanding. -/
def Free (self : ControlSocket ω ς κ σ) : Prop :=
  self.outstanding = [] ∨ self.repliesToSkip ≠ 0

inductive Owned (ops : Operations ω ς κ ρ ι) (sends : ω → κ → Prop) (quiet exempt : ω → Prop)
    (operations : List (Entry ω)) (outstanding : List (Outstanding κ)) (control : Control ω) :
    Prop
  | exempt (top : Entry ω) (below : List (Entry ω)) (current : operations = top :: below)
      (exempt : exempt top.data)
  | awaits (top : Entry ω) (below : List (Entry ω)) (command : Outstanding κ)
      (current : operations = top :: below) (alone : outstanding = [command])
      (awaits : Awaits ops sends quiet top command control)

structure Attributed (ops : Operations ω ς κ ρ ι) (sends : ω → κ → Prop)
    (quiet exempt : ω → Prop) (socket : ControlSocket ω ς κ σ) : Prop
    extends Accounted exempt socket where
  subcommand : ∀ code previous, socket.control = .subcommandResult code previous → socket.Free
  owned : socket.Free ∨
    Owned ops sends quiet exempt socket.operations socket.outstanding socket.control

variable {ops : Operations ω ς κ ρ ι} {sends : ω → κ → Prop} {prepared quiet exempt : ω → Prop}
  {self : ControlSocket ω ς κ σ}

theorem Accounted.attributed (accounted : Accounted exempt self) (free : self.Free) :
    Attributed ops sends quiet exempt self :=
  { accounted with subcommand := fun _ _ _ => free, owned := .inl free }

theorem Accounted.doClose (accounted : Accounted exempt self) (ops : Operations ω ς κ ρ ι) :
    Accounted exempt (self.doClose ops) where
  counted := rfl
  skipped := .inl rfl
  __ := accounted

theorem doClose_attributed (accounted : Accounted exempt self) :
    Attributed ops sends quiet exempt (self.doClose ops) :=
  (accounted.doClose ops).attributed (.inl rfl)

variable {other : ControlSocket ω ς κ σ}

theorem Accounted.of_eq (accounted : Accounted exempt self)
    (same : (other.pendingReplies, other.repliesToSkip, other.outstanding, other.sent,
        other.delivered) =
      (self.pendingReplies, self.repliesToSkip, self.outstanding, self.sent,
        self.delivered)) : Accounted exempt other := by
  simp only [Prod.mk.injEq] at same
  obtain ⟨pending, skip, outstanding, sent, delivered⟩ := same
  constructor
  · rw [pending, outstanding]
    exact accounted.counted
  · rw [skip, pending]
    exact accounted.skipped
  · rw [sent]
    exact accounted.sent
  · rw [delivered]
    exact accounted.delivered

theorem Accounted.attributed_of_eq (accounted : Accounted exempt self) (free : self.Free)
    (same : (other.pendingReplies, other.repliesToSkip, other.outstanding, other.sent,
        other.delivered) =
      (self.pendingReplies, self.repliesToSkip, self.outstanding, self.sent,
        self.delivered)) : Attributed ops sends quiet exempt other := by
  refine (accounted.of_eq same).attributed ?_
  simp only [Prod.mk.injEq] at same
  rw [Free, same.2.1, same.2.2.1]
  exact free

theorem settle_frame (ops : Operations ω ς κ ρ ι) (closes : EndCode → Bool) (answer : Answer ω) :
    self.settle ops closes answer = self.doClose ops ∨
    ((self.settle ops closes answer).pendingReplies,
      (self.settle ops closes answer).repliesToSkip, (self.settle ops closes answer).outstanding,
      (self.settle ops closes answer).sent, (self.settle ops closes answer).delivered) =
    (self.pendingReplies, self.repliesToSkip, self.outstanding, self.sent, self.delivered) := by
  cases answer with
  | wouldBlock waiting => exact .inr rfl
  | proceed pushed =>
    cases pushed with
    | none => exact .inr rfl
    | some operation => exact .inr rfl
  | finish code =>
    unfold settle
    dsimp only
    split
    · exact .inl rfl
    · exact .inr rfl

theorem settle_free (accounted : Accounted exempt self) (free : self.Free)
    (closes : EndCode → Bool) (answer : Answer ω) :
    Attributed ops sends quiet exempt (self.settle ops closes answer) := by
  rcases settle_frame ops closes answer with closed | same
  · rw [closed]
    exact doClose_attributed accounted
  · exact accounted.attributed_of_eq free same

theorem attributed_of_owned (accounted : Accounted exempt self)
    (same : (other.pendingReplies, other.repliesToSkip, other.outstanding, other.sent,
        other.delivered) =
      (self.pendingReplies, self.repliesToSkip, self.outstanding, self.sent, self.delivered))
    (running : ∀ code previous, other.control ≠ .subcommandResult code previous)
    (owned : Owned ops sends quiet exempt other.operations other.outstanding other.control) :
    Attributed ops sends quiet exempt other :=
  { accounted.of_eq same with
    subcommand := fun code previous ended => absurd ended (running code previous)
    owned := .inr owned }

variable {top : Entry ω} {below : List (Entry ω)}

theorem settle_awaiting (accounted : Accounted exempt self) {command : Outstanding κ}
    (operations : self.operations = top :: below) (outstanding : self.outstanding = [command])
    (awaits : Awaits ops sends quiet top command .idle) (closes : EndCode → Bool)
    {answer : Answer ω} (holds : answer.Holds ∨ (answer = .proceed none ∧ quiet top.data)) :
    Attributed ops sends quiet exempt (self.settle ops closes answer) := by
  rcases holds with (rfl | ⟨code, rfl⟩) | ⟨rfl, calm⟩
  · exact attributed_of_owned accounted rfl (by simp [settle])
      (.awaits top below command operations outstanding awaits)
  · unfold settle
    dsimp only
    split
    · exact doClose_attributed accounted
    · exact attributed_of_owned accounted rfl (by simp)
        (.awaits top below command operations outstanding
          { awaits with quiet := fun impossible => absurd impossible (by simp) })
  · exact attributed_of_owned accounted rfl (by simp [settle])
      (.awaits top below command operations outstanding { awaits with quiet := fun _ => calm })

theorem settle_exempt (accounted : Accounted exempt self)
    (operations : self.operations = top :: below) (lenient : exempt top.data)
    (closes : EndCode → Bool) {answer : Answer ω} (alone : answer.Alone) :
    Attributed ops sends quiet exempt (self.settle ops closes answer) := by
  cases answer with
  | wouldBlock waiting =>
    refine attributed_of_owned accounted rfl (by simp [settle]) ?_
    simp only [settle, operations, modifyHead_cons]
    split
    · exact .exempt top below rfl lenient
    · exact .exempt _ below rfl lenient
  | proceed pushed =>
    cases pushed with
    | none =>
      exact attributed_of_owned accounted rfl (by simp [settle])
        (.exempt top below operations lenient)
    | some operation => exact absurd rfl (alone operation)
  | finish code =>
    unfold settle
    dsimp only
    split
    · exact doClose_attributed accounted
    · exact attributed_of_owned accounted rfl (by simp) (.exempt top below operations lenient)

theorem Accounted.free_of_skipping (accounted : Accounted exempt self)
    (all : self.repliesToSkip = self.pendingReplies) : self.Free := by
  rcases eq_nil_or_concat self.outstanding with none | ⟨rest, last, some⟩
  · exact .inl none
  · refine .inr ?_
    rw [all, accounted.counted, some]
    simp

theorem Attributed.free_of_empty (attributed : Attributed ops sends quiet exempt self)
    (empty : self.operations = []) : self.Free := by
  rcases attributed.owned with free | ⟨top, below, some, _⟩ | ⟨top, below, _, some, _⟩
  · exact free
  all_goals
    rw [empty] at some
    cases some

theorem Attributed.awaits (attributed : Attributed ops sends quiet exempt self)
    (operations : self.operations = top :: below) :
    self.Free ∨ exempt top.data ∨ ∃ command, self.outstanding = [command] ∧
      Awaits ops sends quiet top command self.control := by
  rcases attributed.owned with
    free | ⟨other, rest, same, lenient⟩ | ⟨other, rest, command, same, outstanding, awaits⟩
  · exact .inl free
  · rw [operations] at same
    obtain ⟨rfl, rfl⟩ := cons.inj same
    exact .inr (.inl lenient)
  · rw [operations] at same
    obtain ⟨rfl, rfl⟩ := cons.inj same
    exact .inr (.inr ⟨command, outstanding, awaits⟩)

theorem Awaits.continues (disciplined : Disciplined ops sends prepared quiet exempt)
    {command : Outstanding κ} {control : Control ω} {data : ω}
    (awaits : Awaits ops sends quiet top command control)
    (after : Continues ops prepared quiet top.data data) :
    Awaits ops sends quiet { top with data } command .idle where
  __ := awaits
  issued text same := disciplined.sends_kept after (awaits.issued text same)
  waiting := awaits.waiting.imp_right fun ⟨request, raw⟩ =>
    ⟨request, disciplined.rawTransfer_kept after.successor raw⟩
  quiet impossible := absurd impossible (by simp)

theorem Attributed.control_owned (attributed : Attributed ops sends quiet exempt self)
    {control : Control ω} (calm : control ≠ .sendNextCommand) :
    self.Free ∨ Owned ops sends quiet exempt self.operations self.outstanding control := by
  rcases attributed.owned with
    free | ⟨top, below, current, lenient⟩ | ⟨top, below, command, current, alone, awaits⟩
  · exact .inl free
  · exact .inr (.exempt top below current lenient)
  · exact .inr (.awaits top below command current alone
      { awaits with quiet := fun sending => absurd sending calm })

theorem send_attributed (attributed : Attributed ops sends quiet exempt self)
    (zero : self.repliesToSkip = 0) {data : ω} {shared : ς} {command : κ}
    (issued : sends data command) (first : exempt data ∨ self.outstanding = []) :
    Attributed ops sends quiet exempt
      { self.sendCommand (some top.serial) command with
        shared
        control := .idle
        operations :=
          { top with data, waiting := .reply, lastSent := some self.numbers } :: below
        sent := self.sent ++
            [{ operation := data, command, repliesToSkip := self.repliesToSkip
               server := self.server }] } where
  counted := by
    simp only [sendCommand, attributed.counted, length_append, length_singleton]
  skipped := .inl zero
  sent record member := by
    rcases mem_append.mp member with old | new
    · exact attributed.sent record old
    · rw [mem_singleton.mp new]
      exact zero
  delivered := attributed.delivered
  subcommand _ _ impossible := absurd impossible (by simp)
  owned := by
    rcases first with lenient | none
    · exact .inr (.exempt _ below rfl lenient)
    · refine .inr (.awaits _ below ⟨self.numbers, some top.serial, some command⟩ rfl ?_ ?_)
      · simp only [sendCommand, none, nil_append]
      · exact
          { sender := rfl, last := rfl, waiting := .inl rfl
            quiet := fun impossible => absurd impossible (by simp)
            issued := fun text same => Option.some.inj same ▸ issued }

theorem sendNextCommand_attributed (disciplined : Disciplined ops sends prepared quiet exempt)
    (attributed : Attributed ops sends quiet exempt self)
    (sending : self.control = .sendNextCommand) (input : ι) :
    Attributed ops sends quiet exempt (self.sendNextCommand ops input) := by
  unfold sendNextCommand
  split
  case h_1 empty =>
    have free := attributed.free_of_empty empty
    exact attributed.toAccounted.attributed_of_eq free rfl
  case h_2 top below operations =>
    have stopped : Attributed ops sends quiet exempt { self with control := .idle } :=
      { attributed.toAccounted.of_eq rfl with
        subcommand := fun _ _ impossible => absurd impossible (by simp)
        owned := attributed.control_owned (by simp) }
    split
    case isTrue => exact stopped
    case isFalse noRequest =>
      split
      case isTrue => exact stopped
      case isFalse noSkip =>
        have zero : self.repliesToSkip = 0 := not_not.mp noSkip
        have issued := disciplined.sends_send input top.data self.shared
        have calm := disciplined.quiet_send input top.data self.shared
        have lone := disciplined.exempt_send input top.data self.shared
        have kept : Successor ops top.data (ops.send input top.data self.shared).2.1 :=
          .send input top.data self.shared
        have remaining (still : quiet top.data) :
            Continues ops prepared quiet top.data (ops.send input top.data self.shared).2.1 :=
          .send input top.data self.shared still
        rcases outcome : ops.send input top.data self.shared with ⟨result, data, shared⟩
        rw [outcome] at issued calm kept lone remaining
        dsimp only at kept remaining
        rcases attributed.awaits operations with
          free | lenient | ⟨command, outstanding, awaits⟩
        · have none : self.outstanding = [] := free.resolve_right (not_not.mpr zero)
          cases result with
          | command command =>
            exact send_attributed attributed zero (issued command rfl) (.inr none)
          | answer answer =>
            apply settle_free
            · exact attributed.toAccounted.of_eq rfl
            · exact .inl none
        · have later := disciplined.exempt_kept kept lenient
          cases result with
          | command command =>
            exact send_attributed attributed zero (issued command rfl) (.inl later)
          | answer answer =>
            apply settle_exempt
            · exact attributed.toAccounted.of_eq rfl
            · rfl
            · exact later
            · exact lone answer lenient rfl
        · have still := awaits.quiet sending
          obtain ⟨answer, rfl, holds⟩ := calm still
          have remains := awaits.continues disciplined (remaining still)
          apply settle_awaiting
          · exact attributed.toAccounted.of_eq rfl
          · rfl
          · exact outstanding
          · exact { remains with waiting := .inl rfl }
          · exact .inl holds

theorem resetOperation_attributed (accounted : Accounted exempt self) (code : EndCode) :
    Attributed ops sends quiet exempt (self.resetOperation ops code) := by
  have skipping : Accounted exempt { self with repliesToSkip := self.pendingReplies } :=
    { counted := accounted.counted, skipped := .inr rfl
      sent := accounted.sent, delivered := accounted.delivered }
  have free := skipping.free_of_skipping rfl
  unfold resetOperation
  dsimp only
  split
  · exact skipping.attributed_of_eq free rfl
  · exact skipping.attributed_of_eq free rfl
  · split
    · exact skipping.attributed_of_eq free rfl
    · split
      · exact skipping.attributed_of_eq free rfl
      · exact skipping.attributed_of_eq free rfl

theorem parseSubcommandResult_attributed (attributed : Attributed ops sends quiet exempt self)
    {code : EndCode} {previous : ω} (ended : self.control = .subcommandResult code previous)
    (input : ι) :
    Attributed ops sends quiet exempt (self.parseSubcommandResult ops input code previous) := by
  have free := attributed.subcommand code previous ended
  unfold parseSubcommandResult
  split
  · exact attributed.toAccounted.attributed_of_eq free rfl
  · apply settle_free
    · exact attributed.toAccounted.of_eq rfl
    · exact free

theorem Accounted.deliver (accounted : Accounted exempt self) {record : Delivered ω κ}
    (right : ¬ exempt record.operation → record.answered.sender = some record.serial ∧
      record.lastSent = some record.answered.number) :
    ∀ other ∈ self.delivered ++ [record], ¬ exempt other.operation →
      other.answered.sender = some other.serial ∧
      other.lastSent = some other.answered.number := by
  intro other member strict
  rcases mem_append.mp member with old | new
  · exact accounted.delivered other old strict
  · obtain rfl := mem_singleton.mp new
    exact right strict

theorem finalReply_attributed (disciplined : Disciplined ops sends prepared quiet exempt)
    (attributed : Attributed ops sends quiet exempt self)
    {answered : Outstanding κ} {later : List (Outstanding κ)}
    (outstanding : self.outstanding = answered :: later) {reply : ρ}
    (final : ops.preliminary reply = false) (input : ι) (state : σ) :
    Attributed ops sends quiet exempt
      ({ self with server := state, outstanding := later }.parseResponse ops input reply
        answered) := by
  have pending : self.pendingReplies = later.length + 1 := by
    rw [attributed.counted, outstanding, length_cons]
  simp only [parseResponse, final, pending, Bool.not_false, Bool.false_eq_true, if_false,
    Nat.succ_ne_zero, and_false, Nat.add_sub_cancel]
  split
  case isTrue skipping =>
    have skip : self.repliesToSkip = later.length + 1 :=
      (attributed.skipped.resolve_left skipping).trans pending
    have settled : Accounted exempt { self with
        server := state, outstanding := later, pendingReplies := later.length
        repliesToSkip := later.length } :=
      { counted := rfl, skipped := .inr rfl
        sent := attributed.sent, delivered := attributed.delivered }
    have free := settled.free_of_skipping rfl
    simp only [skip, Nat.add_sub_cancel]
    split
    · exact settled.attributed_of_eq free rfl
    · exact settled.attributed free
  case isFalse noSkip =>
    have zero : self.repliesToSkip = 0 := not_not.mp noSkip
    have busy : ¬ self.Free := by
      rw [Free, outstanding]
      simp [zero]
    split
    case h_1 empty => exact absurd (attributed.free_of_empty empty) busy
    case h_2 top below operations =>
      rcases attributed.awaits operations with free | lenient | ⟨command, same, awaits⟩
      · exact absurd free busy
      · apply settle_exempt
        · exact
            { counted := rfl, skipped := .inl zero, sent := attributed.sent
              delivered := attributed.deliver fun strict => absurd lenient strict }
        · rfl
        · exact disciplined.exempt_kept (.parseResponse input reply top.data self.shared) lenient
        · exact disciplined.exempt_response input reply self.shared lenient
      · rw [outstanding] at same
        obtain ⟨rfl, rfl⟩ := cons.inj same
        apply settle_free
        · exact
            { counted := rfl, skipped := .inl zero, sent := attributed.sent
              delivered := attributed.deliver fun _ => ⟨awaits.sender, awaits.last⟩ }
        · exact .inl rfl

theorem preliminaryReply_attributed (disciplined : Disciplined ops sends prepared quiet exempt)
    (attributed : Attributed ops sends quiet exempt self) (idle : self.control = .idle)
    {answered : Outstanding κ} {later : List (Outstanding κ)}
    (outstanding : self.outstanding = answered :: later) {reply : ρ}
    (early : ops.preliminary reply = true)
    (expects : self.repliesToSkip = 0 → ∀ top below, self.operations = top :: below →
      prepared top.data ∨ exempt top.data)
    (input : ι) (state : σ) :
    Attributed ops sends quiet exempt
      ({ self with server := state }.parseResponse ops input reply answered) := by
  simp only [parseResponse, early, Bool.not_true, Bool.false_eq_true, false_and, if_false,
    if_true, Nat.sub_zero]
  split
  case isTrue skipping =>
    rw [if_neg (fun done => skipping done.1)]
    exact attributed.toAccounted.attributed_of_eq (.inr skipping) rfl
  case isFalse noSkip =>
    have zero : self.repliesToSkip = 0 := not_not.mp noSkip
    have busy : ¬ self.Free := by
      rw [Free, outstanding]
      simp [zero]
    split
    case h_1 empty => exact absurd (attributed.free_of_empty empty) busy
    case h_2 top below operations =>
      have kept : Successor ops top.data
          (ops.parseResponse input reply top.data self.shared).2.1 :=
        .parseResponse input reply top.data self.shared
      have exemption (lenient : exempt top.data) :
          Attributed ops sends quiet exempt
            (({ self with
              server := state
              shared := (ops.parseResponse input reply top.data self.shared).2.2
              operations :=
                { top with
                  data := (ops.parseResponse input reply top.data self.shared).2.1 } ::
                  below
              delivered := self.delivered ++
                [⟨top.data, top.serial, top.lastSent, answered⟩] } :
                ControlSocket ω ς κ σ).settle ops
              (fun code => code = .disconnected ∨ (code ≠ .ok ∧
                ops.isConnect (ops.parseResponse input reply top.data self.shared).2.1))
              (ops.parseResponse input reply top.data self.shared).1) := by
        apply settle_exempt
        · exact
            { counted := attributed.counted, skipped := attributed.skipped
              sent := attributed.sent
              delivered := attributed.deliver fun strict => absurd lenient strict }
        · rfl
        · exact disciplined.exempt_kept kept lenient
        · exact disciplined.exempt_response input reply self.shared lenient
      rcases attributed.awaits operations with free | lenient | ⟨command, same, awaits⟩
      · exact absurd free busy
      · exact exemption lenient
      · rcases expects zero top below operations with ready | lenient
        · have first : answered = command := by
            rw [outstanding] at same
            exact (cons.inj same).1
          rw [idle] at awaits
          have response := disciplined.preliminary_response input self.shared ready early
          apply settle_awaiting
          · exact
              { counted := attributed.counted, skipped := attributed.skipped
                sent := attributed.sent
                delivered := attributed.deliver fun _ =>
                  ⟨first ▸ awaits.sender, first ▸ awaits.last⟩ }
          · rfl
          · exact same
          · exact awaits.continues disciplined
              (.parseResponse input reply top.data self.shared ready early)
          · exact response
        · exact exemption lenient

theorem transferEnd_attributed (disciplined : Disciplined ops sends prepared quiet exempt)
    (attributed : Attributed ops sends quiet exempt self) (idle : self.control = .idle)
    (input : ι) : Attributed ops sends quiet exempt (self.transferEnd ops input) := by
  unfold transferEnd
  split
  case h_1 => exact attributed
  case h_2 top below operations =>
    split
    case isTrue => exact attributed
    case isFalse =>
      have kept : Continues ops prepared quiet top.data
          (ops.transferEnd input top.data self.shared).2.1 :=
        .transferEnd input top.data self.shared
      rcases outcome : ops.transferEnd input top.data self.shared with ⟨ended, data, shared⟩
      rw [outcome] at kept
      dsimp only at kept ⊢
      have owned (control : Control ω) (calm : control ≠ .sendNextCommand) :
          self.Free ∨ Owned ops sends quiet exempt ({ top with data } :: below)
            self.outstanding control := by
        rcases attributed.awaits operations with
          free | lenient | ⟨command, outstanding, awaits⟩
        · exact .inl free
        · exact .inr (.exempt _ below rfl (disciplined.exempt_kept kept.successor lenient))
        · have remains := awaits.continues disciplined kept
          exact .inr (.awaits _ below command rfl outstanding
            { remains with quiet := fun sending => absurd sending calm })
      cases ended with
      | none =>
        exact { attributed.toAccounted.of_eq rfl with
          subcommand := fun _ _ impossible =>
            absurd (idle.symm.trans impossible) (by simp)
          owned := idle ▸ owned .idle (by simp) }
      | some code =>
        have reset : Attributed ops sends quiet exempt
            { self with
              shared, operations := { top with data } :: below
              control := .resetOperation code } :=
          { attributed.toAccounted.of_eq rfl with
            subcommand := fun _ _ impossible => absurd impossible (by simp)
            owned := owned _ (by simp) }
        cases code with
        | disconnected => exact doClose_attributed (attributed.toAccounted.of_eq rfl)
        | ok | error | criticalError | notFound | failed => exact reset

variable {next : ControlSocket ω ς κ σ}

theorem callSetAsyncRequestReply_attributed
    (disciplined : Disciplined ops sends prepared quiet exempt)
    (attributed : Attributed ops sends quiet exempt self) {input : ι}
    (taken : self.callSetAsyncRequestReply ops input = some next) :
    Attributed ops sends quiet exempt next := by
  unfold callSetAsyncRequestReply at taken
  split at taken
  case h_1 => cases taken
  case h_2 top below operations =>
    obtain ⟨request, rfl⟩ := some_of_guard taken
    have kept : Continues ops prepared quiet top.data
        (ops.setAsyncRequestReply input top.data self.shared).2.1 :=
      .setAsyncRequestReply input top.data self.shared
    rcases attributed.awaits operations with
      free | lenient | ⟨command, outstanding, awaits⟩
    · apply settle_free
      · exact attributed.toAccounted.of_eq rfl
      · exact free
    · apply settle_exempt
      · exact attributed.toAccounted.of_eq rfl
      · rfl
      · exact disciplined.exempt_kept kept.successor lenient
      · exact disciplined.exempt_request input self.shared lenient
    · have raw : ops.isRawTransfer top.data = true := by
        rcases awaits.waiting with reply | ⟨_, raw⟩
        · cases reply.symm.trans request
        · exact raw
      have remains := awaits.continues disciplined kept
      apply settle_awaiting
      · exact attributed.toAccounted.of_eq rfl
      · rfl
      · exact outstanding
      · exact { remains with waiting := .inl rfl }
      · exact .inl (disciplined.request_reply input self.shared raw)

theorem obtained_attributed (attributed : Attributed ops sends quiet exempt self)
    (operations : self.operations = top :: below) (waiting : top.waiting = .event) :
    Attributed ops sends quiet exempt { self with
      control := .sendNextCommand
      operations := { top with waiting := .reply } :: below } := by
  rcases attributed.awaits operations with free | lenient | ⟨command, _, awaits⟩
  · exact attributed.toAccounted.attributed_of_eq free rfl
  · exact attributed_of_owned attributed.toAccounted rfl (by simp) (.exempt _ below rfl lenient)
  · rcases awaits.waiting with reply | ⟨request, _⟩
    · cases reply.symm.trans waiting
    · cases request.symm.trans waiting

theorem transferRequest_attributed (attributed : Attributed ops sends quiet exempt self)
    (operations : self.operations = top :: below) (raw : ops.isRawTransfer top.data = true) :
    Attributed ops sends quiet exempt { self with
      operations := { top with waiting := .request } :: below } := by
  refine { attributed.toAccounted.of_eq rfl with
    subcommand := attributed.subcommand
    owned := ?_ }
  rcases attributed.awaits operations with free | lenient | ⟨command, outstanding, awaits⟩
  · exact .inl free
  · exact .inr (.exempt _ below rfl lenient)
  · exact .inr (.awaits _ below command rfl outstanding
      { awaits with waiting := .inr ⟨rfl, raw⟩ })

theorem cancel_attributed (attributed : Attributed ops sends quiet exempt self)
    (taken : self.cancel ops = some next) :
    Attributed ops sends quiet exempt next := by
  unfold cancel at taken
  split at taken
  case h_1 => cases taken
  case h_2 top below operations =>
    cases taken
    split
    case isTrue => exact doClose_attributed attributed.toAccounted
    case isFalse =>
      exact { attributed.toAccounted.of_eq rfl with
        subcommand := fun _ _ impossible => absurd impossible (by simp)
        owned := attributed.control_owned (by simp) }

theorem onTimer_attributed (attributed : Attributed ops sends quiet exempt self) (input : ι) :
    Attributed ops sends quiet exempt (self.onTimer ops input) := by
  unfold onTimer
  split
  case isTrue => exact attributed
  case isFalse =>
    split
    case isTrue => exact attributed
    case isFalse silent =>
      simp only [ne_eq, not_or, not_not] at silent
      have none : self.outstanding = [] := by
        have counted := attributed.counted
        rw [silent.1] at counted
        exact length_eq_zero_iff.mp counted.symm
      apply Accounted.attributed
      · exact
          { counted := by simp [sendCommand, silent.1, none]
            skipped := .inr (by simp [sendCommand, silent.1, silent.2])
            __ := attributed }
      · exact .inr (by simp)

theorem onConnect_attributed (attributed : Attributed ops sends quiet exempt self)
    (idle : self.control = .idle) (logon : ω) (queued : Option ω) :
    Attributed ops sends quiet exempt (self.onConnect ops logon queued) where
  counted := rfl
  skipped := .inl rfl
  __ := attributed
  subcommand _ _ impossible := absurd (idle.symm.trans impossible) (by simp)
  owned := .inr (.awaits _ _ _ rfl rfl
      { sender := rfl, last := rfl, issued := nofun, waiting := .inl rfl
        quiet := fun sending => absurd (idle.symm.trans sending) (by simp) })

theorem step_attributed {server : Server κ ρ σ} {event : Event ω ρ ι}
    (disciplined : Disciplined ops sends prepared quiet exempt)
    (attributed : Attributed ops sends quiet exempt self)
    (expects : ∀ reply input, event = .reply reply input → ops.preliminary reply = true →
      self.repliesToSkip = 0 → ∀ top below, self.operations = top :: below →
      prepared top.data ∨ exempt top.data) (taken : self.step ops server event = some next) :
    Attributed ops sends quiet exempt next := by
  cases step_cases taken with
  | sendNextCommand input sending =>
    exact sendNextCommand_attributed disciplined attributed sending input
  | resetOperation input code => exact resetOperation_attributed attributed.toAccounted code
  | subcommandResult input code previous ended =>
    exact parseSubcommandResult_attributed attributed ended input
  | connect logon queued idle => exact onConnect_attributed attributed idle logon queued
  | execute operation idle empty =>
    have free := attributed.free_of_empty empty
    exact attributed.toAccounted.attributed_of_eq free rfl
  | reply reply input idle answered later state outstanding =>
    cases early : ops.preliminary reply with
    | false =>
      exact finalReply_attributed disciplined attributed outstanding early input state
    | true =>
      exact preliminaryReply_attributed disciplined attributed idle outstanding early
        (expects reply input rfl early) input state
  | transferEnd input idle => exact transferEnd_attributed disciplined attributed idle input
  | obtained idle top below operations waiting =>
    exact obtained_attributed attributed operations waiting
  | transferRequest idle top below operations raw =>
    exact transferRequest_attributed attributed operations raw
  | requestReply input idle next taken =>
    exact callSetAsyncRequestReply_attributed disciplined attributed taken
  | cancel idle next taken => exact cancel_attributed attributed taken
  | keepAlive input idle => exact onTimer_attributed attributed input
  | notify input idle =>
    exact { attributed.toAccounted.of_eq rfl with
      __ := attributed }
  | close idle => exact doClose_attributed attributed.toAccounted

end ControlSocket

end Ftp

end FileZilla
