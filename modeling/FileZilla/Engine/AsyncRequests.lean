import FileZilla.Runs
import Mathlib.Algebra.Order.Ring.Int

namespace FileZilla.AsyncRequests

open List

/-! The questions a control socket asks the user, and to which of them a reply goes. A question is
known by its position among all that were asked; the code compares the numbers, which are unsigned
integers of 32 bits. -/

abbrev Request := Nat

def number (request : Request) : Nat :=
  request % 2 ^ 32

inductive AsyncRequestType
  | waiting
  | parallel
  | global
  deriving DecidableEq

structure COpData where
  pendingAsyncRequest : Option (Request × AsyncRequestType) := none
  deriving DecidableEq

structure CControlSocket where
  /-- The last of the operations comes first. -/
  operations : List COpData := []
  pendingGlobalAsyncRequest : Option Request := none
  asyncRequestCounter : Nat := 0
  /-- The replies that were passed on, the latest first -/
  passedOn : List Request := []
  deriving DecidableEq

namespace CControlSocket

variable (self : CControlSocket)

def push : CControlSocket :=
  { self with operations := {} :: self.operations }

/-- The operation that `ResetOperation` ends; those it ends after it follow as further calls. -/
def resetOperation : CControlSocket :=
  { self with operations := self.operations.tail }

def sendAsyncRequest (type : AsyncRequestType) : CControlSocket :=
  if self.operations.isEmpty && type ≠ .global then
    self
  else
    let request := self.asyncRequestCounter + 1
    if type = .global then
      { self with
        asyncRequestCounter := request
        pendingGlobalAsyncRequest := some request }
    else
      let kept := if type = .waiting then AsyncRequestType.waiting else .parallel
      { self with
        asyncRequestCounter := request
        operations := self.operations.modifyHead fun data =>
            { data with pendingAsyncRequest := some (request, kept) } }

/-- What `CSftpControlSocket::DoClose` does to the global question -/
def dropGlobal : CControlSocket :=
  { self with pendingGlobalAsyncRequest := none }

def pending (data : COpData) : Option Request :=
  data.pendingAsyncRequest.map Prod.fst

def pendingOperations : List Request :=
  self.operations.filterMap pending

def live : List Request :=
  self.pendingGlobalAsyncRequest.toList ++ self.pendingOperations

def topRequest : Option Request :=
  self.operations.head?.bind pending

def clearTop : CControlSocket :=
  { self with
    operations := self.operations.modifyHead fun data => { data with pendingAsyncRequest := none } }

/-- Whether the reply goes on to `SetAsyncRequestReply`, and the state it is passed on in -/
def callSetAsyncRequestReply (reply : Request) : Bool × CControlSocket :=
  if reply ∉ self.live then
    (false, self)
  else if self.pendingGlobalAsyncRequest.any fun request => number request = number reply then
    (true, self.dropGlobal)
  else if self.topRequest.isSome then
    (true, self.clearTop)
  else
    (false, self)

def answer (reply : Request) : Bool × CControlSocket :=
  if self.pendingGlobalAsyncRequest = some reply then
    (true, self.dropGlobal)
  else if self.topRequest = some reply then
    (true, self.clearTop)
  else
    (false, self)

end CControlSocket

inductive Event
  | push
  | resetOperation
  | sendAsyncRequest (type : AsyncRequestType)
  | dropGlobal
  | reply (request : Request)

open CControlSocket

def step (self : CControlSocket) : Event → Option CControlSocket
  | .push => some self.push
  | .resetOperation => some self.resetOperation
  | .sendAsyncRequest type => some (self.sendAsyncRequest type)
  | .dropGlobal => some self.dropGlobal
  | .reply request =>
    let called := self.callSetAsyncRequestReply request
    some (if called.1 then { called.2 with passedOn := request :: called.2.passedOn } else called.2)

/-- A reply to a question still held is not taken for one to another question. -/
def Unmistakable (self : CControlSocket) (reply : Request) : Prop :=
  reply ∈ self.live →
    (∀ request, self.pendingGlobalAsyncRequest = some request → number request = number reply →
      request = reply) ∧
    (self.pendingGlobalAsyncRequest ≠ some reply →
      ∀ request, self.topRequest = some request → request = reply)

def Event.Unmistakable (self : CControlSocket) : Event → Prop
  | .reply request => AsyncRequests.Unmistakable self request
  | _ => True

variable {self : CControlSocket}

open Option

theorem topRequest_live {request : Request} (top : self.topRequest = some request) :
    request ∈ self.live := by
  obtain ⟨data, head, asked⟩ := bind_eq_some_iff.mp top
  refine mem_append_right _ (mem_filterMap.mpr ⟨data, ?_, asked⟩)
  exact mem_of_head? head

theorem global_live {request : Request} (global : self.pendingGlobalAsyncRequest = some request) :
    request ∈ self.live :=
  mem_append_left _ (mem_toList.mpr global)

variable {reply : Request}

theorem any_number_iff :
    self.pendingGlobalAsyncRequest.any (fun request => number request = number reply) = true ↔
      ∃ request, self.pendingGlobalAsyncRequest = some request ∧
        number request = number reply := by
  rw [Option.any_eq_true]
  simp

theorem topAnswer_eq_iff (self : CControlSocket) (reply : Request) :
    (if self.topRequest.isSome then (true, self.clearTop) else (false, self)) =
        (if self.topRequest = some reply then (true, self.clearTop) else (false, self)) ↔
      ∀ request, self.topRequest = some request → request = reply := by
  cases top : self.topRequest with
  | none => exact iff_of_true rfl fun _ absent => by cases absent
  | some request =>
    rw [if_pos (by rfl)]
    by_cases meant : request = reply
    · subst meant
      rw [if_pos rfl]
      exact iff_of_true rfl fun _ same => (some.inj same).symm
    · have other : some request ≠ some reply := fun equal => meant (some.inj equal)
      rw [if_neg other]
      refine iff_of_false (fun equal => ?_) fun clear => meant (clear request rfl)
      cases congrArg Prod.fst equal

theorem callSetAsyncRequestReply_eq_answer_iff (self : CControlSocket) (reply : Request) :
    self.callSetAsyncRequestReply reply = self.answer reply ↔ Unmistakable self reply := by
  unfold callSetAsyncRequestReply answer
  by_cases held : reply ∈ self.live
  · rw [if_neg (not_not_intro held)]
    by_cases taken : ∃ request, self.pendingGlobalAsyncRequest = some request ∧
        number request = number reply
    · rw [if_pos (any_number_iff.mpr taken)]
      obtain ⟨request, global, same⟩ := taken
      by_cases meant : request = reply
      · subst meant
        rw [if_pos global]
        refine iff_of_true rfl fun _ => ⟨fun other asked _ => ?_, fun other => ?_⟩
        · exact (some.inj (global.symm.trans asked)).symm
        · exact absurd global other
      · have other : self.pendingGlobalAsyncRequest ≠ some reply := fun equal =>
          meant (some.inj (global.symm.trans equal))
        rw [if_neg other]
        refine iff_of_false (fun equal => ?_) fun clear =>
          meant ((clear held).1 request global same)
        split at equal
        case isTrue =>
          have left := congrArg (fun called => called.2.pendingGlobalAsyncRequest) equal
          cases left.trans global
        case isFalse => cases congrArg Prod.fst equal
    · have other : self.pendingGlobalAsyncRequest ≠ some reply := fun equal =>
        taken ⟨reply, equal, rfl⟩
      rw [if_neg (any_number_iff.not.mpr taken), if_neg other, topAnswer_eq_iff]
      constructor
      · exact fun top _ => ⟨fun request global same => absurd ⟨request, global, same⟩ taken,
          fun _ => top⟩
      · exact fun clear => (clear held).2 other
  · rw [if_pos held]
    have notGlobal : self.pendingGlobalAsyncRequest ≠ some reply := fun global =>
      held (global_live global)
    have notTop : self.topRequest ≠ some reply := fun top => held (topRequest_live top)
    rw [if_neg notGlobal, if_neg notTop]
    exact iff_of_true rfl fun live => absurd live held

/-- Every question is held at most once, is no longer held when its reply was passed on, and has
been asked. -/
structure Distinct (socket : CControlSocket) : Prop where
  nodup : (socket.live ++ socket.passedOn).Nodup
  asked : ∀ request ∈ socket.live ++ socket.passedOn, request ≤ socket.asyncRequestCounter

variable {next : CControlSocket}

theorem Distinct.of_sublist (distinct : Distinct self) (held : next.live.Sublist self.live)
    (passed : next.passedOn = self.passedOn)
    (counter : next.asyncRequestCounter = self.asyncRequestCounter) : Distinct next := by
  have smaller : (next.live ++ next.passedOn).Sublist (self.live ++ self.passedOn) := by
    rw [passed]
    exact held.append (.refl _)
  exact {
    nodup := smaller.nodup distinct.nodup
    asked := fun request member => counter ▸ distinct.asked request (smaller.subset member) }

theorem Distinct.push (distinct : Distinct self) : Distinct self.push :=
  distinct.of_sublist (.refl _) rfl rfl

theorem Distinct.dropGlobal (distinct : Distinct self) :
    Distinct self.dropGlobal :=
  distinct.of_sublist (sublist_append_right _ _) rfl rfl

theorem Distinct.resetOperation (distinct : Distinct self) :
    Distinct self.resetOperation :=
  distinct.of_sublist
    ((List.Sublist.refl _).append ((tail_sublist _).filterMap pending)) rfl rfl

theorem Distinct.asking (distinct : Distinct self) {before after : List Request}
    (held : (before ++ after).Sublist self.live)
    (live : next.live = before ++ (self.asyncRequestCounter + 1) :: after)
    (passed : next.passedOn = self.passedOn)
    (counter : next.asyncRequestCounter = self.asyncRequestCounter + 1) : Distinct next := by
  have smaller : (before ++ after ++ self.passedOn).Sublist (self.live ++ self.passedOn) :=
    held.append (.refl _)
  have reordered : (next.live ++ next.passedOn).Perm
      ((self.asyncRequestCounter + 1) :: (before ++ after ++ self.passedOn)) := by
    rw [live, passed]
    exact (perm_middle.append_right _)
  have new : self.asyncRequestCounter + 1 ∉ before ++ after ++ self.passedOn := fun member =>
    Nat.not_succ_le_self _ (distinct.asked _ (smaller.subset member))
  exact {
    nodup := reordered.nodup_iff.mpr (nodup_cons.mpr ⟨new, smaller.nodup distinct.nodup⟩)
    asked := by
      intro request member
      rw [counter]
      rcases mem_cons.mp (reordered.subset member) with rfl | older
      · exact Nat.le_refl _
      · exact Nat.le_succ_of_le (distinct.asked request (smaller.subset older)) }

theorem Distinct.sendAsyncRequest (distinct : Distinct self) (type : AsyncRequestType) :
    Distinct (self.sendAsyncRequest type) := by
  unfold CControlSocket.sendAsyncRequest
  split
  case isTrue => exact distinct
  case isFalse possible =>
    dsimp only
    split
    case isTrue =>
      exact @Distinct.asking self _ distinct [] self.pendingOperations
        (sublist_append_right _ _) rfl rfl rfl
    case isFalse operation =>
      cases stack : self.operations with
      | nil =>
        rw [stack] at possible
        simp [operation] at possible
      | cons data operations =>
        refine @Distinct.asking self _ distinct self.pendingGlobalAsyncRequest.toList
          (operations.filterMap pending) ?_ rfl rfl rfl
        refine (List.Sublist.refl _).append ?_
        rw [pendingOperations, stack]
        exact (sublist_cons_self data operations).filterMap pending

theorem answer_live (passed : (self.answer reply).1 = true) :
    self.live.Perm (reply :: (self.answer reply).2.live) := by
  unfold answer at passed ⊢
  split
  case isTrue global =>
    unfold live
    rw [global]
    exact .refl _
  case isFalse notGlobal =>
    rw [if_neg notGlobal] at passed
    split
    case isTrue top =>
      unfold live pendingOperations
      unfold topRequest at top
      cases stack : self.operations with
      | nil =>
        rw [stack] at top
        cases top
      | cons data operations =>
        rw [stack] at top
        have asked : pending data = some reply := top
        rw [filterMap_cons_some asked]
        simp only [clearTop, stack]
        exact perm_middle
    case isFalse notTop =>
      rw [if_neg notTop] at passed
      cases passed

theorem answer_kept (self : CControlSocket) (reply : Request) :
    (self.answer reply).2.passedOn = self.passedOn ∧
      (self.answer reply).2.asyncRequestCounter = self.asyncRequestCounter := by
  unfold answer
  split
  · exact ⟨rfl, rfl⟩
  · split <;> exact ⟨rfl, rfl⟩

theorem answer_of_not_passed (ignored : (self.answer reply).1 = false) :
    (self.answer reply).2 = self := by
  unfold answer at ignored ⊢
  split
  case isTrue global =>
    rw [if_pos global] at ignored
    cases ignored
  case isFalse notGlobal =>
    rw [if_neg notGlobal] at ignored
    split
    case isTrue top =>
      rw [if_pos top] at ignored
      cases ignored
    case isFalse => rfl

theorem Distinct.passOn (distinct : Distinct self) (passed : (self.answer reply).1 = true) :
    Distinct { (self.answer reply).2 with
      passedOn := reply :: (self.answer reply).2.passedOn } := by
  obtain ⟨earlier, counter⟩ := answer_kept self reply
  have moved : ((self.answer reply).2.live ++ reply :: (self.answer reply).2.passedOn).Perm
      (self.live ++ self.passedOn) := by
    rw [earlier]
    exact perm_middle.trans ((answer_live passed).symm.append_right self.passedOn)
  exact {
    nodup := moved.nodup_iff.mpr distinct.nodup
    asked := fun request member =>
      counter.symm ▸ distinct.asked request (moved.subset member) }

theorem Distinct.step {event : Event} (distinct : Distinct self) (clear : event.Unmistakable self)
    (taken : step self event = some next) : Distinct next := by
  cases event with
  | push =>
    cases taken
    exact distinct.push
  | resetOperation =>
    cases taken
    exact distinct.resetOperation
  | sendAsyncRequest type =>
    cases taken
    exact distinct.sendAsyncRequest type
  | dropGlobal =>
    cases taken
    exact distinct.dropGlobal
  | reply request =>
    have called := (callSetAsyncRequestReply_eq_answer_iff self request).mpr clear
    rw [AsyncRequests.step, called] at taken
    cases passed : (self.answer request).1 with
    | true =>
      simp only [passed, if_true, some.injEq] at taken
      subst taken
      exact distinct.passOn passed
    | false =>
      simp only [passed, Bool.false_eq_true, if_false, some.injEq] at taken
      rw [answer_of_not_passed passed] at taken
      exact taken ▸ distinct

/-- A control socket whose engine has asked `counter` questions before -/
def fresh (counter : Nat) : CControlSocket where
  asyncRequestCounter := counter

theorem Distinct.fresh (counter : Nat) : Distinct (fresh counter) where
  nodup := nodup_nil
  asked := fun _ member => by cases member

theorem replies_reach_their_question {counter : Nat} {trace : List (CControlSocket × Event)}
    {state : CControlSocket} (run : Run step (fresh counter) trace state)
    (clear : ∀ taken ∈ trace, taken.2.Unmistakable taken.1) :
    (∀ before request, (before, .reply request) ∈ trace →
      before.callSetAsyncRequestReply request = before.answer request) ∧
    state.passedOn.Nodup := by
  constructor
  · intro before request member
    exact (callSetAsyncRequestReply_eq_answer_iff before request).mpr (clear _ member)
  · have distinct : Distinct state :=
      Run.invariant_of_forall (.fresh counter) (fun _ _ _ held allowed taken =>
        held.step allowed taken) run clear
    exact (nodup_append.mp distinct.nodup).2.1

def askedAgain : List Event :=
  [.push, .sendAsyncRequest .waiting, .sendAsyncRequest .waiting, .reply 1, .reply 2, .reply 2]

theorem unmistakable_of_not_live (gone : reply ∉ self.live) : Unmistakable self reply :=
  fun live => absurd live gone

theorem replies_reach_their_question_askedAgain :
    ∃ trace state, Run step (fresh 0) trace state ∧ trace.map Prod.snd = askedAgain ∧
      state.passedOn = [2] ∧ state.passedOn.Nodup := by
  have run := @execute_run _ _ step (fresh 0) _ askedAgain _ rfl
  refine ⟨_, _, run, rfl, rfl, (replies_reach_their_question run ?_).2⟩
  intro taken member
  simp only [mem_cons, not_mem_nil, or_false] at member
  obtain rfl | rfl | rfl | rfl | rfl | rfl := member
  · trivial
  · trivial
  · trivial
  · exact unmistakable_of_not_live (by decide)
  · exact fun _ => ⟨fun _ absent => (by cases absent), fun _ _ top => (some.inj top).symm⟩
  · exact unmistakable_of_not_live (by decide)

/-- The reply is to the question of the operation below the one on top. -/
theorem reply_answers_another_question :
    ∃ trace state, Run step (fresh 0) trace state ∧
      ∃ before, (before, .reply 1) ∈ trace ∧
        before.callSetAsyncRequestReply 1 ≠ before.answer 1 := by
  have run := @execute_run _ _ step (fresh 0) _
    [.push, .sendAsyncRequest .parallel, .push, .sendAsyncRequest .waiting, .reply 1] _ rfl
  refine ⟨_, _, run, _, mem_of_getLast? rfl, ?_⟩
  decide

end FileZilla.AsyncRequests
