import FileZilla.Engine.Aio

namespace FileZilla.Sftp

/-! The part of `sftp_client` the transfers rely on: requests are answered in
order, `cancel` forgets whom to answer, and `continuation::wait` holds back
further answers. -/

inductive StatusCode
  | ok
  | eof
  | noSuchFile
  | permissionDenied
  | failure
  | badMessage
  | noConnection
  | connectionLost
  | opUnsupported
  deriving DecidableEq

inductive Reply
  | handle (handle : String)
  | data (data : Bytes)
  | status (code : StatusCode)
  | failure

inductive RequestKind
  | open
  | read (offset size : Nat)
  | write (offset : Nat) (data : Bytes)
  | fsetstat
  | close

/-- `is_allowed_response`; a malformed answer of an allowed type reaches the
handler as `failure`. -/
def RequestKind.allows : RequestKind → Reply → Bool
  | _, .status _ => true
  | _, .failure => true
  | .open, .handle _ => true
  | .read _ _, .data _ => true
  | _, _ => false

inductive Continuation
  | next
  | wait
  | error

structure Request (Handler : Type) where
  handler : Option Handler
  kind : RequestKind

structure Client (Handler : Type) where
  pending : List (Request Handler) := []
  waitRead : Bool := false
  disconnecting : Bool := false

namespace Client

variable {Handler : Type} (client : Client Handler)

def request (handler : Option Handler)
    (kind : RequestKind) : Client Handler :=
  if client.disconnecting then
    client
  else
    { client with pending := client.pending ++ [⟨handler, kind⟩] }

def pendingRequests : Nat :=
  client.pending.length

def cancel [DecidableEq Handler] (client : Client Handler) (handler : Handler) : Client Handler :=
  { client with
    pending := client.pending.map fun request =>
      if request.handler = some handler then
        { request with handler := none }
      else
        request }

def unblockRead : Client Handler :=
  { client with waitRead := false }

def proceed : Continuation → Client Handler
  | .next => client
  | .wait => { client with waitRead := true }
  | .error => { client with disconnecting := true }

/-- The request the next answer belongs to, and the client without it. -/
def answer : Option (Request Handler × Client Handler) :=
  if client.waitRead || client.disconnecting then
    none
  else
    match client.pending with
    | [] => none
    | request :: rest => some (request, { client with pending := rest })

variable {client rest : Client Handler}

theorem answer_eq_some {request : Request Handler}
    (answered : client.answer = some (request, rest)) :
    client.waitRead = false ∧ client.disconnecting = false ∧
      client.pending = request :: rest.pending ∧
      rest = { client with pending := rest.pending } := by
  unfold answer at answered
  split at answered
  · cases answered
  · rename_i deliverable
    split at answered
    · cases answered
    · rename_i head tail pendingEq
      cases answered
      simp_all

theorem answer_flags {request : Request Handler} (answered : client.answer = some (request, rest)) :
    client.waitRead = false ∧ rest.waitRead = false ∧
      client.disconnecting = false ∧ rest.disconnecting = false := by
  obtain ⟨free, connected, -, restEq⟩ := answer_eq_some answered
  rw [restEq]
  exact ⟨free, free, connected, connected⟩

def liveKinds (client : Client Handler) : List RequestKind :=
  client.pending.filterMap fun request =>
    request.handler.map fun _ => request.kind

theorem liveKinds_request (connected : client.disconnecting = false) (handler : Handler)
    (kind : RequestKind) :
    (client.request (some handler) kind).liveKinds = client.liveKinds ++ [kind] := by
  simp [request, connected, liveKinds]

@[simp] theorem request_waitRead (client : Client Handler)
    (handler : Option Handler) (kind : RequestKind) :
    (client.request handler kind).waitRead = client.waitRead := by
  unfold request
  split <;> rfl

@[simp] theorem request_disconnecting (client : Client Handler)
    (handler : Option Handler) (kind : RequestKind) :
    (client.request handler kind).disconnecting = client.disconnecting := by
  unfold request
  split <;> rfl

@[simp] theorem liveKinds_cancel (client : Client Unit) :
    (client.cancel ()).liveKinds = [] := by
  simp only [liveKinds, cancel, List.filterMap_map, List.filterMap_eq_nil_iff]
  intro request _
  obtain ⟨handler, kind⟩ := request
  cases handler <;> simp

@[simp] theorem cancel_waitRead [DecidableEq Handler] (client : Client Handler)
    (handler : Handler) : (client.cancel handler).waitRead = client.waitRead := rfl

@[simp] theorem cancel_disconnecting [DecidableEq Handler]
    (client : Client Handler) (handler : Handler) :
    (client.cancel handler).disconnecting = client.disconnecting := rfl

theorem liveKinds_of_answer {handler : Handler} {kind : RequestKind}
    (answered : client.answer = some (⟨some handler, kind⟩, rest)) :
    client.liveKinds = kind :: rest.liveKinds := by
  obtain ⟨-, -, pendingEq, -⟩ := answer_eq_some answered
  simp [liveKinds, pendingEq]

theorem liveKinds_of_answer_none {kind : RequestKind}
    (answered : client.answer = some (⟨none, kind⟩, rest)) :
    client.liveKinds = rest.liveKinds := by
  obtain ⟨-, -, pendingEq, -⟩ := answer_eq_some answered
  simp [liveKinds, pendingEq]

section Handlers

variable [DecidableEq Handler]

def liveFor (client : Client Handler) (handler : Handler) : List RequestKind :=
  client.pending.filterMap fun request =>
    if request.handler = some handler then some request.kind else none

variable {client : Client Handler}

theorem liveFor_request (connected : client.disconnecting = false) (handler : Handler)
    (kind : RequestKind) :
    (client.request (some handler) kind).liveFor handler = client.liveFor handler ++ [kind] := by
  simp [request, connected, liveFor]

variable {handler other : Handler}

theorem liveFor_request_of_ne (client : Client Handler) (distinct : other ≠ handler)
    (kind : RequestKind) :
    (client.request (some handler) kind).liveFor other =
      client.liveFor other := by
  unfold request
  split
  · rfl
  · simp [liveFor, distinct.symm]

@[simp] theorem liveFor_request_none (client : Client Handler)
    (handler : Handler) (kind : RequestKind) :
    (client.request none kind).liveFor handler = client.liveFor handler := by
  unfold request
  split
  · rfl
  · simp [liveFor]

@[simp] theorem liveFor_proceed (client : Client Handler)
    (continuation : Continuation) (handler : Handler) :
    (client.proceed continuation).liveFor handler =
      client.liveFor handler := by
  cases continuation <;> rfl

@[simp] theorem liveFor_cancel (client : Client Handler) (handler : Handler) :
    (client.cancel handler).liveFor handler = [] := by
  simp only [liveFor, cancel, List.filterMap_map, List.filterMap_eq_nil_iff]
  intro request _
  by_cases mine : request.handler = some handler <;> simp [mine]

theorem liveFor_cancel_of_ne (client : Client Handler) (distinct : other ≠ handler) :
    (client.cancel handler).liveFor other = client.liveFor other := by
  simp only [liveFor, cancel, List.filterMap_map]
  congr 1
  funext request
  by_cases mine : request.handler = some handler
  · simp [mine, distinct.symm]
  · simp [mine]

theorem liveFor_of_answer {rest : Client Handler} {kind : RequestKind}
    (answered : client.answer = some (⟨some handler, kind⟩, rest)) :
    client.liveFor handler = kind :: rest.liveFor handler := by
  obtain ⟨-, -, pendingEq, -⟩ := answer_eq_some answered
  simp [liveFor, pendingEq]

theorem liveFor_of_answer_of_ne {rest : Client Handler} {handler : Option Handler}
    {kind : RequestKind} (answered : client.answer = some (⟨handler, kind⟩, rest))
    (distinct : handler ≠ some other) :
    rest.liveFor other = client.liveFor other := by
  obtain ⟨-, -, pendingEq, -⟩ := answer_eq_some answered
  simp [liveFor, pendingEq, distinct]

end Handlers

end Client

end FileZilla.Sftp
