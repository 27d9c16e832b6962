import FileZilla.Engine.ServerPath
import FileZilla.Runs

namespace FileZilla.Sftp.DeleteOperation

def pipeline : Nat := 100

inductive DeleteReply
  | ok
  | error
  | disconnected
  | wouldBlock
  deriving DecidableEq

/-- What the operation tells the directory cache, the server, the log and the interface -/
inductive Call
  | invalidateFile (file : WString)
  | remove (filename : List UInt8)
  | removeFile (file : WString)
  | couldNotDelete (file : WString)
  | listingNotification
  deriving DecidableEq

structure CSftpDeleteOpData where
  path : CServerPath
  files : List WString
  needSendListing : Bool := false
  deleteFailed : Bool := false
  calls : List Call := []
  result : Option DeleteReply := none

/-- A reply to the oldest request, and whether a second has passed since the last listing -/
structure Status where
  success : Bool
  second : Bool := false
  deriving DecidableEq

namespace CSftpDeleteOpData

variable (convToServer : WString → List UInt8)

def request (self : CSftpDeleteOpData) (file : WString) : Option CSftpDeleteOpData :=
  let filename := self.path.formatFilename file
  if filename = [] then none
  else some { self with
    calls := self.calls ++ [.invalidateFile file, .remove (convToServer filename)] }

def sendFiles (self : CSftpDeleteOpData) : List WString → DeleteReply × CSftpDeleteOpData
  | [] => (.wouldBlock, self)
  | file :: rest =>
    match self.request convToServer file with
    | none => (.error, self)
    | some self => self.sendFiles rest

open List

def send (self : CSftpDeleteOpData) (connected : Bool) : DeleteReply × CSftpDeleteOpData :=
  if !connected then (.disconnected, self)
  else self.sendFiles convToServer <| (range (min pipeline self.files.length)).map fun index =>
    self.files.getD (self.files.length - 1 - index) []

def noted (self : CSftpDeleteOpData) (status : Status) : CSftpDeleteOpData :=
  let file := self.files.getLastD []
  let files := self.files.dropLast
  if status.success then
    { self with
      files
      calls := self.calls ++
        .removeFile file :: if status.second then [.listingNotification] else []
      needSendListing := !status.second }
  else { self with files, calls := self.calls ++ [.couldNotDelete file], deleteFailed := true }

def proceed (self : CSftpDeleteOpData) : CSftpDeleteOpData :=
  if self.files.length ≥ pipeline then
    match self.request convToServer (self.files.getD (self.files.length - pipeline) []) with
    | none => { self with result := some .error }
    | some self => self
  else if self.files = [] then
    { self with result := some (if self.deleteFailed then .error else .ok) }
  else self

def doProcessStatus (self : CSftpDeleteOpData) (status : Status) : CSftpDeleteOpData :=
  (self.noted status).proceed convToServer

def requests (self : CSftpDeleteOpData) : List (List UInt8) :=
  self.calls.filterMap fun
    | .remove filename => some filename
    | _ => none

/-- The files that replies were taken for, and whether they were removed from the cache -/
def answers (self : CSftpDeleteOpData) : List (WString × Bool) :=
  self.calls.filterMap fun
    | .removeFile file => some (file, true)
    | .couldNotDelete file => some (file, false)
    | _ => none

/-- The cache entries marked unsure, between the requests -/
def marked (self : CSftpDeleteOpData) : List Call :=
  self.calls.filter fun
    | .invalidateFile _ => true
    | .remove _ => true
    | _ => false

/-- The server answers requests in their order. -/
def step (self : CSftpDeleteOpData) (status : Status) : Option CSftpDeleteOpData :=
  if self.result = none ∧ self.answers.length < self.requests.length then
    some (self.doProcessStatus convToServer status)
  else none

variable {convToServer} {self : CSftpDeleteOpData} {path : CServerPath} {names : List WString}
  {replies : List Bool}

def Formats (path : CServerPath) (names : List WString) : Prop :=
  ∀ name ∈ names, path.formatFilename name ≠ []

/-- The state after so many requests and replies, apart from the result -/
structure Progress (convToServer : WString → List UInt8) (path : CServerPath)
    (names : List WString) (sent : Nat) (replies : List Bool) (data : CSftpDeleteOpData) :
    Prop where
  place : data.path = path
  files : data.files = (names.drop replies.length).reverse
  requests : data.requests =
    (names.take sent).map fun name => convToServer (path.formatFilename name)
  answers : data.answers = names.zip replies
  marked : data.marked = (names.take sent).flatMap fun name =>
    [.invalidateFile name, .remove (convToServer (path.formatFilename name))]
  failed : data.deleteFailed = !replies.all id

theorem request_progress {sent : Nat} {name : WString} (formats : Formats path names)
    (next : names[sent]? = some name)
    (progress : Progress convToServer path names sent replies self) :
    ∃ later, self.request convToServer name = some later ∧ later.result = self.result ∧
      Progress convToServer path names (sent + 1) replies later := by
  obtain ⟨rfl, files, requests, answers, marked, failed⟩ := progress
  have filled := formats name (mem_of_getElem? next)
  have longer : names.take (sent + 1) = names.take sent ++ [name] := by
    rw [take_add_one, next]
    rfl
  refine ⟨_, if_neg filled, rfl, rfl, files, ?_, ?_, ?_, failed⟩
  · rw [longer, map_append, ← requests]
    simp [CSftpDeleteOpData.requests]
  · rw [← answers]
    simp [CSftpDeleteOpData.answers]
  · rw [longer, flatMap_append, ← marked]
    simp [CSftpDeleteOpData.marked]

theorem sendFiles_progress {sent count : Nat} (formats : Formats path names)
    (progress : Progress convToServer path names sent replies self)
    (inside : sent + count ≤ names.length) :
    ∃ later, self.sendFiles convToServer ((names.drop sent).take count) = (.wouldBlock, later) ∧
      later.result = self.result ∧ Progress convToServer path names (sent + count) replies later := by
  induction count generalizing self sent with
  | zero => exact ⟨self, by rw [take_zero]; rfl, rfl, progress⟩
  | succ count induction =>
    have next : names[sent]? = some names[sent] := getElem?_eq_getElem _
    obtain ⟨later, requested, same, progressed⟩ := request_progress formats next progress
    obtain ⟨last, sends, kept, done⟩ := @induction later (sent + 1) progressed (by omega)
    refine ⟨last, ?_, kept.trans same, by rwa [Nat.add_right_comm] at done⟩
    rw [drop_eq_getElem_cons (by omega), take_succ_cons, sendFiles, requested]
    exact sends

theorem Progress.beyond {sent more : Nat} (all : names.length ≤ sent) (least : sent ≤ more)
    (progress : Progress convToServer path names sent replies self) :
    Progress convToServer path names more replies self := by
  have same : names.take more = names.take sent :=
    (take_of_length_le (by omega)).trans (take_of_length_le all).symm
  obtain ⟨place, files, requests, answers, marked, failed⟩ := progress
  exact ⟨place, files, same ▸ requests, answers, same ▸ marked, failed⟩

theorem zip_concat {last : Bool} (more : replies.length < names.length) :
    names.zip (replies ++ [last]) = names.zip replies ++ [(names[replies.length], last)] := by
  induction replies generalizing names with
  | nil =>
    obtain ⟨name, names, rfl⟩ := exists_cons_of_length_pos more
    simp
  | cons reply replies induction =>
    obtain ⟨name, names, rfl⟩ := exists_cons_of_length_pos (Nat.zero_lt_of_lt more)
    exact congrArg (_ :: ·) (induction (Nat.lt_of_succ_lt_succ more))

theorem noted_progress {sent : Nat} (status : Status) (more : replies.length < names.length)
    (progress : Progress convToServer path names sent replies self) :
    (self.noted status).result = self.result ∧
      Progress convToServer path names sent (replies ++ [status.success]) (self.noted status) := by
  obtain ⟨place, files, requests, answers, marked, failed⟩ := progress
  have split := drop_eq_getElem_cons more
  rw [split, reverse_cons] at files
  have file : self.files.getLastD [] = names[replies.length] := by
    rw [files, getLastD_concat]
  have left : self.files.dropLast = (names.drop (replies ++ [status.success]).length).reverse := by
    rw [files, dropLast_concat, length_append, length_singleton]
  have zipped := @zip_concat names replies status.success more
  unfold noted
  rw [file]
  obtain ⟨success, second⟩ := status
  cases success with
  | true =>
    refine ⟨rfl, place, left, ?_, ?_, ?_, ?_⟩
    · rw [← requests]
      cases second <;> simp [CSftpDeleteOpData.requests]
    · rw [zipped, ← answers]
      cases second <;> simp [CSftpDeleteOpData.answers]
    · rw [← marked]
      cases second <;> simp [CSftpDeleteOpData.marked]
    · simpa using failed
  | false =>
    refine ⟨rfl, place, left, ?_, ?_, ?_, ?_⟩
    · rw [← requests]
      simp [CSftpDeleteOpData.requests]
    · rw [zipped, ← answers]
      simp [CSftpDeleteOpData.answers]
    · rw [← marked]
      simp [CSftpDeleteOpData.marked]
    · simp

theorem doProcessStatus_progress (status : Status) (formats : Formats path names)
    (more : replies.length < names.length) (running : self.result = none)
    (progress : Progress convToServer path names (replies.length + pipeline) replies self) :
    let later := self.doProcessStatus convToServer status
    later.result = (if replies.length + 1 = names.length then
        some (if (replies ++ [status.success]).all id then .ok else .error) else none) ∧
      Progress convToServer path names (replies.length + 1 + pipeline)
        (replies ++ [status.success]) later := by
  obtain ⟨same, noted⟩ := noted_progress status more progress
  rw [running] at same
  unfold doProcessStatus proceed
  generalize self.noted status = later at same noted
  have files := noted.files
  rw [length_append, length_singleton] at files
  have length : later.files.length = names.length - (replies.length + 1) := by simp [files]
  intro outcome
  unfold outcome
  split
  case isTrue full =>
    have next : names[replies.length + pipeline]? =
        some (later.files.getD (later.files.length - pipeline) []) := by
      have found : later.files[later.files.length - pipeline]? =
          names[replies.length + pipeline]? := by
        unfold pipeline at full ⊢
        rw [files, getElem?_reverse (by simp; omega), getElem?_drop]
        congr 1
        simp
        omega
      have inside : replies.length + pipeline < names.length := by
        unfold pipeline at full ⊢
        omega
      rw [getD_eq_getElem?_getD, found, getElem?_eq_getElem inside]
      rfl
    obtain ⟨last, requested, kept, done⟩ := request_progress formats next noted
    rw [requested, if_neg (by unfold pipeline at full; omega)]
    exact ⟨kept.trans same, Nat.add_right_comm .. ▸ done⟩
  case isFalse few =>
    have done : Progress _ _ _ (replies.length + 1 + pipeline) _ _ :=
      noted.beyond (by unfold pipeline at few ⊢; omega) (by omega)
    split
    case isTrue none =>
      rw [none, length_nil] at length
      have last : replies.length + 1 = names.length := by omega
      rw [if_pos last, done.failed]
      exact ⟨by cases (replies ++ [status.success]).all id <;> rfl, done.place, done.files,
        done.requests, done.answers, done.marked, rfl⟩
    case isFalse some =>
      have left := length_pos_of_ne_nil some
      rw [if_neg (by omega)]
      exact ⟨same, done⟩

theorem send_progress (path : CServerPath) (files : List WString)
    (formats : Formats path files.reverse) :
    let sent := CSftpDeleteOpData.send convToServer { path, files } true
    sent.1 = .wouldBlock ∧ sent.2.result = none ∧
      Progress convToServer path files.reverse pipeline [] sent.2 := by
  have first : (range (min pipeline files.length)).map (fun index =>
      files.getD (files.length - 1 - index) []) =
        (files.reverse.drop 0).take (min pipeline files.length) := by
    refine ext_getElem (by simp) fun index inside _ => ?_
    simp only [length_map, length_range] at inside
    have within : files.length - 1 - index < files.length := by omega
    simp [getElem?_eq_getElem within]
  have start : Progress convToServer path files.reverse 0 []
      ({ path, files } : CSftpDeleteOpData) :=
    ⟨rfl, by simp, rfl, zip_nil_right.symm, rfl, rfl⟩
  obtain ⟨later, sends, same, progress⟩ := @sendFiles_progress convToServer _ _ _ _ 0
    (min pipeline files.length) formats start
    (by rw [length_reverse, Nat.zero_add]; exact Nat.min_le_right ..)
  rw [send, if_neg (by simp), first, sends]
  refine ⟨rfl, same, ?_⟩
  rw [Nat.zero_add] at progress
  rcases Nat.le_total pipeline files.length with many | few
  · rwa [Nat.min_eq_left many] at progress
  · rw [Nat.min_eq_right few] at progress
    exact progress.beyond (by simp) few

end CSftpDeleteOpData

end FileZilla.Sftp.DeleteOperation
