import FileZilla.Engine.Sftp.SegmentDownload

namespace FileZilla.Sftp

open List Nat

namespace SegmentedDownload

variable {count : Nat} (op : SegmentedDownload count)

def Answerable (index : Fin count) : Prop :=
  let sftp := (op.endpoints (op.segments index).conn).sftp
  sftp.liveFor index ≠ [] ∧ sftp.waitRead = false ∧ sftp.disconnecting = false

instance (op : SegmentedDownload count) (index : Fin count) :
    Decidable (Answerable op index) :=
  inferInstanceAs (Decidable (_ ∧ _ ∧ _))

def Waits (index : Fin count) : Prop :=
  (op.segments index).done = false ∧
    ((op.segments index).writerEvent = true ∨
      (op.segments index).poolEvent = true ∨ Answerable op index)

instance (op : SegmentedDownload count) (index : Fin count) :
    Decidable (Waits op index) :=
  inferInstanceAs (Decidable (_ ∧ (_ ∨ _ ∨ _)))

def Pending : Prop :=
  (∃ index, Waits op index) ∨ .establishing ∈ op.connections

instance (op : SegmentedDownload count) : Decidable (Pending op) :=
  inferInstanceAs (Decidable (_ ∨ _))

def Elsewhere (index : Fin count) : Prop :=
  (∃ other, other ≠ index ∧ Waits op other) ∨ .establishing ∈ op.connections

instance (op : SegmentedDownload count) (index : Fin count) :
    Decidable (Elsewhere op index) :=
  inferInstanceAs (Decidable (_ ∨ _))

theorem Elsewhere.pending {op : SegmentedDownload count} {index : Fin count}
    (elsewhere : Elsewhere op index) : Pending op := by
  rcases elsewhere with ⟨other, -, waits⟩ | establishing
  · exact .inl ⟨other, waits⟩
  · exact .inr establishing

/-- A channel is only held back by a segment that waits for a buffer. -/
def Blocked (among : Fin count → Prop) (op : SegmentedDownload count) : Prop :=
  ∀ channel, (op.endpoints channel).sftp.waitRead = true →
    ∃ index, among index ∧ (op.segments index).done = false ∧
      (op.segments index).finalizing = false ∧
      (op.segments index).stallChannel = some channel ∧
      ((op.segments index).writerEvent = true ∨
        (op.segments index).poolEvent = true)

theorem Blocked.pending {among : Fin count → Prop}
    {op : SegmentedDownload count} {index : Fin count}
    (blocked : Blocked among op) (going : (op.segments index).done = false)
    (live : (op.endpoints (op.segments index).conn).sftp.liveFor index ≠ []) (connected :
      (op.endpoints (op.segments index).conn).sftp.disconnecting = false) :
    Pending op := by
  cases held : (op.endpoints (op.segments index).conn).sftp.waitRead with
  | false => exact .inl ⟨index, going, .inr (.inr ⟨live, held, connected⟩)⟩
  | true =>
    obtain ⟨other, -, unfinished, -, -, event⟩ := blocked _ held
    refine .inl ⟨other, unfinished, ?_⟩
    rcases event with writerEvent | poolEvent
    · exact .inl writerEvent
    · exact .inr (.inl poolEvent)

structure Alike (segment next : SegmentHandler) : Prop where
  done : next.done = segment.done
  finalizing : next.finalizing = segment.finalizing
  conn : next.conn = segment.conn
  stallChannel : next.stallChannel = segment.stallChannel
  writerEvent : next.writerEvent = segment.writerEvent
  poolEvent : next.poolEvent = segment.poolEvent

theorem Alike.of_eq {segment next : SegmentHandler} (same : next = segment) :
    Alike segment next := by
  subst same
  exact ⟨rfl, rfl, rfl, rfl, rfl, rfl⟩

structure Keeps (among : Fin count → Prop) (op next : SegmentedDownload count) :
    Prop where
  segments : ∀ index, among index → Alike (op.segments index) (next.segments index)
  live : ∀ index, among index → ∀ channel, (op.endpoints channel).sftp.liveFor index ≠ [] →
      (next.endpoints channel).sftp.liveFor index ≠ []
  waitRead : ∀ channel, (op.endpoints channel).sftp.waitRead = false →
    (next.endpoints channel).sftp.waitRead = false
  disconnecting : ∀ channel, (op.endpoints channel).sftp.disconnecting = false →
      (next.endpoints channel).sftp.disconnecting = false
  connections : .establishing ∈ op.connections → .establishing ∈ next.connections

namespace Keeps

variable {among narrower : Fin count → Prop}
  {op next last : SegmentedDownload count} {index : Fin count}

theorem refl (op : SegmentedDownload count) : Keeps among op op :=
  ⟨fun _ _ => .of_eq rfl, fun _ _ _ live => live, fun _ free => free,
    fun _ connected => connected, fun establishing => establishing⟩

theorem trans (first : Keeps among op next) (second : Keeps among next last) :
    Keeps among op last where
  segments := fun index member =>
    have one := first.segments index member
    have two := second.segments index member
    ⟨two.done.trans one.done, two.finalizing.trans one.finalizing, two.conn.trans one.conn,
      two.stallChannel.trans one.stallChannel,
      two.writerEvent.trans one.writerEvent, two.poolEvent.trans one.poolEvent⟩
  live := fun index member channel live =>
    second.live index member channel (first.live index member channel live)
  waitRead := fun channel free => second.waitRead channel (first.waitRead channel free)
  disconnecting := fun channel connected =>
    second.disconnecting channel (first.disconnecting channel connected)
  connections := fun establishing =>
    second.connections (first.connections establishing)

theorem waits (keeps : Keeps among op next) (member : among index)
    (waits : Waits op index) : Waits next index := by
  have alike := keeps.segments index member
  obtain ⟨going, event⟩ := waits
  refine ⟨alike.done.trans going, ?_⟩
  rcases event with writerEvent | poolEvent | ⟨live, free, connected⟩
  · exact .inl (alike.writerEvent.trans writerEvent)
  · exact .inr (.inl (alike.poolEvent.trans poolEvent))
  · refine .inr (.inr ?_)
    unfold Answerable
    rw [alike.conn]
    exact ⟨keeps.live index member _ live, keeps.waitRead _ free, keeps.disconnecting _ connected⟩

theorem elsewhere (keeps : Keeps (· ≠ index) op next)
    (elsewhere : Elsewhere op index) : Elsewhere next index := by
  rcases elsewhere with ⟨other, distinct, waits⟩ | establishing
  · exact .inl ⟨other, distinct, keeps.waits distinct waits⟩
  · exact .inr (keeps.connections establishing)

theorem pending (keeps : Keeps (fun _ => True) op next)
    (pending : Pending op) : Pending next := by
  rcases pending with ⟨index, waits⟩ | establishing
  · exact .inl ⟨index, keeps.waits trivial waits⟩
  · exact .inr (keeps.connections establishing)

theorem blocked (keeps : Keeps among op next) (blocked : Blocked among op) :
    Blocked among next := by
  intro channel held
  have before : (op.endpoints channel).sftp.waitRead = true := by
    by_contra free
    have after := keeps.waitRead channel (by simpa using free)
    simp [held] at after
  obtain ⟨index, member, going, running, stalls, event⟩ := blocked channel before
  have alike := keeps.segments index member
  refine ⟨index, member, alike.done.trans going,
    alike.finalizing.trans running, alike.stallChannel.trans stalls, ?_⟩
  rw [alike.writerEvent, alike.poolEvent]
  exact event

end Keeps

section Functions

variable {op next : SegmentedDownload count} {index : Fin count}
  {env : SegmentEnv} {conn : Channel} {among : Fin count → Prop}

theorem updateSegment_keeps (op : SegmentedDownload count) (index : Fin count)
    (change : SegmentHandler → SegmentHandler) :
    Keeps (· ≠ index) op (op.updateSegment index change) where
  segments := fun _ distinct =>
    .of_eq (updateSegment_segments_of_ne op index change distinct)
  live := fun _ _ _ live => live
  waitRead := fun _ free => free
  disconnecting := fun _ connected => connected
  connections := fun establishing => establishing

theorem updateSegment_keeps_all (op : SegmentedDownload count)
    {index : Fin count} {change : SegmentHandler → SegmentHandler}
    (done : (change (op.segments index)).done = (op.segments index).done)
    (finalizing : (change (op.segments index)).finalizing = (op.segments index).finalizing)
    (conn : (change (op.segments index)).conn = (op.segments index).conn)
    (stallChannel : (change (op.segments index)).stallChannel = (op.segments index).stallChannel)
    (writerEvent : (change (op.segments index)).writerEvent = (op.segments index).writerEvent)
    (poolEvent : (change (op.segments index)).poolEvent = (op.segments index).poolEvent) :
    Keeps among op (op.updateSegment index change) where
  segments := by
    intro other _
    by_cases same : other = index
    · subst same
      rw [updateSegment_segments]
      exact ⟨done, finalizing, conn, stallChannel, writerEvent, poolEvent⟩
    · exact .of_eq (updateSegment_segments_of_ne op index change same)
  live := fun _ _ _ live => live
  waitRead := fun _ free => free
  disconnecting := fun _ connected => connected
  connections := fun establishing => establishing

theorem updatePipe_keeps (op : SegmentedDownload count) (channel : Channel)
    (change : SegmentPipeState → SegmentPipeState) :
    Keeps among op (op.updatePipe channel change) where
  segments := fun _ _ => .of_eq rfl
  live := fun _ _ _ live => by simpa using live
  waitRead := fun _ free => by simpa using free
  disconnecting := fun _ connected => by simpa using connected
  connections := fun establishing => establishing

theorem readSegment_keeps (op : SegmentedDownload count) (conn : Channel)
    (index : Fin count) : Keeps among op (op.readSegment conn index) := by
  have sftp : ∀ channel, ((op.readSegment conn index).endpoints channel).sftp =
      if channel = conn then
        (op.endpoints channel).sftp.request (some index)
          (.read (op.segments index).requestOffset (readSize (op.segments index)))
      else
        (op.endpoints channel).sftp := by
    intro channel
    by_cases same : channel = conn
    · rw [if_pos same, same, readSegment_sftp]
    · rw [if_neg same, readSegment_endpoints_of_ne op index same]
  refine ⟨fun other _ => ?_, fun other _ channel live => ?_,
    fun channel free => ?_, fun channel connected => ?_, id⟩
  · by_cases same : other = index
    · subst same
      rw [readSegment_segments]
      exact ⟨rfl, rfl, rfl, rfl, rfl, rfl⟩
    · exact .of_eq ((readSegment_change op conn index).segments other same)
  · rw [sftp]
    split
    · intro none
      apply live
      unfold Client.request at none
      split at none
      · exact none
      · simp only [Client.liveFor, filterMap_append] at none
        exact (append_eq_nil_iff.mp none).1
    · exact live
  · rw [sftp]
    split <;> simpa using free
  · rw [sftp]
    split <;> simpa using connected

theorem sendSegmentReads_keeps (env : SegmentEnv) (conn : Channel)
    (remaining : Nat) (op : SegmentedDownload count) :
    Keeps among op (sendSegmentReads env conn remaining op).1 := by
  induction remaining generalizing op with
  | zero => exact .refl op
  | succ remaining ih =>
    unfold sendSegmentReads
    split
    · split
      · exact .refl op
      · exact (readSegment_keeps op conn _).trans (ih _)
    · exact .refl op

theorem requestSegments_keeps (env : SegmentEnv) (conn : Channel) (op : SegmentedDownload count) :
    Keeps among op (op.requestSegments env conn) := by
  unfold requestSegments
  split
  · exact .refl op
  · have sent := (@updatePipe_keeps count among op conn (measurePipe env)).trans
      (sendSegmentReads_keeps env conn 2 _)
    simp only
    split
    · exact sent.trans (updatePipe_keeps _ _ _)
    · exact sent

theorem mem_rotation (first : Nat) (index : Fin count) :
    index ∈ (List.finRange count).map fun (other : Fin count) =>
      (⟨(first + other) % count, Nat.mod_lt _ other.pos⟩ : Fin count) := by
  have positive : 0 < count := index.pos
  rw [mem_map]
  refine ⟨⟨(index + (count - first % count)) % count, mod_lt _ positive⟩,
    mem_finRange _, ?_⟩
  apply Fin.ext
  have small : first % count < count := mod_lt _ positive
  show (first + (index + (count - first % count)) % count) % count = index
  rw [add_mod_mod, ← mod_add_mod]
  have total : first % count + (index + (count - first % count)) = index + count := by omega
  rw [total, add_mod_right, mod_eq_of_lt index.isLt]

theorem nextRequestSegment_of_requestable (requestable : op.requestable conn index = true) :
    ∃ picked, op.nextRequestSegment conn = some picked := by
  cases next : op.nextRequestSegment conn with
  | some picked => exact ⟨picked, rfl⟩
  | none =>
    unfold nextRequestSegment at next
    rw [find?_eq_none] at next
    exact absurd requestable (next index (mem_rotation _ index))

def Sends (env : SegmentEnv) (endpoint : Endpoint count) : Prop :=
  endpoint.sftp.disconnecting = false ∧
    endpoint.sftp.pendingRequests < (measurePipe env endpoint.pipe).maxPending ∧
    env.sendable 1 = true

instance (env : SegmentEnv) (endpoint : Endpoint count) :
    Decidable (Sends env endpoint) :=
  inferInstanceAs (Decidable (_ ∧ _ ∧ _))

theorem readSegment_live (connected : (op.endpoints conn).sftp.disconnecting = false)
    (index : Fin count) :
    ((op.readSegment conn index).endpoints conn).sftp.liveFor index ≠ [] := by
  rw [readSegment_sftp, Client.liveFor_request connected]
  simp

theorem sendSegmentReads_pending {remaining : Nat}
    (connected : (op.endpoints conn).sftp.disconnecting = false)
    (room : (op.endpoints conn).sftp.pendingRequests < (op.endpoints conn).pipe.maxPending)
    (sendable : env.sendable remaining = true) (requestable : op.requestable conn index = true)
    (blocked : Blocked among op) :
    Pending (sendSegmentReads env conn (remaining + 1) op).1 := by
  obtain ⟨picked, next⟩ := nextRequestSegment_of_requestable requestable
  obtain ⟨mine, -, -, going, -⟩ := requestable_iff.mp (nextRequestSegment_requestable next)
  have read := @readSegment_keeps count (fun _ => True) op conn picked
  have later := @sendSegmentReads_keeps count (fun _ => True) env conn remaining
    (op.readSegment conn picked)
  have alike := (read.trans later).segments picked trivial
  have sent : (sendSegmentReads env conn (remaining + 1) op).1 =
      (sendSegmentReads env conn remaining (op.readSegment conn picked)).1 := by
    rw [sendSegmentReads, if_pos (by simp [room, sendable]), next]
  rw [sent]
  have still : Blocked among
      (sendSegmentReads env conn remaining (op.readSegment conn picked)).1 :=
    ((readSegment_keeps op conn picked).trans
      (sendSegmentReads_keeps env conn remaining _)).blocked blocked
  refine still.pending (alike.done.trans going) ?_ ?_
  · rw [alike.conn, mine]
    exact later.live picked trivial conn (readSegment_live connected picked)
  · rw [alike.conn, mine]
    exact (read.trans later).disconnecting conn connected

theorem requestSegments_pending (running : op.segFailed = false)
    (sends : Sends env (op.endpoints conn)) (requestable : op.requestable conn index = true)
    (blocked : Blocked among op) : Pending (op.requestSegments env conn) := by
  obtain ⟨connected, room, sendable⟩ := sends
  have measured := @sendSegmentReads_pending count
    (op.updatePipe conn (measurePipe env)) index env conn among 1
    (by simpa using connected) (by simpa using room) sendable requestable
    ((updatePipe_keeps op conn (measurePipe env)).blocked blocked)
  unfold requestSegments
  rw [if_neg (by simp [running])]
  simp only
  split
  · exact (updatePipe_keeps _ _ _).pending measured
  · exact measured

end Functions

end SegmentedDownload

end FileZilla.Sftp
