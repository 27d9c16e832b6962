import FileZilla.Engine.Proxy
import Mathlib.Data.List.GetD

namespace FileZilla

open List

/-- The header of an HTTP proxy is not too large, and there is no NUL in it. -/
def HeaderFits (stream : List UInt8) : Prop :=
  match headerEnd stream with
  | none => stream.length < 2048
  | some i => i + 4 < 2048 ∧ 0 ∉ stream.take (i + 4)

variable {buffer : List UInt8} {i : Nat}

theorem headerEnd_split (found : headerEnd buffer = some i) :
    ∃ before rest, buffer = before ++ ([13, 10, 13, 10] ++ rest) ∧ before.length = i := by
  induction buffer generalizing i with
  | nil => cases found
  | cons char buffer ih =>
    unfold headerEnd at found
    split at found
    case isTrue here =>
      obtain ⟨rest, whole⟩ := isPrefixOf_iff_prefix.mp here
      cases found
      exact ⟨[], rest, whole.symm, rfl⟩
    case isFalse =>
      obtain ⟨j, later, rfl⟩ := Option.map_eq_some_iff.mp found
      obtain ⟨before, rest, rfl, rfl⟩ := ih later
      exact ⟨char :: before, rest, rfl, rfl⟩

theorem headerEnd_length (found : headerEnd buffer = some i) :
    i + 4 ≤ buffer.length := by
  obtain ⟨before, rest, rfl, rfl⟩ := headerEnd_split found
  simp only [length_append, length_cons, length_nil]
  omega

theorem headerEnd_append (found : headerEnd buffer = some i) (rest : List UInt8) :
    headerEnd (buffer ++ rest) = some i := by
  induction buffer generalizing i with
  | nil => cases found
  | cons char buffer ih =>
    unfold headerEnd at found
    rw [cons_append, headerEnd]
    split at found
    case isTrue here =>
      have starts : [13, 10, 13, 10] <+: char :: (buffer ++ rest) :=
        (List.isPrefixOf_iff_prefix.mp here).trans ⟨rest, rfl⟩
      rw [if_pos (List.isPrefixOf_iff_prefix.mpr starts)]
      exact found
    case isFalse elsewhere =>
      obtain ⟨j, later, rfl⟩ := Option.map_eq_some_iff.mp found
      have long := headerEnd_length later
      rw [if_neg, ih later]
      · rfl
      · intro here
        apply elsewhere
        have starts : [13, 10, 13, 10] <+: char :: (buffer ++ rest) :=
          isPrefixOf_iff_prefix.mp here
        refine isPrefixOf_iff_prefix.mpr
          (prefix_of_prefix_length_le starts ⟨rest, rfl⟩ ?_)
        simp only [length_cons, length_nil]
        omega

theorem headerEnd_prefix {rest : List UInt8} (found : headerEnd (buffer ++ rest) = some i)
    (inside : i + 4 ≤ buffer.length) :
    headerEnd buffer = some i := by
  induction buffer generalizing i with
  | nil => simp at inside
  | cons char buffer ih =>
    rw [cons_append, headerEnd] at found
    rw [headerEnd]
    split at found
    case isTrue here =>
      cases found
      have starts : [13, 10, 13, 10] <+: char :: (buffer ++ rest) :=
        isPrefixOf_iff_prefix.mp here
      rw [if_pos (List.isPrefixOf_iff_prefix.mpr
        (prefix_of_prefix_length_le starts ⟨rest, rfl⟩ (by simpa using inside)))]
    case isFalse elsewhere =>
      obtain ⟨j, later, rfl⟩ := Option.map_eq_some_iff.mp found
      rw [length_cons] at inside
      rw [if_neg, ih later (by omega)]
      · rfl
      · intro here
        have starts := isPrefixOf_iff_prefix.mp here
        exact elsewhere (List.isPrefixOf_iff_prefix.mpr (starts.trans ⟨rest, rfl⟩))

namespace ProxyReply

variable {settings : ProxySettings} {state : HandshakeState} {buffer rest : List UInt8}

theorem statusLine_append (found : headerEnd buffer ≠ none) :
    statusLine (buffer ++ rest) = statusLine buffer := by
  obtain ⟨i, some⟩ := Option.ne_none_iff_exists'.mp found
  obtain ⟨before, after, rfl, _⟩ := headerEnd_split some
  unfold statusLine
  rw [takeWhile_append, if_neg]
  intro all
  have whole := takeWhile_eq_self_iff.mp (( List.takeWhile_prefix _).eq_of_length all)
  exact absurd (whole 13 (by simp)) (by decide)

theorem parseHttp_prefix (settings : ProxySettings) (fits : HeaderFits (buffer ++ rest)) :
    parseHttp settings buffer = .more ∨
      parseHttp settings (buffer ++ rest) = parseHttp settings buffer := by
  unfold HeaderFits at fits
  cases found : headerEnd buffer with
  | none =>
    refine .inl ?_
    have short : buffer.length < 2048 := by
      split at fits
      case h_1 whole =>
        rw [length_append] at fits
        omega
      case h_2 i whole =>
        refine Classical.byContradiction fun long => ?_
        have early := headerEnd_prefix whole (by omega)
        cases found.symm.trans early
    unfold parseHttp
    rw [found]
    exact if_neg (Nat.not_le.mpr short)
  | some i =>
    refine .inr ?_
    unfold parseHttp
    rw [found, headerEnd_append found, statusLine_append (by simp [found])]

theorem parseSocks4_prefix :
    parseSocks4 buffer = .more ∨ parseSocks4 (buffer ++ rest) = parseSocks4 buffer := by
  rcases Nat.lt_or_ge buffer.length 8 with short | long
  · exact .inl (if_pos short)
  · refine .inr ?_
    have longer : ¬ (buffer ++ rest).length < 8 := by
      rw [length_append]
      omega
    unfold parseSocks4
    rw [if_neg longer, if_neg (Nat.not_lt.mpr long), getD_append _ _ _ _ (by omega)]

theorem parseMethod_prefix :
    parseMethod buffer = .more ∨ parseMethod (buffer ++ rest) = parseMethod buffer := by
  rcases Nat.lt_or_ge buffer.length 2 with short | long
  · exact .inl (if_pos short)
  · refine .inr ?_
    have longer : ¬ (buffer ++ rest).length < 2 := by
      rw [length_append]
      omega
    unfold parseMethod
    rw [if_neg longer, if_neg (Nat.not_lt.mpr long), getD_append _ _ _ _ (by omega)]

theorem parseAuth_prefix :
    parseAuth buffer = .more ∨ parseAuth (buffer ++ rest) = parseAuth buffer := by
  rcases Nat.lt_or_ge buffer.length 2 with short | long
  · exact .inl (if_pos short)
  · refine .inr ?_
    have longer : ¬ (buffer ++ rest).length < 2 := by
      rw [length_append]
      omega
    unfold parseAuth
    rw [if_neg longer, if_neg (Nat.not_lt.mpr long), getD_append _ _ _ _ (by omega)]

theorem parseRequest_prefix :
    parseRequest buffer = .more ∨ parseRequest (buffer ++ rest) = parseRequest buffer := by
  have longer {count : Nat} (long : ¬ buffer.length < count) :
      ¬ (buffer ++ rest).length < count := by
    rw [length_append]
    omega
  have same {i : Nat} (inside : i < buffer.length) :
      (buffer ++ rest).getD i 0 = buffer.getD i 0 :=
    getD_append _ _ _ _ inside
  unfold parseRequest
  split
  case isTrue => exact .inl rfl
  case isFalse two =>
    rw [if_neg (longer two), same (by omega)]
    split
    case isTrue => exact .inr rfl
    case isFalse =>
      split
      case isTrue => exact .inl rfl
      case isFalse four =>
        rw [if_neg (longer four), same (by omega)]
        split
        case isTrue =>
          split
          case isTrue => exact .inl rfl
          case isFalse ten => exact .inr (if_neg (longer ten))
        case isFalse =>
          split
          case isTrue =>
            split
            case isTrue => exact .inl rfl
            case isFalse five =>
              rw [if_neg (longer five), same (by omega)]
              split
              case isTrue => exact .inl rfl
              case isFalse all => exact .inr (if_neg (longer all))
          case isFalse =>
            split
            case isTrue =>
              split
              case isTrue => exact .inl rfl
              case isFalse all => exact .inr (if_neg (longer all))
            case isFalse => exact .inr rfl

theorem parse_prefix (settings : ProxySettings)
    (fits : state = .httpWait → HeaderFits (buffer ++ rest)) :
    parse settings state buffer = .more ∨
      parse settings state (buffer ++ rest) = parse settings state buffer := by
  cases buffer with
  | nil => exact .inl rfl
  | cons version buffer =>
    rw [cons_append] at fits ⊢
    cases state with
    | httpWait => exact parseHttp_prefix settings (fits rfl)
    | socks4Handshake => exact parseSocks4_prefix
    | socks5Method =>
      unfold parse
      dsimp only
      split
      · exact .inr rfl
      · exact parseMethod_prefix
    | socks5Auth =>
      unfold parse
      dsimp only
      split
      · exact .inr rfl
      · exact parseAuth_prefix
    | socks5Request =>
      unfold parse
      dsimp only
      split
      · exact .inr rfl
      · exact parseRequest_prefix

theorem parse_next_prefix {later : HandshakeState} {length : Nat}
    (goesOn : parse settings state (buffer ++ rest) = .next later length)
    (long : 2 ≤ buffer.length) : parse settings state buffer ≠ .more := by
  cases buffer with
  | nil => simp at long
  | cons version buffer =>
    obtain ⟨_, _, place⟩ := parse_next goesOn
    have place : state = .socks5Method ∨ state = .socks5Auth :=
      place.elim (fun first => .inl first.1) fun last => last.1
    unfold parse
    dsimp only
    rcases place with rfl | rfl
    · dsimp only
      split
      · simp
      · unfold parseMethod
        rw [if_neg (Nat.not_lt.mpr long)]
        split
        · simp
        · split <;> simp
    · dsimp only
      split
      · simp
      · unfold parseAuth
        rw [if_neg (Nat.not_lt.mpr long)]
        split <;> simp

theorem parse_length {length : Nat} (connects : parse settings state buffer = .connects length) :
    length ≤ buffer.length := by
  cases buffer with
  | nil => cases connects
  | cons version buffer =>
    cases state with
    | httpWait =>
      unfold parse parseHttp at connects
      dsimp only at connects
      split at connects
      · split at connects <;> cases connects
      case h_2 i found =>
        split at connects
        · cases connects
        · cases connects
          exact headerEnd_length found
    | socks4Handshake =>
      unfold parse parseSocks4 at connects
      dsimp only at connects
      split at connects
      · cases connects
      case isFalse long =>
        split at connects
        · cases connects
        · cases connects
          exact Nat.not_lt.mp long
    | socks5Method =>
      unfold parse parseMethod at connects
      dsimp only at connects
      repeat' split at connects
      all_goals cases connects
    | socks5Auth =>
      unfold parse parseAuth at connects
      dsimp only at connects
      repeat' split at connects
      all_goals cases connects
    | socks5Request =>
      unfold parse parseRequest at connects
      dsimp only at connects
      repeat' split at connects
      all_goals cases connects
      all_goals exact Nat.not_lt.mp (by assumption)

end ProxyReply

open ProxyReply

section

variable {settings : ProxySettings} {state later : HandshakeState} {stream : List UInt8}

theorem ProxySettings.message_length (settings : ProxySettings) (state : HandshakeState) :
    0 < (settings.message state).length := by
  cases state with
  | httpWait => simp [message, asciiBytes]
  | socks5Method =>
    simp only [message]
    split <;> simp
  | socks5Auth | socks5Request | socks4Handshake => simp [message]

theorem handshakeReference_more (reply : parse settings state stream = .more) :
    handshakeReference settings state stream = (settings.message state, .waiting) := by
  rw [handshakeReference]
  split
  case h_1 => rfl
  all_goals exact absurd (reply.symm.trans (by assumption)) (by simp)

theorem handshakeReference_fails {error : ProxyError}
    (reply : parse settings state stream = .fails error) :
    handshakeReference settings state stream = (settings.message state, .failed) := by
  rw [handshakeReference]
  split
  case h_2 => rfl
  all_goals exact absurd (reply.symm.trans (by assumption)) (by simp)

variable {length : Nat}

theorem handshakeReference_connects
    (reply : parse settings state stream = .connects length) :
    handshakeReference settings state stream =
      (settings.message state, .connected (stream.drop length)) := by
  rw [handshakeReference]
  split
  case h_3 other same =>
    cases reply.symm.trans same
    rfl
  all_goals exact absurd (reply.symm.trans (by assumption)) (by simp)

theorem handshakeReference_next
    (reply : parse settings state stream = .next later length) :
    handshakeReference settings state stream = (settings.message state ++
          (handshakeReference settings later (stream.drop length)).1,
        (handshakeReference settings later (stream.drop length)).2) := by
  rw [handshakeReference]
  split
  case h_4 other same =>
    cases reply.symm.trans same
    rfl
  all_goals exact absurd (reply.symm.trans (by assumption)) (by simp)

theorem message_prefix (settings : ProxySettings) (state : HandshakeState) (stream : List UInt8) :
    settings.message state <+: (handshakeReference settings state stream).1 := by
  cases reply : parse settings state stream with
  | more =>
    have first := congrArg Prod.fst (handshakeReference_more reply)
    exact ⟨[], (append_nil _).trans first.symm⟩
  | fails error =>
    have first := congrArg Prod.fst (handshakeReference_fails reply)
    exact ⟨[], (append_nil _).trans first.symm⟩
  | connects length =>
    have first := congrArg Prod.fst (handshakeReference_connects reply)
    exact ⟨[], (append_nil _).trans first.symm⟩
  | next later length =>
    rw [handshakeReference_next reply]
    exact ⟨_, rfl⟩

variable {received : Nat}

theorem releasable_early (early : received < (settings.message state).length) :
    releasable settings state stream received = 0 := by
  rw [releasable, if_pos early]

theorem releasable_next (reply : parse settings state stream = .next later length) :
    releasable settings state stream ((settings.message state).length + received) =
      length + releasable settings later (stream.drop length) received := by
  rw [releasable, if_neg (by omega)]
  split
  case h_1 other same =>
    cases reply.symm.trans same
    rw [Nat.add_sub_cancel_left]
  case h_2 other => exact absurd reply (other _ _)

theorem releasable_last (complete : (settings.message state).length ≤ received)
    (last : ∀ later length, parse settings state stream ≠ .next later length) :
    releasable settings state stream received = stream.length := by
  rw [releasable, if_neg (by omega)]
  split
  case h_1 later length same => exact absurd same (last later length)
  case h_2 => rfl

end

namespace ProxyConnection

def rest (self : ProxyConnection) : List UInt8 :=
  self.proxy.receiveBuffer ++ (self.unread ++ self.unsent)

/-- The client waits for a message of the proxy, where `earlier` are the bytes that it had sent
and `consumed` those that it had received when it entered the state. -/
structure Underway (settings : ProxySettings) (stream : List UInt8) (connection : ProxyConnection)
    (earlier consumed : List UInt8) : Prop where
  whole : stream = consumed ++ connection.rest
  fits : connection.proxy.handshakeState = .httpWait → HeaderFits connection.rest
  messages : connection.sent ++ connection.proxy.sendBuffer =
    earlier ++ settings.message connection.proxy.handshakeState
  short : connection.proxy.sendBuffer.length ≤ (settings.message connection.proxy.handshakeState).length
  outcome : handshakeReference settings settings.initialState stream =
    (earlier ++ (handshakeReference settings connection.proxy.handshakeState connection.rest).1,
      (handshakeReference settings connection.proxy.handshakeState connection.rest).2)
  releases : ∀ received,
    releasable settings settings.initialState stream (earlier.length + received) =
      consumed.length + releasable settings connection.proxy.handshakeState connection.rest received
  disciplined : connection.proxy.receiveBuffer.length + connection.unread.length ≤
    releasable settings connection.proxy.handshakeState connection.rest (connection.sent.length - earlier.length)
  undecided : parse settings connection.proxy.handshakeState connection.proxy.receiveBuffer =
    .more
  untaken : connection.taken = []
  unnotified : connection.proxy.notified = []
  blocked : connection.proxy.calls.head? ≠ some .onSend → connection.proxy.sendBuffer ≠ [] →
    connection.proxy.canWrite = false
  sending : connection.proxy.calls.head? = some .onSend → connection.proxy.sendBuffer ≠ []

structure Connected (settings : ProxySettings) (stream : List UInt8) (connection : ProxyConnection) :
    Prop where
  outcome : handshakeReference settings settings.initialState stream =
    (connection.sent, .connected (connection.taken ++ connection.rest))
  notified : connection.proxy.notified = [none]
  quiet : connection.proxy.calls.head? ≠ some .onSend
  written : connection.proxy.sendBuffer = []

/-- The proxy has refused, and whatever comes from it does not change that. -/
structure Refused (settings : ProxySettings) (stream : List UInt8) (connection : ProxyConnection) :
    Prop where
  outcome : handshakeReference settings settings.initialState stream = (connection.sent, .failed)
  refusal : ∃ error,
    parse settings connection.proxy.handshakeState connection.rest = .fails error
  fits : connection.proxy.handshakeState = .httpWait → HeaderFits connection.rest
  notified : connection.proxy.notified ≠ [] ∧ none ∉ connection.proxy.notified
  quiet : connection.proxy.calls.head? ≠ some .onSend
  written : connection.proxy.sendBuffer = []

inductive Phase (settings : ProxySettings) (stream : List UInt8) (connection : ProxyConnection) : Prop
  | underway (connecting : connection.proxy.state = .connecting) (earlier consumed : List UInt8)
      (underway : Underway settings stream connection earlier consumed)
  | connected (state : connection.proxy.state = .connected)
      (connected : Connected settings stream connection)
  | refused (state : connection.proxy.state = .failed) (refused : Refused settings stream connection)

variable {settings : ProxySettings} {stream earlier consumed : List UInt8}
  {self : ProxyConnection}

namespace Underway

theorem flow (underway : Underway settings stream self earlier consumed)
    {canRead canWrite : Bool} {calls : List ProxyCall}
    (blocked : calls.head? ≠ some .onSend → self.proxy.sendBuffer ≠ [] → canWrite = false)
    (sending : calls.head? = some .onSend → self.proxy.sendBuffer ≠ []) :
    Underway settings stream
      { self with proxy := { self.proxy with canRead, canWrite, calls } } earlier consumed :=
  { underway with blocked, sending }

theorem earlier_le (underway : Underway settings stream self earlier consumed) :
    earlier.length + (settings.message self.proxy.handshakeState).length =
      self.sent.length + self.proxy.sendBuffer.length := by
  have lengths := congrArg length underway.messages
  rw [length_append, length_append] at lengths
  exact lengths.symm

theorem silent (underway : Underway settings stream self earlier consumed)
    (sends : self.proxy.sendBuffer ≠ []) :
    self.proxy.receiveBuffer = [] ∧ self.unread = [] := by
  have lengths := underway.earlier_le
  have short := underway.short
  have some := length_pos_iff.mpr sends
  have bound := underway.disciplined
  rw [releasable_early (by omega)] at bound
  exact ⟨length_eq_zero_iff.mp (by omega), length_eq_zero_iff.mp (by omega)⟩

theorem complete (underway : Underway settings stream self earlier consumed)
    (written : self.proxy.sendBuffer = []) :
    self.sent = earlier ++ settings.message self.proxy.handshakeState ∧
      self.sent.length - earlier.length =
        (settings.message self.proxy.handshakeState).length := by
  have messages := underway.messages
  rw [written, append_nil] at messages
  refine ⟨messages, ?_⟩
  rw [messages, length_append, Nat.add_sub_cancel_left]

theorem written (underway : Underway settings stream self earlier consumed)
    (some : self.unread ≠ []) : self.proxy.sendBuffer = [] :=
  Classical.byContradiction fun sends => some (underway.silent sends).2

theorem parse_read (underway : Underway settings stream self earlier consumed) (count : Nat)
    (decided : parse settings self.proxy.handshakeState
      (self.proxy.receiveBuffer ++ self.unread.take count) ≠ .more) :
    parse settings self.proxy.handshakeState self.rest =
      parse settings self.proxy.handshakeState
        (self.proxy.receiveBuffer ++ self.unread.take count) := by
  have whole : self.rest = (self.proxy.receiveBuffer ++ self.unread.take count) ++
      (self.unread.drop count ++ self.unsent) := by
    rw [rest, append_assoc, ← append_assoc (self.unread.take count),
      take_append_drop]
  have known := parse_prefix settings (fun http => whole ▸ underway.fits http)
  rw [whole]
  exact known.resolve_left decided

end Underway

variable (proxy : SimpleProxy) (calls : List ProxyCall)

open SimpleProxy

theorem leave_eq :
    ∃ left, proxy.leave calls = { proxy with calls := left } ∧ left.head? ≠ some .onSend := by
  induction calls with
  | nil => exact ⟨[], rfl, by simp⟩
  | cons call calls ih =>
    cases call with
    | onSend => exact ih
    | onReceive =>
      unfold leave
      split
      · exact ⟨.onReceive :: calls, rfl, by simp⟩
      · exact ih

theorem onReceive_eq :
    ∃ left, proxy.onReceive calls = { proxy with canRead := true, calls := left } ∧
      left.head? ≠ some .onSend := by
  unfold onReceive
  dsimp only
  split
  · exact leave_eq _ calls
  · exact ⟨.onReceive :: calls, rfl, by simp⟩

theorem onSend_eq :
    ∃ left, proxy.onSend calls = { proxy with canWrite := true, calls := left } ∧
      (left.head? = some .onSend ↔ proxy.state = .connecting ∧ proxy.sendBuffer ≠ []) := by
  unfold onSend
  dsimp only
  split
  case isTrue idle =>
    obtain ⟨left, same, quiet⟩ := leave_eq { proxy with canWrite := true } calls
    refine ⟨left, same, fun sends => absurd sends quiet, fun ⟨connecting, sends⟩ => ?_⟩
    exact absurd (idle.resolve_left (not_not.mpr connecting)) sends
  case isFalse busy =>
    rw [not_or, not_not] at busy
    exact ⟨.onSend :: calls, rfl, fun _ => busy, fun _ => rfl⟩

variable {canRead : Bool} {calls : List ProxyCall}

theorem Phase.flow (phase : Phase settings stream self)
    (before : self.proxy.calls.head? ≠ some .onSend) (quiet : calls.head? ≠ some .onSend) :
    Phase settings stream
      { self with proxy := { self.proxy with canRead, calls } } := by
  cases phase with
  | underway connecting earlier consumed underway =>
    refine .underway connecting earlier consumed
      (underway.flow (fun _ => underway.blocked before) fun sends => absurd sends quiet)
  | connected state connected => exact .connected state { connected with quiet }
  | refused state refused => exact .refused state { refused with quiet }

theorem socketEvent_phase (phase : Phase settings stream self) (flag : SocketFlag)
    (idle : self.proxy.calls = []) :
    Phase settings stream { self with proxy := self.proxy.onSocketEvent flag none } := by
  have before : self.proxy.calls.head? ≠ some .onSend := by simp [idle]
  unfold onSocketEvent
  split
  case isTrue => exact phase
  case isFalse connecting =>
    have sends : Phase settings stream { self with proxy := self.proxy.onSend [] } := by
      obtain ⟨left, same, sending⟩ := onSend_eq self.proxy []
      rw [same]
      cases phase with
      | underway state earlier consumed underway =>
        refine .underway state earlier consumed (underway.flow ?_ ?_)
        · intro quiet some
          exact absurd (sending.mpr ⟨state, some⟩) quiet
        · exact fun sends => (sending.mp sends).2
      | connected state => exact absurd state (by rw [not_not.mp connecting]; simp)
      | refused state => exact absurd state (by rw [not_not.mp connecting]; simp)
    cases flag with
    | connection | write => exact sends
    | read =>
      obtain ⟨left, same, quiet⟩ := onReceive_eq self.proxy []
      dsimp only
      rw [same]
      exact phase.flow before quiet

theorem readAgain_phase (phase : Phase settings stream self)
    (reading : self.proxy.calls = .onReceive :: calls) :
    Phase settings stream
      { self with proxy := self.proxy.answerRead settings .again calls } := by
  obtain ⟨left, same, quiet⟩ := leave_eq { self.proxy with canRead := false } calls
  unfold answerRead
  rw [same]
  exact phase.flow (by simp [reading]) quiet

theorem writeAgain_phase (phase : Phase settings stream self)
    (writing : self.proxy.calls = .onSend :: calls) :
    Phase settings stream { self with proxy := self.proxy.answerWrite .again calls } := by
  obtain ⟨left, same, quiet⟩ := leave_eq { self.proxy with canWrite := false } calls
  unfold answerWrite
  rw [same]
  cases phase with
  | underway state earlier consumed underway =>
    refine .underway state earlier consumed (underway.flow (fun _ _ => rfl) fun sends => ?_)
    exact absurd sends quiet
  | connected state connected => exact absurd (by simp [writing]) connected.quiet
  | refused state refused => exact absurd (by simp [writing]) refused.quiet

theorem Underway.write (underway : Underway settings stream self earlier consumed)
    (sends : self.proxy.sendBuffer ≠ []) (count : Nat)
    (sending : calls.head? = some .onSend ↔ self.proxy.sendBuffer.drop count ≠ []) :
    Underway settings stream
      { self with
        proxy :=
          { self.proxy with
            sendBuffer := self.proxy.sendBuffer.drop count, canRead, calls }
        sent := self.sent ++ self.proxy.sendBuffer.take count } earlier consumed := by
  obtain ⟨received, unread⟩ := underway.silent sends
  exact
    { underway with
      messages := by
        dsimp only
        rw [append_assoc, take_append_drop]
        exact underway.messages
      short := by
        have short := underway.short
        dsimp only
        rw [length_drop]
        omega
      disciplined := by
        dsimp only
        rw [received, unread]
        exact Nat.zero_le _
      blocked := fun quiet left => absurd (sending.mpr left) quiet
      sending := sending.mp }

theorem writes_phase (phase : Phase settings stream self)
    (writing : self.proxy.calls = .onSend :: calls) (count : Nat) :
    Phase settings stream
      { self with
        proxy := self.proxy.answerWrite (.written count) calls
        sent := self.sent ++ self.proxy.sendBuffer.take count } := by
  cases phase with
  | connected state connected => exact absurd (by simp [writing]) connected.quiet
  | refused state refused => exact absurd (by simp [writing]) refused.quiet
  | underway state earlier consumed underway =>
    have sends := underway.sending (by simp [writing])
    unfold answerWrite
    dsimp only
    split
    case isFalse left =>
      have sending : (ProxyCall.onSend :: calls).head? = some .onSend ↔
          self.proxy.sendBuffer.drop count ≠ [] :=
        ⟨fun _ => left, fun _ => rfl⟩
      exact .underway state earlier consumed (underway.write sends count sending)
    case isTrue written =>
      have returned {calls : List ProxyCall} (quiet : calls.head? ≠ some .onSend) :
          calls.head? = some .onSend ↔ self.proxy.sendBuffer.drop count ≠ [] :=
        ⟨fun sends => absurd sends quiet, fun left => absurd written left⟩
      split
      · obtain ⟨left, same, quiet⟩ := onReceive_eq
          { self.proxy with sendBuffer := self.proxy.sendBuffer.drop count }
          (.onSend :: calls)
        rw [same]
        exact .underway state earlier consumed (underway.write sends count (returned quiet))
      · obtain ⟨left, same, quiet⟩ := leave_eq
          { self.proxy with sendBuffer := self.proxy.sendBuffer.drop count } calls
        rw [same]
        exact .underway state earlier consumed (underway.write sends count (returned quiet))

variable {count : Nat}

theorem Underway.enter (underway : Underway settings stream self earlier consumed)
    (written : self.proxy.sendBuffer = []) {later : HandshakeState} {length : Nat}
    (goesOn : parse settings self.proxy.handshakeState
      (self.proxy.receiveBuffer ++ self.unread.take count) = .next later length) {canWrite : Bool}
    (sending : calls.head? ≠ some .onSend → canWrite = false) :
    Underway settings stream
      { self with
        proxy :=
          { self.proxy with
            handshakeState := later
            receiveBuffer := (self.proxy.receiveBuffer ++ self.unread.take count).drop length
            sendBuffer := self.proxy.sendBuffer ++ settings.message later
            canRead, canWrite, calls }
        unread := self.unread.drop count }
      self.sent (consumed ++ self.rest.take length) := by
  have tells := underway.parse_read count (by simp [goesOn])
  rw [goesOn] at tells
  obtain ⟨sent, complete⟩ := underway.complete written
  obtain ⟨rfl, long, _⟩ := parse_next goesOn
  have first := settings.message_length later
  -- Nothing has come but the message
  have bound := underway.disciplined
  rw [complete, ← Nat.add_zero (settings.message _).length, releasable_next tells,
    releasable_early first] at bound
  rw [length_append, length_take] at long
  have emptied : (self.proxy.receiveBuffer ++ self.unread.take count).drop 2 = [] := by
    refine drop_eq_nil_of_le ?_
    rw [length_append, length_take]
    omega
  have read : self.unread.drop count = [] := by
    refine drop_eq_nil_of_le ?_
    omega
  have left : self.rest.drop 2 = self.unsent := by
    have whole : self.rest = (self.proxy.receiveBuffer ++ self.unread.take count) ++
        (self.unread.drop count ++ self.unsent) := by
      rw [rest, append_assoc, ← append_assoc (self.unread.take count),
        take_append_drop]
    rw [whole, drop_append_of_le_length, emptied, read, nil_append, nil_append]
    rw [length_append, length_take]
    exact long
  rw [emptied, read, written, nil_append]
  exact
    { whole := by
        change stream = (consumed ++ self.rest.take 2) ++ self.unsent
        rw [append_assoc, ← left, take_append_drop]
        exact underway.whole
      fits := fun http => by
        dsimp only at http
        obtain ⟨_, _, ⟨_, same⟩ | ⟨_, same⟩⟩ := parse_next goesOn <;>
          cases http.symm.trans same
      messages := rfl
      short := Nat.le_refl _
      outcome := by
        change handshakeReference settings settings.initialState stream =
          (self.sent ++ (handshakeReference settings later self.unsent).1,
            (handshakeReference settings later self.unsent).2)
        rw [underway.outcome, handshakeReference_next tells, left, sent, append_assoc]
      releases := fun received => by
        change releasable settings settings.initialState stream (self.sent.length + received) =
          (consumed ++ self.rest.take 2).length + releasable settings later self.unsent received
        have releases := underway.releases
          ((settings.message self.proxy.handshakeState).length + received)
        rw [releasable_next tells, left] at releases
        have taken : (self.rest.take 2).length = 2 := by
          rw [length_take, rest, length_append, length_append]
          omega
        rw [sent, length_append, length_append, taken, Nat.add_assoc, releases,
          Nat.add_assoc]
      disciplined := Nat.zero_le _
      undecided := rfl
      __ := underway
      blocked := fun quiet _ => sending quiet
      sending := fun _ => ne_nil_of_length_pos first }

theorem rest_read (self : ProxyConnection) (count : Nat) :
    (self.proxy.receiveBuffer ++ self.unread.take count) ++
      (self.unread.drop count ++ self.unsent) = self.rest := by
  rw [rest, append_assoc, ← append_assoc (self.unread.take count),
    take_append_drop]

theorem received_eq {proxy : SimpleProxy} (written : proxy.sendBuffer = [])
    (bytes : List UInt8) (calls : List ProxyCall) :
    proxy.received settings bytes calls =
      match parse settings proxy.handshakeState (proxy.receiveBuffer ++ bytes) with
      | .more =>
        { proxy with
          receiveBuffer := proxy.receiveBuffer ++ bytes, calls := .onReceive :: calls }
      | .fails error =>
        (fail error
          { proxy with receiveBuffer := proxy.receiveBuffer ++ bytes }).leave calls
      | .connects length =>
        leave
          { proxy with
            state := .connected
            notified := proxy.notified ++ [none]
            receiveBuffer := (proxy.receiveBuffer ++ bytes).drop length } calls
      | .next state length =>
        let entered : SimpleProxy :=
          { proxy with
            handshakeState := state
            receiveBuffer := (proxy.receiveBuffer ++ bytes).drop length
            sendBuffer := proxy.sendBuffer ++ settings.message state }
        if proxy.canWrite then entered.onSend (.onReceive :: calls)
        else { entered with calls := .onReceive :: calls } := by
  unfold received
  exact if_neg fun sends => sends.2 written

theorem underway_reads (connecting : self.proxy.state = .connecting)
    (underway : Underway settings stream self earlier consumed) (some : self.unread ≠ []) :
    Phase settings stream
      { self with
        proxy := self.proxy.received settings (self.unread.take count) calls
        unread := self.unread.drop count } := by
  have written := underway.written some
  have whole := rest_read self count
  have fits : self.proxy.handshakeState = .httpWait →
      HeaderFits ((self.proxy.receiveBuffer ++ self.unread.take count) ++
        (self.unread.drop count ++ self.unsent)) := by
    rw [whole]
    exact underway.fits
  obtain ⟨sent, _⟩ := underway.complete written
  rw [received_eq written]
  cases reply : parse settings self.proxy.handshakeState
      (self.proxy.receiveBuffer ++ self.unread.take count) with
  | more =>
    refine .underway connecting earlier consumed ?_
    exact
      { underway with
        whole := underway.whole.trans (by rw [← whole]; rfl)
        fits
        outcome := by
          rw [underway.outcome, ← whole]
          rfl
        releases := fun received => by
          rw [underway.releases, ← whole]
          rfl
        disciplined := by
          have bound := underway.disciplined
          rw [← whole] at bound
          refine Nat.le_trans (Nat.le_of_eq ?_) bound
          dsimp only
          rw [length_append, length_take, length_drop]
          omega
        undecided := reply
        blocked := fun _ sends => absurd written sends
        sending := fun impossible => absurd impossible (by simp) }
  | fails error =>
    have tells := underway.parse_read count (by simp [reply])
    rw [reply] at tells
    dsimp only
    obtain ⟨left, same, quiet⟩ := leave_eq (fail error
        { self.proxy with receiveBuffer := self.proxy.receiveBuffer ++ self.unread.take count })
      calls
    rw [same]
    refine .refused rfl ?_
    exact
      { outcome := by
          rw [underway.outcome, handshakeReference_fails tells, ← sent]
        refusal := ⟨error, by rw [← tells, ← whole]; rfl⟩
        fits
        notified := by
          change self.proxy.notified ++ [Option.some error] ≠ [] ∧
            none ∉ self.proxy.notified ++ [Option.some error]
          rw [underway.unnotified]
          simp
        quiet
        written }
  | connects length =>
    have tells := underway.parse_read count (by simp [reply])
    rw [reply] at tells
    have inside := parse_length reply
    dsimp only
    obtain ⟨left, same, quiet⟩ := leave_eq
      { self.proxy with
        state := .connected
        notified := self.proxy.notified ++ [none]
        receiveBuffer := (self.proxy.receiveBuffer ++ self.unread.take count).drop length }
      calls
    rw [same]
    refine .connected rfl ?_
    exact
      { outcome := by
          rw [underway.outcome, handshakeReference_connects tells, ← sent, underway.untaken,
            ← whole, drop_append_of_le_length inside]
          rfl
        notified := by
          dsimp only
          rw [underway.unnotified]
          rfl
        quiet
        written }
  | next later length =>
    dsimp only
    split
    case isFalse blocked =>
      refine .underway connecting self.sent _ (underway.enter written reply fun _ => ?_)
      exact Bool.eq_false_iff.mpr blocked
    case isTrue =>
      obtain ⟨left, same, sending⟩ := onSend_eq
        { self.proxy with
          handshakeState := later
          receiveBuffer := (self.proxy.receiveBuffer ++ self.unread.take count).drop length
          sendBuffer := self.proxy.sendBuffer ++ settings.message later }
        (.onReceive :: calls)
      rw [same]
      refine .underway connecting self.sent _ (underway.enter written reply fun quiet => ?_)
      refine absurd (sending.mpr ⟨connecting, ?_⟩) quiet
      dsimp only
      rw [written, nil_append]
      exact ne_nil_of_length_pos (settings.message_length later)

theorem connected_reads (state : self.proxy.state = .connected)
    (connected : Connected settings stream self)
    (undecided : parse settings self.proxy.handshakeState
      (self.proxy.receiveBuffer ++ self.unread.take count) = .more) :
    Phase settings stream
      { self with
        proxy := self.proxy.received settings (self.unread.take count) calls
        unread := self.unread.drop count } := by
  rw [received_eq connected.written, undecided]
  refine .connected state ?_
  exact
    { connected with
      outcome := by
        rw [connected.outcome, ← rest_read self count]
        rfl
      quiet := by simp }

theorem refused_reads (state : self.proxy.state = .failed)
    (refused : Refused settings stream self) :
    Phase settings stream
      { self with
        proxy := self.proxy.received settings (self.unread.take count) calls
        unread := self.unread.drop count } := by
  have whole := rest_read self count
  have fits : self.proxy.handshakeState = .httpWait →
      HeaderFits ((self.proxy.receiveBuffer ++ self.unread.take count) ++
        (self.unread.drop count ++ self.unsent)) := by
    rw [whole]
    exact refused.fits
  obtain ⟨error, refusal⟩ := refused.refusal
  have known := parse_prefix settings fits
  rw [whole, refusal] at known
  rw [received_eq refused.written]
  rcases known with more | again
  · rw [more]
    refine .refused state ?_
    exact
      { refused with
        refusal := ⟨error, by rw [← refusal, ← whole]; rfl⟩
        fits
        quiet := by simp }
  · rw [← again]
    dsimp only
    obtain ⟨left, same, quiet⟩ := leave_eq (fail error
        { self.proxy with receiveBuffer := self.proxy.receiveBuffer ++ self.unread.take count })
      calls
    rw [same]
    refine .refused rfl ?_
    exact
      { refused with
        refusal := ⟨error, by rw [← refusal, ← whole]; rfl⟩
        fits
        notified := by
          change self.proxy.notified ++ [some error] ≠ [] ∧
            none ∉ self.proxy.notified ++ [some error]
          have before := refused.notified.2
          simp [before]
        quiet }

theorem sends_phase (phase : Phase settings stream self) (left : count ≤ self.unsent.length)
    (released : self.delivered stream + count ≤
      releasable settings settings.initialState stream self.sent.length) :
    Phase settings stream
      { self with
        unread := self.unread ++ self.unsent.take count
        unsent := self.unsent.drop count } := by
  have same : self.proxy.receiveBuffer ++
      ((self.unread ++ self.unsent.take count) ++ self.unsent.drop count) = self.rest := by
    rw [append_assoc, take_append_drop]
    rfl
  cases phase with
  | underway connecting earlier consumed underway =>
    refine .underway connecting earlier consumed ?_
    have lengths := underway.earlier_le
    have short := underway.short
    have position : self.sent.length = earlier.length + (self.sent.length - earlier.length) := by
      omega
    have total : self.delivered stream =
        consumed.length + self.proxy.receiveBuffer.length + self.unread.length := by
      have whole := congrArg length underway.whole
      rw [rest] at whole
      simp only [length_append] at whole
      unfold delivered
      omega
    rw [position, underway.releases, total] at released
    exact
      { underway with
        whole := underway.whole.trans (by rw [← same]; rfl)
        fits := by
          have fits := underway.fits
          rw [← same] at fits
          exact fits
        outcome := by
          rw [underway.outcome, ← same]
          rfl
        releases := fun received => by
          rw [underway.releases, ← same]
          rfl
        disciplined := by
          rw [← same] at released
          change self.proxy.receiveBuffer.length +
              (self.unread ++ self.unsent.take count).length ≤
            releasable settings self.proxy.handshakeState (self.proxy.receiveBuffer ++
                ((self.unread ++ self.unsent.take count) ++ self.unsent.drop count))
              (self.sent.length - earlier.length)
          rw [length_append, length_take]
          omega }
  | connected state connected =>
    refine .connected state { connected with outcome := ?_ }
    rw [connected.outcome, ← same]
    rfl
  | refused state refused =>
    refine .refused state { refused with refusal := ?_, fits := ?_ }
    · obtain ⟨error, refusal⟩ := refused.refusal
      exact ⟨error, by rw [← refusal, ← same]; rfl⟩
    · have fits := refused.fits
      rw [← same] at fits
      exact fits

theorem takes_phase (phase : Phase settings stream self)
    (state : self.proxy.state = .connected) (count : Nat) :
    Phase settings stream
        { self with
          proxy := { self.proxy with receiveBuffer := self.proxy.receiveBuffer.drop count }
          taken := self.taken ++ self.proxy.receiveBuffer.take count } ∧
      (self.proxy.receiveBuffer = [] → Phase settings stream
          { self with
            unread := self.unread.drop count
            taken := self.taken ++ self.unread.take count }) := by
  cases phase with
  | underway connecting => cases state.symm.trans connecting
  | refused refused => cases state.symm.trans refused
  | connected state connected =>
    refine ⟨.connected state { connected with outcome := ?_ }, fun empty =>
      .connected state { connected with outcome := ?_ }⟩
    · have same : self.taken ++ self.rest = (self.taken ++ self.proxy.receiveBuffer.take count) ++
            (self.proxy.receiveBuffer.drop count ++ (self.unread ++ self.unsent)) := by
        rw [append_assoc, ← append_assoc (self.proxy.receiveBuffer.take count),
          take_append_drop]
        rfl
      rw [connected.outcome, same]
      rfl
    · have same : self.taken ++ self.rest = (self.taken ++ self.unread.take count) ++
            (self.proxy.receiveBuffer ++ (self.unread.drop count ++ self.unsent)) := by
        rw [empty, nil_append, append_assoc,
          ← append_assoc (self.unread.take count), take_append_drop, rest, empty,
          nil_append]
      rw [connected.outcome, same]
      rfl

/-- What is read after the handshake does not look like a complete reply, or like one that the
client refuses. -/
def Unharmed (settings : ProxySettings) (self : ProxyConnection) (event : ProxyEvent) : Prop :=
  match event with
  | .reads count =>
    self.proxy.state = .connected → parse settings self.proxy.handshakeState
        (self.proxy.receiveBuffer ++ self.unread.take count) = .more
  | _ => True

instance (settings : ProxySettings) (self : ProxyConnection) (event : ProxyEvent) :
    Decidable (Unharmed settings self event) :=
  match event with
  | .reads _ => inferInstanceAs (Decidable (_ → _))
  | .socketEvent _ | .readAgain | .writes _ | .writeAgain | .sends _ | .takes _ =>
    inferInstanceAs (Decidable True)

theorem step_phase {event : ProxyEvent} {next : ProxyConnection}
    (phase : Phase settings stream self) (unharmed : Unharmed settings self event)
    (taken : step settings stream self event = some next) : Phase settings stream next := by
  unfold step at taken
  cases event with
  | socketEvent flag =>
    dsimp only at taken
    obtain ⟨idle, rfl⟩ := some_of_guard taken
    exact socketEvent_phase phase flag idle
  | reads count =>
    dsimp only at taken
    split at taken
    case h_1 calls reading =>
      obtain ⟨bound, rfl⟩ := some_of_guard taken
      have filled : self.unread ≠ [] := by
        intro empty
        have none := bound.2.2
        rw [empty, length_nil] at none
        omega
      have answered : self.proxy.answerRead settings (.bytes (self.unread.take count))
          calls = self.proxy.received settings (self.unread.take count) calls := by
        cases first : self.unread.take count with
        | nil =>
          rcases take_eq_nil_iff.mp first with zero | empty
          · omega
          · exact absurd empty filled
        | cons => rfl
      rw [answered]
      cases phase with
      | underway connecting earlier consumed underway =>
        exact underway_reads connecting underway filled
      | connected state connected => exact connected_reads state connected (unharmed state)
      | refused state refused => exact refused_reads state refused
    case h_2 => cases taken
  | readAgain =>
    dsimp only at taken
    split at taken
    case h_1 calls reading =>
      cases taken
      exact readAgain_phase phase reading
    case h_2 => cases taken
  | writes count =>
    dsimp only at taken
    split at taken
    case h_1 calls writing =>
      obtain ⟨-, rfl⟩ := some_of_guard taken
      exact writes_phase phase writing count
    case h_2 => cases taken
  | writeAgain =>
    dsimp only at taken
    split at taken
    case h_1 calls writing =>
      cases taken
      exact writeAgain_phase phase writing
    case h_2 => cases taken
  | sends count =>
    dsimp only at taken
    obtain ⟨released, rfl⟩ := some_of_guard taken
    exact sends_phase phase released.1 released.2
  | takes count =>
    dsimp only at taken
    obtain ⟨done, taken⟩ := of_guard taken
    obtain ⟨buffered, direct⟩ := takes_phase phase done.2 count
    split at taken
    case isTrue =>
      cases taken
      exact buffered
    case isFalse empty =>
      cases taken
      exact direct (not_not.mp empty)

theorem start_phase {proxy : SimpleProxy} (connects : connect settings = some proxy)
    (fits : settings.type = .http → HeaderFits stream) :
    Phase settings stream { proxy, unsent := stream } := by
  obtain ⟨-, rfl⟩ := some_of_guard connects
  refine .underway rfl [] [] ?_
  exact
    { whole := rfl
      fits := fun http => fits (by
        dsimp only [ProxySettings.initialState] at http
        cases type : settings.type with
        | http => rfl
        | socks4 | socks5 => exact absurd http (by simp [type]))
      messages := rfl
      short := Nat.le_refl _
      outcome := rfl
      releases := fun received => by
        rw [length_nil, Nat.zero_add, Nat.zero_add]
        rfl
      disciplined := Nat.zero_le _
      undecided := rfl
      untaken := rfl
      unnotified := rfl
      blocked := fun _ _ => rfl
      sending := fun impossible => absurd impossible (by simp) }

/-- No call is in progress and no event is due: all that the proxy may send has been read, and
the next layer does not keep the client from writing. -/
def Settled (settings : ProxySettings) (stream : List UInt8) (self : ProxyConnection) : Prop :=
  self.proxy.calls = [] ∧ self.proxy.canWrite = true ∧ self.unread = [] ∧
    (self.unsent = [] ∨
      releasable settings settings.initialState stream self.sent.length ≤ self.delivered stream)

structure Consistent (settings : ProxySettings) (stream : List UInt8)
    (connection : ProxyConnection) : Prop where
  connected : connection.proxy.state = .connected →
    handshakeReference settings settings.initialState stream =
        (connection.sent, .connected (connection.taken ++ connection.proxy.receiveBuffer ++
          connection.unread ++ connection.unsent)) ∧
      connection.proxy.notified = [none]
  failed : connection.proxy.state = .failed →
    handshakeReference settings settings.initialState stream = (connection.sent, .failed) ∧
      connection.proxy.notified ≠ [] ∧ none ∉ connection.proxy.notified
  connecting : connection.proxy.state = .connecting →
    connection.sent <+: (handshakeReference settings settings.initialState stream).1 ∧
      connection.proxy.notified = []
  settled : connection.proxy.state = .connecting → Settled settings stream connection →
    handshakeReference settings settings.initialState stream = (connection.sent, .waiting)

theorem Underway.waiting (underway : Underway settings stream self earlier consumed)
    (settled : Settled settings stream self) :
    handshakeReference settings settings.initialState stream = (self.sent, .waiting) := by
  obtain ⟨idle, writable, read, held⟩ := settled
  have written : self.proxy.sendBuffer = [] := by
    refine Classical.byContradiction fun sends => ?_
    have blocked := underway.blocked (by simp [idle]) sends
    cases blocked.symm.trans writable
  obtain ⟨sent, complete⟩ := underway.complete written
  have left : self.rest = self.proxy.receiveBuffer ++ self.unsent := by
    rw [rest, read, nil_append]
  have known := parse_prefix settings (fun http => left ▸ underway.fits http)
  rw [← left, underway.undecided] at known
  -- How much of the message is still missing
  have missing : self.unsent = [] ∨
      releasable settings self.proxy.handshakeState self.rest
        (settings.message self.proxy.handshakeState).length ≤
          self.proxy.receiveBuffer.length := by
    refine held.imp_right fun bound => ?_
    have total : self.delivered stream = consumed.length + self.proxy.receiveBuffer.length := by
      have whole := congrArg length underway.whole
      rw [left] at whole
      simp only [length_append] at whole
      unfold delivered
      omega
    rw [sent, length_append, underway.releases, total] at bound
    omega
  have undecided : parse settings self.proxy.handshakeState self.rest = .more := by
    rcases missing with none | bound
    · rw [left, none, append_nil]
      exact underway.undecided
    · cases reply : parse settings self.proxy.handshakeState self.rest with
      | more => rfl
      | fails | connects =>
        rw [releasable_last (Nat.le_refl _) (by simp [reply]), left, length_append] at bound
        have none : self.unsent = [] := length_eq_zero_iff.mp (by omega)
        rw [left, none, append_nil, underway.undecided] at reply
        cases reply
      | next later length =>
        obtain ⟨rfl, _⟩ := parse_next reply
        rw [← Nat.add_zero (settings.message _).length, releasable_next reply] at bound
        rw [left] at reply
        exact absurd underway.undecided ( parse_next_prefix reply (by omega))
  rw [underway.outcome, handshakeReference_more undecided, ← sent]

theorem Phase.consistent (phase : Phase settings stream self) :
    Consistent settings stream self := by
  have other {state : ProxyState} (known : self.proxy.state = state) {prop : Prop}
      {impossible : ProxyState} (differs : state ≠ impossible)
      (same : self.proxy.state = impossible) : prop :=
    absurd (known.symm.trans same) differs
  cases phase with
  | underway state earlier consumed underway =>
    exact
      { connected := other state (by simp)
        failed := other state (by simp)
        connecting := fun _ => by
          refine ⟨?_, underway.unnotified⟩
          rw [underway.outcome]
          have first := message_prefix settings self.proxy.handshakeState self.rest
          have sent : self.sent <+: earlier ++ settings.message self.proxy.handshakeState :=
            ⟨_, underway.messages⟩
          exact sent.trans ((prefix_append_right_inj earlier).mpr first)
        settled := fun _ => underway.waiting }
  | connected state connected =>
    exact
      { connected := fun _ => by
          refine ⟨?_, connected.notified⟩
          rw [connected.outcome, rest, append_assoc, append_assoc]
        failed := other state (by simp)
        connecting := other state (by simp)
        settled := other state (by simp) }
  | refused state refused =>
    exact
      { connected := other state (by simp)
        failed := fun _ => ⟨refused.outcome, refused.notified⟩
        connecting := other state (by simp)
        settled := other state (by simp) }

/-- However the bytes of the proxy are split over the reads, however the writes are blocked and
in whatever order the events come, the handshake ends as it does when all bytes are there at once,
as long as nothing is read after it that looks like a reply. -/
theorem handshake_consistent {proxy : SimpleProxy}
    (connects : connect settings = some proxy)
    (fits : settings.type = .http → HeaderFits stream)
    {trace : List (ProxyConnection × ProxyEvent)} {final : ProxyConnection}
    (run : Run (step settings stream) { proxy, unsent := stream } trace final)
    (unharmed : ∀ taken ∈ trace, Unharmed settings taken.1 taken.2) :
    Consistent settings stream final := by
  have phase : Phase settings stream final := run.invariant_of_forall (start_phase connects fits)
      (fun _ _ _ phase unharmed taken => step_phase phase unharmed taken) unharmed
  exact phase.consistent

def openSocks5 : ProxySettings where
  type := .socks5
  host := asciiBytes "host"
  port := 21
  addressType _ := .unknown
  ipv6LongForm address := address
  base64Encode text := text
  toWide text := text.map UInt8.toNat

def greetedStream : List UInt8 :=
  [5, 0] ++ [5, 0, 0, 1, 0, 0, 0, 0, 0, 0] ++ asciiBytes "220 ready"

def promptReply : List ProxyEvent :=
  [.socketEvent .connection, .writes 3, .sends 2, .socketEvent .read, .reads 2, .writes 11]

theorem handshake_consistent_prompt :
    ∃ proxy trace final, connect openSocks5 = some proxy ∧
      Run (step openSocks5 greetedStream) { proxy, unsent := greetedStream } trace final ∧
      (final.proxy.state = .connected ∧ final.taken = asciiBytes "220 ready") ∧
      Consistent openSocks5 greetedStream final := by
  obtain ⟨trace, final, run, checked⟩ :=
    @exists_run_of_execute _ _ (step openSocks5 greetedStream)
      { proxy :=
          { handshakeState := openSocks5.initialState
            sendBuffer := openSocks5.message openSocks5.initialState }
        unsent := greetedStream }
      (promptReply ++ [.sends 12, .reads 12, .sends 7, .readAgain, .takes 4, .takes 7])
      (fun trace final =>
        (decide (final.proxy.state = .connected) &&
          decide (final.taken = asciiBytes "220 ready")) &&
        trace.all fun taken => decide (Unharmed openSocks5 taken.1 taken.2)) (by decide +kernel)
  simp only [Bool.and_eq_true, decide_eq_true_eq, all_eq_true] at checked
  refine ⟨_, trace, final, rfl, run, checked.1, ?_⟩
  exact handshake_consistent rfl (fun http => absurd http (by decide)) run checked.2

/-- The loop that read the reply to the greeting goes on with the payload. -/
theorem payload_refused :
    ¬ ∀ (settings : ProxySettings) (stream : List UInt8) (proxy : SimpleProxy)
      (trace : List (ProxyConnection × ProxyEvent)) (final : ProxyConnection),
      connect settings = some proxy → (settings.type = .http → HeaderFits stream) →
      Run (step settings stream) { proxy, unsent := stream } trace final →
      Consistent settings stream final := by
  intro consistent
  obtain ⟨trace, final, run, failed⟩ := @exists_run_of_execute _ _ (step openSocks5 greetedStream)
      { proxy :=
          { handshakeState := openSocks5.initialState
            sendBuffer := openSocks5.message openSocks5.initialState }
        unsent := greetedStream }
      (promptReply ++ [.sends 10, .reads 10, .sends 9, .reads 9])
      (fun _ final => decide (final.proxy.state = .failed)) (by decide +kernel)
  have refused := consistent openSocks5 greetedStream _ trace final rfl
    (fun http => absurd http (by decide)) run
  have outcome := (refused.failed (of_decide_eq_true failed)).1
  have connects : (handshakeReference openSocks5 openSocks5.initialState greetedStream).2 ≠
      .failed := by
    decide +kernel
  exact connects (congrArg Prod.snd outcome)

end ProxyConnection

end FileZilla
