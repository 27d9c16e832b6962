import FileZilla.Engine.ProxyRequests

namespace FileZilla

open List

/-! What any bytes of a proxy do to the client: its buffer is accessed by explicit indices here,
and an access outside of it, or through a null pointer, has no result. -/

def matchesAt (buffer : List UInt8) (i : Nat) : List UInt8 → Option Bool
  | [] => some true
  | char :: chars =>
    buffer[i]?.bind fun byte => if byte = char then matchesAt buffer (i + 1) chars else some false

/-- The loop that looks for the end of the header, in at most `count` passes -/
def searchHeader (buffer : List UInt8) : Nat → Nat → Option (Option Nat)
  | 0, _ => some none
  | count + 1, i =>
    if i + 4 ≤ buffer.length then
      (matchesAt buffer i [13, 10, 13, 10]).bind fun here =>
        if here then some (some i) else searchHeader buffer count (i + 1)
    else some none

/-- The search of `strchr`, which ends at a NUL and must not leave the buffer -/
def strchr (char : UInt8) : List UInt8 → Option (Option Nat)
  | [] => none
  | byte :: rest =>
    if byte = char then some (some 0)
    else if byte = 0 then some none
    else (strchr char rest).map (·.map (· + 1))

namespace ProxyReply

def checkedHttp (settings : ProxySettings) (buffer : List UInt8) : Option ProxyReply :=
  (searchHeader buffer buffer.length 0).bind fun found =>
    match found with
    | none => some (if 2048 ≤ buffer.length then .fails .noMemory else .more)
    | some i =>
      (strchr 13 buffer).bind fun eol =>
        -- `*eol = 0`
        eol.map fun eol =>
          let reply := settings.toWide ((buffer.set eol 0).takeWhile (· != 0))
          if reply.take 10 ≠ wide "HTTP/1.1 2" ∧ reply.take 10 ≠ wide "HTTP/1.0 2" then
            .fails .connectionReset
          else .connects (i + 4)

variable (buffer : List UInt8)

def checkedSocks4 : Option ProxyReply :=
  if buffer.length < 8 then some .more
  else buffer[1]?.map fun code => if code ≠ 0x5A then .fails .connectionAborted else .connects 8

def checkedMethod : Option ProxyReply :=
  if buffer.length < 2 then some .more
  else buffer[1]?.map fun method =>
    if method = 0 then .next .socks5Request 2
    else if method = 2 then .next .socks5Auth 2
    else .fails .connectionAborted

def checkedAuth : Option ProxyReply :=
  if buffer.length < 2 then some .more
  else buffer[1]?.map fun status =>
    if status ≠ 0 then .fails .connectionAborted else .next .socks5Request 2

def checkedRequest : Option ProxyReply :=
  if buffer.length < 2 then some .more
  else buffer[1]?.bind fun status =>
    if status ≠ 0 then some (.fails .connectionAborted)
    else if buffer.length < 4 then some .more
    else buffer[3]?.bind fun type =>
      if type = 1 then some (if buffer.length < 10 then .more else .connects 10)
      else if type = 3 then
        if buffer.length < 5 then some .more
        else buffer[4]?.map fun length =>
          if buffer.length < length.toNat + 7 then .more else .connects (length.toNat + 7)
      else if type = 4 then some (if buffer.length < 22 then .more else .connects 22)
      else some (.fails .connectionAborted)

def checked (settings : ProxySettings) (state : HandshakeState) (buffer : List UInt8) :
    Option ProxyReply :=
  let versioned (version : UInt8) (parsed : Option ProxyReply) : Option ProxyReply :=
    buffer[0]?.bind fun own => if own ≠ version then some (.fails .connectionAborted) else parsed
  match state with
  | .httpWait => checkedHttp settings buffer
  | .socks4Handshake => checkedSocks4 buffer
  | .socks5Method => versioned 5 (checkedMethod buffer)
  | .socks5Auth => versioned 1 (checkedAuth buffer)
  | .socks5Request => versioned 5 (checkedRequest buffer)

/-- The header is complete, and a NUL stands before the first carriage return. -/
def NulFirst : Prop :=
  headerEnd buffer ≠ none ∧ 0 ∈ buffer.takeWhile (· != 13)

instance (buffer : List UInt8) : Decidable (NulFirst buffer) :=
  inferInstanceAs (Decidable (_ ∧ _))

end ProxyReply

structure ProxyProcess where
  session : ProxySession
  crashed : Bool := false

namespace ProxyProcess

/-- The bytes that are read are parsed, unless they come too early. -/
def parses (self : ProxyProcess) : LayerEvent → Option (List UInt8)
  | .read (.bytes bytes) =>
    let proxy := self.session.proxy
    if bytes = [] ∨ proxy.socks5 = true ∧ proxy.sendBuffer ≠ [] then none
    else some (proxy.receiveBuffer ++ bytes)
  | _ => none

def step (settings : ProxySettings) (self : ProxyProcess) (event : LayerEvent) :
    Option ProxyProcess :=
  if self.crashed then none
  else
    (self.session.step settings event).map fun next =>
      match self.parses event with
      | some buffer =>
        if ProxyReply.checked settings self.session.proxy.handshakeState buffer = none then
          { self with crashed := true }
        else { self with session := next }
      | none => { self with session := next }

def Clean (self : ProxyProcess) (event : LayerEvent) : Prop :=
  ∀ buffer, self.parses event = some buffer →
    self.session.proxy.handshakeState = .httpWait → ¬ ProxyReply.NulFirst buffer

/-- The accesses went well, the buffer is small, and the client waits for more, has failed, or has
connected. -/
structure Handled (process : ProxyProcess) : Prop where
  within : process.crashed = false
  bounded : process.session.proxy.receiveBuffer.length < 5120
  waits : process.session.proxy.state = .connecting → process.session.proxy.canRead = true →
    .onReceive ∈ process.session.proxy.calls
  fails : process.session.proxy.state = .failed →
    ∃ error, some error ∈ process.session.proxy.notified
  connects : process.session.proxy.state = .connected → none ∈ process.session.proxy.notified

end ProxyProcess

variable {buffer : List UInt8}

open Option (bind_some getD_some map_some)

theorem matchesAt_eq {i : Nat} {chars : List UInt8} (inside : i + chars.length ≤ buffer.length) :
    matchesAt buffer i chars = some (chars.isPrefixOf (buffer.drop i)) := by
  induction chars generalizing i with
  | nil => simp [matchesAt]
  | cons char chars induction =>
    rw [length_cons] at inside
    have here : i < buffer.length := by omega
    rw [matchesAt, getElem?_eq_getElem here, drop_eq_getElem_cons here,
      isPrefixOf_cons₂, bind_some, induction (by omega)]
    by_cases same : buffer[i] = char
    · simp [same]
    · simp [same, Ne.symm same]

theorem searchHeader_eq {count i : Nat} (enough : buffer.length ≤ count + i) :
    searchHeader buffer count i = some ((headerEnd (buffer.drop i)).map (· + i)) := by
  have short (late : buffer.length < i + 4) : headerEnd (buffer.drop i) = none := by
    cases found : headerEnd (buffer.drop i) with
    | none => rfl
    | some j =>
      have long := headerEnd_length found
      rw [length_drop] at long
      omega
  induction count generalizing i with
  | zero =>
    rw [short (by omega)]
    rfl
  | succ count induction =>
    rw [searchHeader]
    split
    case isFalse late =>
      rw [short (by omega)]
      rfl
    case isTrue inside =>
      have here : i < buffer.length := by omega
      rw [matchesAt_eq inside, bind_some, drop_eq_getElem_cons here, headerEnd,
        ← drop_eq_getElem_cons here]
      split
      case isTrue => simp
      case isFalse =>
        have rest := @induction (i + 1) (by omega) fun late => by
          cases found : headerEnd (buffer.drop (i + 1)) with
          | none => rfl
          | some j =>
            have long := headerEnd_length found
            rw [length_drop] at long
            omega
        rw [rest, Option.map_map]
        congr 2
        funext j
        simp only [Function.comp_apply]
        omega

theorem strchr_eq (found : 13 ∈ buffer) :
    strchr 13 buffer = some
      (if 0 ∈ buffer.takeWhile (· != 13) then none
        else some (buffer.takeWhile (· != 13)).length) := by
  induction buffer with
  | nil => cases found
  | cons byte buffer induction =>
    by_cases end_ : byte = 13
    · simp [strchr, end_]
    · have later : 13 ∈ buffer := (mem_cons.mp found).resolve_left fun same => end_ same.symm
      have kept : (byte :: buffer).takeWhile (· != 13) = byte :: buffer.takeWhile (· != 13) :=
        takeWhile_cons_of_pos (bne_iff_ne.mpr end_)
      rw [strchr, if_neg end_, kept, induction later]
      by_cases null : byte = 0
      · simp [null]
      · rw [if_neg null]
        simp only [mem_cons, Ne.symm null, false_or, map_some, length_cons]
        split <;> rfl

namespace ProxyReply

variable {settings : ProxySettings}

theorem takeWhile_line {line rest : List UInt8} {last : UInt8} (without : last ∉ line) :
    (line ++ last :: rest).takeWhile (· != last) = line := by
  have all : ∀ byte ∈ line, (byte != last) = true := by
    intro byte member
    exact bne_iff_ne.mpr fun same => without (same ▸ member)
  rw [takeWhile_append_of_pos all, takeWhile_cons_of_neg (by simp), append_nil]

theorem terminated_eq {line rest : List UInt8} (without : 13 ∉ line) (clean : 0 ∉ line) :
    ((line ++ 13 :: rest).set line.length 0).takeWhile (· != 0) = statusLine (line ++ 13 :: rest) := by
  have all : ∀ byte ∈ line, (byte != 13 && byte != 0) = true := by
    intro byte member
    exact Bool.and_eq_true_iff.mpr ⟨bne_iff_ne.mpr fun same => without (same ▸ member),
      bne_iff_ne.mpr fun same => clean (same ▸ member)⟩
  have cut : (line ++ 13 :: rest).set line.length 0 = line ++ 0 :: rest := by
    rw [set_append_right _ _ (Nat.le_refl _), Nat.sub_self, set_cons_zero]
  rw [cut, takeWhile_line clean, statusLine, takeWhile_append_of_pos all,
    takeWhile_cons_of_neg (by simp), append_nil]

theorem checkedHttp_eq (buffer : List UInt8) :
    checkedHttp settings buffer =
      if NulFirst buffer then none else some (parseHttp settings buffer) := by
  unfold checkedHttp parseHttp
  rw [searchHeader_eq (Nat.le_add_right _ 0), drop_zero]
  cases found : headerEnd buffer with
  | none =>
    have missing : ¬ NulFirst buffer := fun null => null.1 found
    rw [if_neg missing]
    rfl
  | some i =>
    have ends : 13 ∈ buffer := by
      obtain ⟨before, rest, rfl, _⟩ := headerEnd_split found
      simp
    rw [map_some, bind_some]
    dsimp only
    rw [strchr_eq ends, bind_some]
    by_cases null : 0 ∈ buffer.takeWhile (· != 13)
    · have first : NulFirst buffer := ⟨by simp [found], null⟩
      rw [if_pos null, if_pos first]
      rfl
    · obtain ⟨line, rest, rfl, without⟩ := eq_append_cons_of_mem ends
      rw [if_neg null, if_neg fun first => null first.2]
      rw [takeWhile_line without] at null ⊢
      rw [map_some, terminated_eq without null]

theorem checkedSocks4_eq (buffer : List UInt8) :
    checkedSocks4 buffer = some (parseSocks4 buffer) := by
  unfold checkedSocks4 parseSocks4
  split
  case isTrue => rfl
  case isFalse long =>
    rw [getD_eq_getElem?_getD, getElem?_eq_getElem (by omega : 1 < buffer.length),
      map_some, getD_some]

theorem checkedMethod_eq (buffer : List UInt8) :
    checkedMethod buffer = some (parseMethod buffer) := by
  unfold checkedMethod parseMethod
  split
  case isTrue => rfl
  case isFalse long =>
    rw [getD_eq_getElem?_getD, getElem?_eq_getElem (by omega : 1 < buffer.length),
      map_some, getD_some]

theorem checkedAuth_eq (buffer : List UInt8) :
    checkedAuth buffer = some (parseAuth buffer) := by
  unfold checkedAuth parseAuth
  split
  case isTrue => rfl
  case isFalse long =>
    rw [getD_eq_getElem?_getD, getElem?_eq_getElem (by omega : 1 < buffer.length),
      map_some, getD_some]

theorem checkedRequest_eq (buffer : List UInt8) :
    checkedRequest buffer = some (parseRequest buffer) := by
  have access {i : Nat} (inside : i < buffer.length) : buffer[i]? = some (buffer.getD i 0) := by
    rw [getD_eq_getElem?_getD, getElem?_eq_getElem inside, getD_some]
  unfold checkedRequest parseRequest
  split
  case isTrue => rfl
  case isFalse two =>
    rw [access (by omega : 1 < buffer.length), bind_some]
    split
    case isTrue => rfl
    case isFalse =>
      split
      case isTrue => rfl
      case isFalse four =>
        rw [access (by omega : 3 < buffer.length), bind_some]
        split
        case isTrue => rfl
        case isFalse =>
          split
          case isTrue =>
            split
            case isTrue => rfl
            case isFalse five =>
              rw [access (by omega : 4 < buffer.length), map_some]
          case isFalse => split <;> rfl

/-- Nothing is accessed outside of the buffer, and only the header of an HTTP proxy may have no
end of line that is found. -/
theorem checked_eq (state : HandshakeState) (some : buffer ≠ []) :
    checked settings state buffer =
      if state = .httpWait ∧ NulFirst buffer then none else .some (parse settings state buffer) := by
  cases buffer with
  | nil => exact absurd rfl some
  | cons version rest =>
    cases state with
    | httpWait => simpa [checked, parse] using checkedHttp_eq _
    | socks4Handshake => simpa [checked, parse] using checkedSocks4_eq _
    | socks5Method =>
      simp only [checked, parse, checkedMethod_eq, getElem?_cons_zero, bind_some]
      split <;> rfl
    | socks5Auth =>
      simp only [checked, parse, checkedAuth_eq, getElem?_cons_zero, bind_some]
      split <;> rfl
    | socks5Request =>
      simp only [checked, parse, checkedRequest_eq, getElem?_cons_zero, bind_some]
      split <;> rfl

end ProxyReply

/-- How much can be left in the buffer -/
def HandshakeState.cap : HandshakeState → Nat
  | httpWait => 2047
  | socks4Handshake => 7
  | socks5Method => 1
  | socks5Auth => 1023
  | socks5Request => 2045

theorem HandshakeState.cap_le (state : HandshakeState) : state.cap ≤ 2047 := by
  cases state <;> decide

theorem HandshakeState.remaining_le (state : HandshakeState) : state.remaining ≤ 2 := by
  cases state <;> decide

theorem ProxyReply.parse_more {settings : ProxySettings} {state : HandshakeState}
    (reply : parse settings state buffer = .more) : buffer.length ≤ state.cap := by
  cases buffer with
  | nil => exact Nat.zero_le _
  | cons version rest =>
    cases state with
    | httpWait =>
      unfold parse parseHttp at reply
      dsimp only at reply
      split at reply
      · split at reply
        · cases reply
        case isFalse short => exact Nat.le_of_not_lt fun long => short long
      · split at reply <;> cases reply
    | socks4Handshake =>
      unfold parse parseSocks4 at reply
      dsimp only at reply
      split at reply
      case isTrue short => exact Nat.le_of_lt_succ short
      case isFalse => split at reply <;> cases reply
    | socks5Method =>
      unfold parse parseMethod at reply
      dsimp only at reply
      repeat' split at reply
      all_goals cases reply
      case refl short => exact Nat.le_of_lt_succ short
    | socks5Auth =>
      unfold parse parseAuth at reply
      dsimp only at reply
      repeat' split at reply
      all_goals cases reply
      case refl short => exact Nat.le_trans (Nat.le_of_lt short) (by decide)
    | socks5Request =>
      have length := ((version :: rest).getD 4 0).toNat_lt
      unfold parse parseRequest at reply
      dsimp only at reply
      repeat' split at reply
      all_goals cases reply
      all_goals
        change (version :: rest).length ≤ 2045
        omega

/-- What holds of the client when it has these calls in progress. While a nested call has
decided, each call around it may read once more. -/
structure Ready (proxy : SimpleProxy) (calls : List ProxyCall) : Prop where
  depth : calls.count .onReceive + proxy.handshakeState.remaining ≤ 3
  small : proxy.state = .connecting → proxy.receiveBuffer.length ≤ proxy.handshakeState.cap
  large : proxy.state ≠ .connecting → proxy.receiveBuffer.length +
    1024 * (calls.count .onReceive + proxy.handshakeState.remaining) ≤ 5119
  fails : proxy.state = .failed → ∃ error, some error ∈ proxy.notified
  connects : proxy.state = .connected → none ∈ proxy.notified

structure Tame (proxy : SimpleProxy) : Prop where
  ready : Ready proxy proxy.calls
  sending : proxy.calls.head? = some .onSend →
    proxy.calls.count .onReceive + proxy.handshakeState.remaining ≤ 2
  waits : proxy.state = .connecting → proxy.canRead = true → .onReceive ∈ proxy.calls

namespace Ready

variable {proxy : SimpleProxy} {calls : List ProxyCall}

theorem flow (ready : Ready proxy calls) {canRead canWrite : Bool} {left : List ProxyCall}
    {sendBuffer : List UInt8} :
    Ready { proxy with canRead, canWrite, sendBuffer, calls := left } calls :=
  ⟨ready.depth, ready.small, ready.large, ready.fails, ready.connects⟩

theorem fewer (ready : Ready proxy calls) {left : List ProxyCall}
    (fewer : left.count .onReceive ≤ calls.count .onReceive) : Ready proxy left := by
  have depth := ready.depth
  exact ⟨by omega, ready.small, fun done => by have := ready.large done; omega, ready.fails,
    ready.connects⟩

theorem fail (error : ProxyError) (depth : calls.count .onReceive + proxy.handshakeState.remaining ≤ 3)
    (large : proxy.receiveBuffer.length +
      1024 * (calls.count .onReceive + proxy.handshakeState.remaining) ≤ 5119) :
    Ready (proxy.fail error) calls :=
  ⟨depth, fun connecting => (by cases connecting), fun _ => large,
    fun _ => ⟨error, mem_append_right _ mem_cons_self⟩,
    fun connected => by cases connected⟩

theorem popped (ready : Ready proxy (.onReceive :: calls)) :
    calls.count .onReceive + proxy.handshakeState.remaining ≤ 2 ∧
      proxy.receiveBuffer.length + 1024 +
        1024 * (calls.count .onReceive + proxy.handshakeState.remaining) ≤ 5119 := by
  have depth := ready.depth
  have large := ready.large
  have cap := proxy.handshakeState.cap_le
  rw [count_cons_self] at depth large
  refine ⟨by omega, ?_⟩
  rcases Classical.em (proxy.state = .connecting) with connecting | done
  · have small := ready.small connecting
    omega
  · have large := large done
    omega

theorem leave (ready : Ready proxy calls)
    (waits : proxy.state = .connecting → proxy.canRead = true → .onReceive ∈ calls) :
    Tame (proxy.leave calls) := by
  induction calls with
  | nil => exact ⟨ready.flow, fun sends => (by cases sends), waits⟩
  | cons call calls induction =>
    cases call with
    | onSend =>
      refine induction (ready.fewer (Nat.le_of_eq (by rw [count_cons_of_ne (by decide)])))
        fun connecting canRead => ?_
      exact (mem_cons.mp (waits connecting canRead)).resolve_left (by decide)
    | onReceive =>
      unfold SimpleProxy.leave
      split
      case isTrue => exact ⟨ready.flow, fun sends => (by cases sends), waits⟩
      case isFalse silent =>
        exact induction (ready.fewer (count_le_count_cons)) fun _ canRead =>
          absurd canRead silent

theorem onReceive (ready : Ready proxy calls)
    (room : calls.count .onReceive + proxy.handshakeState.remaining ≤ 2) :
    Tame (proxy.onReceive calls) := by
  unfold SimpleProxy.onReceive
  dsimp only
  split
  case isTrue done => exact leave ready.flow fun connecting => absurd connecting done
  case isFalse connecting =>
    rw [not_not] at connecting
    refine ⟨⟨?_, ready.small, fun done => absurd connecting done, ready.fails, ready.connects⟩,
      fun sends => (by cases sends), fun _ _ => mem_cons_self⟩
    rw [count_cons_self]
    dsimp only
    omega

theorem onSend (ready : Ready proxy calls)
    (room : calls.count .onReceive + proxy.handshakeState.remaining ≤ 2 ∨
      proxy.state ≠ .connecting ∨ proxy.sendBuffer = [])
    (waits : proxy.state = .connecting → proxy.canRead = true → .onReceive ∈ calls) :
    Tame (proxy.onSend calls) := by
  unfold SimpleProxy.onSend
  dsimp only
  split
  case isTrue => exact leave ready.flow waits
  case isFalse sends =>
    have count : (ProxyCall.onSend :: calls).count .onReceive = calls.count .onReceive :=
      count_cons_of_ne (by decide)
    refine ⟨(ready.fewer (Nat.le_of_eq count)).flow, fun _ => ?_, fun connecting canRead =>
      mem_cons_of_mem _ (waits connecting canRead)⟩
    dsimp only
    rw [count]
    exact room.resolve_right sends

end Ready

namespace Tame

variable {settings : ProxySettings} {proxy : SimpleProxy} {calls : List ProxyCall}

theorem failed (ready : Ready proxy (.onReceive :: calls)) (error : ProxyError) :
    Tame ((proxy.fail error).leave calls) := by
  obtain ⟨depth, large⟩ := ready.popped
  exact Ready.leave (Ready.fail error (by omega) (by omega)) fun connecting => by cases connecting

theorem received (ready : Ready proxy (.onReceive :: calls)) {bytes : List UInt8}
    (fits : bytes.length ≤ 1024) : Tame (proxy.received settings bytes calls) := by
  obtain ⟨depth, large⟩ := ready.popped
  have longer : (proxy.receiveBuffer ++ bytes).length + 1024 *
      (calls.count .onReceive + proxy.handshakeState.remaining) ≤ 5119 := by
    rw [length_append]
    omega
  have fails (error : ProxyError) :
      Tame ((SimpleProxy.fail error
        { proxy with receiveBuffer := proxy.receiveBuffer ++ bytes }).leave calls) :=
    Ready.leave (Ready.fail error (Nat.le_succ_of_le depth) longer)
      fun connecting => by cases connecting
  unfold SimpleProxy.received
  dsimp only
  split
  case isTrue => exact fails _
  case isFalse =>
    cases reply : ProxyReply.parse settings proxy.handshakeState (proxy.receiveBuffer ++ bytes) with
    | fails error => exact fails error
    | more =>
      have short := ProxyReply.parse_more reply
      have cap := proxy.handshakeState.cap_le
      have whole := ready.depth
      refine ⟨⟨whole, fun _ => short, fun _ => ?_, ready.fails, ready.connects⟩,
        fun sends => (by cases sends), fun _ _ => mem_cons_self⟩
      dsimp only
      omega
    | connects length =>
      refine Ready.leave ⟨Nat.le_succ_of_le depth, fun connecting => (by cases connecting),
        fun _ => ?_, fun failed => (by cases failed),
        fun _ => mem_append_right _ mem_cons_self⟩ fun connecting => by cases connecting
      dsimp only
      rw [length_drop]
      omega
    | next later length =>
      obtain ⟨rfl, long, place⟩ := ProxyReply.parse_next reply
      have fewer := ProxyReply.remaining_lt reply
      have whole := ready.depth
      have next : Ready
          { proxy with
            handshakeState := later
            receiveBuffer := (proxy.receiveBuffer ++ bytes).drop 2
            sendBuffer := proxy.sendBuffer ++ settings.message later } (.onReceive :: calls) := by
        refine ⟨by dsimp only; omega, fun connecting => ?_, fun done => ?_, ready.fails,
          ready.connects⟩
        · have small := ready.small connecting
          dsimp only
          rw [length_drop, length_append]
          rcases place with ⟨method, rfl⟩ | ⟨method | auth, rfl⟩
          · rw [method] at small
            unfold HandshakeState.cap at small ⊢
            dsimp only at small ⊢
            omega
          · rw [method] at small
            unfold HandshakeState.cap at small ⊢
            dsimp only at small ⊢
            omega
          · rw [auth] at small
            unfold HandshakeState.cap at small ⊢
            dsimp only at small ⊢
            omega
        · have large := ready.large done
          dsimp only
          rw [length_drop, length_append]
          omega
      dsimp only
      split
      · exact next.onSend (.inl (by dsimp only; omega)) fun _ _ => mem_cons_self
      · exact ⟨next.flow, fun sends => (by cases sends), fun _ _ => mem_cons_self⟩

theorem answerRead (tame : Tame proxy) (top : proxy.calls = .onReceive :: calls)
    {answer : ReadAnswer} (fits : ProxySession.fits answer = true) :
    Tame (proxy.answerRead settings answer calls) := by
  have ready := tame.ready
  rw [top] at ready
  cases answer with
  | again =>
    exact Ready.leave (ready.fewer count_le_count_cons).flow fun _ canRead => by cases canRead
  | error error => exact failed ready _
  | bytes bytes =>
    cases bytes with
    | nil => exact failed ready _
    | cons byte bytes => exact received ready (of_decide_eq_true fits)

theorem answerWrite (tame : Tame proxy) (top : proxy.calls = .onSend :: calls)
    (answer : WriteAnswer) : Tame (proxy.answerWrite answer calls) := by
  have count : (ProxyCall.onSend :: calls).count .onReceive = calls.count .onReceive :=
    count_cons_of_ne (by decide)
  have ready := tame.ready.fewer (Nat.le_of_eq (by rw [top, count] :
    calls.count .onReceive = proxy.calls.count .onReceive))
  have room := tame.sending (by rw [top]; rfl)
  rw [top, count] at room
  have waits (connecting : proxy.state = .connecting) (canRead : proxy.canRead = true) :
      .onReceive ∈ calls := by
    have member := tame.waits connecting canRead
    rw [top] at member
    exact (mem_cons.mp member).resolve_left (by decide)
  cases answer with
  | again => exact ready.flow.leave waits
  | error error =>
    refine Ready.leave (Ready.fail _ ready.depth ?_) fun connecting => by cases connecting
    rcases Classical.em (proxy.state = .connecting) with connecting | done
    · have small := ready.small connecting
      have cap := proxy.handshakeState.cap_le
      omega
    · exact ready.large done
  | written written =>
    unfold SimpleProxy.answerWrite
    dsimp only
    split
    · split
      · have again : Ready proxy (.onSend :: calls) := ready.fewer (Nat.le_of_eq count)
        exact again.flow.onReceive (by dsimp only; omega)
      · exact ready.flow.leave waits
    · refine ⟨(ready.fewer (Nat.le_of_eq count)).flow, fun _ => ?_, fun connecting canRead =>
        mem_cons_of_mem _ (waits connecting canRead)⟩
      dsimp only
      omega

theorem onSocketEvent (tame : Tame proxy) (idle : proxy.calls = []) (flag : SocketFlag)
    (error : Option Nat) : Tame (proxy.onSocketEvent flag error) := by
  have ready := tame.ready
  have waits := tame.waits
  have remaining := proxy.handshakeState.remaining_le
  rw [idle] at ready waits
  have room : ([] : List ProxyCall).count .onReceive + proxy.handshakeState.remaining ≤ 2 := by
    rw [count_nil]
    omega
  unfold SimpleProxy.onSocketEvent
  split
  case isTrue => exact tame
  case isFalse connecting =>
    rw [not_not] at connecting
    cases error with
    | some error =>
      have small := ready.small connecting
      have cap := proxy.handshakeState.cap_le
      have fails := Ready.fail (.layer error) ready.depth (by omega)
      refine ⟨?_, fun sends => ?_, fun connecting => by cases connecting⟩
      · rw [show (proxy.fail (.layer error)).calls = [] from idle]
        exact fails
      · rw [show (proxy.fail (.layer error)).calls = [] from idle] at sends
        cases sends
    | none =>
      cases flag with
      | connection | write => exact ready.onSend (.inl room) waits
      | read => exact ready.onReceive room

theorem step {session next : ProxySession} {event : LayerEvent} (tame : Tame session.proxy)
    (taken : session.step settings event = some next) : Tame next.proxy := by
  unfold ProxySession.step at taken
  split at taken
  case h_1 flag error =>
    obtain ⟨idle, rfl⟩ := some_of_guard taken
    exact tame.onSocketEvent idle flag error
  case h_2 answer =>
    split at taken
    case h_2 => cases taken
    case h_1 calls top =>
      obtain ⟨fits, rfl⟩ := some_of_guard taken
      exact tame.answerRead top fits
  case h_3 answer =>
    split at taken
    case h_2 => cases taken
    case h_1 calls top =>
      obtain ⟨-, rfl⟩ := some_of_guard taken
      exact tame.answerWrite top answer

end Tame

namespace ProxyProcess

variable {settings : ProxySettings}

theorem parses_some {process : ProxyProcess} {event : LayerEvent}
    (parses : process.parses event = some buffer) : buffer ≠ [] := by
  unfold ProxyProcess.parses at parses
  split at parses
  case h_2 => cases parses
  case h_1 bytes =>
    dsimp only at parses
    obtain ⟨onTime, rfl⟩ := some_of_refusal parses
    exact append_ne_nil_of_right_ne_nil _ (not_or.mp onTime).1

theorem step_cases {process next : ProxyProcess} {event : LayerEvent}
    (taken : step settings process event = some next) :
    process.crashed = false ∧ (process.Clean event ∧ next.crashed = false ∧
        process.session.step settings event = some next.session ∨
      ¬ process.Clean event ∧ next.crashed = true ∧ next.session = process.session) := by
  obtain ⟨running, taken⟩ := of_refusal taken
  have running := (Bool.not_eq_true _).mp running
  obtain ⟨session, own, rfl⟩ := Option.map_eq_some_iff.mp taken
  refine ⟨running, ?_⟩
  cases parsed : process.parses event with
  | none =>
    refine .inl ⟨fun buffer parses => ?_, running, own⟩
    cases parsed.symm.trans parses
  | some buffer =>
    dsimp only
    rw [ProxyReply.checked_eq _ (parses_some parsed)]
    by_cases null : process.session.proxy.handshakeState = .httpWait ∧ ProxyReply.NulFirst buffer
    · rw [if_pos null, if_pos rfl]
      exact .inr ⟨fun clean => clean buffer parsed null.1 null.2, rfl, rfl⟩
    · rw [if_neg null, if_neg (by simp)]
      refine .inl ⟨fun other parses http first => null ⟨http, ?_⟩, running, own⟩
      cases parsed.symm.trans parses
      exact first

variable {proxy : SimpleProxy} {trace : List (ProxyProcess × LayerEvent)} {process : ProxyProcess}

theorem run_tame (start : Tame proxy)
    (run : Run (step settings) { session := { proxy } } trace process) :
    Tame process.session.proxy ∧
      (process.crashed = false ↔ ∀ taken ∈ trace, taken.1.Clean taken.2) := by
  induction run with
  | refl => exact ⟨start, fun _ _ member => (by cases member), fun _ => rfl⟩
  | @step trace process next event run taken induction =>
    obtain ⟨running, ⟨clean, runs, own⟩ | ⟨dirty, crashed, same⟩⟩ := step_cases taken
    · refine ⟨induction.1.step own, fun _ => ?_, fun _ => runs⟩
      exact forall_mem_append.mpr ⟨induction.2.mp running,
        forall_mem_singleton.mpr clean⟩
    · refine ⟨same ▸ induction.1, fun runs => ?_, fun allClean => ?_⟩
      · cases crashed.symm.trans runs
      · exact absurd (allClean (process, event) (by simp)) dirty

theorem connect_tame (connected : SimpleProxy.connect settings = some proxy) : Tame proxy := by
  obtain ⟨-, rfl⟩ := some_of_guard connected
  have remaining := settings.initialState.remaining_le
  refine ⟨⟨Nat.le_succ_of_le (by simpa using remaining), fun _ => Nat.zero_le _,
    fun done => absurd rfl done, fun failed => (by cases failed),
    fun connected => (by cases connected)⟩, fun sends => (by cases sends),
    fun _ canRead => by cases canRead⟩

/-- Whatever a proxy sends is handled unless a NUL stands in the first line of the header. -/
theorem replies_handled_iff (connected : SimpleProxy.connect settings = some proxy)
    (run : Run (step settings) { session := { proxy } } trace process) :
    process.Handled ↔ ∀ taken ∈ trace, taken.1.Clean taken.2 := by
  obtain ⟨tame, runs⟩ := run_tame (connect_tame connected) run
  refine ⟨fun handled => runs.mp handled.within, fun clean => ?_⟩
  refine ⟨runs.mpr clean, ?_, tame.waits, tame.ready.fails, tame.ready.connects⟩
  rcases Classical.em (process.session.proxy.state = .connecting) with connecting | done
  · have small := tame.ready.small connecting
    have cap := process.session.proxy.handshakeState.cap_le
    omega
  · have large := tame.ready.large done
    omega

def httpProxy : ProxySettings := { ProxyConnection.openSocks5 with type := .http }

theorem replies_handled_http :
    ∃ proxy trace process, SimpleProxy.connect httpProxy = some proxy ∧
      Run (step httpProxy) { session := { proxy } } trace process ∧
      process.session.proxy.state = .connected ∧ process.Handled := by
  obtain ⟨trace, process, run, checked⟩ :=
    @exists_run_of_execute _ _ (step httpProxy)
      { session :=
          { proxy :=
              { handshakeState := httpProxy.initialState
                sendBuffer := httpProxy.message httpProxy.initialState } } }
      [.socketEvent .read none, .read (.bytes (asciiBytes "HTTP/1.1 200 OK\r")),
        .read (.bytes (asciiBytes "\n\r\n220"))]
      (fun trace process => decide (process.session.proxy.state = .connected) &&
        trace.all fun taken => decide (∀ buffer ∈ taken.1.parses taken.2,
          ¬ ProxyReply.NulFirst buffer)) (by decide +kernel)
  simp only [Bool.and_eq_true, decide_eq_true_eq, all_eq_true] at checked
  refine ⟨_, trace, process, rfl, run, checked.1, ?_⟩
  exact (replies_handled_iff rfl run).mpr fun taken member buffer parses _ =>
    checked.2 taken member buffer parses

theorem replies_crash :
    ¬ ∀ (settings : ProxySettings) (proxy : SimpleProxy) (trace : List (ProxyProcess × LayerEvent))
      (process : ProxyProcess), SimpleProxy.connect settings = some proxy →
      Run (step settings) { session := { proxy } } trace process → process.Handled := by
  intro handled
  obtain ⟨trace, process, run, crashed⟩ :=
    @exists_run_of_execute _ _ (step httpProxy)
      { session :=
          { proxy :=
              { handshakeState := httpProxy.initialState
                sendBuffer := httpProxy.message httpProxy.initialState } } }
      [.socketEvent .read none, .read (.bytes [0, 13, 10, 13, 10])]
      (fun _ process => process.crashed) (by decide +kernel)
  have within := (handled httpProxy _ trace process rfl run).within
  cases crashed.symm.trans within

end ProxyProcess

end FileZilla
