import Mathlib.Data.FinEnum
import FileZilla.Engine.ProxyHandshake

namespace FileZilla

open List

variable (text : List UInt8)

def decimal : Nat :=
  text.foldl (fun value char => value * 10 + (char.toNat - 48)) 0

def octet : Option Nat :=
  if text ≠ [] ∧ (∀ char ∈ text, 48 ≤ char ∧ char ≤ 57) ∧ decimal text < 256 then
    some (decimal text)
  else none

def dottedQuad (host : List UInt8) : Option (List Nat) :=
  match host.splitOn 46 with
  | [first, second, third, fourth] => [first, second, third, fourth].mapM octet
  | _ => none

/-- A group of an IPv6 literal, which has one to four digits -/
def hexGroup : Option Nat :=
  if text ≠ [] ∧ text.length ≤ 4 ∧ ∀ char ∈ text, hexCharToInt char ≠ 255 then
    some (text.foldl (fun value char => value * 16 + (hexCharToInt char).toNat) 0)
  else none

def hexGroups : Option (List Nat) :=
  if text = [] then some [] else (text.splitOn 58).mapM hexGroup

def gapAt : List UInt8 → Option Nat
  | 58 :: 58 :: _ => some 0
  | [] => none
  | _ :: rest => (gapAt rest).map (· + 1)

/-- The eight groups of an IPv6 literal, which may stand in brackets -/
def ipv6Groups (host : List UInt8) : Option (List Nat) :=
  let text := if host.head? = some 91 ∧ host.getLast? = some 93 then (host.drop 1).dropLast else host
  match gapAt text with
  | none => (hexGroups text).filter fun groups => groups.length = 8
  | some gap =>
    match hexGroups (text.take gap), hexGroups (text.drop (gap + 2)) with
    | some left, some right =>
      if left.length + right.length < 8 then
        some (left ++ List.replicate (8 - left.length - right.length) 0 ++ right)
      else none
    | _, _ => none

open UInt8

def hexDigit (value : Nat) : UInt8 :=
  if value < 10 then ofNat (48 + value) else ofNat (87 + value)

def hexGroupText (group : Nat) : List UInt8 :=
  [hexDigit (group / 4096 % 16), hexDigit (group / 256 % 16), hexDigit (group / 16 % 16),
    hexDigit (group % 16)]

def longForm : List Nat → List UInt8
  | [] => []
  | [group] => hexGroupText group
  | group :: groups => hexGroupText group ++ 58 :: longForm groups

inductive ProxyTarget
  | ipv4 (octets : List Nat)
  | ipv6 (groups : List Nat)
  | name (name : List UInt8)
  deriving DecidableEq

namespace ProxySettings

def denoted (self : ProxySettings) : Option ProxyTarget :=
  match self.addressType self.host with
  | .ipv4 => (dottedQuad self.host).map .ipv4
  | .ipv6 => (ipv6Groups self.host).map .ipv6
  | .unknown => some (.name self.host)

/-- The library takes only literals for addresses, and expands those of IPv6 correctly. -/
structure KnowsAddresses (settings : ProxySettings) : Prop where
  ipv4 : settings.addressType settings.host = .ipv4 → (dottedQuad settings.host).isSome
  ipv6 : settings.addressType settings.host = .ipv6 →
    ∃ groups, ipv6Groups settings.host = some groups ∧ settings.ipv6LongForm settings.host = longForm groups

/-- A name fits into the message if its length fits into one byte. -/
def HostFits (self : ProxySettings) : Prop :=
  self.addressType self.host = .unknown → self.host.length ≤ 255

end ProxySettings

def ipv4Digit (parsed : Nat × List UInt8) (char : UInt8) : Nat × List UInt8 :=
  if 4 ≤ parsed.1 then parsed
  else if char = 46 then (parsed.1 + 1, parsed.2)
  else (parsed.1, parsed.2.modify parsed.1 fun byte => byte * 10 + (char - 48))

theorem ipv4Bytes_eq (address : List UInt8) :
    ipv4Bytes address = ((address.takeWhile (· != 0)).foldl ipv4Digit (0, [0, 0, 0, 0])).2 := rfl

def IsNumeral : Prop :=
  ∀ char ∈ text, 48 ≤ char ∧ char ≤ 57

variable {text : List UInt8} {groups : List Nat}

open Nat

theorem foldl_ipv4Digit (digits : IsNumeral text) {index : Nat}
    (inside : index < 4) (bytes : List UInt8) :
    text.foldl ipv4Digit (index, bytes) = (index, bytes.modify index fun byte =>
        text.foldl (fun byte char => byte * 10 + (char - 48)) byte) := by
  induction text generalizing bytes with
  | nil => rw [foldl_nil, show (fun byte : UInt8 => foldl _ byte []) = id from rfl,
      modify_id]
  | cons char text induction =>
    obtain ⟨isDigit, rest⟩ := forall_mem_cons.mp digits
    have noDot : char ≠ 46 := by
      rintro rfl
      exact absurd isDigit.1 (by decide)
    rw [foldl_cons, ipv4Digit, if_neg (not_le.mpr inside), if_neg noDot, induction rest,
      modify_modify_eq]
    rfl

theorem foldl_byte (digits : IsNumeral text) (value : Nat) :
    text.foldl (fun byte char => byte * 10 + (char - 48)) (ofNat value) =
      ofNat (text.foldl (fun value char => value * 10 + (char.toNat - 48)) value) := by
  induction text generalizing value with
  | nil => rfl
  | cons char text induction =>
    obtain ⟨isDigit, rest⟩ := forall_mem_cons.mp digits
    have atLeast : 48 ≤ char.toNat := le_iff_toNat_le.mp isDigit.1
    have step : ofNat value * 10 + (char - 48) =
        ofNat (value * 10 + (char.toNat - 48)) := by
      apply UInt8.toNat_inj.mp
      rw [UInt8.toNat_add, UInt8.toNat_mul, UInt8.toNat_sub_of_le _ _ isDigit.1]
      simp only [toNat_ofNat', reduceToNat]
      omega
    rw [foldl_cons, foldl_cons, step, induction rest]

theorem octet_some {value : Nat} (read : octet text = some value) :
    IsNumeral text ∧ value = decimal text ∧ value < 256 := by
  obtain ⟨numeral, rfl⟩ := some_of_guard read
  exact ⟨numeral.2.1, rfl, numeral.2.2⟩

theorem dottedQuad_some {host : List UInt8} {octets : List Nat}
    (read : dottedQuad host = some octets) :
    ipv4Bytes host = octets.map ofNat ∧ octets.length = 4 ∧ ∀ octet ∈ octets, octet < 256 := by
  unfold dottedQuad at read
  split at read
  case h_2 => cases read
  case h_1 first second third fourth parts =>
    have whole : [46].intercalate (host.splitOn 46) = host := intercalate_splitOn 46
    rw [parts] at whole
    simp only [mapM_cons, mapM_nil, Option.bind_eq_bind, Option.bind_eq_some_iff,
      Option.pure_def, Option.some.injEq] at read
    obtain ⟨a, readFirst, _, ⟨b, readSecond, _, ⟨c, readThird, _, ⟨d, readFourth, _, rfl, rfl⟩,
      rfl⟩, rfl⟩, rfl⟩ := read
    obtain ⟨digitsFirst, rfl, smallFirst⟩ := octet_some readFirst
    obtain ⟨digitsSecond, rfl, smallSecond⟩ := octet_some readSecond
    obtain ⟨digitsThird, rfl, smallThird⟩ := octet_some readThird
    obtain ⟨digitsFourth, rfl, smallFourth⟩ := octet_some readFourth
    refine ⟨?_, rfl, by simp [smallFirst, smallSecond, smallThird, smallFourth]⟩
    have clean : ∀ char ∈ host, char ≠ 0 := by
      intro char member zero
      rw [← whole] at member
      subst zero
      simp only [intercalate, intersperse, flatten_cons, flatten_nil,
        mem_append, mem_singleton, append_nil] at member
      rcases member with digit | dot | digit | dot | digit | dot | digit
      · exact absurd (digitsFirst _ digit).1 (by decide)
      · cases dot
      · exact absurd (digitsSecond _ digit).1 (by decide)
      · cases dot
      · exact absurd (digitsThird _ digit).1 (by decide)
      · cases dot
      · exact absurd (digitsFourth _ digit).1 (by decide)
    have dot (index : Nat) (inside : index < 4) (bytes : List UInt8) :
        ipv4Digit (index, bytes) 46 = (index + 1, bytes) := by
      rw [ipv4Digit, if_neg (not_le.mpr inside), if_pos rfl]
    have read (text : List UInt8) (digits : IsNumeral text) :
        text.foldl (fun byte char => byte * 10 + (char - 48)) 0 = ofNat (decimal text) :=
      foldl_byte digits 0
    rw [ipv4Bytes_eq, takeWhile_eq_self_iff.mpr fun char member => bne_iff_ne.mpr
      (clean char member), ← whole]
    simp only [intercalate, intersperse, flatten_cons, flatten_nil,
      append_nil, foldl_append, foldl_cons, foldl_nil,
      foldl_ipv4Digit digitsFirst (by decide : 0 < 4), dot 0 (by decide),
      foldl_ipv4Digit digitsSecond (by decide : 0 + 1 < 4), dot (0 + 1) (by decide),
      foldl_ipv4Digit digitsThird (by decide : 0 + 1 + 1 < 4), dot (0 + 1 + 1) (by decide),
      foldl_ipv4Digit digitsFourth (by decide : 0 + 1 + 1 + 1 < 4)]
    simp [read _ digitsFirst, read _ digitsSecond, read _ digitsThird, read _ digitsFourth]

theorem hexCharToInt_lt {char : UInt8} (isDigit : hexCharToInt char ≠ 255) :
    (hexCharToInt char).toNat < 16 := by
  have all : ∀ byte : Fin 256, hexCharToInt (ofNat byte.val) ≠ 255 →
      (hexCharToInt (ofNat byte.val)).toNat < 16 := by
    decide +kernel
  have own := all ⟨char.toNat, char.toNat_lt⟩
  rw [UInt8.ofNat_toNat] at own
  exact own isDigit

theorem foldl_hex_lt (digits : ∀ char ∈ text, hexCharToInt char ≠ 255) (value : Nat) :
    text.foldl (fun value char => value * 16 + (hexCharToInt char).toNat) value <
      (value + 1) * 16 ^ text.length := by
  induction text generalizing value with
  | nil => simp
  | cons char text induction =>
    obtain ⟨isDigit, rest⟩ := forall_mem_cons.mp digits
    have small := hexCharToInt_lt isDigit
    refine lt_of_lt_of_le (induction rest _) ?_
    rw [length_cons, pow_succ']
    calc (value * 16 + (hexCharToInt char).toNat + 1) * 16 ^ text.length
        ≤ ((value + 1) * 16) * 16 ^ text.length := mul_le_mul_right _ (by omega)
      _ = (value + 1) * (16 * 16 ^ text.length) := mul_assoc _ _ _

theorem hexGroup_lt {group : Nat} (read : hexGroup text = some group) :
    group < 65536 := by
  obtain ⟨wellFormed, rfl⟩ := some_of_guard read
  refine lt_of_lt_of_le (foldl_hex_lt wellFormed.2.2 0) ?_
  rw [Nat.zero_add, Nat.one_mul]
  exact Nat.pow_le_pow_right (by decide) wellFormed.2.1

theorem mapM_hexGroup_lt {texts : List (List UInt8)}
    (read : texts.mapM hexGroup = some groups) : ∀ group ∈ groups, group < 65536 := by
  induction texts generalizing groups with
  | nil =>
    cases read
    simp
  | cons text texts induction =>
    simp only [mapM_cons, Option.bind_eq_bind, Option.bind_eq_some_iff, Option.pure_def,
      Option.some.injEq] at read
    obtain ⟨first, readFirst, rest, readRest, rfl⟩ := read
    exact forall_mem_cons.mpr ⟨hexGroup_lt readFirst, induction readRest⟩

theorem hexGroups_lt (read : hexGroups text = some groups) :
    ∀ group ∈ groups, group < 65536 := by
  unfold hexGroups at read
  split at read
  case isTrue =>
    cases read
    simp
  case isFalse => exact mapM_hexGroup_lt read

theorem ipv6Groups_some {host : List UInt8} (read : ipv6Groups host = some groups) :
    groups.length = 8 ∧ ∀ group ∈ groups, group < 65536 := by
  unfold ipv6Groups at read
  dsimp only at read
  split at read
  case h_1 =>
    obtain ⟨whole, eight⟩ := Option.filter_eq_some_iff.mp read
    exact ⟨of_decide_eq_true eight, hexGroups_lt whole⟩
  case h_2 gap _ =>
    split at read
    case h_2 => cases read
    case h_1 left right readLeft readRight =>
      obtain ⟨short, rfl⟩ := some_of_guard read
      refine ⟨by simp only [length_append, length_replicate]; omega, ?_⟩
      intro group member
      rcases mem_append.mp member with inLeft | inRight
      · rcases mem_append.mp inLeft with inLeft | zero
        · exact hexGroups_lt readLeft group inLeft
        · rw [eq_of_mem_replicate zero]
          decide
      · exact hexGroups_lt readRight group inRight

theorem hexCharToInt_hexDigit {value : Nat} (digit : value < 16) :
    hexCharToInt (hexDigit value) = ofNat value := by
  have all : ∀ value : Fin 16, hexCharToInt (hexDigit value.val) = ofNat value.val := by
    decide
  exact all ⟨value, digit⟩

def groupBytes (group : Nat) : List UInt8 :=
  [ofNat (group / 256), ofNat group]

theorem groupBytes_eq (group : Nat) :
    [hexCharToInt (hexDigit (group / 4096 % 16)) * 16 + hexCharToInt (hexDigit (group / 256 % 16)),
      hexCharToInt (hexDigit (group / 16 % 16)) * 16 + hexCharToInt (hexDigit (group % 16))] =
      groupBytes group := by
  have byte (high low value : Nat) (same : high * 16 + low = value % 256) :
      ofNat high * 16 + ofNat low = ofNat value := by
    apply UInt8.toNat_inj.mp
    rw [UInt8.toNat_add, UInt8.toNat_mul]
    simp only [toNat_ofNat', reduceToNat]
    omega
  have small (value : Nat) : value % 16 < 16 := mod_lt _ (by decide)
  rw [hexCharToInt_hexDigit (small _), hexCharToInt_hexDigit (small _),
    hexCharToInt_hexDigit (small _), hexCharToInt_hexDigit (small _),
    byte _ _ (group / 256) (by omega), byte _ _ group (by omega)]
  rfl

theorem ipv6Bytes_longForm (eight : groups.length = 8) :
    ipv6Bytes (longForm groups) = groups.flatMap groupBytes := by
  obtain ⟨first, groups, rfl⟩ := exists_cons_of_length_eq_add_one eight
  obtain ⟨second, groups, rfl⟩ := exists_cons_of_length_eq_add_one (succ.inj eight)
  obtain ⟨third, groups, rfl⟩ :=
    exists_cons_of_length_eq_add_one (succ.inj (succ.inj eight))
  have five : groups.length = 5 := by simpa using eight
  obtain ⟨fourth, groups, rfl⟩ := exists_cons_of_length_eq_add_one five
  obtain ⟨fifth, groups, rfl⟩ := exists_cons_of_length_eq_add_one (succ.inj five)
  obtain ⟨sixth, groups, rfl⟩ :=
    exists_cons_of_length_eq_add_one (succ.inj (succ.inj five))
  have two : groups.length = 2 := by simpa using five
  obtain ⟨seventh, groups, rfl⟩ := exists_cons_of_length_eq_add_one two
  obtain ⟨eighth, groups, rfl⟩ := exists_cons_of_length_eq_add_one (succ.inj two)
  have none : groups = [] := length_eq_zero_iff.mp (by simpa using two)
  subst none
  simp only [flatMap_cons, flatMap_nil, ← groupBytes_eq]
  rfl

inductive ClientMessage
  | methods (methods : List UInt8)
  | login (user pass : List UInt8)
  | request (target : ProxyTarget) (port : Nat)
  deriving DecidableEq

namespace ClientMessage

def takeText (length : UInt8) (bytes : List UInt8) : Option (List UInt8 × List UInt8) :=
  if length.toNat ≤ bytes.length then
    some (bytes.take length.toNat, bytes.drop length.toNat)
  else none

def pairs : List UInt8 → List Nat
  | high :: low :: rest => (high.toNat * 256 + low.toNat) :: pairs rest
  | _ => []

def readTarget : List UInt8 → Option (ProxyTarget × List UInt8)
  | 1 :: rest =>
    (takeText 4 rest).map fun read => (.ipv4 (read.1.map toNat), read.2)
  | 3 :: length :: rest => (takeText length rest).map fun read => (.name read.1, read.2)
  | 4 :: rest => (takeText 16 rest).map fun read => (.ipv6 (pairs read.1), read.2)
  | _ => none

def readPort : List UInt8 → Option (Nat × List UInt8)
  | high :: low :: rest => some (high.toNat * 256 + low.toNat, rest)
  | _ => none

def readMethods : List UInt8 → Option (ClientMessage × List UInt8)
  | 5 :: number :: rest => (takeText number rest).map fun read => (.methods read.1, read.2)
  | _ => none

def readLater : List UInt8 → Option (ClientMessage × List UInt8)
  | 1 :: length :: rest =>
    (takeText length rest).bind fun user =>
      match user.2 with
      | length :: rest => (takeText length rest).map fun pass => (.login user.1 pass.1, pass.2)
      | [] => none
  | 5 :: 1 :: 0 :: rest =>
    (readTarget rest).bind fun target =>
      (readPort target.2).map fun port => (.request target.1 port.1, port.2)
  | _ => none

def readAll : Nat → List UInt8 → Option (List ClientMessage)
  | _, [] => some []
  | 0, _ => none
  | fuel + 1, bytes =>
    (readLater bytes).bind fun read => (readAll fuel read.2).map (read.1 :: ·)

def socks5 (stream : List UInt8) : Option (List ClientMessage) :=
  (readMethods stream).bind fun read => (readAll stream.length read.2).map (read.1 :: ·)

def socks4 : List UInt8 → Option (ProxyTarget × Nat × List UInt8)
  | 4 :: 1 :: rest =>
    (readPort rest).bind fun port =>
      (takeText 4 port.2).bind fun address =>
        if address.2.getLast? = some 0 then
          some (.ipv4 (address.1.map toNat), port.1, address.2.dropLast)
        else none
  | _ => none

end ClientMessage

namespace ProxySettings

/-- Each message names the target or the credentials, and the latter only if the method has been
offered. -/
def Proper (self : ProxySettings) (messages : List ClientMessage) : ClientMessage → Prop
  | .methods _ => True
  | .login user pass =>
    user = self.user ∧ pass = self.pass ∧ ∃ methods, .methods methods ∈ messages ∧ 2 ∈ methods
  | .request target port => self.denoted = some target ∧ port = self.port

/-- What the client has said, decoded by the grammar of the protocol, is as it should be. -/
def Names (self : ProxySettings) (stream : List UInt8) : Prop :=
  match self.type with
  | .socks5 => ∃ messages, ClientMessage.socks5 stream = some messages ∧
      ∀ message ∈ messages, self.Proper messages message
  | .socks4 => ∃ target, ClientMessage.socks4 stream = some (target, self.port, []) ∧
      self.denoted = some target
  | .http => True

end ProxySettings

structure ProxySession where
  proxy : SimpleProxy
  sent : List UInt8 := []

inductive LayerEvent
  | socketEvent (flag : SocketFlag) (error : Option Nat)
  | read (answer : ReadAnswer)
  | write (answer : WriteAnswer)

namespace ProxySession

def fits : ReadAnswer → Bool
  | .bytes bytes => bytes.length ≤ 1024
  | _ => true

def written : WriteAnswer → Nat
  | .written length => length
  | _ => 0

variable (settings : ProxySettings) (self : ProxySession)

def step : LayerEvent → Option ProxySession
  | .socketEvent flag error =>
    if self.proxy.calls = [] then
      some { self with proxy := self.proxy.onSocketEvent flag error }
    else none
  | .read answer =>
    match self.proxy.calls with
    | .onReceive :: calls =>
      if fits answer then
        some { self with proxy := self.proxy.answerRead settings answer calls }
      else none
    | _ => none
  | .write answer =>
    match self.proxy.calls with
    | .onSend :: calls =>
      if written answer ≤ self.proxy.sendBuffer.length then
        some {
          proxy := self.proxy.answerWrite answer calls
          sent := self.sent ++ self.proxy.sendBuffer.take (written answer) }
      else none
    | _ => none

/-- All that the client has said, also what it has not written yet -/
def said : List UInt8 :=
  self.sent ++ self.proxy.sendBuffer

def enters : LayerEvent → Option HandshakeState
  | .read (.bytes bytes) =>
    if bytes = [] ∨ self.proxy.socks5 = true ∧ self.proxy.sendBuffer ≠ [] then none
    else
      match ProxyReply.parse settings self.proxy.handshakeState
          (self.proxy.receiveBuffer ++ bytes) with
      | .next later _ => some later
      | _ => none
  | _ => none

/-- The proxy's answer does not choose a method that was not offered, nor ask for a request that
cannot name the host. -/
def Allowed (event : LayerEvent) : Prop :=
  (self.enters settings event = some .socks5Auth → settings.user ≠ []) ∧
  (self.enters settings event = some .socks5Request → settings.HostFits)

end ProxySession

namespace ClientMessage

theorem pairs_groupBytes {groups : List Nat} (small : ∀ group ∈ groups, group < 65536) :
    pairs (groups.flatMap groupBytes) = groups := by
  induction groups with
  | nil => rfl
  | cons group groups induction =>
    obtain ⟨own, rest⟩ := forall_mem_cons.mp small
    have whole : (ofNat (group / 256)).toNat * 256 + (ofNat group).toNat = group := by
      simp only [toNat_ofNat']
      omega
    rw [flatMap_cons]
    change _ :: pairs (groups.flatMap groupBytes) = _
    rw [induction rest, whole]

theorem takeText_append {text : List UInt8} {length : UInt8} (same : length.toNat = text.length)
    (rest : List UInt8) : takeText length (text ++ rest) = some (text, rest) := by
  rw [takeText, if_pos (by rw [same, length_append]; exact le_add_right _ _), same,
    take_left, drop_left]

theorem toNat_take_length (text : List UInt8) :
    (ofNat (text.take 255).length).toNat = (text.take 255).length := by
  rw [toNat_ofNat', mod_eq_of_lt]
  rw [length_take]
  omega

theorem map_octets {octets : List Nat} (small : ∀ octet ∈ octets, octet < 256) :
    (octets.map ofNat).map toNat = octets := by
  rw [map_map]
  refine (map_congr_left fun octet member => ?_).trans (map_id octets)
  exact toNat_ofNat_of_lt' (small octet member)

end ClientMessage

namespace ProxySettings

open ClientMessage

variable {self : ProxySettings} {state : HandshakeState} {rest : List UInt8}

theorem readPort_portBytes (valid : self.port ≤ 65535) :
    readPort (self.portBytes ++ rest) = some (self.port, rest) := by
  have whole : (ofNat (self.port / 256 % 256)).toNat * 256 +
      (ofNat (self.port % 256)).toNat = self.port := by
    simp only [toNat_ofNat']
    omega
  change some (_, rest) = _
  rw [whole]

/-- What the request asks for, which is the beginning of a long name -/
def requested (self : ProxySettings) : ProxyTarget :=
  match self.addressType self.host with
  | .ipv4 => .ipv4 ((dottedQuad self.host).getD [])
  | .ipv6 => .ipv6 ((ipv6Groups self.host).getD [])
  | .unknown => .name (self.host.take 255)

theorem denoted_eq_requested (knows : self.KnowsAddresses) :
    self.denoted = some self.requested ↔ self.HostFits := by
  unfold denoted requested HostFits
  cases kind : self.addressType self.host with
  | ipv4 =>
    obtain ⟨octets, read⟩ := Option.isSome_iff_exists.mp (knows.ipv4 kind)
    simp [read]
  | ipv6 =>
    obtain ⟨groups, read, _⟩ := knows.ipv6 kind
    simp [read]
  | unknown => simp

def spoken (self : ProxySettings) : HandshakeState → ClientMessage
  | .socks5Auth => .login (self.user.take 255) (self.pass.take 255)
  | .socks5Request => .request self.requested self.port
  | _ => .methods (if self.user = [] then [0] else [0, 2])

theorem message_request (knows : self.KnowsAddresses) :
    ∃ address, self.message .socks5Request = [5, 1, 0] ++ address ++ self.portBytes ∧
      ∀ rest, readTarget (address ++ rest) = some (self.requested, rest) := by
  refine ⟨_, rfl, fun rest => ?_⟩
  unfold requested
  cases kind : self.addressType self.host with
  | ipv4 =>
    obtain ⟨octets, read⟩ := Option.isSome_iff_exists.mp (knows.ipv4 kind)
    obtain ⟨bytes, four, small⟩ := dottedQuad_some read
    have taken : takeText 4 (octets.map ofNat ++ rest) = some (octets.map ofNat, rest) :=
      takeText_append (by rw [length_map, four]; rfl) rest
    rw [read, bytes]
    dsimp only
    rw [cons_append, readTarget, taken, Option.map_some, map_octets small, Option.getD_some]
  | ipv6 =>
    obtain ⟨groups, read, long⟩ := knows.ipv6 kind
    obtain ⟨eight, small⟩ := ipv6Groups_some read
    have sixteen : (groups.flatMap groupBytes).length = 16 := by
      rw [← ipv6Bytes_longForm eight]
      rfl
    have taken := @takeText_append _ 16 (by rw [sixteen]; rfl) rest
    rw [read, long, ipv6Bytes_longForm eight]
    dsimp only
    rw [cons_append, readTarget, taken, Option.map_some, pairs_groupBytes small,
      Option.getD_some]
  | unknown =>
    dsimp only
    rw [append_assoc]
    change (takeText _ (self.host.take 255 ++ rest)).map _ = _
    rw [takeText_append (toNat_take_length _)]
    rfl

theorem readLater_message (knows : self.KnowsAddresses) (valid : self.port ≤ 65535)
    (later : state = .socks5Auth ∨ state = .socks5Request) :
    readLater (self.message state ++ rest) = some (self.spoken state, rest) := by
  rcases later with rfl | rfl
  · unfold message
    dsimp only
    rw [append_assoc, append_assoc, append_assoc]
    change (takeText _ (self.user.take 255 ++ _)).bind _ = _
    rw [takeText_append (toNat_take_length _), Option.bind_some]
    change (takeText _ (self.pass.take 255 ++ _)).map _ = _
    rw [takeText_append (toNat_take_length _)]
    rfl
  · obtain ⟨address, same, read⟩ := message_request knows
    rw [same, append_assoc, append_assoc]
    change (readTarget (address ++ (self.portBytes ++ rest))).bind _ = _
    rw [read, Option.bind_some, readPort_portBytes valid]
    rfl

theorem readAll_messages (knows : self.KnowsAddresses) (valid : self.port ≤ 65535)
    {states : List HandshakeState}
    (later : ∀ state ∈ states, state = .socks5Auth ∨ state = .socks5Request) {count : Nat}
    (enough : states.length ≤ count) :
    readAll count (states.flatMap self.message) = some (states.map self.spoken) := by
  induction states generalizing count with
  | nil => cases count <;> rfl
  | cons state states induction =>
    obtain ⟨first, others⟩ := forall_mem_cons.mp later
    obtain ⟨count, rfl⟩ := exists_eq_add_one_of_ne_zero (ne_of_gt
      (lt_of_lt_of_le (succ_pos _) enough))
    have some : self.message state ++ states.flatMap self.message ≠ [] :=
      append_ne_nil_of_left_ne_nil (ne_nil_of_length_pos (self.message_length state)) _
    rw [flatMap_cons, readAll.eq_3 _ _ some, readLater_message knows valid first,
      Option.bind_some, induction others (le_of_succ_le_succ enough)]
    rfl

end ProxySettings

open ProxyConnection

namespace ProxySession

variable {settings : ProxySettings} {session next : ProxySession} {event : LayerEvent}

theorem enters_later {state : HandshakeState} (entered : session.enters settings event = some state) :
    (session.proxy.handshakeState = .socks5Method ∨ session.proxy.handshakeState = .socks5Auth) ∧
      (state = .socks5Auth ∨ state = .socks5Request) := by
  unfold enters at entered
  split at entered
  case h_2 => cases entered
  case h_1 bytes =>
    obtain ⟨-, entered⟩ := of_refusal entered
    split at entered
    case h_2 => cases entered
    case h_1 later length reply =>
      cases entered
      obtain ⟨_, _, ⟨method, rfl⟩ | ⟨place, rfl⟩⟩ := ProxyReply.parse_next reply
      · exact ⟨.inl method, .inl rfl⟩
      · exact ⟨place, .inr rfl⟩

def Keeps (proxy later : SimpleProxy) : Prop :=
  later.handshakeState = proxy.handshakeState ∧ later.sendBuffer = proxy.sendBuffer

variable (proxy : SimpleProxy) (calls : List ProxyCall)

theorem keeps_leave :
    Keeps proxy (proxy.leave calls) := by
  obtain ⟨left, same, _⟩ := leave_eq proxy calls
  rw [same]
  exact ⟨rfl, rfl⟩

theorem keeps_onReceive :
    Keeps proxy (proxy.onReceive calls) := by
  obtain ⟨left, same, _⟩ := onReceive_eq proxy calls
  rw [same]
  exact ⟨rfl, rfl⟩

theorem keeps_onSend :
    Keeps proxy (proxy.onSend calls) := by
  obtain ⟨left, same, _⟩ := onSend_eq proxy calls
  rw [same]
  exact ⟨rfl, rfl⟩

/-- A message is appended when a state is entered, and nothing else. -/
def Says (settings : ProxySettings) (entered : Option HandshakeState)
    (proxy later : SimpleProxy) : Prop :=
  later.handshakeState = entered.getD proxy.handshakeState ∧
    later.sendBuffer = proxy.sendBuffer ++ entered.toList.flatMap settings.message

theorem Keeps.says {proxy later : SimpleProxy} (keeps : Keeps proxy later) :
    Says settings none proxy later :=
  ⟨keeps.1, keeps.2.trans (append_nil _).symm⟩

theorem received_says {bytes : List UInt8} (some : bytes ≠ []) (calls : List ProxyCall) :
    Says settings (enters settings { proxy } (.read (.bytes bytes))) proxy
      (proxy.received settings bytes calls) := by
  rcases Classical.em (proxy.socks5 = true ∧ proxy.sendBuffer ≠ []) with early | onTime
  · have silent : enters settings { proxy } (.read (.bytes bytes)) = none := by
      unfold enters
      exact if_pos (.inr early)
    rw [silent]
    unfold SimpleProxy.received
    dsimp only
    split
    case isTrue => exact Keeps.says (keeps_leave _ calls)
    case isFalse onTime => exact absurd early onTime
  · have later : ¬ ({ proxy with receiveBuffer := proxy.receiveBuffer ++ bytes }.socks5 = true ∧
        proxy.sendBuffer ≠ []) := onTime
    unfold SimpleProxy.received enters
    dsimp only
    rw [if_neg (not_or.mpr ⟨some, onTime⟩), if_neg later]
    cases reply : ProxyReply.parse settings proxy.handshakeState (proxy.receiveBuffer ++ bytes) with
    | more => exact Keeps.says ⟨rfl, rfl⟩
    | fails error => exact Keeps.says (keeps_leave _ calls)
    | connects length => exact Keeps.says (keeps_leave _ calls)
    | next state length =>
      have whole : proxy.sendBuffer ++ settings.message state =
          proxy.sendBuffer ++ [state].flatMap settings.message := by
        rw [flatMap_singleton]
      dsimp only
      split
      · obtain ⟨same, buffer⟩ := keeps_onSend _ (.onReceive :: calls)
        exact ⟨same, buffer.trans whole⟩
      · exact ⟨rfl, whole⟩

theorem answerRead_says (answer : ReadAnswer) (calls : List ProxyCall) :
    Says settings (enters settings { proxy } (.read answer)) proxy
      (proxy.answerRead settings answer calls) := by
  cases answer with
  | again => exact Keeps.says (keeps_leave _ calls)
  | error error => exact Keeps.says (keeps_leave _ calls)
  | bytes bytes =>
    cases bytes with
    | nil =>
      have silent : enters settings { proxy } (.read (.bytes [])) = none := by
        unfold enters
        exact if_pos (.inl rfl)
      rw [silent]
      exact Keeps.says (keeps_leave _ calls)
    | cons byte bytes => exact received_says proxy (cons_ne_nil _ _) calls

theorem answerWrite_says (answer : WriteAnswer) (calls : List ProxyCall) :
    (proxy.answerWrite answer calls).handshakeState = proxy.handshakeState ∧
      (proxy.answerWrite answer calls).sendBuffer = proxy.sendBuffer.drop (written answer) := by
  cases answer with
  | again => exact keeps_leave _ calls
  | error error => exact keeps_leave _ calls
  | written count =>
    unfold SimpleProxy.answerWrite
    dsimp only
    split
    · split
      · exact keeps_onReceive _ (.onSend :: calls)
      · exact keeps_leave _ calls
    · exact ⟨rfl, rfl⟩

theorem onSocketEvent_keeps (flag : SocketFlag) (error : Option Nat) :
    Keeps proxy (proxy.onSocketEvent flag error) := by
  unfold SimpleProxy.onSocketEvent
  split
  · exact ⟨rfl, rfl⟩
  · cases error with
    | some error => exact ⟨rfl, rfl⟩
    | none =>
      cases flag with
      | connection | write => exact keeps_onSend _ []
      | read => exact keeps_onReceive _ []

theorem step_said (taken : step settings session event = some next) :
    next.proxy.handshakeState = (session.enters settings event).getD session.proxy.handshakeState ∧
      next.said =
        session.said ++ (session.enters settings event).toList.flatMap settings.message := by
  unfold step at taken
  split at taken
  case h_1 flag error =>
    obtain ⟨-, rfl⟩ := some_of_guard taken
    obtain ⟨state, buffer⟩ := onSocketEvent_keeps session.proxy flag error
    refine ⟨state, ?_⟩
    rw [said, buffer]
    exact (append_nil _).symm
  case h_2 answer =>
    split at taken
    case h_2 => cases taken
    case h_1 calls _ =>
      obtain ⟨-, rfl⟩ := some_of_guard taken
      obtain ⟨state, buffer⟩ := answerRead_says session.proxy answer calls
      refine ⟨state, ?_⟩
      rw [said, buffer, ← append_assoc]
      rfl
  case h_3 answer =>
    split at taken
    case h_2 => cases taken
    case h_1 calls _ =>
      obtain ⟨-, rfl⟩ := some_of_guard taken
      obtain ⟨state, buffer⟩ := answerWrite_says session.proxy answer calls
      refine ⟨state, ?_⟩
      rw [said, buffer, append_assoc, take_append_drop]
      exact (append_nil _).symm

def entered (settings : ProxySettings) (trace : List (ProxySession × LayerEvent)) :
    List HandshakeState :=
  trace.flatMap fun taken => (taken.1.enters settings taken.2).toList

variable {start : ProxySession} {trace : List (ProxySession × LayerEvent)}

theorem run_said (run : Run (step settings) start trace session) :
    session.said = start.said ++ (entered settings trace).flatMap settings.message := by
  induction run with
  | refl => exact (append_nil _).symm
  | step _ taken induction =>
    rw [(step_said taken).2, induction, entered, entered, flatMap_append,
      flatMap_append, append_assoc, flatMap_singleton]

theorem entered_later {state : HandshakeState} (member : state ∈ entered settings trace) :
    state = .socks5Auth ∨ state = .socks5Request := by
  obtain ⟨taken, _, own⟩ := mem_flatMap.mp member
  exact (enters_later (Option.mem_toList.mp own)).2

theorem run_stays (run : Run (step settings) start trace session)
    (single : start.proxy.handshakeState = .socks4Handshake ∨
      start.proxy.handshakeState = .httpWait) :
    session.proxy.handshakeState = start.proxy.handshakeState ∧ entered settings trace = [] := by
  induction run with
  | refl => exact ⟨rfl, rfl⟩
  | @step trace state next event run taken induction =>
    have silent : state.enters settings event = none := by
      cases entered : state.enters settings event with
      | none => rfl
      | some later =>
        obtain ⟨place, _⟩ := enters_later entered
        rw [induction.1] at place
        rcases single with same | same <;> rw [same] at place <;> simp at place
    refine ⟨(step_said taken).1.trans ?_, ?_⟩
    · rw [silent]
      exact induction.1
    · unfold entered at induction ⊢
      rw [flatMap_append, induction.2, flatMap_singleton, silent]
      rfl

theorem allowed_iff :
    (∀ taken ∈ trace, Allowed settings taken.1 taken.2) ↔
      (.socks5Auth ∈ entered settings trace → settings.user ≠ []) ∧
      (.socks5Request ∈ entered settings trace → settings.HostFits) := by
  constructor
  · intro allowed
    refine ⟨fun member => ?_, fun member => ?_⟩
    · obtain ⟨taken, inTrace, own⟩ := mem_flatMap.mp member
      exact (allowed taken inTrace).1 (Option.mem_toList.mp own)
    · obtain ⟨taken, inTrace, own⟩ := mem_flatMap.mp member
      exact (allowed taken inTrace).2 (Option.mem_toList.mp own)
  · intro ⟨auth, request⟩ taken inTrace
    exact ⟨fun own => auth (mem_flatMap.mpr ⟨taken, inTrace, Option.mem_toList.mpr own⟩),
      fun own => request (mem_flatMap.mpr ⟨taken, inTrace, Option.mem_toList.mpr own⟩)⟩

end ProxySession

namespace ProxySettings

open ClientMessage

variable {self : ProxySettings} {states : List HandshakeState}

theorem readMethods_message (rest : List UInt8) :
    readMethods (self.message .socks5Method ++ rest) = some (self.spoken .socks5Method, rest) := by
  unfold message spoken
  dsimp only
  split
  · rw [cons_append, cons_append, readMethods, takeText_append rfl]
    rfl
  · rw [cons_append, cons_append, readMethods, takeText_append rfl]
    rfl

theorem length_le_messages (self : ProxySettings) (states : List HandshakeState) :
    states.length ≤ (states.flatMap self.message).length := by
  induction states with
  | nil => exact le_refl 0
  | cons state states induction =>
    have some := self.message_length state
    rw [flatMap_cons, length_append, length_cons]
    omega

theorem socks5_messages (knows : self.KnowsAddresses) (valid : self.port ≤ 65535)
    (later : ∀ state ∈ states, state = .socks5Auth ∨ state = .socks5Request) :
    socks5 (self.message .socks5Method ++ states.flatMap self.message) =
      some ((.socks5Method :: states).map self.spoken) := by
  have enough : states.length ≤
      (self.message .socks5Method ++ states.flatMap self.message).length := by
    rw [length_append]
    exact le_add_left_of_le (self.length_le_messages states)
  rw [socks5, readMethods_message, Option.bind_some, readAll_messages knows valid later enough]
  rfl

theorem offered_iff (later : ∀ state ∈ states, state = .socks5Auth ∨ state = .socks5Request) :
    (∃ methods, .methods methods ∈ (.socks5Method :: states).map self.spoken ∧ 2 ∈ methods) ↔
      self.user ≠ [] := by
  constructor
  · intro ⟨offer, member, offered⟩ empty
    obtain ⟨state, inStates, same⟩ := mem_map.mp member
    rcases mem_cons.mp inStates with rfl | inStates
    · unfold spoken at same
      rw [if_pos empty] at same
      cases same
      exact absurd offered (by decide)
    · rcases later state inStates with rfl | rfl <;> cases same
  · intro named
    refine ⟨[0, 2], ?_, by decide⟩
    have first : self.spoken .socks5Method = .methods [0, 2] := by
      unfold spoken
      rw [if_neg named]
    exact mem_cons.mpr (.inl first.symm)

theorem proper_iff (knows : self.KnowsAddresses) (short : self.user.length ≤ 255)
    (shortPass : self.pass.length ≤ 255)
    (later : ∀ state ∈ states, state = .socks5Auth ∨ state = .socks5Request) :
    (∀ message ∈ (.socks5Method :: states).map self.spoken,
        self.Proper ((.socks5Method :: states).map self.spoken) message) ↔
      (.socks5Auth ∈ states → self.user ≠ []) ∧ (.socks5Request ∈ states → self.HostFits) := by
  constructor
  · intro proper
    refine ⟨fun auth => ?_, fun asked => ?_⟩
    · have own := proper _ (mem_map_of_mem (mem_cons_of_mem _ auth))
      exact (offered_iff later).mp own.2.2
    · have own := proper _ (mem_map_of_mem (mem_cons_of_mem _ asked))
      exact (denoted_eq_requested knows).mp own.1
  · intro ⟨auth, asked⟩ message member
    obtain ⟨state, inStates, rfl⟩ := mem_map.mp member
    rcases mem_cons.mp inStates with rfl | inStates
    · exact True.intro
    · rcases later state inStates with rfl | rfl
      · exact ⟨take_of_length_le short, take_of_length_le shortPass,
          (offered_iff later).mpr (auth inStates)⟩
      · exact ⟨(denoted_eq_requested knows).mpr (asked inStates), rfl⟩

theorem socks4_message (knows : self.KnowsAddresses) (valid : self.port ≤ 65535)
    (kind : self.addressType self.host = .ipv4) :
    ∃ target, socks4 (self.message .socks4Handshake) = some (target, self.port, []) ∧
      self.denoted = some target := by
  obtain ⟨octets, read⟩ := Option.isSome_iff_exists.mp (knows.ipv4 kind)
  obtain ⟨bytes, four, small⟩ := dottedQuad_some read
  refine ⟨.ipv4 octets, ?_, ?_⟩
  · have taken : takeText 4 (octets.map ofNat ++ [0]) =
        some (octets.map ofNat, [0]) :=
      takeText_append (by rw [length_map, four]; rfl) [0]
    unfold message
    dsimp only
    rw [bytes, append_assoc, append_assoc, cons_append, cons_append,
      nil_append, socks4, readPort_portBytes valid, Option.bind_some, taken, Option.bind_some,
      if_pos (by rfl), map_octets small]
    rfl
  · unfold denoted
    rw [kind]
    dsimp only
    rw [read]
    rfl

theorem connect_accepted {proxy : SimpleProxy} (connected : SimpleProxy.connect self = some proxy) :
    proxy.handshakeState = self.initialState ∧
      proxy.sendBuffer = self.message self.initialState ∧ self.port ≤ 65535 ∧
      (self.type = .socks4 → self.addressType self.host = .ipv4) ∧
      (self.type = .socks5 → self.user.length ≤ 255 ∧ self.pass.length ≤ 255) := by
  obtain ⟨accepted, rfl⟩ := some_of_guard connected
  obtain ⟨checked, fits⟩ := Bool.and_eq_true_iff.mp accepted
  refine ⟨rfl, rfl, (of_decide_eq_true checked).2.2, fun four => ?_, fun five => ?_⟩
  · rw [four] at fits
    exact of_decide_eq_true fits
  · rw [five] at fits
    exact of_decide_eq_true fits

end ProxySettings

namespace ProxySession

open ProxySettings

/-- What the client says to any proxy names the target and the configured credentials as long as
the proxy chooses an offered method, and the name of the host fits into the request. -/
theorem requests_named_iff {settings : ProxySettings} {proxy : SimpleProxy}
    {trace : List (ProxySession × LayerEvent)} {session : ProxySession}
    (knows : settings.KnowsAddresses) (connected : SimpleProxy.connect settings = some proxy)
    (run : Run (step settings) { proxy } trace session) :
    settings.Names session.said ↔ ∀ taken ∈ trace, Allowed settings taken.1 taken.2 := by
  obtain ⟨state, greeting, valid, four, five⟩ := connect_accepted connected
  have first : ({ proxy } : ProxySession).said = proxy.sendBuffer := nil_append _
  have whole := run_said run
  rw [first, greeting] at whole
  rw [allowed_iff, whole]
  unfold Names
  cases kind : settings.type with
  | http =>
    have start : settings.initialState = .httpWait := by
      unfold initialState
      rw [kind]
    obtain ⟨_, none⟩ := run_stays run (.inr (state.trans start))
    simp [none]
  | socks4 =>
    have start : settings.initialState = .socks4Handshake := by
      unfold initialState
      rw [kind]
    obtain ⟨_, none⟩ := run_stays run (.inl (state.trans start))
    rw [none, start, flatMap_nil, append_nil]
    simp [socks4_message knows valid (four kind)]
  | socks5 =>
    have start : settings.initialState = .socks5Method := by
      unfold initialState
      rw [kind]
    have later (state : HandshakeState) (member : state ∈ entered settings trace) :=
      entered_later member
    rw [start]
    dsimp only
    rw [socks5_messages knows valid later]
    simp only [Option.some.injEq, exists_eq_left']
    exact proper_iff knows (five kind).1 (five kind).2 later

theorem openSocks5_knows : openSocks5.KnowsAddresses := by
  constructor
  · intro ipv4
    cases ipv4
  · intro ipv6
    cases ipv6

theorem requests_named_open :
    ∃ proxy trace session, SimpleProxy.connect openSocks5 = some proxy ∧
      Run (step openSocks5) { proxy } trace session ∧
      session.proxy.state = .connected ∧ openSocks5.Names session.said := by
  obtain ⟨trace, session, run, checked⟩ :=
    @exists_run_of_execute _ _ (step openSocks5)
      { proxy :=
          { handshakeState := openSocks5.initialState
            sendBuffer :=
              openSocks5.message openSocks5.initialState } }
      [.socketEvent .connection none, .write (.written 3), .socketEvent .read none,
        .read (.bytes [5, 0]), .write (.written 11), .read (.bytes [5, 0, 0, 1, 0, 0, 0, 0, 0, 0])]
      (fun trace session => decide (session.proxy.state = .connected) &&
        trace.all fun taken => decide (taken.1.enters openSocks5 taken.2 ≠
          some .socks5Auth)) (by decide +kernel)
  simp only [Bool.and_eq_true, decide_eq_true_eq, all_eq_true] at checked
  refine ⟨_, trace, session, rfl, run, checked.1, ?_⟩
  refine (requests_named_iff openSocks5_knows rfl run).mpr fun taken member => ?_
  exact ⟨fun auth => absurd auth (checked.2 taken member), fun _ _ => by decide⟩

/-- The proxy chooses the method that has not been offered, and gets an empty user name. -/
theorem requests_unsolicited :
    ¬ ∀ (settings : ProxySettings) (proxy : SimpleProxy) (trace : List (ProxySession × LayerEvent))
      (session : ProxySession), settings.KnowsAddresses →
      SimpleProxy.connect settings = some proxy → Run (step settings) { proxy } trace session →
      session.proxy.state = .failed ∨ settings.Names session.said := by
  intro named
  obtain ⟨trace, session, run, checked⟩ :=
    @exists_run_of_execute _ _ (step openSocks5)
      { proxy :=
          { handshakeState := openSocks5.initialState
            sendBuffer :=
              openSocks5.message openSocks5.initialState } }
      [.socketEvent .connection none, .write (.written 3), .socketEvent .read none,
        .read (.bytes [5, 2]), .write (.written 3), .read (.bytes [1, 0]), .write (.written 11),
        .read (.bytes [5, 0, 0, 1, 0, 0, 0, 0, 0, 0])]
      (fun _ session => decide (session.proxy.state = .connected) &&
        decide (ClientMessage.socks5 session.said =
          some [.methods [0], .login [] [], .request (.name (asciiBytes "host")) 21]))
      (by decide +kernel)
  simp only [Bool.and_eq_true, decide_eq_true_eq] at checked
  rcases named openSocks5 _ trace session openSocks5_knows rfl run
    with failed | ⟨messages, read, proper⟩
  · rw [checked.1] at failed
    cases failed
  · cases checked.2.symm.trans read
    obtain ⟨_, _, methods, member, offered⟩ := proper (.login [] []) (by simp)
    simp only [mem_cons, ClientMessage.methods.injEq, not_mem_nil, or_false,
      reduceCtorEq] at member
    subst member
    exact absurd offered (by decide)

end ProxySession

end FileZilla
