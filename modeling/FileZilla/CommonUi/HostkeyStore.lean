import FileZilla.Runs
import FileZilla.Text

namespace FileZilla

namespace HostkeyStore

def strtokenizer (delims text : List UInt8) : List (List UInt8) :=
  (text.splitOnP delims.contains).filter fun token => token ≠ []

def separators : List UInt8 :=
  asciiBytes ", \r\n\t"

def addAlgorithm (algorithms toAdd : List UInt8) : List UInt8 :=
  if toAdd ∈ strtokenizer separators algorithms then algorithms
  else if algorithms = [] then toAdd
  else algorithms ++ asciiBytes "," ++ toAdd

def knownAlgorithm (algorithm algorithms : List UInt8) : Bool :=
  algorithm ∈ strtokenizer separators algorithms

structure AlgorithmInfo where
  kex : List UInt8
  cipherC2s : List UInt8
  cipherS2c : List UInt8
  macC2s : List UInt8
  macS2c : List UInt8
  hostkeySignature : List UInt8
  deriving DecidableEq

def AlgorithmInfo.algorithms (info : AlgorithmInfo) : List (List UInt8) :=
  [info.kex, info.cipherC2s, info.cipherS2c, info.macC2s, info.macS2c, info.hostkeySignature]

def insecureAlgorithms : List (List UInt8) :=
  ["aes128-cbc", "aes192-cbc", "aes256-cbc", "ssh-rsa", "diffie-hellman-group1-sha1",
    "diffie-hellman-group14-sha1", "diffie-hellman-group-exchange-sha1"].map asciiBytes

def isInsecureAlgorithm (algorithm : List UInt8) : Bool :=
  algorithm ∈ insecureAlgorithms

def getInsecureAlgorithms (info : AlgorithmInfo) : List UInt8 :=
  info.algorithms.foldl (fun insecure algorithm =>
      if isInsecureAlgorithm algorithm then addAlgorithm insecure algorithm else insecure)
    []

def isSubset (subset all : List UInt8) : Bool :=
  (strtokenizer (asciiBytes ",") subset).all fun algorithm => knownAlgorithm algorithm all

abbrev Place := List UInt8 × UInt16

structure Entry where
  hostkeys : List (List UInt8)
  allowedInsecureAlgorithms : List UInt8

def Entry.knownKey (entry : Entry) (key : List UInt8) : Bool :=
  entry.hostkeys.contains key

abbrev Entries := Place → Option Entry

/-- What the loop of `Load` accepts of the elements that `Save` has written -/
def accepted (entries : Entries) : Entries := fun place =>
  match entries place with
  | none => none
  | some entry =>
    let blobs := entry.hostkeys.filter fun blob => blob ≠ []
    if place.1 = [] ∨ place.2 = 0 ∨ blobs = [] then none
    else some { entry with hostkeys := blobs }

/-- A decision of the user, or that a key has been trusted without asking -/
structure Consent where
  place : Place
  /-- The key that the user accepted -/
  key : Option (List UInt8)
  info : AlgorithmInfo
  deriving DecidableEq

/-- `file` is what the last successful `Save` wrote. `unsaved` only records whether the entries
have been changed since, and `history` what has been decided. -/
structure Store where
  sessionTrustedKeys : Entries := fun _ => none
  trustedKeys : Entries := fun _ => none
  file : Option Entries := none
  unsaved : Bool := false
  history : List Consent := []

/-- What happens in `Load` -/
inductive Loading
  | unmodified
  | failed
  | loaded
  deriving DecidableEq

namespace Store

def load (loading : Loading) (self : Store) : Store :=
  match loading with
  | .unmodified => self
  | .failed => { self with trustedKeys := fun _ => none }
  | .loaded =>
    match self.file with
    | none => { self with trustedKeys := fun _ => none }
    | some entries => { self with trustedKeys := accepted entries }

/-- `Save`; nothing is written in kiosk mode or where the file cannot be saved. -/
def save (writes : Bool) (self : Store) : Store :=
  if writes then { self with file := some self.trustedKeys, unsaved := false } else self

structure Answer where
  trusted : Bool
  remember : Bool := false

/-- The arguments of `IsTrusted`, and what the calls it makes find and do -/
structure Call where
  host : WString
  port : UInt16
  key : List UInt8
  info : AlgorithmInfo
  silent : Bool := false
  first : Loading := .unmodified
  answer : Answer := { trusted := false }
  second : Loading := .unmodified
  writes : Bool := true

variable (lowered : WString → List UInt8) (call : Call)

def Call.place : Place :=
  (lowered call.host, call.port)

def hostData (place : Place) (self : Store) : Option (Bool × Entry) :=
  match self.sessionTrustedKeys place with
  | some entry => some (true, entry)
  | none => (self.trustedKeys place).map fun entry => (false, entry)

def updateAllowed (session : Bool) (entry : Entry) (self : Store) : Store :=
  let insecureAlgorithms := getInsecureAlgorithms call.info
  if insecureAlgorithms ≠ entry.allowedInsecureAlgorithms then
    let entry := some { entry with allowedInsecureAlgorithms := insecureAlgorithms }
    let place := call.place lowered
    let self :=
      if session then
        { self with sessionTrustedKeys := Function.update self.sessionTrustedKeys place entry }
      else
        { self with
          trustedKeys := Function.update self.trustedKeys place entry
          unsaved := true }
    self.save call.writes
  else self

def accept (self : Store) : Store :=
  let place := call.place lowered
  let entry := some
    { hostkeys := [call.key], allowedInsecureAlgorithms := getInsecureAlgorithms call.info }
  if call.answer.remember then
    let self :=
      { self with sessionTrustedKeys := Function.update self.sessionTrustedKeys place none }
    let self := self.load call.second
    let self :=
      { self with
        trustedKeys := Function.update self.trustedKeys place entry
        unsaved := true }
    self.save call.writes
  else { self with sessionTrustedKeys := Function.update self.sessionTrustedKeys place entry }

/-- `verification_flags`, which the user gets to see -/
structure VerificationFlags where
  unknown : Bool
  changed : Bool
  insecure : Bool
  deriving DecidableEq

def verificationFlags (found : Option (Bool × Entry)) : VerificationFlags where
  unknown := found.isNone
  changed := found.any fun (_, entry) => !entry.knownKey call.key
  insecure := getInsecureAlgorithms call.info ≠ []

/-- How `IsTrusted` comes to its result: true without asking, what the user says, or false -/
inductive Verdict
  | silently
  | asked (flags : VerificationFlags) (trusted : Bool)
  | silent
  deriving DecidableEq

def noteConsent (consent : Consent) (self : Store) : Store :=
  { self with history := self.history ++ [consent] }

def isTrusted (self : Store) : Verdict × Store :=
  let self := self.load call.first
  let place := call.place lowered
  let found := self.hostData place
  let flags := verificationFlags call found
  let known := found.filter fun (_, entry) =>
    entry.knownKey call.key &&
      isSubset (getInsecureAlgorithms call.info) entry.allowedInsecureAlgorithms
  match known with
  | some (session, entry) =>
    (.silently, (self.updateAllowed lowered call session entry).noteConsent
      { place, key := none, info := call.info })
  | none =>
    if call.silent then (.silent, self)
    else if call.answer.trusted then
      (.asked flags true, (self.accept lowered call).noteConsent
        { place, key := some call.key, info := call.info })
    else (.asked flags false, self)

def step (self : Store) (call : Call) : Option Store :=
  some (self.isTrusted lowered call).2

end Store

end HostkeyStore

end FileZilla
