import FileZilla.Engine.Server
import Mathlib.Algebra.Order.Ring.Int

namespace FileZilla

/-- `fz::replace_substrings`, where the given number of characters has been replaced already. -/
def replaceFrom (find replacement : WString) : Nat → WString → WString
  | _, [] => []
  | replaced + 1, _ :: rest => replaceFrom find replacement replaced rest
  | 0, char :: rest =>
    if find.isPrefixOf (char :: rest) then
      replacement ++ replaceFrom find replacement (find.length - 1) rest
    else char :: replaceFrom find replacement 0 rest

def replaceSubstrings (text find replacement : WString) : WString :=
  replaceFrom find replacement 0 text

def strtok (text delims : WString) : List WString :=
  (text.splitOnP delims.contains).filter fun token => !token.isEmpty

def contains (pattern text : WString) : Bool :=
  (findText pattern text).isSome

/-- `fz::to_integral<unsigned int>` -/
def toUnsigned (text : WString) : Nat :=
  let digits := if text.head? = some '+'.toNat then text.tail else text
  if digits = [] ∨ !digits.all (fun char => 48 ≤ char ∧ char ≤ 57) then 0
  else
    let number := digits.foldl (fun number char => number * 10 + (char - 48)) 0
    if number < 2 ^ 32 then number else 0

inductive LogonType
  | anonymous
  | normal
  | ask
  | interactive
  | account
  | key
  | profile
  | adc
  deriving DecidableEq

namespace Ftp

inductive LoginCommandType
  | user
  | pass
  | account
  | other
  deriving DecidableEq

structure LoginCommand where
  optional : Bool := false
  hideArguments : Bool := false
  type : LoginCommandType
  command : WString := []
  deriving DecidableEq

/-- The options, the credentials and the server as far as they stay the same while logging on.
`formatted` is the server with its port where that is not the default. -/
structure LogonSettings where
  server : CServer
  formatted : WString := server.host
  logonType : LogonType := .normal
  account : WString := []
  genericProxy : Bool := false
  ftpProxyType : Int := 0
  proxyHost : WString := []
  proxyUser : WString := []
  proxyPass : WString := []
  customLoginSequence : WString := []

namespace LogonSettings

variable (self : LogonSettings)

def user : WString :=
  if self.logonType = .anonymous then wide "anonymous" else self.server.user

def userCommand : LoginCommand :=
  { type := .user }

def passCommand : LoginCommand :=
  { optional := true, hideArguments := true, type := .pass }

def accountCommands : List LoginCommand :=
  if self.account = [] then [] else [{ optional := true, type := .account }]

def proxyCommands : List LoginCommand :=
  if self.proxyUser = [] then []
  else
    [{ type := .other, command := wide "USER " ++ self.proxyUser },
      { optional := true, hideArguments := true, type := .other
        command := wide "PASS " ++ self.proxyPass }]

def customCommand (token : WString) : Option LoginCommand :=
  let escape (text : WString) : WString := replaceSubstrings text (wide "%") (wide "%%")
  let isHost := contains (wide "%h") token
  let isUser := contains (wide "%u") token
  let password := contains (wide "%p") token
  let isProxyUser := contains (wide "%s") token
  let isProxyPass := contains (wide "%w") token
  let isAccount := contains (wide "%a") token
  if isAccount && self.account.isEmpty then none
  else if isProxyUser && !isHost && !isUser && self.proxyUser.isEmpty then none
  else if isProxyPass && !isHost && !isUser && self.proxyUser.isEmpty then none
  else
    let token := replaceSubstrings token (wide "%s") (escape self.proxyUser)
    let token := replaceSubstrings token (wide "%w") (escape self.proxyPass)
    let token := replaceSubstrings token (wide "%h") (escape self.formatted)
    let token := replaceSubstrings token (wide "%u") (escape self.user)
    let token := replaceSubstrings token (wide "%a") (escape self.account)
    let token := if password then token else replaceSubstrings token (wide "%%") (wide "%")
    let (optional, type) : Bool × LoginCommandType :=
      if isUser && !password && !isAccount then (false, .user)
      else if password && !isUser && !isAccount then (true, .pass)
      else if isAccount && !isUser && !password then (true, .account)
      else (false, .other)
    some { optional, hideArguments := password || isProxyPass, type, command := token }

/-- `PrepareLoginSequence` with the type of the FTP proxy -/
def prepareLoginSequence (ftpProxyType : Int) :
    Option (List LoginCommand) :=
  if ftpProxyType = 0 then some ([userCommand, passCommand] ++ self.accountCommands)
  else if ftpProxyType = 1 then
    let user : LoginCommand :=
      { type := .user
        command := wide "USER " ++ self.user ++ wide "@" ++ self.formatted }
    some (self.proxyCommands ++ [user, passCommand] ++ self.accountCommands)
  else if ftpProxyType = 2 ∨ ftpProxyType = 3 then
    let opens := if ftpProxyType = 2 then wide "SITE " else wide "OPEN "
    some (self.proxyCommands ++
      [{ type := .user, command := opens ++ self.formatted }, userCommand, passCommand] ++
      self.accountCommands)
  else if ftpProxyType = 4 then
    let commands := (strtok self.customLoginSequence (wide "\r\n")).filterMap self.customCommand
    if commands = [] then none else some commands
  else none

/-- Where to connect to, unless the host of the proxy is invalid. -/
def endpoint (ftpProxyType : Int) : Option (WString × Nat) :=
  if ftpProxyType = 0 then some (self.server.host, self.server.port)
  else
    let host := self.proxyHost
    -- The outer option is for errors, the inner one for the colon before the port
    let colon : Option (Option Nat) :=
      if host.head? = some '['.toNat then
        match host.idxOf? ']'.toNat with
        | none => none
        | some position =>
          if position + 1 < host.length ∧ host.getD (position + 1) 0 ≠ 0 then
            if host.getD (position + 1) 0 ≠ ':'.toNat then none
            else some (some (position + 1))
          else some none
      else some (host.idxOf? ':'.toNat)
    match colon with
    | none => none
    | some colon =>
      let (host, port) := match colon with
        | some position => (host.take position, toUnsigned (host.drop (position + 1)))
        | none => (host, 21)
      if host = [] ∨ port < 1 ∨ port > 65535 then none else some (host, port)

end LogonSettings

end Ftp

end FileZilla
