import FileZilla.Engine.Ftp.LoginSequence
import FileZilla.Engine.ServerSettings

namespace FileZilla

/-- `ProtectedCredentials`. Passwords may be encrypted with a public key. -/
structure Credentials (Key : Type) where
  logonType : LogonType := .anonymous
  password : WString := []
  account : WString := []
  keyFile : WString := []
  encrypted : Option Key := none
  deriving DecidableEq

namespace Credentials

variable {Key : Type}

def setPass (credentials : Credentials Key) (password : WString) : Credentials Key :=
  if credentials.logonType = .anonymous then credentials else { credentials with password }

def getPass (credentials : Credentials Key) : WString :=
  if credentials.logonType = .anonymous then [] else credentials.password

end Credentials

structure Site (Key : Type) where
  server : CServer := CServer.empty
  credentials : Credentials Key := {}
  name : WString := []
  sitePath : WString := []
  connectionLimit : Nat := 0
  deriving DecidableEq

namespace Site

variable {Key : Type}

def setLogonType (site : Site Key) (logonType : LogonType) : Site Key :=
  { site with
    credentials := { site.credentials with logonType }
    server := if logonType = .anonymous then { site.server with user := [] } else site.server }

def setUser (site : Site Key) (user : WString) : Site Key :=
  { site with
    server := { site.server with
      user := if site.credentials.logonType = .anonymous then [] else user } }

structure Valid (site : Site Key) : Prop where
  host : site.server.host ≠ []
  port : 1 ≤ site.server.port ∧ site.server.port ≤ 65535
  protocol : site.server.protocol ≠ .unknown
  type : site.server.protocol.hasFeature .serverType = false → site.server.type = .unix
  anonymousUser : site.credentials.logonType = .anonymous → site.server.user = []
  anonymousPassword : site.credentials.logonType = .anonymous → site.credentials.password = []
  timezoneOffset : -(60 * 24) ≤ site.server.timezoneOffset ∧ site.server.timezoneOffset ≤ 60 * 24
  connectionLimit : site.connectionLimit < 2 ^ 32
  customEncoding : site.server.encodingType = .custom ↔ site.server.customEncoding ≠ []
  noCommands : site.server.protocol.hasFeature .postLoginCommands = false →
    site.server.postLoginCommands = []
  commands : ∀ command ∈ site.server.postLoginCommands, command ≠ []
  parameters : Parameters.Valid site.server.protocol site.server.extraParameters

end Site

end FileZilla
