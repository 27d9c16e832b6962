import FileZilla.Runs
import FileZilla.Text
import Mathlib.Data.Finset.Basic

namespace FileZilla

/-! Certificates that are trusted, and hosts where no TLS is needed: `cert_store` and
`xml_cert_store`. -/

abbrev HostPort := List UInt8 × Nat

structure CertData where
  host : List UInt8
  trustSans : Bool := false
  port : Nat
  data : List UInt8

def CertData.place (cert : CertData) : HostPort :=
  (cert.host, cert.port)

structure CertContainers where
  trustedCerts : List CertData := []
  insecureHosts : Finset HostPort := ∅

namespace CertContainers

variable (self : CertContainers) (place : HostPort)

/-- The loops of `HasCertificate` -/
def hasCertificate : Bool :=
  self.trustedCerts.any fun cert => cert.place = place

/-- `remove_if` over the certificates -/
def removeCertificates : CertContainers :=
  { self with trustedCerts := self.trustedCerts.filter fun cert => cert.place ≠ place }

def eraseInsecure : CertContainers :=
  { self with insecureHosts := self.insecureHosts.erase place }

def addCertificate (cert : CertData) : CertContainers :=
  { self with trustedCerts := self.trustedCerts ++ [cert] }

def addInsecure : CertContainers :=
  { self with insecureHosts := insert place self.insecureHosts }

end CertContainers

def doIsTrusted (isDnsName : List UInt8 → Bool) (place : HostPort) (data : List UInt8)
    (trustedCerts : List CertData) (allowSans : Bool) : Bool :=
  data ≠ [] && trustedCerts.any fun cert =>
    place.2 = cert.port && cert.data = data &&
      (place.1 = cert.host || isDnsName place.1 && allowSans && cert.trustSans)

structure XmlCertificate where
  data : List UInt8
  activationTime : Int
  expirationTime : Int
  host : List UInt8
  port : Nat
  trustSans : Bool
  deriving DecidableEq

structure XmlCertDocument where
  certificates : List XmlCertificate := []
  insecureHosts : List HostPort := []
  deriving DecidableEq

/-- What cannot be told from the store: how texts are compared, the clock, and whether a file may
and can be saved. -/
structure CertSystem where
  isDnsName : List UInt8 → Bool
  toWstring : List UInt8 → WString
  getTextElement : List UInt8 → WString

structure CertIo where
  now : Int
  allowedToSave : Bool := true
  saves : Bool := true

variable (system : CertSystem)

def validPlace (place : HostPort) : Bool :=
  place.1 ≠ [] && 1 ≤ place.2 && place.2 ≤ 65535

/-- `processEntry` for a certificate; none where the entry gets removed. -/
def processCertificate (now : Int) (persistent : CertContainers) (cert : XmlCertificate) :
    Option CertContainers :=
  if cert.data = [] then none
  else if !validPlace (cert.host, cert.port) then none
  else if cert.activationTime = 0 ∨ now < cert.activationTime then none
  else if cert.expirationTime = 0 ∨ cert.expirationTime < now then none
  else if doIsTrusted system.isDnsName (cert.host, cert.port) cert.data persistent.trustedCerts
      false then none
  else
    some (persistent.addCertificate
      { host := cert.host, trustSans := cert.trustSans, port := cert.port, data := cert.data })

def processInsecureHost (persistent : CertContainers) (place : HostPort) :
    Option CertContainers :=
  if !validPlace place then none
  else if persistent.hasCertificate place then none
  else some (persistent.addInsecure place)

def processEntries {Element : Type} (process : CertContainers → Element → Option CertContainers) :
    CertContainers → List Element → CertContainers × List Element
  | persistent, [] => (persistent, [])
  | persistent, element :: elements =>
    match process persistent element with
    | none => processEntries process persistent elements
    | some persistent =>
      let (persistent, kept) := processEntries process persistent elements
      (persistent, element :: kept)

def processDocument (now : Int) (document : XmlCertDocument) :
    CertContainers × XmlCertDocument :=
  let (persistent, certificates) :=
    processEntries (processCertificate system now) {} document.certificates
  let (persistent, insecureHosts) :=
    processEntries processInsecureHost persistent document.insecureHosts
  (persistent, { certificates, insecureHosts })

def setInsecureToXml (place : HostPort) (root : XmlCertDocument) : XmlCertDocument where
  certificates := root.certificates.filter fun cert => (cert.host, cert.port) ≠ place
  insecureHosts := root.insecureHosts ++ [place]

def setTrustedInXml (cert : CertData) (activationTime expirationTime : Int)
    (root : XmlCertDocument) : XmlCertDocument where
  certificates := root.certificates ++
    [{ data := cert.data, activationTime, expirationTime, host := cert.host, port := cert.port,
       trustSans := cert.trustSans }]
  insecureHosts := root.insecureHosts.filter fun place =>
    system.toWstring cert.host ≠ system.getTextElement place.1 || cert.port ≠ place.2

inductive CertFile
  | missing
  | invalid
  | document (document : XmlCertDocument)
  deriving DecidableEq

inductive CertDecision
  | trusted
  | insecure

/-- `xml_cert_store`, with the file. `seen` is whether the file still has the modification time
that has been noted, `element` is the document in memory. `decisions` only records what has been
decided since the file was last changed from outside. -/
structure CertStore where
  session : CertContainers := {}
  persistent : CertContainers := {}
  element : Option XmlCertDocument := none
  file : CertFile
  seen : Bool := false
  decisions : HostPort → Option CertDecision := fun _ => none

namespace CertStore

variable (io : CertIo)

/-- `CXmlFile::Save`; where it fails, the file is as it was. -/
def save (self : CertStore) : CertStore :=
  match self.element with
  | none => self
  | some document =>
    if io.saves then { self with file := .document document, seen := true }
    else { self with seen := decide (self.file ≠ .missing) }

def loadTrustedCerts (self : CertStore) : CertStore :=
  if self.seen then self
  else
    match self.file with
    | .invalid => { self with element := none }
    -- an empty document, which has no modification time yet
    | .missing => { self with element := some {}, persistent := {} }
    | .document document =>
      let (persistent, kept) := processDocument system io.now document
      let self := { self with persistent, element := some kept, seen := true }
      if kept = document then self else self.save io

variable (place : HostPort)

def isInsecure (permanentOnly : Bool) (self : CertStore) :
    Bool × CertStore :=
  if !permanentOnly && decide (place ∈ self.session.insecureHosts) then (true, self)
  else
    let self := self.loadTrustedCerts system io
    (decide (place ∈ self.persistent.insecureHosts), self)

def hasCertificate (self : CertStore) : Bool × CertStore :=
  if self.session.hasCertificate place then (true, self)
  else
    let self := self.loadTrustedCerts system io
    (self.persistent.hasCertificate place, self)

/-- The part of `DoSetInsecure` and `DoSetTrusted` that changes the file -/
def edit (change : XmlCertDocument → XmlCertDocument) (self : CertStore) :
    CertStore :=
  if io.allowedToSave then
    match self.element with
    | none => self
    | some root => { self with element := some (change root) }.save io
  else self

def doSetInsecure (self : CertStore) : Bool × CertStore :=
  let self := self.loadTrustedCerts system io
  let (insecure, self) := self.isInsecure system io place true
  if insecure then (false, self) else (true, self.edit io (setInsecureToXml place))

def setInsecure (permanent : Bool) (self : CertStore) :
    CertStore :=
  -- A host can't be both trusted and insecure
  let self := { self with session := self.session.removeCertificates place }
  if !permanent then { self with session := self.session.addInsecure place }
  else
    let (proceed, self) := self.doSetInsecure system io place
    if !proceed then self
    else { self with persistent := (self.persistent.removeCertificates place).addInsecure place }

def doSetTrusted (cert : CertData) (activationTime expirationTime : Int)
    (self : CertStore) : Bool × CertStore :=
  let self := self.loadTrustedCerts system io
  if doIsTrusted system.isDnsName cert.place cert.data self.persistent.trustedCerts false then
    (false, self)
  else (true, self.edit io (setTrustedInXml system cert activationTime expirationTime))

def setTrusted (cert : CertData) (activationTime expirationTime : Int)
    (permanent : Bool) (self : CertStore) : CertStore :=
  -- A host can't be both trusted and insecure
  let self := { self with session := self.session.eraseInsecure cert.place }
  if !permanent then { self with session := self.session.addCertificate cert }
  else
    let (proceed, self) := self.doSetTrusted system io cert activationTime expirationTime
    if !proceed then self
    else
      { self with
        persistent := (self.persistent.eraseInsecure cert.place).addCertificate cert }

def noteDecision (decision : CertDecision) (self : CertStore) : CertStore :=
  { self with
    decisions := fun other => if other = place then some decision else self.decisions other }

inductive Call
  | setTrusted (io : CertIo) (cert : CertData) (activationTime expirationTime : Int)
      (permanent : Bool)
  | setInsecure (io : CertIo) (place : HostPort) (permanent : Bool)
  | loadTrustedCerts (io : CertIo)
  | changed (file : CertFile)

def step (self : CertStore) : Call → Option CertStore
  | .setTrusted io cert activationTime expirationTime permanent =>
    some ((self.setTrusted system io cert activationTime expirationTime permanent).noteDecision
      cert.place .trusted)
  | .setInsecure io place permanent =>
    some ((self.setInsecure system io place permanent).noteDecision place .insecure)
  | .loadTrustedCerts io => some (self.loadTrustedCerts system io)
  | .changed file => some { self with file, seen := false, decisions := fun _ => none }

end CertStore

end FileZilla
