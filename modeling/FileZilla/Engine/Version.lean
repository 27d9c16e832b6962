import FileZilla.Engine.DirectoryListingParser.Token

namespace FileZilla

def toInt64 (number : Int) : Int :=
  Int.bmod number (2 ^ 64)

/-- `<<` for `int64_t`, where the machine takes the count modulo 64 -/
def shiftLeft64 (number count : Int) : Int :=
  toInt64 (number * 2 ^ (count % 64).toNat)

structure VersionReader where
  v : Int := 0
  segment : Int := 0
  shifts : Int := 0

namespace VersionReader

def separator (self : VersionReader) : VersionReader :=
  { v := shiftLeft64 (toInt64 (self.v + self.segment)) 10
    segment := 0
    shifts := self.shifts + 1 }

def readChar (self : VersionReader) (char : WChar) : VersionReader :=
  let self :=
    if char = '.'.toNat ∨ char = '-'.toNat ∨ char = 'b'.toNat then self.separator else self
  if char = '-'.toNat ∧ self.shifts < 4 then
    { self with v := shiftLeft64 self.v ((4 - self.shifts) * 10), shifts := 4 }
  else if isDigit char then
    { self with segment := toInt (toInt (self.segment * 10) + (char - 48 : Nat)) }
  else self

end VersionReader

def convertToVersionNumber (version : WString) : Int :=
  let version := cString version
  if !(version.head?.any isDigit) then -1
  else
    let reader := version.foldl VersionReader.readChar {}
    let v := shiftLeft64 (toInt64 (reader.v + reader.segment)) ((5 - reader.shifts) * 10)
    -- Final releases are above their release candidates and betas
    if v % 2 ^ 20 = 0 then v + 2 ^ 19 else v

example : convertToVersionNumber (wide "3.66.0-rc1") < convertToVersionNumber (wide "3.66.0") ∧
    convertToVersionNumber (wide "3.66.0") < convertToVersionNumber (wide "3.66.1-beta2") := by
  decide

end FileZilla
