import FileZilla.Engine.ServerPath

namespace FileZilla

universe u

/-! Directory listings. `Time` stands for the date type of the library that the
program uses; an entry without a date has none. -/

structure CDirentry (Time : Type u) where
  name : WString := []
  size : Int := -1
  permissions : WString := []
  ownerGroup : WString := []
  target : Option WString := none
  time : Option Time := none
  isDir : Bool := false
  isLink : Bool := false
  isUnsure : Bool := false
  deriving DecidableEq

structure CDirectoryListing (Time : Type u) where
  path : CServerPath
  entries : List (CDirentry Time) := []
  failed : Bool := false

end FileZilla
