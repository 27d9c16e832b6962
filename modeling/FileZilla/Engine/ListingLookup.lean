import FileZilla.Engine.DirectoryListing

namespace FileZilla

universe u

/-! The two indexes by which a listing finds its entries. They are built as far as
a lookup needs them and dropped when entries change. -/

abbrev SearchMap := List (WString × Nat)

/-- `find` of an unordered multimap may return any of the elements with the key. -/
structure MultimapFind where
  find : SearchMap → WString → Option Nat
  found : ∀ {map key index}, find map key = some index → (key, index) ∈ map
  missing : ∀ {map key}, find map key = none → ∀ index, (key, index) ∉ map

structure IndexedListing (Time : Type u) extends CDirectoryListing Time where
  searchmapCase : Option SearchMap := none
  searchmapNocase : Option SearchMap := none

variable {Time : Type u}

namespace IndexedListing

section Lookup

variable (multimap : MultimapFind) (key : CDirentry Time → WString)

def buildUntil (name : WString) : List (CDirentry Time) → Nat → SearchMap → Option Nat × SearchMap
  | [], _, map => (none, map)
  | entry :: entries, i, map =>
    let map := map ++ [(key entry, i)]
    if key entry = name then
      (some i, map)
    else
      buildUntil name entries (i + 1) map

def findFile (entries : List (CDirentry Time)) (searchmap : Option SearchMap) (name : WString) :
    Option Nat × Option SearchMap :=
  if entries.isEmpty then
    (none, searchmap)
  else
    let map := searchmap.getD []
    match multimap.find map name with
    | some index => (some index, some map)
    | none =>
      if map.length = entries.length then
        (none, some map)
      else
        let built := buildUntil key name (entries.drop map.length) map.length map
        (built.1, some built.2)

end Lookup

variable (multimap : MultimapFind) (towlower : WChar → WChar)

def strToLower (name : WString) : WString :=
  name.map towlower

def lowerName (entry : CDirentry Time) : WString :=
  strToLower towlower entry.name

variable (listing : IndexedListing Time)

def findFileCmpCase (name : WString) :
    Option Nat × IndexedListing Time :=
  let found := findFile multimap CDirentry.name listing.entries listing.searchmapCase name
  (found.1, { listing with searchmapCase := found.2 })

def findFileCmpNoCase (name : WString) :
    Option Nat × IndexedListing Time :=
  let found := findFile multimap (lowerName towlower) listing.entries listing.searchmapNocase
    (strToLower towlower name)
  (found.1, { listing with searchmapNocase := found.2 })

def clearFindMap : IndexedListing Time :=
  if listing.searchmapCase.isNone then
    listing
  else
    { listing with searchmapCase := none, searchmapNocase := none }

def append (entry : CDirentry Time) : IndexedListing Time :=
  { listing with entries := listing.entries ++ [entry] }

def assign (entries : List (CDirentry Time)) :
    IndexedListing Time :=
  { listing with entries := entries, searchmapCase := none, searchmapNocase := none }

def removeEntry (index : Nat) : Bool × IndexedListing Time :=
  if index ≥ listing.entries.length then
    (false, listing)
  else
    (true, { listing with
      entries := listing.entries.eraseIdx index
      searchmapCase := none
      searchmapNocase := none })

/-- What `get(index)` refers to becomes `entry`. -/
def setEntry (index : Nat) (entry : CDirentry Time) :
    IndexedListing Time :=
  { listing with entries := listing.entries.set index entry }

inductive Call (Time : Type u) where
  | findFileCmpCase (name : WString)
  | findFileCmpNoCase (name : WString)
  | append (entry : CDirentry Time)
  | assign (entries : List (CDirentry Time))
  | removeEntry (index : Nat)
  /-- `get(index)` with a change, then `ClearFindMap` -/
  | change (index : Nat) (entry : CDirentry Time)

def step : Call Time → IndexedListing Time
  | .findFileCmpCase name => (listing.findFileCmpCase multimap name).2
  | .findFileCmpNoCase name => (listing.findFileCmpNoCase multimap towlower name).2
  | .append entry => listing.append entry
  | .assign entries => listing.assign entries
  | .removeEntry index => (listing.removeEntry index).2
  | .change index entry => (listing.setEntry index entry).clearFindMap

def run (calls : List (Call Time)) : IndexedListing Time :=
  calls.foldl (step multimap towlower) listing

def Answers (key : CDirentry Time → WString) (entries : List (CDirentry Time))
    (name : WString) : Option Nat → Prop
  | some index => ∃ entry, entries[index]? = some entry ∧ key entry = name
  | none => ∀ entry ∈ entries, key entry ≠ name

/-- The index of the first `count` entries -/
def indexUpTo (key : CDirentry Time → WString) (entries : List (CDirentry Time)) (count : Nat) :
    SearchMap :=
  ((entries.take count).map key).zipIdx

def Current (key : CDirentry Time → WString) (entries : List (CDirentry Time))
    (searchmap : Option SearchMap) : Prop :=
  ∀ map, searchmap = some map → ∃ count ≤ entries.length, map = indexUpTo key entries count

structure Indexed (listing : IndexedListing Time) : Prop where
  case : Current CDirentry.name listing.entries listing.searchmapCase
  nocase : Current (lowerName towlower) listing.entries listing.searchmapNocase

/-- The change leaves no name in the lower-case index that the entry does not have. -/
def LeavesNothingStale (index : Nat)
    (entry : CDirentry Time) : Prop :=
  listing.searchmapCase.isSome ∨
    ∀ map, listing.searchmapNocase = some map → index < map.length →
      ∀ old, listing.entries[index]? = some old →
        lowerName towlower entry = lowerName towlower old

def Call.Permitted : Call Time → Prop
  | .change index entry => LeavesNothingStale towlower listing index entry
  | _ => True

def AllPermitted (listing : IndexedListing Time) : List (Call Time) → Prop
  | [] => True
  | call :: calls => call.Permitted towlower listing ∧
      AllPermitted (listing.step multimap towlower call) calls

open List

section Index

variable {key : CDirentry Time → WString} {entries : List (CDirentry Time)}

variable {count : Nat}

theorem length_indexUpTo (inside : count ≤ entries.length) :
    (indexUpTo key entries count).length = count := by
  simp [indexUpTo, Nat.min_eq_left inside]

theorem mem_indexUpTo {index : Nat} {name : WString} :
    (name, index) ∈ indexUpTo key entries count ↔
      index < count ∧ ∃ entry, entries[index]? = some entry ∧ key entry = name := by
  rw [indexUpTo, mem_zipIdx_iff_getElem?, getElem?_map, getElem?_take]
  split
  case isTrue below => simp [below]
  case isFalse beyond => simp [beyond]

theorem indexUpTo_succ {entry : CDirentry Time} (here : entries[count]? = some entry) :
    indexUpTo key entries (count + 1) = indexUpTo key entries count ++ [(key entry, count)] := by
  obtain ⟨inside, _⟩ := List.getElem?_eq_some_iff.mp here
  have taken : ((entries.take count).map key).length = count := by
    simp [Nat.min_eq_left (Nat.le_of_lt inside)]
  rw [indexUpTo, take_add_one, here, map_append, zipIdx_append, taken, Nat.zero_add]
  rfl

theorem indexUpTo_append (inside : count ≤ entries.length) (entry : CDirentry Time) :
    indexUpTo key (entries ++ [entry]) count = indexUpTo key entries count := by
  rw [indexUpTo, take_append_of_le_length inside, indexUpTo]

theorem current_indexUpTo (inside : count ≤ entries.length) :
    Current key entries (some (indexUpTo key entries count)) :=
  fun _ present => ⟨count, inside, (Option.some.inj present).symm⟩

theorem buildUntil_spec (name : WString) {rest : List (CDirentry Time)}
    (left : entries.drop count = rest) (inside : count ≤ entries.length)
    (missing : ∀ entry ∈ entries.take count, key entry ≠ name) :
    let built := buildUntil key name rest count (indexUpTo key entries count)
    Answers key entries name built.1 ∧ Current key entries (some built.2) := by
  induction rest generalizing count with
  | nil =>
    refine ⟨fun entry member => missing entry ?_, ?_⟩
    · rwa [← take_append_drop count entries, left, append_nil] at member
    · exact current_indexUpTo inside
  | cons entry rest extended =>
    have here : entries[count]? = some entry := by
      rw [← head?_drop, left]
      rfl
    obtain ⟨below, _⟩ := List.getElem?_eq_some_iff.mp here
    rw [buildUntil, ← indexUpTo_succ here]
    split
    case isTrue same =>
      exact ⟨⟨entry, here, same⟩, current_indexUpTo below⟩
    case isFalse different =>
      refine extended ?_ below fun candidate member => ?_
      · rw [← drop_drop, left]
        rfl
      · rw [take_add_one, here, mem_append] at member
        rcases member with earlier | this
        · exact missing candidate earlier
        · cases mem_singleton.mp this
          exact different

variable {searchmap : Option SearchMap}

theorem findFile_spec (multimap : MultimapFind) (current : Current key entries searchmap)
    (name : WString) :
    Answers key entries name (findFile multimap key entries searchmap name).1 ∧
      Current key entries (findFile multimap key entries searchmap name).2 := by
  unfold findFile
  split
  case isTrue empty =>
    rw [List.isEmpty_iff] at empty
    subst empty
    exact ⟨fun _ member => absurd member not_mem_nil, current⟩
  case isFalse =>
    obtain ⟨count, inside, indexed⟩ : ∃ count ≤ entries.length,
        searchmap.getD [] = indexUpTo key entries count := by
      cases searchmap with
      | none => exact ⟨0, Nat.zero_le _, by simp [indexUpTo]⟩
      | some map => exact current map rfl
    rw [indexed]
    dsimp only
    split
    case h_1 index found =>
      obtain ⟨_, entry, here, same⟩ := mem_indexUpTo.mp (multimap.found found)
      exact ⟨⟨entry, here, same⟩, current_indexUpTo inside⟩
    case h_2 nowhere =>
      have missing : ∀ entry ∈ entries.take count, key entry ≠ name := by
        intro entry member same
        obtain ⟨index, here⟩ := mem_iff_getElem?.mp member
        rw [getElem?_take] at here
        split at here
        case isTrue below =>
          exact multimap.missing nowhere index (mem_indexUpTo.mpr ⟨below, entry, here, same⟩)
        case isFalse => cases here
      rw [length_indexUpTo inside]
      split
      case isTrue complete =>
        subst complete
        rw [take_length] at missing
        exact ⟨missing, current_indexUpTo inside⟩
      case isFalse => exact buildUntil_spec name rfl inside missing

theorem Current.append (current : Current key entries searchmap) (entry : CDirentry Time) :
    Current key (entries ++ [entry]) searchmap := by
  intro map present
  obtain ⟨count, inside, rfl⟩ := current map present
  refine ⟨count, ?_, (indexUpTo_append inside entry).symm⟩
  rw [length_append]
  exact Nat.le_add_right_of_le inside

theorem Current.none : Current key entries none :=
  fun _ absent => by cases absent

theorem current_set_iff (current : Current key entries searchmap) (index : Nat)
    (entry : CDirentry Time) :
    Current key (entries.set index entry) searchmap ↔
      ∀ map, searchmap = some map → index < map.length →
        ∀ old, entries[index]? = some old → key entry = key old := by
  constructor
  · intro still map present covered old here
    obtain ⟨count, inside, rfl⟩ := current map present
    rw [length_indexUpTo inside] at covered
    obtain ⟨count', _, same⟩ := still _ present
    have listed : (key old, index) ∈ indexUpTo key entries count :=
      mem_indexUpTo.mpr ⟨covered, old, here, rfl⟩
    rw [same] at listed
    obtain ⟨_, changed, there, agrees⟩ := mem_indexUpTo.mp listed
    rw [getElem?_set_self (Nat.lt_of_lt_of_le covered inside)] at there
    cases there
    exact agrees
  · intro kept map present
    obtain ⟨count, inside, rfl⟩ := current map present
    refine ⟨count, by rwa [length_set], ?_⟩
    rw [indexUpTo, indexUpTo, take_set, map_set]
    congr 1
    rcases Nat.lt_or_ge index count with covered | beyond
    · have here := getElem?_eq_getElem (Nat.lt_of_lt_of_le covered inside)
      have same := kept _ present (by rwa [length_indexUpTo inside]) _ here
      have short : index < ((entries.take count).map key).length := by
        rw [length_map, length_take]
        omega
      have named : key entries[index] = ((entries.take count).map key)[index] := by
        simp
      rw [same, named, set_getElem_self]
    · symm
      apply set_eq_of_length_le
      rw [length_map, length_take]
      omega

end Index

variable {multimap towlower} {listing : IndexedListing Time}

theorem findFileCmpCase_spec (indexed : listing.Indexed towlower) (name : WString) :
    Answers CDirentry.name listing.entries name (listing.findFileCmpCase multimap name).1 ∧
      (listing.findFileCmpCase multimap name).2.Indexed towlower := by
  obtain ⟨answers, current⟩ := findFile_spec multimap indexed.case name
  exact ⟨answers, { case := current, nocase := indexed.nocase }⟩

theorem findFileCmpNoCase_spec (indexed : listing.Indexed towlower) (name : WString) :
    Answers (lowerName towlower) listing.entries (strToLower towlower name)
        (listing.findFileCmpNoCase multimap towlower name).1 ∧
      (listing.findFileCmpNoCase multimap towlower name).2.Indexed towlower := by
  obtain ⟨answers, current⟩ := findFile_spec multimap indexed.nocase (strToLower towlower name)
  exact ⟨answers, { case := indexed.case, nocase := current }⟩

theorem Indexed.fresh {path : CDirectoryListing Time} :
    ({ path with } : IndexedListing Time).Indexed towlower where
  case := .none
  nocase := .none

theorem Indexed.append (indexed : listing.Indexed towlower) (entry : CDirentry Time) :
    (listing.append entry).Indexed towlower where
  case := indexed.case.append entry
  nocase := indexed.nocase.append entry

theorem Indexed.removeEntry (indexed : listing.Indexed towlower) (index : Nat) :
    (listing.removeEntry index).2.Indexed towlower := by
  unfold IndexedListing.removeEntry
  split
  case isTrue => exact indexed
  case isFalse => exact { case := .none, nocase := .none }

theorem indexed_change_iff (indexed : listing.Indexed towlower) (index : Nat)
    (entry : CDirentry Time) :
    (listing.setEntry index entry).clearFindMap.Indexed towlower ↔
      LeavesNothingStale towlower listing index entry := by
  unfold clearFindMap LeavesNothingStale
  change (if listing.searchmapCase.isNone then _ else _ : IndexedListing Time).Indexed towlower ↔ _
  cases present : listing.searchmapCase with
  | some map =>
    refine iff_of_true ?_ (.inl rfl)
    exact { case := .none, nocase := .none }
  | none =>
    rw [if_pos (by rfl)]
    have nocase := current_set_iff indexed.nocase index entry
    constructor
    · exact fun still => .inr (nocase.mp still.nocase)
    · intro kept
      have case : Current CDirentry.name (listing.setEntry index entry).entries
          (listing.setEntry index entry).searchmapCase :=
        present ▸ Current.none
      exact { case, nocase := nocase.mpr (kept.resolve_left (by simp)) }

theorem Indexed.step {call : Call Time} (indexed : listing.Indexed towlower)
    (permitted : call.Permitted towlower listing) :
    (listing.step multimap towlower call).Indexed towlower := by
  cases call with
  | findFileCmpCase name => exact (findFileCmpCase_spec indexed name).2
  | findFileCmpNoCase name => exact (findFileCmpNoCase_spec indexed name).2
  | append entry => exact indexed.append entry
  | assign entries => exact { case := .none, nocase := .none }
  | removeEntry index => exact indexed.removeEntry index
  | change index entry => exact (indexed_change_iff indexed index entry).mpr permitted

theorem Indexed.run {calls : List (Call Time)} (indexed : listing.Indexed towlower)
    (permitted : AllPermitted multimap towlower listing calls) :
    (listing.run multimap towlower calls).Indexed towlower := by
  induction calls generalizing listing with
  | nil => exact indexed
  | cons call calls continued => exact continued (indexed.step permitted.1) permitted.2

theorem lookups_answer (multimap : MultimapFind) (towlower : WChar → WChar)
    (listing : CDirectoryListing Time) (calls : List (Call Time))
    (permitted : AllPermitted multimap towlower { listing with } calls) (name : WString) :
    let reached := run multimap towlower { listing with } calls
    Answers CDirentry.name reached.entries name (reached.findFileCmpCase multimap name).1 ∧
      Answers (lowerName towlower) reached.entries (strToLower towlower name)
        (reached.findFileCmpNoCase multimap towlower name).1 := by
  have indexed := Indexed.fresh.run permitted
  exact ⟨(findFileCmpCase_spec indexed name).1, (findFileCmpNoCase_spec indexed name).1⟩

def findFirst : MultimapFind where
  find map key := (map.find? fun element => element.1 == key).map Prod.snd
  found := by
    intro map key index found
    obtain ⟨element, here, rfl⟩ := Option.map_eq_some_iff.mp found
    have same : element.1 = key := by simpa using find?_some here
    subst same
    exact mem_of_find?_eq_some here
  missing := by
    intro map key nowhere index member
    have different := find?_eq_none.mp (Option.map_eq_none_iff.mp nowhere) _ member
    exact different (beq_self_eq_true key)

def asciiTowlower (char : WChar) : WChar :=
  if 65 ≤ char ∧ char ≤ 90 then char + 32 else char

def abListing : CDirectoryListing Nat where
  path := { data := none, type := .unix }
  entries := [{ name := wide "A" }, { name := wide "b" }]

theorem lookups_answer_renamed :
    let calls := [.findFileCmpNoCase (wide "B"), .findFileCmpCase (wide "b"),
      .change 0 { name := wide "C" }]
    AllPermitted findFirst asciiTowlower { abListing with } calls ∧
      let reached := run findFirst asciiTowlower { abListing with } calls
      Answers (lowerName asciiTowlower) reached.entries (wide "c")
        (reached.findFileCmpNoCase findFirst asciiTowlower (wide "c")).1 := by
  have permitted : AllPermitted findFirst asciiTowlower { abListing with }
      [.findFileCmpNoCase (wide "B"), .findFileCmpCase (wide "b"),
        .change 0 { name := wide "C" }] :=
    ⟨trivial, trivial, .inl rfl, trivial⟩
  exact ⟨permitted, (lookups_answer findFirst asciiTowlower abListing _ permitted (wide "c")).2⟩

/-- With only the lower-case index there, a renamed entry is still found by its old name. -/
theorem lookups_find_old_name :
    let reached := run findFirst asciiTowlower { abListing with }
      [.findFileCmpNoCase (wide "a"), .change 0 { name := wide "c" }]
    ¬Answers (lowerName asciiTowlower) reached.entries (wide "a")
      (reached.findFileCmpNoCase findFirst asciiTowlower (wide "a")).1 := by
  have found : ((run findFirst asciiTowlower { abListing with }
      [.findFileCmpNoCase (wide "a"), .change 0 { name := wide "c" }]).findFileCmpNoCase
        findFirst asciiTowlower (wide "a")).1 = some 0 := by
    decide
  intro reached answers
  rw [found] at answers
  obtain ⟨entry, here, same⟩ := answers
  cases here
  revert same
  decide

end IndexedListing

end FileZilla
