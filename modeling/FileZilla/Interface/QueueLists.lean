import Mathlib.Algebra.BigOperators.Group.List.Basic
import Mathlib.Data.List.Nodup
import FileZilla.Interface.Queue

namespace FileZilla

open Option Function

universe u

open List

namespace ChildVector

variable {α : Type u}

@[simp] theorem live_add (vector : ChildVector α) (element : α) :
    (vector.add element).live = vector.live ++ [element] := by
  unfold add live
  split
  case isTrue none => simp [none]
  case isFalse => simp

variable {vector : ChildVector α}

theorem live_removeAt {index : Nat} (inside : index < vector.live.length) :
    (vector.removeAt (index + vector.removedAtFront)).live = vector.live.eraseIdx index := by
  obtain ⟨elements, removed⟩ := vector
  change index < (elements.drop removed).length at inside
  rw [length_drop] at inside
  unfold removeAt live
  simp only [Nat.add_sub_cancel]
  split
  case isTrue =>
    have front : (elements.take (removed + 1)).length = removed + 1 := by
      rw [length_take]
      omega
    rw [append_assoc, drop_append_of_le_length (Nat.le_of_eq front.symm),
      drop_of_length_le (Nat.le_of_eq front), nil_append,
      eraseIdx_eq_take_drop_succ, drop_drop]
    congr 2
    omega
  case isFalse =>
    have front : removed ≤ (elements.take (index + removed)).length := by
      rw [length_take]
      omega
    rw [eraseIdx_eq_take_drop_succ, eraseIdx_eq_take_drop_succ,
      drop_append_of_le_length front, drop_take, drop_drop, Nat.add_sub_cancel]
    congr 2
    omega

theorem find_cases [DecidableEq α] {element : α}
    (member : element ∈ vector.live) (forward : Bool) :
    ∃ index, vector.find element forward = some (index + vector.removedAtFront) ∧
      vector.live[index]? = some element := by
  have length : vector.live.length = vector.elements.length - vector.removedAtFront :=
    length_drop
  cases forward with
  | true =>
    have present : (vector.live.findIdx? (· == element)).isSome = true := by
      rw [List.findIdx?_isSome, List.any_eq_true]
      exact ⟨element, member, by simp⟩
    obtain ⟨index, found⟩ := isSome_iff_exists.mp present
    obtain ⟨inside, same, _⟩ := findIdx?_eq_some_iff_getElem.mp found
    refine ⟨index, by simp [find, found], ?_⟩
    rw [getElem?_eq_getElem inside]
    simpa using same
  | false =>
    have present : (vector.live.reverse.findIdx? (· == element)).isSome = true := by
      rw [List.findIdx?_isSome, List.any_eq_true]
      exact ⟨element, mem_reverse.mpr member, by simp⟩
    obtain ⟨index, found⟩ := isSome_iff_exists.mp present
    obtain ⟨inside, same, _⟩ := findIdx?_eq_some_iff_getElem.mp found
    rw [length_reverse] at inside
    refine ⟨vector.live.length - 1 - index, ?_, ?_⟩
    · simp only [find, found, Bool.false_eq_true, if_false, map_some]
      congr 1
      omega
    · rw [← getElem?_reverse inside, getElem?_eq_getElem (by simpa using inside)]
      simpa using same

theorem live_remove [DecidableEq α] {element : α}
    (distinct : vector.live.Nodup) (member : element ∈ vector.live) (forward : Bool) :
    ∃ index, vector.find element forward = some index ∧
      (vector.removeAt index).live = vector.live.erase element := by
  obtain ⟨index, found, here⟩ := find_cases member forward
  obtain ⟨inside, same⟩ := List.getElem?_eq_some_iff.mp here
  refine ⟨_, found, ?_⟩
  rw [live_removeAt inside, ← distinct.erase_getElem index inside, same]

end ChildVector

abbrev FileLists := Bool → QueuePriority → List Nat

structure Filed (lists : FileLists) (member : Nat → Prop)
    (place : Nat → Bool × QueuePriority) : Prop where
  nodup : ∀ queued priority, (lists queued priority).Nodup
  mem : ∀ queued priority id,
    id ∈ lists queued priority ↔ member id ∧ place id = (queued, priority)

def setList (lists : FileLists) (place : Bool × QueuePriority) (list : List Nat) :
    FileLists :=
  Function.update lists place.1 (Function.update (lists place.1) place.2 list)

theorem setList_apply (lists : FileLists) (place : Bool × QueuePriority)
    (list : List Nat) (queued : Bool) (priority : QueuePriority) :
    setList lists place list queued priority =
      if place = (queued, priority) then list else lists queued priority := by
  obtain ⟨first, second⟩ := place
  unfold setList
  by_cases sameQueued : first = queued
  case neg => simp [sameQueued, update_of_ne (Ne.symm sameQueued)]
  case pos =>
    subst sameQueued
    by_cases same : second = priority
    case neg => simp [same, update_of_ne (Ne.symm same)]
    case pos => simp [same]

theorem setList_comm (lists : FileLists) {first second : Bool × QueuePriority}
    (apart : first ≠ second) (firstList secondList : List Nat) :
    setList (setList lists first firstList) second secondList =
      setList (setList lists second secondList) first firstList := by
  funext queued priority
  simp only [setList_apply]
  by_cases here : second = (queued, priority)
  case neg => simp [here]
  case pos =>
    have elsewhere : first ≠ (queued, priority) := fun same => apart (same.trans here.symm)
    simp [here, elsewhere]

open Iff (rfl)

namespace Filed

variable {lists : FileLists} {member : Nat → Prop} {place : Nat → Bool × QueuePriority} {id : Nat}

theorem congr {other : Nat → Prop} {elsewhere : Nat → Bool × QueuePriority}
    (filed : Filed lists member place) (members : ∀ id, member id ↔ other id)
    (places : ∀ id, member id → place id = elsewhere id) :
    Filed lists other elsewhere where
  nodup := filed.nodup
  mem queued priority id := by
    rw [filed.mem, ← members id]
    exact and_congr_right fun isMember => by rw [places id isMember]

theorem setList {other : Nat → Prop} {elsewhere : Nat → Bool × QueuePriority}
    {at_ : Bool × QueuePriority} {list : List Nat} (filed : Filed lists member place)
    (nodup : list.Nodup) (here : ∀ id, id ∈ list ↔ other id ∧ elsewhere id = at_)
    (rest : ∀ id there, there ≠ at_ →
      (member id ∧ place id = there ↔ other id ∧ elsewhere id = there)) :
    Filed (FileZilla.setList lists at_ list) other elsewhere where
  nodup queued priority := by
    rw [setList_apply]
    split
    case isTrue => exact nodup
    case isFalse => exact filed.nodup queued priority
  mem queued priority id := by
    rw [setList_apply]
    split
    case isTrue same => rw [here, same]
    case isFalse apart => rw [filed.mem, rest id _ (Ne.symm apart)]

theorem insert {list : List Nat} (filed : Filed lists member place) (fresh : ¬ member id)
    (perm : list.Perm (id :: lists (place id).1 (place id).2)) :
    Filed (FileZilla.setList lists (place id) list)
      (fun other => other = id ∨ member other) place := by
  have absent : id ∉ lists (place id).1 (place id).2 :=
    fun present => fresh ((filed.mem _ _ id).mp present).1
  refine filed.setList (perm.nodup_iff.mpr (nodup_cons.mpr ⟨absent, filed.nodup _ _⟩))
    (fun other => ?_) fun other there apart => ?_
  · rw [perm.mem_iff, mem_cons, filed.mem]
    constructor
    · rintro (rfl | ⟨isMember, same⟩)
      · exact ⟨.inl rfl, rfl⟩
      · exact ⟨.inr isMember, same⟩
    · rintro ⟨rfl | isMember, same⟩
      · exact .inl rfl
      · exact .inr ⟨isMember, same⟩
  · constructor
    · exact fun ⟨isMember, same⟩ => ⟨.inr isMember, same⟩
    · rintro ⟨rfl | isMember, same⟩
      · exact absurd same.symm apart
      · exact ⟨isMember, same⟩

theorem erase {list : List Nat} (filed : Filed lists member place)
    (perm : list.Perm ((lists (place id).1 (place id).2).erase id)) :
    Filed (FileZilla.setList lists (place id) list)
      (fun other => other ≠ id ∧ member other) place := by
  have distinct := filed.nodup (place id).1 (place id).2
  refine filed.setList (perm.nodup_iff.mpr (distinct.erase _))
    (fun other => ?_) fun other there apart => ?_
  · rw [perm.mem_iff, distinct.mem_erase_iff, filed.mem, and_assoc]
  · constructor
    · rintro ⟨isMember, same⟩
      refine ⟨⟨?_, isMember⟩, same⟩
      rintro rfl
      exact apart same.symm
    · exact fun ⟨⟨_, isMember⟩, same⟩ => ⟨isMember, same⟩

theorem merge {queued : Bool} {target source : QueuePriority}
    (filed : Filed lists member place) (apart : source ≠ target) :
    Filed (FileZilla.setList (FileZilla.setList lists (queued, target)
        (lists queued target ++ lists queued source)) (queued, source) [])
      member
      (fun id => if place id = (queued, source) then (queued, target) else place id) where
  nodup other priority := by
    rw [setList_apply]
    split
    case isTrue => exact .nil
    case isFalse =>
      rw [setList_apply]
      split
      case isFalse => exact filed.nodup other priority
      case isTrue =>
        refine nodup_append.mpr ⟨filed.nodup _ _, filed.nodup _ _, ?_⟩
        rintro first inTarget second inSource rfl
        have atTarget := ((filed.mem _ _ _).mp inTarget).2
        rw [((filed.mem _ _ _).mp inSource).2] at atTarget
        exact apart (Prod.mk.inj atTarget).2
  mem other priority id := by
    rw [setList_apply]
    split
    case isTrue same =>
      cases same
      constructor
      · intro absurd
        cases absurd
      · rintro ⟨_, atSource⟩
        split at atSource
        case isTrue => exact absurd (Prod.mk.inj atSource).2.symm apart
        case isFalse elsewhere => exact absurd atSource elsewhere
    case isFalse notSource =>
      rw [setList_apply]
      split
      case isTrue same =>
        cases same
        rw [mem_append, filed.mem, filed.mem, ← and_or_left]
        refine and_congr_right fun _ => ?_
        split
        case isTrue atSource => simp [atSource]
        case isFalse elsewhere => simp [elsewhere]
      case isFalse notTarget =>
        rw [filed.mem]
        refine and_congr_right fun _ => ?_
        split
        case isTrue atSource => rw [atSource]; exact iff_of_false notSource notTarget
        case isFalse => exact rfl

end Filed

namespace CServerItem

def place (items : Nat → CFileItem) (id : Nat) : Bool × QueuePriority :=
  ((items id).queued, (items id).priority)

def rowCount (items : Nat → CFileItem) (ids : List Nat) : Int :=
  (ids.map fun id => 1 + ((items id).childrenCount : Int)).sum

structure Booked (server : CServerItem) : Prop where
  distinct : server.children.live.Nodup
  filed : Filed server.fileList (· ∈ server.children.live) (place server.items)
  offspring : server.visibleOffspring = rowCount server.items server.children.live

theorem place_setItem {server : CServerItem} {id : Nat} {item : CFileItem}
    (queued : item.queued = (server.items id).queued)
    (priority : item.priority = (server.items id).priority) (other : Nat) :
    place (server.setItem id item).items other = place server.items other := by
  by_cases same : other = id
  case pos =>
    subst same
    simp [place, setItem, queued, priority]
  case neg => simp [place, setItem, update_of_ne same]

variable {items : Nat → CFileItem} {server : CServerItem} {item : CFileItem} {after : CServerItem}
  {row : Option QueueRow} {queued : Bool} {direction : TransferDirection}

theorem rowCount_congr {after : Nat → CFileItem} (ids : List Nat)
    (same : ∀ id ∈ ids, (after id).childrenCount = (items id).childrenCount) :
    rowCount after ids = rowCount items ids := by
  unfold rowCount
  congr 1
  exact map_congr_left fun id member => by rw [same id member]

theorem rowCount_perm (items : Nat → CFileItem) {left right : List Nat}
    (perm : left.Perm right) : rowCount items left = rowCount items right :=
  (perm.map _).sum_eq

theorem rowCount_cons (items : Nat → CFileItem) (id : Nat) (ids : List Nat) :
    rowCount items (id :: ids) = 1 + (items id).childrenCount + rowCount items ids := by
  simp [rowCount]

theorem rowCount_erase {id : Nat} {ids : List Nat} (member : id ∈ ids) :
    rowCount items (ids.erase id) = rowCount items ids - 1 - (items id).childrenCount := by
  have whole := rowCount_perm items (perm_cons_erase member)
  rw [rowCount_cons] at whole
  omega

theorem booked_addChild (booked : Booked server) {id : Nat}
    (fresh : id ∉ server.children.live) (item : CFileItem) :
    Booked (server.addChild id item) := by
  have others (other : Nat) (member : other ∈ server.children.live) :
      update server.items id item other = server.items other :=
    update_of_ne (ne_of_mem_of_not_mem member fresh) _ _
  have live : (server.addChild id item).children.live = server.children.live ++ [id] :=
    ChildVector.live_add _ _
  refine ⟨?_, ?_, ?_⟩
  · rw [live, perm_append_comm.nodup_iff]
    exact nodup_cons.mpr ⟨fresh, booked.distinct⟩
  · have kept : Filed server.fileList (· ∈ server.children.live)
        (place (update server.items id item)) :=
      booked.filed.congr (fun _ => rfl)
        fun other member => by simp only [place, others other member]
    refine (kept.insert fresh (perm_append_comm)).congr (fun other => ?_) fun _ _ => rfl
    simp [live, or_comm]
  · have rows := rowCount_congr server.children.live
      fun other member => congrArg CFileItem.childrenCount (others other member)
    change server.visibleOffspring + (1 + item.childrenCount) =
      rowCount (update server.items id item) _
    rw [live, rowCount_perm _ perm_append_comm, singleton_append, rowCount_cons,
      rows, booked.offspring, update_self]
    omega

theorem removeFileItemFromList_filed {member : Nat → Prop}
    (filed : Filed server.fileList member (place server.items)) (id : Nat) (forward : Bool) :
    Filed (server.removeFileItemFromList id forward).fileList
      (fun other => other ≠ id ∧ member other) (place server.items) := by
  apply filed.erase
  split
  case isTrue => exact Perm.refl _
  case isFalse =>
    exact (reverse_perm _).trans ((reverse_perm _).erase id)

theorem booked_removeChild (booked : Booked server) {id : Nat}
    (member : id ∈ server.children.live) (forward : Bool) :
    Booked (server.removeChild id forward) := by
  obtain ⟨index, found, live⟩ := ChildVector.live_remove booked.distinct member forward
  have filed := removeFileItemFromList_filed booked.filed id forward
  unfold removeChild
  simp only [found]
  refine ⟨?_, ?_, ?_⟩
  · rw [live]
    exact booked.distinct.erase id
  · refine filed.congr (fun other => ?_) fun _ _ => rfl
    rw [live, booked.distinct.mem_erase_iff]
  · change server.visibleOffspring - 1 - _ = rowCount server.items _
    rw [live, rowCount_erase member, booked.offspring]

@[simp] theorem setChildPriority_children (server : CServerItem) (id : Nat)
    (oldPriority newPriority : QueuePriority) :
    (server.setChildPriority id oldPriority newPriority).children = server.children := by
  dsimp only [setChildPriority]
  split <;> rfl

@[simp] theorem setChildPriority_items (server : CServerItem) (id : Nat)
    (oldPriority newPriority : QueuePriority) :
    (server.setChildPriority id oldPriority newPriority).items = server.items := by
  dsimp only [setChildPriority]
  split <;> rfl

@[simp] theorem setChildPriority_visibleOffspring (server : CServerItem) (id : Nat)
    (oldPriority newPriority : QueuePriority) :
    (server.setChildPriority id oldPriority newPriority).visibleOffspring =
      server.visibleOffspring := by
  dsimp only [setChildPriority]
  split <;> rfl

theorem setChildPriority_filed {server : CServerItem} {member : Nat → Prop} {id : Nat}
    {shelf : Nat → QueuePriority} {priority : QueuePriority}
    (filed : Filed server.fileList member fun other =>
      ((server.items other).queued, shelf other))
    (isMember : member id) :
    Filed (server.setChildPriority id (shelf id) priority).fileList member fun other =>
      ((server.items other).queued, Function.update shelf id priority other) := by
  have present : id ∈ server.fileList (server.items id).queued (shelf id) :=
    (filed.mem _ _ id).mpr ⟨isMember, rfl⟩
  dsimp only [setChildPriority]
  rw [if_pos present]
  have erased := @Filed.erase _ _ _ id _ filed (Perm.refl _)
  have moved : Filed _ (fun other => other ≠ id ∧ member other) fun other =>
      ((server.items other).queued, update shelf id priority other) :=
    erased.congr (fun _ => rfl)
      fun other isOther => by simp only [update_of_ne isOther.1]
  have inserted := @Filed.insert _ _ _ id _ moved (fun absurd => absurd.1 rfl)
    (perm_append_singleton id _)
  simp only [update_self] at inserted
  refine inserted.congr (fun other => ?_) fun _ _ => rfl
  constructor
  · rintro (rfl | ⟨_, isOther⟩)
    · exact isMember
    · exact isOther
  · intro isOther
    by_cases same : other = id
    · exact .inl same
    · exact .inr ⟨same, isOther⟩

theorem rowCount_update {id : Nat}
    (same : item.childrenCount = (items id).childrenCount) (ids : List Nat) :
    rowCount (Function.update items id item) ids = rowCount items ids := by
  refine rowCount_congr ids fun other _ => ?_
  by_cases here : other = id
  case pos =>
    subst here
    simpa using same
  case neg => rw [update_of_ne here]

theorem booked_setItemPriority (booked : Booked server) {id : Nat}
    (member : id ∈ server.children.live) (priority : QueuePriority) :
    Booked (server.setItemPriority id priority) := by
  dsimp only [setItemPriority]
  split
  case isTrue => exact booked
  case isFalse =>
    have filed := @setChildPriority_filed _ _ _ _ priority booked.filed member
    refine ⟨?_, ?_, ?_⟩
    · simpa [setItem] using booked.distinct
    · refine filed.congr (fun other => by simp [setItem]) fun other _ => ?_
      by_cases same : other = id
      case pos =>
        subst same
        simp [place, setItem]
      case neg => simp [place, setItem, update_of_ne same]
    · simp only [setItem, setChildPriority_children, setChildPriority_items,
        setChildPriority_visibleOffspring]
      rw [rowCount_update (by rfl)]
      exact booked.offspring

/-- The lists after the children have new priorities but, as long as they are
files, are still in their old lists. -/
structure Reshelved (priority : QueuePriority) (server after : CServerItem)
    (member : Nat → Prop) (done : Nat → Prop) [DecidablePred done]
    (shelf : Nat → QueuePriority) : Prop where
  filed : Filed after.fileList member fun id => ((after.items id).queued, shelf id)
  items : ∀ id, after.items id =
    if done id then { server.items id with priority } else server.items id
  children : after.children = server.children
  offspring : after.visibleOffspring = server.visibleOffspring

theorem setPriorityLoop_reshelved {priority : QueuePriority} {server : CServerItem}
    {member : Nat → Prop} {shelf : Nat → QueuePriority} {id : Nat}
    (filed : Filed server.fileList member fun other =>
      ((server.items other).queued, shelf other))
    (isMember : member id) (onShelf : shelf id = (server.items id).priority) :
    ∃ after, Reshelved priority server (setPriorityLoop priority server id) member
      (fun other => other = id) after ∧ ∀ other, other ≠ id → after other = shelf other := by
  dsimp only [setPriorityLoop]
  split
  case isTrue =>
    refine ⟨shelf, ⟨?_, fun other => ?_, rfl, rfl⟩, fun _ _ => rfl⟩
    · refine filed.congr (fun _ => rfl) fun other _ => ?_
      by_cases same : other = id
      case pos =>
        subst same
        simp [setItem]
      case neg => simp [setItem, update_of_ne same]
    · by_cases same : other = id
      case pos =>
        subst same
        simp [setItem]
      case neg => simp [setItem, same]
  case isFalse =>
    dsimp only [setItemPriority]
    split
    case isTrue same =>
      refine ⟨shelf, ⟨filed, fun other => ?_, rfl, rfl⟩, fun _ _ => rfl⟩
      split
      case isTrue here => rw [here, same]
      case isFalse => rfl
    case isFalse =>
      have moved := @setChildPriority_filed _ _ _ _ priority filed isMember
      rw [onShelf] at moved
      refine ⟨update shelf id priority, ⟨?_, fun other => ?_, by simp [setItem],
        by simp [setItem]⟩, fun other apart => update_of_ne apart _ _⟩
      · refine moved.congr (fun _ => rfl) fun other _ => ?_
        by_cases same : other = id
        case pos =>
          subst same
          simp [setItem]
        case neg => simp [setItem, update_of_ne same]
      · by_cases same : other = id
        case pos =>
          subst same
          simp [setItem]
        case neg => simp [setItem, same]

theorem setPriorityFold_reshelved {priority : QueuePriority} {server : CServerItem}
    {member : Nat → Prop} {shelf : Nat → QueuePriority} (ids : List Nat) (distinct : ids.Nodup)
    (filed : Filed server.fileList member fun other =>
      ((server.items other).queued, shelf other))
    (members : ∀ id ∈ ids, member id ∧ shelf id = (server.items id).priority) :
    ∃ after, Reshelved priority server (ids.foldl (setPriorityLoop priority) server) member
      (· ∈ ids) after := by
  induction ids generalizing server shelf with
  | nil => exact ⟨shelf, filed, fun _ => rfl, rfl, rfl⟩
  | cons id ids ih =>
    obtain ⟨notLater, distinct⟩ := nodup_cons.mp distinct
    obtain ⟨isMember, onShelf⟩ := members id mem_cons_self
    obtain ⟨middle, first, others⟩ :=
      @setPriorityLoop_reshelved priority _ _ _ _ filed isMember onShelf
    have later (other : Nat) (inRest : other ∈ ids) :
        member other ∧ middle other =
          ((setPriorityLoop priority server id).items other).priority := by
      have apart : other ≠ id := ne_of_mem_of_not_mem inRest notLater
      obtain ⟨otherMember, otherShelf⟩ := members other (mem_cons_of_mem _ inRest)
      rw [first.items, if_neg apart, others other apart]
      exact ⟨otherMember, otherShelf⟩
    obtain ⟨after, rest⟩ := ih distinct first.filed later
    refine ⟨after, rest.filed, fun other => ?_, rest.children.trans first.children,
      rest.offspring.trans first.offspring⟩
    rw [foldl_cons, rest.items, first.items]
    by_cases here : other = id
    case pos =>
      subst here
      simp [notLater]
    case neg => simp [here]

theorem mergeLists_filed {member : Nat → Prop}
    {shelf : Nat → QueuePriority} (priority : QueuePriority) (queued : Bool)
    (filed : Filed server.fileList member fun other =>
      ((server.items other).queued, shelf other)) :
    Filed (mergeLists priority queued server).fileList member
      (fun other => ((server.items other).queued,
        if (server.items other).queued = queued then priority else shelf other)) ∧
    (mergeLists priority queued server).items = server.items ∧
    (mergeLists priority queued server).children = server.children ∧
    (mergeLists priority queued server).visibleOffspring = server.visibleOffspring := by
  suffices all : ∀ (others : List QueuePriority) (server : CServerItem)
      (shelf : Nat → QueuePriority), Filed server.fileList member (fun other =>
        ((server.items other).queued, shelf other)) →
      let after := others.foldl (fun server other =>
        if other ≠ priority then
          (server.setFileList queued priority
            (server.fileList queued priority ++ server.fileList queued other)).setFileList
              queued other []
        else server) server
      Filed after.fileList member (fun other => ((server.items other).queued,
        if (server.items other).queued = queued ∧ shelf other ∈ others then priority
        else shelf other)) ∧
      after.items = server.items ∧ after.children = server.children ∧
      after.visibleOffspring = server.visibleOffspring by
    have whole := all QueuePriority.all server shelf filed
    simp only [QueuePriority.mem_all, and_true] at whole
    exact whole
  intro others
  induction others with
  | nil =>
    intro server shelf filed
    exact ⟨filed.congr (fun _ => rfl) (by simp), rfl, rfl, rfl⟩
  | cons other others ih =>
    intro server shelf filed
    rw [foldl_cons]
    by_cases same : other = priority
    case pos =>
      rw [if_neg (by simpa using same)]
      obtain ⟨merged, rest⟩ := ih server shelf filed
      refine ⟨merged.congr (fun _ => rfl) fun id _ => ?_, rest⟩
      by_cases onTarget : shelf id = priority
      case pos => simp [onTarget]
      case neg => simp [same, onTarget]
    case neg =>
      rw [if_pos same]
      have moved := @Filed.merge _ _ _ queued priority other filed same
      let shelved (id : Nat) : QueuePriority :=
        if (server.items id).queued = queued ∧ shelf id = other then priority
        else shelf id
      have shelvedFiled : Filed (((server.setFileList queued priority
          (server.fileList queued priority ++ server.fileList queued other)).setFileList
            queued other []).fileList) member
          (fun id => ((server.items id).queued, shelved id)) := by
        refine moved.congr (fun _ => rfl) fun id _ => ?_
        simp only [shelved, Prod.mk.injEq]
        split
        case isTrue both => rw [both.1]
        case isFalse => rfl
      obtain ⟨merged, rest⟩ := ih _ shelved shelvedFiled
      refine ⟨merged.congr (fun _ => rfl) fun id _ => ?_, rest⟩
      change ((server.items id).queued, if (server.items id).queued = queued ∧
        shelved id ∈ others then priority else shelved id) = _
      by_cases inQueue : (server.items id).queued = queued
      case neg => simp [shelved, inQueue]
      case pos =>
        by_cases here : shelf id = other
        case pos => simp [shelved, inQueue, here]
        case neg => simp [shelved, inQueue, here]

theorem booked_setPriority (booked : Booked server)
    (priority : QueuePriority) : Booked (server.setPriority priority) := by
  obtain ⟨shelf, loop⟩ := @setPriorityFold_reshelved priority server
    (· ∈ server.children.live) (fun id => (server.items id).priority)
    server.children.live booked.distinct booked.filed fun id member => ⟨member, rfl⟩
  obtain ⟨firstFiled, firstItems, firstChildren, firstOffspring⟩ :=
    mergeLists_filed priority true loop.filed
  rw [← firstItems] at firstFiled
  obtain ⟨filed, items, children, offspring⟩ := mergeLists_filed priority false firstFiled
  unfold setPriority
  refine ⟨?_, ?_, ?_⟩
  · rw [children, firstChildren, loop.children]
    exact booked.distinct
  · refine filed.congr (fun id => ?_) fun id member => ?_
    · rw [children, firstChildren, loop.children]
    · rw [place, items, firstItems, loop.items, if_pos member]
      cases (server.items id).queued <;> rfl
  · rw [children, firstChildren, loop.children, items, firstItems, offspring,
      firstOffspring, loop.offspring, booked.offspring]
    refine (rowCount_congr _ fun id _ => ?_).symm
    rw [loop.items]
    split <;> rfl

theorem booked_queueImmediateList (booked : Booked server)
    (priority : QueuePriority) : Booked (server.queueImmediateList priority) := by
  let list := server.fileList false priority
  let idle := list.filter fun id => !(server.items id).active
  let moved (id : Nat) : CFileItem :=
    if id ∈ idle then { server.items id with queued := true } else server.items id
  have inIdle (id : Nat) : id ∈ idle ↔ id ∈ list ∧ (server.items id).active = false := by
    simp [idle, mem_filter]
  have atPlace (id : Nat) (member : id ∈ idle) : place server.items id = (false, priority) :=
    ((booked.filed.mem _ _ _).mp ((inIdle id).mp member).1).2
  have newPlace (id : Nat) : place moved id =
      if id ∈ idle then (true, priority) else place server.items id := by
    by_cases member : id ∈ idle
    case neg => simp [place, moved, member]
    case pos =>
      have old := (Prod.mk.inj (atPlace id member)).2
      simp [place, moved, member, old]
  have left : Filed (setList server.fileList (false, priority)
      (list.filter fun id => (server.items id).active))
      (fun id => id ∈ server.children.live ∧ id ∉ idle) (place server.items) := by
    refine booked.filed.setList ((booked.filed.nodup _ _).filter _) (fun id => ?_)
      fun id there apart => ?_
    · rw [mem_filter, inIdle, booked.filed.mem]
      constructor
      · rintro ⟨⟨isChild, same⟩, active⟩
        exact ⟨⟨isChild, fun member => absurd active (by simp [member.2])⟩, same⟩
      · rintro ⟨⟨isChild, notIdle⟩, same⟩
        refine ⟨⟨isChild, same⟩, ?_⟩
        by_contra idle
        exact notIdle ⟨⟨isChild, same⟩, by simpa using idle⟩
    · refine and_congr_left fun same => ⟨fun isChild => ⟨isChild, fun member => ?_⟩, And.left⟩
      exact apart (same.symm.trans (atPlace id member))
  have relabelled := @Filed.congr _ _ _ _ (place moved) left (fun _ => rfl)
    fun id isLeft => by rw [newPlace, if_neg isLeft.2]
  have joined : Filed (setList (setList server.fileList (false, priority)
      (list.filter fun id => (server.items id).active)) (true, priority)
      (idle ++ server.fileList true priority)) (· ∈ server.children.live) (place moved) := by
    refine relabelled.setList ?_ (fun id => ?_) fun id there apart => ?_
    · refine nodup_append.mpr ⟨(booked.filed.nodup _ _).filter _, booked.filed.nodup _ _, ?_⟩
      rintro id member _ queued rfl
      have atQueued := ((booked.filed.mem _ _ _).mp queued).2
      rw [atPlace id member] at atQueued
      cases atQueued
    · rw [mem_append, booked.filed.mem, newPlace]
      by_cases member : id ∈ idle
      case neg => simp [member]
      case pos =>
        have isChild := ((booked.filed.mem _ _ _).mp ((inIdle id).mp member).1).1
        simp [member, isChild]
    · rw [newPlace]
      by_cases member : id ∈ idle
      case neg => simp [member]
      case pos => simp [member, Ne.symm apart]
  have rows : rowCount moved server.children.live =
      rowCount server.items server.children.live := by
    refine rowCount_congr _ fun id _ => ?_
    simp only [moved]
    split <;> rfl
  refine ⟨booked.distinct, ?_, booked.offspring.trans rows.symm⟩
  change Filed (setList (setList server.fileList (true, priority)
    (idle ++ server.fileList true priority)) (false, priority)
    (list.filter fun id => (server.items id).active)) (· ∈ server.children.live) (place moved)
  rw [setList_comm _ (by simp)]
  exact joined

theorem booked_queueImmediateFiles (booked : Booked server) :
    Booked server.queueImmediateFiles := by
  unfold queueImmediateFiles
  generalize QueuePriority.all = priorities
  induction priorities generalizing server with
  | nil => exact booked
  | cons priority priorities ih => exact ih (booked_queueImmediateList booked priority)

theorem booked_queueImmediateFile (booked : Booked server)
    (id : Nat) : Booked (server.queueImmediateFile id) := by
  dsimp only [queueImmediateFile]
  split
  case isTrue => exact booked
  case isFalse immediate =>
    have notQueued : (server.items id).queued = false := by simpa using immediate
    split
    case isFalse => exact booked
    case isTrue listed =>
      have isChild := ((booked.filed.mem _ _ _).mp listed).1
      have erased := @Filed.erase _ _ _ id _ booked.filed (Perm.refl _)
      let moved := update server.items id
        { server.items id with queued := true }
      have relabelled := @Filed.congr _ _ _ _ (place moved) erased (fun _ => rfl)
        fun other isOther => by
          simp only [place, moved, update_of_ne isOther.1]
      have inserted := @Filed.insert _ _ _ id _ relabelled (fun absurd => absurd.1 rfl)
        (Perm.refl _)
      have oldPlace : place server.items id = (false, (server.items id).priority) := by
        simp [place, notQueued]
      have newPlace : place moved id = (true, (server.items id).priority) := by
        simp [place, moved]
      rw [oldPlace, newPlace] at inserted
      refine ⟨booked.distinct, inserted.congr (fun other => ?_) fun _ _ => rfl,
        booked.offspring.trans (rowCount_update (by rfl) _).symm⟩
      constructor
      · rintro (rfl | ⟨_, isOther⟩)
        · exact isChild
        · exact isOther
      · intro isOther
        by_cases same : other = id
        · exact .inl same
        · exact .inr ⟨same, isOther⟩

theorem booked_setItem (booked : Booked server) {id : Nat}
    (queued : item.queued = (server.items id).queued)
    (priority : item.priority = (server.items id).priority)
    (rows : item.childrenCount = (server.items id).childrenCount) :
    Booked (server.setItem id item) where
  distinct := booked.distinct
  filed := booked.filed.congr (fun _ => rfl)
    fun other _ => (place_setItem queued priority other).symm
  offspring := booked.offspring.trans (rowCount_update rows _).symm

theorem rowCount_replace {id : Nat} {ids : List Nat}
    (distinct : ids.Nodup) (member : id ∈ ids) (item : CFileItem) :
    rowCount (Function.update items id item) ids =
      rowCount items ids + item.childrenCount - (items id).childrenCount := by
  have perm := perm_cons_erase member
  have rest : rowCount (update items id item) (ids.erase id) =
      rowCount items (ids.erase id) := by
    refine rowCount_congr _ fun other inRest => ?_
    rw [update_of_ne (distinct.mem_erase_iff.mp inRest).1]
  rw [rowCount_perm _ perm, rowCount_perm items perm, rowCount_cons, rowCount_cons, rest,
    update_self]
  omega

theorem booked_setStatus (booked : Booked server) {id : Nat}
    (member : id ∈ server.children.live) {offspring : Int}
    (queued : item.queued = (server.items id).queued)
    (priority : item.priority = (server.items id).priority) (rows : offspring =
      server.visibleOffspring + item.childrenCount - (server.items id).childrenCount) :
    Booked
      { server.setItem id item with visibleOffspring := offspring, maxCachedIndex := -1 } where
  distinct := booked.distinct
  filed := booked.filed.congr (fun _ => rfl)
    fun other _ => (place_setItem queued priority other).symm
  offspring := by
    rw [rows, booked.offspring]
    exact (rowCount_replace booked.distinct member item).symm

theorem booked_setActive (booked : Booked server) {id : Nat}
    (member : id ∈ server.children.live) (active : Bool) (statusId : Nat) :
    Booked (server.setActive id active statusId) := by
  dsimp only [setActive]
  split
  case isTrue => exact booked_setItem booked rfl rfl rfl
  case isFalse =>
    split
    case isTrue =>
      refine booked_setStatus booked member (by rfl) (by rfl) ?_
      simp only [CFileItem.childrenCount, ChildVector.live_add, length_append,
        length_singleton]
      omega
    case isFalse =>
      split
      case isFalse => exact booked
      case isTrue =>
        split
        case h_1 => exact booked_setItem booked rfl rfl rfl
        case h_2 status first =>
          have inside : 0 < (server.items id).children.live.length :=
            length_pos_of_mem (mem_of_head? first)
          have removed := ChildVector.live_removeAt inside
          rw [Nat.zero_add] at removed
          refine booked_setStatus booked member (by rfl) (by rfl) ?_
          simp only [CFileItem.childrenCount, removed, length_eraseIdx_of_lt inside]
          omega

structure Kept (server after : CServerItem) (ids kept : List Nat)
    (member : Nat → Prop) : Prop where
  sublist : kept.Sublist ids
  filed : Filed after.fileList (fun id => member id ∧ (id ∈ ids → id ∈ kept)) (place after.items)
  offspring : after.visibleOffspring = server.visibleOffspring + rowCount server.items kept
  rows : ∀ id, (after.items id).childrenCount = (server.items id).childrenCount

theorem tryRemoveAllLoop_kept {ids : List Nat} (distinct : ids.Nodup)
    {server : CServerItem} {member : Nat → Prop}
    (filed : Filed server.fileList member (place server.items)) :
    Kept server (tryRemoveAllLoop server ids).1 ids (tryRemoveAllLoop server ids).2
      member := by
  induction ids generalizing server member with
  | nil =>
    exact ⟨.slnil, filed.congr (by simp) fun _ _ => rfl, by simp [rowCount, tryRemoveAllLoop],
      fun _ => rfl⟩
  | cons id ids ih =>
    obtain ⟨notLater, distinct⟩ := nodup_cons.mp distinct
    dsimp only [tryRemoveAllLoop]
    split
    case isTrue =>
      have kept := ih distinct (removeFileItemFromList_filed filed id true)
      refine ⟨kept.sublist.cons id, kept.filed.congr (fun other => ?_) fun _ _ => rfl,
        kept.offspring, kept.rows⟩
      have notKept : id ∉ (tryRemoveAllLoop (server.removeFileItemFromList id true) ids).2 :=
        fun inKept => notLater (kept.sublist.subset inKept)
      by_cases same : other = id
      case pos =>
        subst same
        simp only [ne_eq, not_true_eq_false, false_and, mem_cons, true_or,
          forall_const, false_iff, not_and]
        exact fun _ => notKept
      case neg => simp [same]
    case isFalse =>
      have unmoved := @place_setItem server id
        { server.items id with pendingRemove := true } rfl rfl
      have kept := @ih distinct
        { server.setItem id { server.items id with pendingRemove := true } with
          visibleOffspring :=
            server.visibleOffspring + 1 + (server.items id).childrenCount }
        member (filed.congr (fun _ => rfl) fun other _ => (unmoved other).symm)
      have rows (other : Nat) :
          ((server.setItem id { server.items id with pendingRemove := true }).items
            other).childrenCount = (server.items other).childrenCount := by
        by_cases same : other = id
        case pos =>
          subst same
          simp [setItem, CFileItem.childrenCount]
        case neg => simp [setItem, update_of_ne same]
      refine ⟨kept.sublist.cons_cons id, kept.filed.congr (fun other => ?_) fun _ _ => rfl, ?_,
        fun other => (kept.rows other).trans (rows other)⟩
      · refine and_congr_right fun _ => ?_
        by_cases same : other = id
        case pos =>
          rw [same]
          exact iff_of_true (fun inRest => absurd inRest notLater) fun _ => mem_cons_self
        case neg =>
          rw [mem_cons, mem_cons, or_iff_right same, or_iff_right same]
          exact rfl
      · rw [rowCount_cons]
        have total := kept.offspring
        rw [rowCount_congr _ fun other _ => rows other] at total
        refine total.trans ?_
        rw [← Int.add_assoc, ← Int.add_assoc]
        rfl

theorem booked_tryRemoveAll (booked : Booked server) :
    Booked server.tryRemoveAll := by
  have kept := @tryRemoveAllLoop_kept _ booked.distinct { server with visibleOffspring := 0 }
    _ booked.filed
  refine ⟨kept.sublist.nodup booked.distinct, kept.filed.congr (fun id => ?_) fun _ _ => rfl, ?_⟩
  · constructor
    · exact fun ⟨isChild, stays⟩ => stays isChild
    · exact fun inKept => ⟨kept.sublist.subset inKept, fun _ => inKept⟩
  · refine kept.offspring.trans ?_
    rw [Int.zero_add]
    exact (rowCount_congr _ fun id _ => kept.rows id).symm

theorem addFileItemToList_fold (ids : List Nat) (distinct : ids.Nodup)
    {server : CServerItem} {member : Nat → Prop} (fresh : ∀ id ∈ ids, ¬ member id)
    (filed : Filed server.fileList member (place server.items)) :
    Filed (ids.foldl addFileItemToList server).fileList
      (fun id => id ∈ ids ∨ member id) (place server.items) ∧
    (ids.foldl addFileItemToList server).items = server.items ∧
    (ids.foldl addFileItemToList server).children = server.children ∧
    (ids.foldl addFileItemToList server).visibleOffspring = server.visibleOffspring := by
  induction ids generalizing server member with
  | nil => exact ⟨filed.congr (by simp) fun _ _ => rfl, rfl, rfl, rfl⟩
  | cons id ids ih =>
    obtain ⟨notLater, distinct⟩ := nodup_cons.mp distinct
    have inserted := @Filed.insert _ _ _ id _ filed (fresh id mem_cons_self)
      (perm_append_singleton id _)
    have later (other : Nat) (inRest : other ∈ ids) : ¬ (other = id ∨ member other) := by
      rintro (rfl | isMember)
      · exact notLater inRest
      · exact fresh other (mem_cons_of_mem _ inRest) isMember
    obtain ⟨filed, rest⟩ := @ih distinct (server.addFileItemToList id) _ later inserted
    refine ⟨filed.congr (fun other => ?_) fun _ _ => rfl, rest⟩
    rw [mem_cons]
    tauto

theorem booked_sort (booked : Booked server)
    (statusText : Nat → WString) (col : Nat) (reverse : Bool) :
    Booked (server.sort statusText col reverse) := by
  unfold sort
  split
  case h_1 => exact booked
  case h_2 column _ =>
    extract_lets less sorted children cleared
    have perm : sorted.Perm server.children.live := mergeSort_perm _ _
    have live : cleared.children.live = sorted := by
      change (server.children.elements.take server.children.removedAtFront ++
        sorted).drop server.children.removedAtFront = sorted
      rcases Nat.le_total server.children.removedAtFront server.children.elements.length
        with inside | outside
      · exact drop_left' (length_take_of_le inside)
      · have none : sorted = [] := by
          have gone : server.children.live = [] := drop_of_length_le outside
          exact perm_nil.mp (gone ▸ perm)
        rw [none, append_nil]
        exact drop_of_length_le ((length_take_le _ _))
    obtain ⟨filed, items, left, offspring⟩ := @addFileItemToList_fold sorted
      (perm.nodup_iff.mpr booked.distinct) cleared (fun _ => False) (fun _ _ => id)
      ⟨fun _ _ => .nil, by simp [cleared]⟩
    refine ⟨?_, ?_, ?_⟩
    · rw [left, live]
      exact perm.nodup_iff.mpr booked.distinct
    · rw [items, left, live]
      exact filed.congr (by simp) fun _ _ => rfl
    · rw [offspring, items, left, live]
      exact booked.offspring.trans (rowCount_perm _ perm).symm

theorem getChildLoop_frame {rest : List Nat} {child index item : Nat}
    (got : getChildLoop server rest child index item = some (after, row)) :
    ∃ cached cache,
      after = { server with maxCachedIndex := cached, lookupCache := cache } := by
  induction rest generalizing server child index item with
  | nil =>
    cases got
    exact ⟨_, _, rfl⟩
  | cons id rest ih =>
    dsimp only [getChildLoop] at got
    split at got
    case isTrue =>
      cases got
      exact ⟨_, _, rfl⟩
    case isFalse =>
      split at got
      case isFalse =>
        cases got
        exact ⟨_, _, rfl⟩
      case isTrue =>
        split at got
        case h_1 => cases got
        case h_2 =>
          obtain ⟨cached, cache, same⟩ := ih got
          exact ⟨cached, cache, same⟩

theorem getChild_frame {item : Nat} (got : server.getChild item = some (after, row)) :
    ∃ cached cache,
      after = { server with maxCachedIndex := cached, lookupCache := cache } := by
  unfold getChild at got
  split at got
  case isTrue =>
    split at got
    case h_1 => cases got
    case h_2 =>
      split at got
      case h_1 => cases got
      case h_2 =>
        split at got <;> cases got <;> exact ⟨_, _, rfl⟩
  case isFalse =>
    split at got
    case isTrue => exact getChildLoop_frame got
    case isFalse =>
      dsimp only at got
      split at got
      case h_1 => cases got
      case h_2 => exact getChildLoop_frame got

theorem booked_getChild (booked : Booked server) {item : Nat}
    (got : server.getChild item = some (after, row)) : Booked after := by
  obtain ⟨cached, cache, rfl⟩ := getChild_frame got
  exact ⟨booked.distinct, booked.filed, booked.offspring⟩

theorem booked_step {statusText : Nat → WString} {call : QueueCall} (booked : Booked server)
    (step : queueStep statusText server call = some after) : Booked after := by
  cases call with
  | addChild id item =>
    obtain ⟨fresh, rfl⟩ := some_of_refusal step
    exact booked_addChild booked fresh item
  | removeChild id forward =>
    obtain ⟨member, rfl⟩ := some_of_guard step
    exact booked_removeChild booked member forward
  | setPriority priority =>
    cases step
    exact booked_setPriority booked priority
  | setItemPriority id priority =>
    obtain ⟨member, rfl⟩ := some_of_guard step
    exact booked_setItemPriority booked member priority
  | queueImmediateFiles =>
    cases step
    exact booked_queueImmediateFiles booked
  | queueImmediateFile id =>
    obtain ⟨-, rfl⟩ := some_of_guard step
    exact booked_queueImmediateFile booked id
  | tryRemoveAll =>
    cases step
    exact booked_tryRemoveAll booked
  | sort col reverse =>
    cases step
    exact booked_sort booked statusText col reverse
  | setActive id active statusId =>
    obtain ⟨member, rfl⟩ := some_of_guard step
    exact booked_setActive booked member active statusId
  | getChild item =>
    obtain ⟨-, step⟩ := of_guard step
    obtain ⟨⟨_, row⟩, got, rfl⟩ := map_eq_some_iff.mp step
    exact booked_getChild booked got

theorem booked_run {statusText : Nat → WString} {trace : List (CServerItem × QueueCall)}
    (run : Run (queueStep statusText) { items } trace server) : Booked server := by
  have initial : Booked { items } := by
    refine ⟨nodup_nil, ⟨fun _ _ => nodup_nil, ?_⟩, rfl⟩
    simp [ChildVector.live]
  exact run.invariant initial fun _ _ _ booked step => booked_step booked step

def Candidate (server : CServerItem) (immediateOnly : Bool)
    (direction : TransferDirection) (id : Nat) : Prop :=
  id ∈ server.children.live ∧ (server.items id).active = false ∧
    matchesDirection direction (server.items id) = true ∧
    (immediateOnly = true → (server.items id).queued = false)

theorem mem_bucket (booked : Booked server) {priority : QueuePriority} {id : Nat} :
    (id ∈ server.fileList queued priority ∧
      (!(server.items id).active && matchesDirection direction (server.items id)) = true) ↔
    Candidate server false direction id ∧ place server.items id = (queued, priority) := by
  rw [booked.filed.mem, Bool.and_eq_true, Bool.not_eq_true']
  unfold Candidate
  simp only [Bool.false_eq_true, false_implies, and_true]
  tauto

theorem doGetIdleChild_none (booked : Booked server)
    (nothing : server.doGetIdleChild queued direction = none) {id : Nat}
    (candidate : Candidate server false direction id) :
    (server.items id).queued ≠ queued := by
  rintro rfl
  unfold doGetIdleChild at nothing
  rw [findSome?_eq_none_iff] at nothing
  have bucket := nothing (server.items id).priority
    (mem_reverse.mpr (QueuePriority.mem_all _))
  obtain ⟨listed, idle⟩ := (mem_bucket booked).mpr ⟨candidate, rfl⟩
  exact find?_eq_none.mp bucket id listed idle

theorem doGetIdleChild_some (booked : Booked server) {id : Nat}
    (taken : server.doGetIdleChild queued direction = some id) :
    Candidate server false direction id ∧ (server.items id).queued = queued ∧
    ∀ other, Candidate server false direction other → (server.items other).queued = queued →
      (server.items other).priority.value ≤ (server.items id).priority.value := by
  obtain ⟨higher, priority, lower, split, here, before⟩ := findSome?_eq_some_iff.mp taken
  have idle := find?_some here
  obtain ⟨candidate, atPlace⟩ := (mem_bucket booked).mp ⟨mem_of_find?_eq_some here, idle⟩
  obtain ⟨sameQueued, samePriority⟩ := Prod.mk.inj atPlace
  refine ⟨candidate, sameQueued, fun other isCandidate isQueued => ?_⟩
  rw [samePriority]
  have descending : (higher ++ priority :: lower).Pairwise
      fun left right => right.value ≤ left.value := by
    rw [← split]
    decide
  have present : (server.items other).priority ∈ higher ++ priority :: lower := by
    rw [← split]
    exact mem_reverse.mpr (QueuePriority.mem_all _)
  rcases mem_append.mp present with inHigher | rest
  · obtain ⟨listed, idle⟩ := (mem_bucket booked).mpr
      ⟨isCandidate, Prod.ext_iff.mpr ⟨isQueued, rfl⟩⟩
    exact absurd idle (find?_eq_none.mp (before _ inHigher) other listed)
  · rcases mem_cons.mp rest with same | inLower
    · rw [same]
    · exact rel_of_pairwise_cons (pairwise_append.mp descending).2.1 inLower

/-- The candidate among the immediate files, or else among the queued ones, that
has the highest priority. -/
def TakesBest (server : CServerItem) (immediateOnly : Bool)
    (direction : TransferDirection) : Option Nat → Prop
  | none => ∀ id, ¬ Candidate server immediateOnly direction id
  | some id => Candidate server immediateOnly direction id ∧
      ∀ other, Candidate server immediateOnly direction other →
        ((server.items id).queued = false ∧ (server.items other).queued = true) ∨
        ((server.items id).queued = (server.items other).queued ∧
          (server.items other).priority.value ≤ (server.items id).priority.value)

theorem getIdleChild_takesBest (booked : Booked server)
    (immediateOnly : Bool) (direction : TransferDirection) :
    TakesBest server immediateOnly direction (server.getIdleChild immediateOnly direction) := by
  have weaken {id : Nat} (candidate : Candidate server immediateOnly direction id) :
      Candidate server false direction id :=
    ⟨candidate.1, candidate.2.1, candidate.2.2.1, by simp⟩
  unfold getIdleChild
  cases immediate : server.doGetIdleChild false direction with
  | some id =>
    obtain ⟨candidate, notQueued, best⟩ := doGetIdleChild_some booked immediate
    refine ⟨⟨candidate.1, candidate.2.1, candidate.2.2.1, fun _ => notQueued⟩,
      fun other isCandidate => ?_⟩
    cases queued : (server.items other).queued with
    | true => exact .inl ⟨notQueued, rfl⟩
    | false => exact .inr ⟨notQueued, best other (weaken isCandidate) queued⟩
  | none =>
    cases immediateOnly with
    | true =>
      intro id candidate
      exact doGetIdleChild_none booked immediate (weaken candidate) (candidate.2.2.2 rfl)
    | false =>
      cases queued : server.doGetIdleChild true direction with
      | none =>
        intro id candidate
        have isQueued := eq_true_of_ne_false (doGetIdleChild_none booked immediate candidate)
        exact doGetIdleChild_none booked queued candidate isQueued
      | some id =>
        obtain ⟨candidate, isQueued, best⟩ := doGetIdleChild_some booked queued
        refine ⟨candidate, fun other isCandidate => .inr ?_⟩
        have otherQueued : (server.items other).queued = true := eq_true_of_ne_false
            (doGetIdleChild_none booked immediate isCandidate)
        exact ⟨isQueued.trans otherQueued.symm, best other isCandidate otherQueued⟩

/-- Every child is once in the list of its place, the lists hold nothing else
and the visible rows below the server are counted. -/
structure Bookkept (server : CServerItem) : Prop where
  distinct : server.children.live.Nodup
  once : ∀ id ∈ server.children.live, ∀ queued priority,
    (server.fileList queued priority).count id =
      if (server.items id).queued = queued ∧ (server.items id).priority = priority then 1
      else 0
  children : ∀ queued priority, ∀ id ∈ server.fileList queued priority, id ∈ server.children.live
  offspring : server.visibleOffspring =
    (server.children.live.map fun id => 1 + ((server.items id).childrenCount : Int)).sum

theorem Booked.bookkept (booked : Booked server) :
    Bookkept server where
  __ := booked
  once id member queued priority := by
    rw [(booked.filed.nodup queued priority).count]
    simp only [booked.filed.mem, member, true_and, place, Prod.mk.injEq]
  children queued priority id listed := ((booked.filed.mem _ _ _).mp listed).1

/-- After any calls the books are right, and the next file is one of highest
priority among the immediate files, or else among the queued ones. -/
theorem run_bookkept {statusText : Nat → WString} {items : Nat → CFileItem}
    {trace : List (CServerItem × QueueCall)} {server : CServerItem}
    (run : Run (queueStep statusText) { items } trace server) :
    Bookkept server ∧ ∀ immediateOnly direction, TakesBest server immediateOnly direction
        (server.getIdleChild immediateOnly direction) :=
  ⟨(booked_run run).bookkept, getIdleChild_takesBest (booked_run run)⟩

theorem run_bookkept_two_files : ∃ trace server, Run (queueStep fun _ => [])
      { items := fun _ => { folder := false, queued := true, download := true } } trace server ∧
    server.getIdleChild false .both = some 1 ∧ Bookkept server := by
  obtain ⟨trace, server, run, takesOne⟩ := @exists_run_of_execute _ _ (queueStep fun _ => [])
    { items := fun _ => { folder := false, queued := true, download := true } }
    [.addChild 0 { folder := false, queued := true, download := true },
      .addChild 1 { folder := false, queued := true, download := false },
      .setItemPriority 1 .high, .setActive 0 true 2]
    (fun _ server => server.getIdleChild false .both == some 1) (by decide +kernel)
  exact ⟨trace, server, run, eq_of_beq takesOne, (run_bookkept run).1⟩

/-- An immediate file goes before a queued one of higher priority. -/
theorem getIdleChild_not_highest : ¬ ∀ statusText items trace server,
    Run (queueStep statusText) { items } trace server →
    ∀ direction id, server.getIdleChild false direction = some id →
    ∀ other, Candidate server false direction other →
      (server.items other).priority.value ≤ (server.items id).priority.value := by
  intro highest
  obtain ⟨trace, server, run, checked⟩ := @exists_run_of_execute _ _ (queueStep fun _ => [])
    { items := fun _ => { folder := false, queued := true, download := true } }
    [.addChild 0 { folder := false, queued := false, priority := .lowest, download := true },
      .addChild 1 { folder := false, queued := true, priority := .highest, download := true }]
    (fun _ server => server.getIdleChild false .both == some 0 &&
      (decide (1 ∈ server.children.live) && !(server.items 1).active) &&
      decide ((server.items 0).priority.value < (server.items 1).priority.value))
    (by decide +kernel)
  rw [Bool.and_eq_true, Bool.and_eq_true, Bool.and_eq_true, decide_eq_true_iff,
    decide_eq_true_iff, Bool.not_eq_true'] at checked
  obtain ⟨⟨taken, member, inactive⟩, lower⟩ := checked
  have atMost := highest _ _ trace server run .both 0 (eq_of_beq taken) 1
    ⟨member, inactive, rfl, by simp⟩
  exact absurd lower (Nat.not_lt.mpr atMost)

end CServerItem

end FileZilla
