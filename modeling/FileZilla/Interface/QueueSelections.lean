import FileZilla.Interface.ListControl
import FileZilla.Interface.QueueIndex

namespace FileZilla

open List

inductive ViewRow
  | server (number : Nat)
  | below (number : Nat) (row : QueueRow)
  deriving DecidableEq

/-- `CQueueViewBase` with `m_serverList` and `m_itemCount` -/
structure CQueueViewBase where
  serverList : List (Nat × CServerItem)
  itemCount : Int
  control : ListControl

namespace CQueueViewBase

/-- The rows that `GetItemIndex` counts for the servers before this one -/
def topLevelIndex (number : Nat) : List (Nat × CServerItem) → Int
  | [] => 0
  | (other, server) :: rest =>
    if other = number then 0
    else server.visibleOffspring + 1 + topLevelIndex number rest

def getItemIndex (self : CQueueViewBase) (number : Nat) (server : CServerItem) (row : QueueRow) :
    Int :=
  topLevelIndex number self.serverList + server.getItemIndex row

def saveSetItemCount (updateItemCount : Bool) (itemCount : Int) (control : ListControl) :
    ListControl :=
  if updateItemCount then control.setItemCount itemCount.toNat else control

/-- `RemoveItem` for an item of a server. `GetItemIndex` does not find the server any more once it
has left the list. -/
def removeItem (self : CQueueViewBase) (number id : Nat)
    (updateItemCount updateSelections forward : Bool) : CQueueViewBase :=
  match self.serverList.find? fun entry => entry.1 = number with
  | none => self
  | some (_, server) =>
    let index := if updateSelections then self.getItemIndex number server (.item id) else 0
    let count := server.visibleOffspring
    let after := server.removeChild id forward
    match (after.getChild 0).bind Prod.snd with
    | none =>
      let serverList := self.serverList.eraseP fun entry => entry.1 = number
      let control := self.control.itemRangeRemoved (topLevelIndex number serverList) (count + 1)
      let itemCount := self.itemCount - (count + 1)
      { serverList, itemCount
        control := saveSetItemCount updateItemCount itemCount control }
    | some _ =>
      let serverList :=
        self.serverList.map fun entry => if entry.1 = number then (number, after) else entry
      let count := count - after.visibleOffspring
      let control :=
        if updateSelections then self.control.itemRangeRemoved index count else self.control
      let itemCount := self.itemCount - count
      { serverList, itemCount
        control := saveSetItemCount updateItemCount itemCount control }

open CServerItem

def serverRows (entry : Nat × CServerItem) : List ViewRow :=
  .server entry.1 ::
    (visible entry.2.items entry.2.children.live).map (.below entry.1)

def rows (self : CQueueViewBase) : List ViewRow :=
  self.serverList.flatMap serverRows

/-- The rows of an item, with that of the server if it has no other items. -/
def itemRows (number : Nat) (server : CServerItem) (id : Nat) : List ViewRow :=
  (if server.children.live = [id] then [.server number] else []) ++
    (CServerItem.itemRows server.items id).map (.below number)

structure Consistent (view : CQueueViewBase) : Prop where
  booked : ∀ entry ∈ view.serverList, entry.2.Booked
  distinct : view.rows.Nodup
  itemCount : view.itemCount = view.rows.length
  listed : view.control.itemCount = view.rows.length

theorem live_removeChild {server : CServerItem} (booked : server.Booked) {id : Nat}
    (member : id ∈ server.children.live) (forward : Bool) :
    (server.removeChild id forward).children.live = server.children.live.erase id := by
  obtain ⟨index, found, live⟩ := ChildVector.live_remove booked.distinct member forward
  unfold removeChild
  simp only [found]
  exact live

theorem items_removeChild (server : CServerItem) (id : Nat) (forward : Bool) :
    (server.removeChild id forward).items = server.items := by
  unfold removeChild
  cases server.children.find id forward with
  | none => rfl
  | some index => rfl

theorem getChild_removeChild {server : CServerItem} (booked : server.Booked) {id : Nat}
    (member : id ∈ server.children.live) (forward : Bool) :
    ((server.removeChild id forward).getChild 0).bind Prod.snd =
      ((server.children.live.erase id).head?).map QueueRow.item := by
  have reset := maxCachedIndex_removeChild booked member forward
  have live := live_removeChild booked member forward
  unfold getChild
  rw [reset, if_neg (by decide), if_pos rfl, live]
  cases server.children.live.erase id with
  | nil => rfl
  | cons first rest => rfl

theorem visibleOffspring_eq {server : CServerItem} (booked : server.Booked) :
    server.visibleOffspring = (visible server.items server.children.live).length := by
  rw [booked.offspring, rowCount_eq_length]

theorem topLevelIndex_eq {number : Nat} {servers rest : List (Nat × CServerItem)}
    (booked : ∀ entry ∈ servers, entry.2.Booked) (other : ∀ entry ∈ servers, entry.1 ≠ number) :
    topLevelIndex number (servers ++ rest) =
      (servers.flatMap serverRows).length + topLevelIndex number rest := by
  induction servers with
  | nil => simp
  | cons entry servers same =>
    obtain ⟨here, booked⟩ := forall_mem_cons.mp booked
    obtain ⟨different, other⟩ := forall_mem_cons.mp other
    rw [cons_append, topLevelIndex, if_neg different, same booked other,
      visibleOffspring_eq here, flatMap_cons, length_append, serverRows,
      length_cons, length_map]
    push_cast
    omega

structure Place (view : CQueueViewBase) (number : Nat) (server : CServerItem) (id : Nat) where
  earlier : List (Nat × CServerItem)
  later : List (Nat × CServerItem)
  above : List Nat
  under : List Nat
  servers : view.serverList = earlier ++ (number, server) :: later
  live : server.children.live = above ++ id :: under
  notEarlier : ∀ entry ∈ earlier, entry.1 ≠ number
  notLater : ∀ entry ∈ later, entry.1 ≠ number

variable {view : CQueueViewBase} {number id : Nat} {server : CServerItem}

theorem exists_place (consistent : view.Consistent) (listed : (number, server) ∈ view.serverList)
    (child : id ∈ server.children.live) : Nonempty (Place view number server id) := by
  obtain ⟨earlier, later, servers⟩ := append_of_mem listed
  obtain ⟨above, under, live⟩ := append_of_mem child
  have distinct := consistent.distinct
  rw [rows, servers, flatMap_append, flatMap_cons] at distinct
  have named (entry : Nat × CServerItem) (servers : List (Nat × CServerItem))
      (member : entry ∈ servers) : ViewRow.server entry.1 ∈ servers.flatMap serverRows :=
    mem_flatMap.mpr ⟨entry, member, mem_cons_self⟩
  have own : ViewRow.server number ∈ serverRows (number, server) := mem_cons_self
  obtain ⟨-, others, apart⟩ := nodup_append.mp distinct
  obtain ⟨-, -, behind⟩ := nodup_append.mp others
  refine ⟨⟨earlier, later, above, under, servers, live, ?_, ?_⟩⟩
  · rintro entry member rfl
    exact apart _ (named entry earlier member) _ (mem_append_left _ own) rfl
  · rintro entry member rfl
    exact behind _ own _ (named entry later member) rfl

namespace Place

variable (place : Place view number server id) (consistent : view.Consistent)
include place consistent

theorem booked : server.Booked :=
  consistent.booked (number, server) (by simp [place.servers])

omit place consistent in
theorem find?_eq (place : Place view number server id) :
    (view.serverList.find? fun entry => entry.1 = number) = some (number, server) := by
  rw [place.servers, find?_append, find?_eq_none.mpr]
  · simp
  · intro entry member
    simpa using place.notEarlier entry member

theorem erase_live : server.children.live.erase id = place.above ++ place.under := by
  have distinct := (place.booked consistent).distinct
  rw [place.live] at distinct ⊢
  have notAbove : id ∉ place.above := fun member =>
    (nodup_append.mp distinct).2.2 id member id mem_cons_self rfl
  rw [erase_append_right _ notAbove, erase_cons_head]

theorem topLevelIndex_found :
    topLevelIndex number view.serverList = (place.earlier.flatMap serverRows).length := by
  have booked : ∀ entry ∈ place.earlier, entry.2.Booked := fun entry member =>
    consistent.booked entry (by simp [place.servers, member])
  rw [place.servers, topLevelIndex_eq booked place.notEarlier, topLevelIndex, if_pos rfl,
    Int.add_zero]

omit consistent in
theorem eraseP_eq : (view.serverList.eraseP fun entry => entry.1 = number) =
    place.earlier ++ place.later := by
  rw [place.servers, eraseP_append_right, eraseP_cons_of_pos]
  · simp
  · intro entry member
    simpa using place.notEarlier entry member

omit consistent in
theorem map_eq (after : CServerItem) :
    (view.serverList.map fun entry => if entry.1 = number then (number, after) else entry) =
      place.earlier ++ (number, after) :: place.later := by
  have kept (servers : List (Nat × CServerItem)) (other : ∀ entry ∈ servers, entry.1 ≠ number) :
      (servers.map fun entry => if entry.1 = number then (number, after) else entry) =
        servers := by
    refine (map_congr_left fun entry member => ?_).trans (map_id servers)
    exact if_neg (other entry member)
  rw [place.servers, map_append, map_cons, kept _ place.notEarlier,
    kept _ place.notLater, if_pos rfl]

theorem topLevelIndex_erased :
    topLevelIndex number (place.earlier ++ place.later) =
      ((place.earlier ++ place.later).flatMap serverRows).length := by
  have whole := @topLevelIndex_eq number (place.earlier ++ place.later) []
    (fun entry member => consistent.booked entry (by
      rw [place.servers]
      rcases mem_append.mp member with member | member
      · exact mem_append_left _ member
      · exact mem_append_right _ (mem_cons_of_mem _ member)))
    (fun entry member => (mem_append.mp member).elim (place.notEarlier entry)
      (place.notLater entry))
  rwa [append_nil, topLevelIndex, Int.add_zero] at whole

theorem getItemIndex_eq :
    view.getItemIndex number server (.item id) = (place.earlier.flatMap serverRows).length + 1 +
        (visible server.items place.above).length := by
  have distinct := (place.booked consistent).distinct
  have here : server.children.live[place.above.length]? = some id := by
    rw [place.live]
    simp
  have index := @itemIndexLoop_eq server.items _ _ _ distinct here 1
  rw [getItemIndex, place.topLevelIndex_found consistent, CServerItem.getItemIndex, index,
    start, place.live, take_left]
  push_cast
  omega

omit consistent in
theorem alone_iff : server.children.live = [id] ↔ place.above = [] ∧ place.under = [] := by
  rw [place.live]
  constructor
  · intro single
    have length := congrArg length single
    simp only [length_append, length_cons, length_nil] at length
    exact ⟨length_eq_zero_iff.mp (by omega), length_eq_zero_iff.mp (by omega)⟩
  · rintro ⟨noneAbove, noneUnder⟩
    rw [noneAbove, noneUnder, nil_append]

def front : List ViewRow :=
  place.earlier.flatMap serverRows ++
    if server.children.live = [id] then []
    else .server number ::
      (visible server.items place.above).map (.below number)

def back : List ViewRow :=
  (visible server.items place.under).map (.below number) ++
    place.later.flatMap serverRows

omit consistent in
theorem rows_eq : view.rows = place.front ++ itemRows number server id ++ place.back := by
  rw [rows, place.servers, flatMap_append, flatMap_cons, serverRows, front, itemRows,
    back]
  dsimp only
  rw [place.live, visible_append, visible_cons, map_append,
    map_append]
  rw [← place.live]
  split
  case isTrue single =>
    obtain ⟨noneAbove, noneUnder⟩ := place.alone_iff.mp single
    simp [noneAbove, noneUnder]
  case isFalse => simp

theorem itemCount_eq : view.itemCount =
    ((place.front ++ place.back).length + (itemRows number server id).length : Int) := by
  rw [consistent.itemCount, place.rows_eq]
  simp only [length_append]
  push_cast
  omega

omit consistent in
theorem child : id ∈ server.children.live := by
  simp [place.live]

theorem removeItem_alone (single : server.children.live = [id]) (updateItemCount forward : Bool) :
    view.removeItem number id updateItemCount true forward =
      { serverList := place.earlier ++ place.later
        itemCount := (place.front ++ place.back).length
        control := saveSetItemCount updateItemCount (place.front ++ place.back).length
          (view.control.itemRangeRemoved (place.front ++ place.back).length
            (itemRows number server id).length) } := by
  obtain ⟨noneAbove, noneUnder⟩ := place.alone_iff.mp single
  have booked := place.booked consistent
  have gone : server.visibleOffspring + 1 = (itemRows number server id).length := by
    rw [visibleOffspring_eq booked, single, itemRows, if_pos single]
    simp [visible]
  have left : place.front ++ place.back = (place.earlier ++ place.later).flatMap serverRows := by
    rw [front, if_pos single, back, noneUnder, flatMap_append]
    simp
  have count := place.itemCount_eq consistent
  unfold removeItem
  rw [place.find?_eq]
  dsimp only
  rw [getChild_removeChild booked place.child, place.erase_live consistent, noneAbove, noneUnder]
  simp only [append_nil, head?_nil, Option.map_none]
  rw [place.eraseP_eq, place.topLevelIndex_erased consistent, gone, count, left,
    Int.add_sub_cancel]

theorem removeItem_among (several : server.children.live ≠ [id])
    (updateItemCount forward : Bool) :
    view.removeItem number id updateItemCount true forward =
      { serverList :=
          place.earlier ++ (number, server.removeChild id forward) :: place.later
        itemCount := (place.front ++ place.back).length
        control := saveSetItemCount updateItemCount (place.front ++ place.back).length
          (view.control.itemRangeRemoved place.front.length
            (itemRows number server id).length) } := by
  have booked := place.booked consistent
  have gone : server.visibleOffspring - (server.removeChild id forward).visibleOffspring =
      (itemRows number server id).length := by
    have after := booked_removeChild booked place.child forward
    rw [visibleOffspring_eq booked, visibleOffspring_eq after, items_removeChild,
      live_removeChild booked place.child, place.erase_live consistent, place.live, itemRows,
      if_neg several]
    simp
  have index : view.getItemIndex number server (.item id) = place.front.length := by
    rw [place.getItemIndex_eq consistent, front, if_neg several]
    simp only [length_append, length_cons, length_map]
    push_cast
    omega
  have count := place.itemCount_eq consistent
  unfold removeItem
  rw [place.find?_eq]
  dsimp only
  rw [getChild_removeChild booked place.child, place.erase_live consistent]
  cases remaining : place.above ++ place.under with
  | nil =>
    obtain ⟨noneAbove, noneUnder⟩ := append_eq_nil_iff.mp remaining
    exact absurd (place.alone_iff.mpr ⟨noneAbove, noneUnder⟩) several
  | cons first rest =>
    simp only [head?_cons, Option.map_some, if_true]
    rw [place.map_eq, gone, index, count, Int.add_sub_cancel]

end Place

def firstRow (number : Nat) (server : CServerItem) (id : Nat) : ViewRow :=
  if server.children.live = [id] then .server number else .below number (.item id)

theorem itemRows_eq (number : Nat) (server : CServerItem) (id : Nat) :
    ∃ rest, itemRows number server id = firstRow number server id :: rest := by
  unfold itemRows firstRow
  split
  case isTrue => exact ⟨_, rfl⟩
  case isFalse => exact ⟨_, rfl⟩

open ListControl

theorem selected_saveSetItemCount {updateItemCount : Bool} {itemCount : Nat}
    {control : ListControl} {index : Nat} (inside : index < itemCount) :
    (saveSetItemCount updateItemCount itemCount control).selected index ↔
      control.selected index := by
  unfold saveSetItemCount
  split
  case isTrue =>
    rw [selected_setItemCount, Int.toNat_natCast]
    exact and_iff_right inside
  case isFalse => rfl

namespace Place

variable (place : Place view number server id) (consistent : view.Consistent)
include place consistent

theorem start_eq : view.rows.idxOf (firstRow number server id) = place.front.length := by
  obtain ⟨rest, rows⟩ := itemRows_eq number server id
  have distinct := consistent.distinct
  rw [place.rows_eq, rows, append_assoc] at distinct ⊢
  rw [idxOf_append_of_notMem, cons_append, idxOf_cons_self, Nat.add_zero]
  intro member
  exact (nodup_append.mp distinct).2.2 _ member _ mem_cons_self rfl

theorem rows_removeItem (updateItemCount forward : Bool) :
    (view.removeItem number id updateItemCount true forward).rows = place.front ++ place.back := by
  by_cases single : server.children.live = [id]
  case pos =>
    obtain ⟨-, noneUnder⟩ := place.alone_iff.mp single
    rw [place.removeItem_alone consistent single, rows, front, if_pos single, back, noneUnder]
    simp
  case neg =>
    rw [place.removeItem_among consistent single, rows, front, if_neg single, back]
    simp only [serverRows, items_removeChild, live_removeChild (place.booked consistent)
      place.child, place.erase_live consistent, visible_append, map_append,
      flatMap_append, flatMap_cons]
    simp

end Place

theorem selections_follow_iff (consistent : view.Consistent)
    (listed : (number, server) ∈ view.serverList) (child : id ∈ server.children.live)
    (updateItemCount forward : Bool) :
    let after := view.removeItem number id updateItemCount true forward
    let gone := itemRows number server id
    let start := view.rows.idxOf (firstRow number server id)
    let treated :=
      if server.children.live = [id] then view.rows.length - gone.length else start
    ((∀ shown, after.control.Selects after.rows shown ↔
        view.control.Selects view.rows shown ∧ shown ∉ gone) ↔
      view.control.KeepsSelection start treated gone.length) ∧
    ∀ (control : ListControl) (front come back : List ViewRow),
      control.itemCount = (front ++ back).length →
      let listed := control.setItemCount (front ++ come ++ back).length
      ∀ shown,
        ((listed.itemRangeAdded front.length come.length).Selects (front ++ come ++ back) shown ↔
          control.Selects (front ++ back) shown) ∧
        (come.length = 1 →
          ((listed.itemAdded front.length).Selects (front ++ come ++ back) shown ↔
            control.Selects (front ++ back) shown)) := by
  intro after gone start treated
  refine ⟨?_, ?_⟩
  · obtain ⟨place⟩ := exists_place consistent listed child
    have rows := place.rows_removeItem consistent updateItemCount forward
    have start_eq : start = place.front.length := place.start_eq consistent
    have length : view.rows.length = (place.front ++ place.back).length + gone.length := by
      rw [place.rows_eq]
      simp only [length_append, gone]
      omega
    have some : 0 < gone.length := by
      obtain ⟨rest, first⟩ := itemRows_eq number server id
      dsimp only [gone]
      rw [first]
      exact Nat.succ_pos _
    have bound : place.front.length ≤ (place.front ++ place.back).length := by simp
    have which : treated = place.front.length ∨
        treated = (place.front ++ place.back).length := by
      dsimp only [treated]
      split
      case isTrue => exact .inr (by omega)
      case isFalse => exact .inl start_eq
    have control (index : Nat) (inside : index < (place.front ++ place.back).length) :
        after.control.selected index ↔
          (view.control.itemRangeRemoved treated gone.length).selected index := by
      by_cases single : server.children.live = [id]
      case pos =>
        have taken : treated = (place.front ++ place.back).length := by
          dsimp only [treated]
          rw [if_pos single]
          omega
        dsimp only [after]
        rw [place.removeItem_alone consistent single, selected_saveSetItemCount inside, taken]
      case neg =>
        have taken : treated = place.front.length := by
          dsimp only [treated]
          rw [if_neg single, start_eq]
        dsimp only [after]
        rw [place.removeItem_among consistent single, selected_saveSetItemCount inside, taken]
    have follow := @selects_follow_iff ViewRow view.control after.control
      place.front gone place.back (place.rows_eq ▸ consistent.distinct)
    have total := consistent.listed.trans length
    have keeps := keepsSelection_iff some bound total which
    rw [rows, place.rows_eq, start_eq, ← keeps]
    refine follow.trans (forall₂_congr fun index inside => ?_)
    rw [control index inside]
  · intro control front come back known listed shown
    have enough : front.length ≤ listed.itemCount := by
      dsimp only [listed, setItemCount]
      simp only [length_append]
      omega
    have old (index : Nat) : listed.selected index ↔ control.selected index := by
      refine selected_setItemCount.trans (and_iff_right_of_imp fun chosen => ?_)
      have inside := control.inside chosen
      rw [known] at inside
      simp only [length_append] at inside ⊢
      omega
    constructor
    · refine selects_of_inserted (fun index inside => ?_) shown
      rw [selected_itemRangeAdded listed come.length enough inside, old, old]
    · intro single
      refine selects_of_inserted (fun index inside => ?_) shown
      rw [selected_itemAdded listed enough inside, old, old, single]

def noFile : CServerItem where
  items _ := { folder := false, queued := true, download := true }

def oneFile (id : Nat) : CServerItem :=
  noFile.addChild id { folder := false, queued := true, download := true }

def twoServers (row : Fin 4) : CQueueViewBase where
  serverList := [(0, oneFile 0), (1, oneFile 1)]
  itemCount := 4
  control :=
    { itemCount := 4
      selected := fun index => index = row
      inside := fun chosen => by
        rw [decide_eq_true_eq] at chosen
        omega }

theorem twoServers_consistent (row : Fin 4) : (twoServers row).Consistent where
  booked entry member := by
    have booked (id : Nat) : (oneFile id).Booked := by
      have empty : noFile.Booked := ⟨nodup_nil, ⟨fun _ _ => nodup_nil, fun _ _ id => by
          simp [noFile, ChildVector.live]⟩, rfl⟩
      exact booked_addChild empty (by simp [noFile, ChildVector.live]) _
    rcases mem_pair.mp member with rfl | rfl
    · exact booked 0
    · exact booked 1
  distinct := by
    change [ViewRow.server 0, .below 0 (.item 0), .server 1, .below 1 (.item 1)].Nodup
    decide
  itemCount := rfl
  listed := rfl

theorem selections_follow_iff_file :
    let view := twoServers 3
    let after := view.removeItem 0 0 true true true
    (∀ shown, after.control.Selects after.rows shown ↔
        view.control.Selects view.rows shown ∧ shown ∉ itemRows 0 (oneFile 0) 0) ↔
      view.control.KeepsSelection 0 2 2 :=
  (selections_follow_iff (twoServers_consistent 3) mem_cons_self mem_cons_self
    true true).1

/-- With its only file, the first server goes, and the second server is not selected any more. -/
theorem selection_lost :
    let view := twoServers 2
    let after := view.removeItem 0 0 true true true
    ¬∀ shown, after.control.Selects after.rows shown ↔
      view.control.Selects view.rows shown ∧ shown ∉ itemRows 0 (oneFile 0) 0 := by
  intro view after follow
  have before : view.control.Selects view.rows (.server 1) := ⟨2, rfl, rfl⟩
  obtain ⟨index, here, chosen⟩ := (follow (.server 1)).mpr ⟨before, by decide⟩
  have rows : after.rows = [.server 1, .below 1 (.item 1)] := by decide
  rw [rows] at here
  cases index with
  | zero => cases chosen
  | succ index =>
    cases index with
    | zero => cases here
    | succ index => cases here

end CQueueViewBase

end FileZilla
