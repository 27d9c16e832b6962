import FileZilla.Runs
import FileZilla.Engine.ServerPath
import Mathlib.Algebra.Order.Ring.Int

namespace FileZilla

universe u

/-! The transfer queue of one server: the child items, the lists the scheduler
takes files from and the cache for looking up items by their row. Items are
known by number, which stands for their address. -/

inductive QueuePriority
  | lowest
  | low
  | normal
  | high
  | highest
  deriving DecidableEq

namespace QueuePriority

def all : List QueuePriority :=
  [.lowest, .low, .normal, .high, .highest]

def value (priority : QueuePriority) : Nat :=
  priority.ctorIdx

theorem mem_all (priority : QueuePriority) : priority ∈ all := by
  cases priority <;> decide

end QueuePriority

inductive TransferDirection
  | both
  | download
  | upload

/-- `m_children` with the number of items that are only counted as removed. -/
structure ChildVector (α : Type u) where
  elements : List α := []
  removedAtFront : Nat := 0

namespace ChildVector

variable {α : Type u} (vector : ChildVector α)

def live : List α :=
  vector.elements.drop vector.removedAtFront

def add (element : α) : ChildVector α :=
  if vector.removedAtFront = 0 then
    { vector with elements := vector.elements ++ [element] }
  else
    { elements := vector.elements.drop vector.removedAtFront ++ [element]
      removedAtFront := 0 }

/-- Among the first items the ones before it move up by one and the front is
counted as removed; further back the item is erased. -/
def removeAt (index : Nat) : ChildVector α :=
  if index - vector.removedAtFront ≤ 10 then
    { elements := vector.elements.take (vector.removedAtFront + 1) ++
        (vector.elements.drop vector.removedAtFront).take (index - vector.removedAtFront) ++
        vector.elements.drop (index + 1)
      removedAtFront := vector.removedAtFront + 1 }
  else
    { vector with elements := vector.elements.eraseIdx index }

def find [DecidableEq α] (vector : ChildVector α) (element : α) (forward : Bool) :
    Option Nat :=
  if forward then
    (vector.live.findIdx? (· == element)).map (· + vector.removedAtFront)
  else
    (vector.live.reverse.findIdx? (· == element)).map
      fun index => vector.elements.length - 1 - index

end ChildVector

/-- A `CFileItem`, or a `CFolderItem`; its children are status lines. -/
structure CFileItem where
  folder : Bool
  priority : QueuePriority := .normal
  queued : Bool
  active : Bool := false
  pendingRemove : Bool := false
  download : Bool
  sourceFile : WString := []
  targetFile : WString := []
  localPath : WString := []
  remotePath : CServerPath := CServerPath.none
  size : Int := -1
  status : Nat := 0
  children : ChildVector Nat := {}

namespace CFileItem

def childrenCount (item : CFileItem) : Nat :=
  item.children.live.length

def getLocalFile (item : CFileItem) : WString :=
  if !item.download then item.sourceFile
  else if item.targetFile.isEmpty then item.sourceFile
  else item.targetFile

def getRemoteFile (item : CFileItem) : WString :=
  if item.download then item.sourceFile
  else if item.targetFile.isEmpty then item.sourceFile
  else item.targetFile

end CFileItem

inductive QueueRow
  | item (id : Nat)
  | status (id : Nat)
  deriving DecidableEq

structure CacheItem where
  index : Nat := 0
  child : Nat := 0
  deriving DecidableEq

/-- A `CServerItem`. The first index of `m_fileList` is 0 for queued items. -/
structure CServerItem where
  items : Nat → CFileItem
  children : ChildVector Nat := {}
  fileList : Bool → QueuePriority → List Nat := fun _ _ => []
  visibleOffspring : Int := 0
  maxCachedIndex : Int := -1
  lookupCache : List CacheItem := []

namespace CServerItem

def setFileList (server : CServerItem) (queued : Bool) (priority : QueuePriority)
    (list : List Nat) : CServerItem :=
  { server with
    fileList := Function.update server.fileList queued
      (Function.update (server.fileList queued) priority list) }

def setItem (server : CServerItem) (id : Nat) (item : CFileItem) : CServerItem :=
  { server with items := Function.update server.items id item }

def addFileItemToList (server : CServerItem) (id : Nat) : CServerItem :=
  let item := server.items id
  server.setFileList item.queued item.priority (server.fileList item.queued item.priority ++ [id])

def removeFileItemFromList (server : CServerItem) (id : Nat) (forward : Bool) :
    CServerItem :=
  let item := server.items id
  let list := server.fileList item.queued item.priority
  server.setFileList item.queued item.priority
    (if forward then list.erase id else (list.reverse.erase id).reverse)

/-- Nothing happens to an item that is not in the list of its old priority. -/
def setChildPriority (server : CServerItem) (id : Nat)
    (oldPriority newPriority : QueuePriority) : CServerItem :=
  let queued := (server.items id).queued
  if id ∈ server.fileList queued oldPriority then
    let erased := server.setFileList queued oldPriority
      ((server.fileList queued oldPriority).erase id)
    erased.setFileList queued newPriority (erased.fileList queued newPriority ++ [id])
  else
    server

def addChild (server : CServerItem) (id : Nat) (item : CFileItem) : CServerItem :=
  addFileItemToList
    { server with
      items := Function.update server.items id item
      children := server.children.add id
      maxCachedIndex := -1
      visibleOffspring := server.visibleOffspring + (1 + item.childrenCount) }
    id

/-- `CQueueItem::RemoveChild` on the server for one of its children. The status
lines of the others are searched too, but are never equal to it. -/
def removeChild (server : CServerItem) (id : Nat) (forward : Bool) : CServerItem :=
  let listed := server.removeFileItemFromList id forward
  match server.children.find id forward with
  | none => listed
  | some index =>
    { listed with
      children := server.children.removeAt index
      visibleOffspring := server.visibleOffspring - 1 - (server.items id).childrenCount
      maxCachedIndex := -1 }

/-- `CFileItem::TryRemoveAll` for each child: active ones stay and are marked. -/
def tryRemoveAllLoop (server : CServerItem) : List Nat → CServerItem × List Nat
  | [] => (server, [])
  | id :: rest =>
    let item := server.items id
    if !item.active then
      tryRemoveAllLoop (server.removeFileItemFromList id true) rest
    else
      let marked := server.setItem id { item with pendingRemove := true }
      let (after, keepChildren) := tryRemoveAllLoop
        { marked with
          visibleOffspring := marked.visibleOffspring + 1 + item.childrenCount } rest
      (after, id :: keepChildren)

def tryRemoveAll (server : CServerItem) : CServerItem :=
  let (after, keepChildren) := tryRemoveAllLoop
    { server with visibleOffspring := 0 } server.children.live
  { after with
    children := { elements := keepChildren, removedAtFront := 0 }
    maxCachedIndex := -1 }

def setItemPriority (server : CServerItem) (id : Nat) (priority : QueuePriority) :
    CServerItem :=
  let item := server.items id
  if priority = item.priority then
    server
  else
    (server.setChildPriority id item.priority priority).setItem id
      { item with priority }

def setPriorityLoop (priority : QueuePriority) (server : CServerItem) (id : Nat) :
    CServerItem :=
  let item := server.items id
  if !item.folder then
    server.setItem id { item with priority }
  else
    server.setItemPriority id priority

def mergeLists (priority : QueuePriority) (queued : Bool) (server : CServerItem) :
    CServerItem :=
  QueuePriority.all.foldl (fun server other =>
    if other ≠ priority then
      (server.setFileList queued priority
        (server.fileList queued priority ++ server.fileList queued other)).setFileList
          queued other []
    else
      server) server

def setPriority (server : CServerItem) (priority : QueuePriority) : CServerItem :=
  mergeLists priority false (mergeLists priority true
    (server.children.live.foldl (setPriorityLoop priority) server))

def queueImmediateList (server : CServerItem) (priority : QueuePriority) :
    CServerItem :=
  let list := server.fileList false priority
  let idle := list.filter fun id => !(server.items id).active
  let moved : CServerItem :=
    { server with
      items := fun id =>
        if id ∈ idle then { server.items id with queued := true } else server.items id }
  (moved.setFileList true priority (idle ++ server.fileList true priority)).setFileList
    false priority (list.filter fun id => (server.items id).active)

def queueImmediateFiles (server : CServerItem) : CServerItem :=
  QueuePriority.all.foldl queueImmediateList server

def queueImmediateFile (server : CServerItem) (id : Nat) : CServerItem :=
  let item := server.items id
  if item.queued then
    server
  else if id ∈ server.fileList false item.priority then
    let erased := (server.setItem id { item with queued := true }).setFileList false
      item.priority ((server.fileList false item.priority).erase id)
    erased.setFileList true item.priority (id :: erased.fileList true item.priority)
  else
    server

/-- `CFileItem::SetActive`, and that of `CFolderItem`. `statusId` is the new
status line. -/
def setActive (server : CServerItem) (id : Nat) (active : Bool) (statusId : Nat) :
    CServerItem :=
  let item := server.items id
  if item.folder then
    server.setItem id { item with active }
  else if active && !item.active then
    { server.setItem id
        { item with children := item.children.add statusId, active := true } with
      visibleOffspring := server.visibleOffspring + 1
      maxCachedIndex := -1 }
  else if !active && item.active then
    match item.children.live.head? with
    | none => server.setItem id { item with active := false }
    | some _ =>
      { server.setItem id
          { item with
            children := item.children.removeAt item.children.removedAtFront
            active := false } with
        visibleOffspring := server.visibleOffspring - 1
        maxCachedIndex := -1 }
  else
    server

inductive SortColumn
  | localName
  | direction
  | remoteName
  | size
  | status

def sortColumn : Nat → Option SortColumn
  | 0 => some .localName
  | 1 => some .direction
  | 2 => some .remoteName
  | 3 => some .size
  | 4 => some .status
  | _ => none

/-- `CLocalPath` compares segment by segment. -/
def compareLocalPath (left right : WString) : Ordering :=
  compare (left.splitOn '/'.toNat) (right.splitOn '/'.toNat)

def sortLess (statusText : Nat → WString) :
    SortColumn → CFileItem → CFileItem → Bool
  | .localName, left, right =>
    decideBy (compareLocalPath left.localPath right.localPath)
      (compare left.getLocalFile right.getLocalFile == .lt)
  | .direction, left, right => !left.download && right.download
  | .remoteName, left, right =>
    decideBy (compareOfLess CServerPath.less left.remotePath right.remotePath)
      (compare left.getRemoteFile right.getRemoteFile == .lt)
  | .size, left, right => decide (left.size < right.size)
  | .status, left, right =>
    compare (statusText left.status) (statusText right.status) == .lt

/-- What counts as removed at the front is not sorted. A stable sort keeps the
order of items neither of which is less. -/
def sort (statusText : Nat → WString) (server : CServerItem) (col : Nat)
    (reverse : Bool) : CServerItem :=
  match sortColumn col with
  | none => server
  | some column =>
    let less (left right : Nat) : Bool :=
      if reverse then
        sortLess statusText column (server.items right) (server.items left)
      else
        sortLess statusText column (server.items left) (server.items right)
    let sorted := server.children.live.mergeSort fun left right => !less right left
    let cleared : CServerItem :=
      { server with
        children := { server.children with
          elements :=
            server.children.elements.take server.children.removedAtFront ++ sorted }
        lookupCache := []
        maxCachedIndex := -1
        fileList := fun _ _ => [] }
    sorted.foldl addFileItemToList cleared

def matchesDirection (direction : TransferDirection) (item : CFileItem) : Bool :=
  match direction with
  | .both => true
  | .download => item.download
  | .upload => !item.download

def doGetIdleChild (server : CServerItem) (queued : Bool)
    (direction : TransferDirection) : Option Nat :=
  QueuePriority.all.reverse.findSome? fun priority =>
    (server.fileList queued priority).find? fun id =>
      !(server.items id).active && matchesDirection direction (server.items id)

def getIdleChild (server : CServerItem) (immediateOnly : Bool)
    (direction : TransferDirection) : Option Nat :=
  match server.doGetIdleChild false direction with
  | some id => some id
  | none => if !immediateOnly then server.doGetIdleChild true direction else none

/-- `CQueueItem::GetChild` on a file, whose children have none themselves. -/
def getStatus (item : CFileItem) (row : Nat) : Option QueueRow :=
  item.children.live[row]?.map QueueRow.status

def toInt (value : Nat) : Int :=
  Int.bmod value (2 ^ 32)

/-- The rows of one child, `m_lookupCache[k]` for `index <= k <= index + count`. -/
def fillCache (cache : List CacheItem) (child index count : Nat) :
    Option (List CacheItem) :=
  if index + count < cache.length then
    some ((List.range (count + 1)).foldl
      (fun cache k => cache.set (index + k) { index, child }) cache)
  else
    none

/-- The loop of `CServerItem::GetChild` over the children that are not cached. -/
def getChildLoop (server : CServerItem) :
    (rest : List Nat) → (child index item : Nat) → Option (CServerItem × Option QueueRow)
  | [], _, _, _ => some (server, none)
  | id :: rest, child, index, item =>
    if item = 0 then
      some (server, some (.item id))
    else
      let count := (server.items id).childrenCount
      if item > count then
        let resized :=
          if server.maxCachedIndex = -1 ∧
              (server.lookupCache.length : Int) < server.visibleOffspring then
            server.lookupCache ++ List.replicate
              (server.visibleOffspring.toNat - server.lookupCache.length) {}
          else
            server.lookupCache
        match fillCache resized child index count with
        | none => none
        | some cache =>
          getChildLoop
            { server with
              lookupCache := cache
              maxCachedIndex := (index + count : Nat) }
            rest (child + 1) (index + count + 1) (item - (count + 1))
      else
        some (server, getStatus (server.items id) (item - 1))

/-- `GetChild(item, true)` -/
def getChild (server : CServerItem) (item : Nat) :
    Option (CServerItem × Option QueueRow) :=
  if toInt item ≤ server.maxCachedIndex then
    match server.lookupCache[item]? with
    | none => none
    | some row =>
      match server.children.live[row.child]? with
      | none => none
      | some id =>
        if item - row.index = 0 then
          some (server, some (.item id))
        else
          some (server, getStatus (server.items id) (item - row.index - 1))
  else if server.maxCachedIndex = -1 then
    getChildLoop server server.children.live 0 0 item
  else
    let last := server.maxCachedIndex.toNat
    match server.lookupCache[last]? with
    | none => none
    | some row =>
      getChildLoop server (server.children.live.drop (row.child + 1)) (row.child + 1)
        (last + 1) (item - (last + 1))

/-- `CQueueItem::GetChild`, which has no cache. -/
def plainGetChild (items : Nat → CFileItem) : List Nat → Nat → Option QueueRow
  | [], _ => none
  | id :: rest, item =>
    if item = 0 then
      some (.item id)
    else
      let count := (items id).childrenCount
      if item > count then
        plainGetChild items rest (item - (count + 1))
      else
        getStatus (items id) (item - 1)

/-- The loop of `GetItemIndex` over the children of the parent. -/
def itemIndexLoop (items : Nat → CFileItem) (id : Nat) : List Nat → Nat → Nat
  | [], index => index
  | other :: rest, index =>
    if other = id then index
    else itemIndexLoop items id rest (index + ((items other).childrenCount + 1))

/-- `GetItemIndex`. A status line is created without a parent, and the server
item has none either. -/
def getItemIndex (server : CServerItem) : QueueRow → Nat
  | .status _ => 0
  | .item id => itemIndexLoop server.items id server.children.live 1

end CServerItem

inductive QueueCall
  | addChild (id : Nat) (item : CFileItem)
  | removeChild (id : Nat) (forward : Bool)
  | setPriority (priority : QueuePriority)
  | setItemPriority (id : Nat) (priority : QueuePriority)
  | queueImmediateFiles
  | queueImmediateFile (id : Nat)
  | tryRemoveAll
  | sort (col : Nat) (reverse : Bool)
  | setActive (id : Nat) (active : Bool) (statusId : Nat)
  | getChild (item : Nat)

def queueStep (statusText : Nat → WString) (server : CServerItem) :
    QueueCall → Option CServerItem
  | .addChild id item =>
    if id ∈ server.children.live then none else some (server.addChild id item)
  | .removeChild id forward =>
    if id ∈ server.children.live then some (server.removeChild id forward) else none
  | .setPriority priority => some (server.setPriority priority)
  | .setItemPriority id priority =>
    if id ∈ server.children.live then some (server.setItemPriority id priority)
    else none
  | .queueImmediateFiles => some server.queueImmediateFiles
  | .queueImmediateFile id =>
    if id ∈ server.children.live then some (server.queueImmediateFile id) else none
  | .tryRemoveAll => some server.tryRemoveAll
  | .sort col reverse => some (server.sort statusText col reverse)
  | .setActive id active statusId =>
    if id ∈ server.children.live then some (server.setActive id active statusId)
    else none
  | .getChild item =>
    if item < 2 ^ 32 then (server.getChild item).map Prod.fst else none

end FileZilla
