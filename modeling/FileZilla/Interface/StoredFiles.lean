import FileZilla.Interface.QueueStorage
import Mathlib.Data.List.Nodup

namespace FileZilla

universe u

namespace QueueStorage

open List

namespace PathTable

structure Valid (table : PathTable) : Prop where
  positive : 0 < table.next
  ids : ∀ row ∈ table.rows, 0 < row.1 ∧ row.1 < table.next
  unique : (table.rows.map Prod.fst).Nodup
  cached : ∀ entry ∈ table.cache, (entry.2, entry.1) ∈ table.rows

theorem mem_of_lookup {Key Value : Type u} [BEq Key] [LawfulBEq Key] {entries : List (Key × Value)}
    {key : Key} {value : Value} (found : entries.lookup key = some value) :
    (key, value) ∈ entries := by
  obtain ⟨before, after, rfl, -⟩ := lookup_eq_some_iff.mp found
  simp

variable {table : PathTable}

theorem save_valid (valid : table.Valid) (path : WString) :
    (table.save path).2.Valid ∧ (table.save path).1 ≠ -1 ∧
      ((table.save path).1, path) ∈ (table.save path).2.rows ∧
      table.rows ⊆ (table.save path).2.rows := by
  unfold save
  split
  case h_1 id found =>
    have stored := valid.cached _ (mem_of_lookup found)
    have positive := (valid.ids _ stored).1
    exact ⟨valid, by dsimp only at positive ⊢; omega, stored, fun _ member => member⟩
  case h_2 =>
    have positive := valid.positive
    refine ⟨?_, by dsimp only; omega, by simp, fun _ member => mem_append_left _ member⟩
    constructor
    case positive =>
      dsimp only
      omega
    case ids =>
      intro row member
      rcases mem_append.mp member with before | new
      · have bounds := valid.ids row before
        dsimp only
        omega
      · rw [mem_singleton.mp new]
        dsimp only
        omega
    case unique =>
      rw [map_append]
      refine nodup_append.mpr ⟨valid.unique, by simp, ?_⟩
      intro id before other new same
      obtain ⟨row, member, rfl⟩ := mem_map.mp before
      have bounds := valid.ids row member
      rw [same] at bounds
      simp only [map_cons, map_nil, mem_singleton] at new
      omega
    case cached =>
      intro entry member
      rcases mem_cons.mp member with rfl | before
      · simp
      · exact mem_append_left _ (valid.cached entry before)

theorem clear_valid (valid : table.Valid) :
    Valid { table with cache := [] } :=
  { valid with cached := fun _ member => by cases member }

theorem lookup_of_mem {Value : Type u} {entries : List (Int × Value)} {id : Int} {value : Value}
    (unique : (entries.map Prod.fst).Nodup) (member : (id, value) ∈ entries) :
    entries.lookup id = some value := by
  induction entries with
  | nil => cases member
  | cons entry entries ih =>
    obtain ⟨fresh, unique⟩ := nodup_cons.mp unique
    rcases mem_cons.mp member with rfl | later
    · simp
    · have other : id ≠ entry.1 := fun same =>
        fresh (same ▸ mem_map_of_mem later)
      rw [lookup_cons, beq_false_of_ne other]
      exact ih unique later

theorem get_of_mem {Path : Type u} (valid : table.Valid) {id : Int}
    {path : WString} (stored : (id, path) ∈ table.rows) (filled : path ≠ [])
    {setPath : WString → Option Path} {value : Path} (set : setPath path = some value) :
    table.get setPath id = some value := by
  unfold get
  refine lookup_of_mem ?_ ?_
  · have sublist : ∀ rows : List (Int × WString), Sublist
        ((rows.filterMap fun row => if row.1 > 0 && !row.2.isEmpty then
          (setPath row.2).map fun path => (row.1, path) else none).map Prod.fst)
        (rows.map Prod.fst) := by
      intro rows
      induction rows with
      | nil => exact .slnil
      | cons row rows ih =>
        rw [filterMap_cons, map_cons]
        split
        case h_1 => exact ih.cons _
        case h_2 entry found =>
          have same : entry.1 = row.1 := by
            obtain ⟨-, found⟩ := of_guard found
            obtain ⟨_, -, rfl⟩ := Option.map_eq_some_iff.mp found
            rfl
          rw [map_cons, same]
          exact ih.cons_cons _
    refine (Sublist.nodup (sublist _)) ?_
    rw [map_reverse]
    exact nodup_reverse.mpr valid.unique
  · refine mem_filterMap.mpr ⟨(id, path), mem_reverse.mpr stored, ?_⟩
    have positive := (valid.ids _ stored).1
    simp [positive, filled, set]

end PathTable

/-- An item as the queue creates it: a folder comes from one of its two constructors, and its
errors, its priority and the flags of the queue may have changed since. -/
inductive Created : FileItem → Prop
  | file {item : FileItem} (isFile : item.folder = false) : Created item
  | download (localPath : WString) (flags : TransferFlags) (errorCount : BitVec 8)
      (priority : QueuePriority) (only : flags.without .mask = .download) :
      Created { downloadFolder true localPath with flags, errorCount, priority }
  | upload (remotePath : CServerPath) (remoteFile : WString) (flags : TransferFlags)
      (errorCount : BitVec 8) (priority : QueuePriority) (only : flags.without .mask = 0) :
      Created { uploadFolder true remotePath remoteFile with flags, errorCount, priority }

namespace FileItem

def usesLocalPath (item : FileItem) : Bool :=
  !item.folder || item.download

def usesRemotePath (item : FileItem) : Bool :=
  !item.folder || !item.download

end FileItem

/-- The paths of an item are not empty and can be told from their text. -/
structure WithPaths (text : PathText) (item : FileItem) : Prop where
  localPath : item.usesLocalPath = true →
    item.localPath ≠ [] ∧ text.setLocalPath item.localPath = some item.localPath
  remotePath : item.usesRemotePath = true → text.getSafePath item.remotePath ≠ [] ∧
      text.setSafePath (text.getSafePath item.remotePath) = some item.remotePath

structure Same (item loaded : FileItem) : Prop where
  folder : loaded.folder = item.folder
  flags : loaded.flags.without .mask = item.flags.without .mask
  sourceFile : loaded.sourceFile = item.sourceFile
  targetFile : loaded.targetFile = item.targetFile
  extraFlags : loaded.extraFlags = item.extraFlags
  persistentState : loaded.persistentState = item.persistentState
  localPath : loaded.localPath = item.localPath
  remotePath : loaded.remotePath = item.remotePath
  size : loaded.size = item.size
  errorCount : loaded.errorCount = item.errorCount
  priority : loaded.priority = item.priority
  action : loaded.defaultFileExistsAction = item.defaultFileExistsAction

def restore (item : FileItem) : Option FileItem :=
  if item.folder then
    if item.download then some (downloadFolder true item.localPath)
    else some (uploadFolder true item.remotePath item.sourceFile)
  else if item.sourceFile.isEmpty || item.size < -1 then none
  else
    some { item with
      flags := item.flags.without .mask ||| .queued
      size := if item.size = -1 then 0 else item.size
      defaultFileExistsAction :=
        if item.defaultFileExistsAction = .ask then .unknown else item.defaultFileExistsAction
      edit := false }

def Storable (item : FileItem) : Prop :=
  if item.folder then item.errorCount = 0 ∧ item.priority = .normal ∧ item.targetFile = []
  else item.sourceFile ≠ [] ∧ 0 ≤ item.size ∧ item.defaultFileExistsAction ≠ .ask

instance (item : FileItem) : Decidable (Storable item) := by
  unfold Storable
  infer_instance

namespace TransferFlags

theorem without_queued (flags : TransferFlags) :
    (flags.without .mask ||| .queued).without .mask = flags.without .mask := by
  have removed : queued &&& ~~~mask = 0#16 := by decide
  have twice : ~~~mask &&& ~~~mask = ~~~mask := by decide
  calc (flags &&& ~~~mask ||| queued) &&& ~~~mask
      = (flags &&& ~~~mask) &&& ~~~mask ||| queued &&& ~~~mask := BitVec.and_or_distrib_right
    _ = flags &&& ~~~mask := by rw [removed, BitVec.and_assoc, twice, BitVec.or_zero]

theorem has_download (flags : TransferFlags) :
    (flags.without .mask).has .download = flags.has .download := by
  have kept : ~~~mask &&& download = download := by decide
  unfold has without
  rw [BitVec.and_assoc, kept]

end TransferFlags

open TransferFlags

theorem downloadFolder_download {localPath : WString} {flags : TransferFlags}
    {errorCount : BitVec 8} {priority : QueuePriority} (only : flags.without .mask = .download) :
    FileItem.download { downloadFolder true localPath with flags, errorCount, priority } = true := by
  rw [FileItem.download, ← has_download, only]
  decide

theorem uploadFolder_download {remotePath : CServerPath} {remoteFile : WString}
    {flags : TransferFlags} {errorCount : BitVec 8} {priority : QueuePriority}
    (only : flags.without .mask = 0) :
    FileItem.download { uploadFolder true remotePath remoteFile with flags, errorCount, priority } =
      false := by
  rw [FileItem.download, ← has_download, only]
  decide

variable {item : FileItem} {server : Int} {row : FileRow} {storage : Storage}
  {log : List (Int × FileItem)}

theorem restore_same_iff (created : Created item) :
    (∃ loaded, restore item = some loaded ∧ Same item loaded) ↔ Storable item := by
  cases created with
  | file isFile =>
    unfold restore Storable
    simp only [isFile, Bool.false_eq_true, if_false]
    constructor
    · rintro ⟨loaded, restored, same⟩
      obtain ⟨valid, rfl⟩ := some_of_refusal restored
      rw [Bool.or_eq_true, not_or] at valid
      have size := same.size
      have action := same.action
      dsimp only at size action
      refine ⟨by simpa using valid.1, ?_, ?_⟩
      · have bound := valid.2
        rw [decide_eq_true_eq] at bound
        split at size
        case isTrue => omega
        case isFalse => omega
      · intro ask
        rw [if_pos ask, ask] at action
        cases action
    · rintro ⟨named, known, definite⟩
      have valid : ¬(item.sourceFile.isEmpty || decide (item.size < -1)) = true := by
        simp only [Bool.or_eq_true, List.isEmpty_iff, decide_eq_true_eq, not_or]
        exact ⟨named, by omega⟩
      have size : item.size ≠ -1 := by omega
      refine ⟨_, if_neg valid, ?_⟩
      rw [if_neg size, if_neg definite]
      exact ⟨isFile.symm, without_queued _, rfl, rfl, rfl, rfl, rfl, rfl, rfl, rfl, rfl,
        rfl⟩
  | download localPath flags errorCount priority only =>
    have isDownload := @downloadFolder_download localPath flags errorCount priority only
    unfold restore Storable
    rw [isDownload]
    constructor
    · rintro ⟨loaded, restored, same⟩
      cases restored
      exact ⟨same.errorCount.symm, same.priority.symm, rfl⟩
    · rintro ⟨errors, normal, -⟩
      have flags : without (.download ||| .queued) .mask = .download := by decide
      exact ⟨_, rfl, ⟨rfl, flags.trans only.symm, rfl, rfl, rfl, rfl, rfl, rfl, rfl, errors.symm,
        normal.symm, rfl⟩⟩
  | upload remotePath remoteFile flags errorCount priority only =>
    have isUpload := @uploadFolder_download remotePath remoteFile flags errorCount priority only
    unfold restore Storable
    rw [isUpload]
    constructor
    · rintro ⟨loaded, restored, same⟩
      cases restored
      exact ⟨same.errorCount.symm, same.priority.symm, same.targetFile.symm⟩
    · rintro ⟨errors, normal, unnamed⟩
      have flags : without .queued .mask = 0 := by decide
      exact ⟨_, rfl, ⟨rfl, flags.trans only.symm, rfl, unnamed.symm, rfl, rfl, rfl, rfl, rfl,
        errors.symm, normal.symm, rfl⟩⟩

structure RowOf (text : PathText) (localPaths remotePaths : PathTable) (server : Int)
    (item : FileItem) (row : FileRow) : Prop where
  server : row.server = some server
  sourceFile : row.sourceFile.getD [] = item.sourceFile
  flags : row.flags = some ((item.flags.without .mask).toNat : Int)
  localPath : ∃ id, row.localPath = some id ∧
    if item.usesLocalPath then id ≠ -1 ∧ (id, item.localPath) ∈ localPaths.rows else id = -1
  remotePath : ∃ id, row.remotePath = some id ∧
    if item.usesRemotePath then
      id ≠ -1 ∧ (id, text.getSafePath item.remotePath) ∈ remotePaths.rows
    else id = -1
  targetFile : item.folder = false → row.targetFile.getD [] = item.targetFile
  extraFlags : item.folder = false → row.extraFlags.getD [] = item.extraFlags
  persistentState : item.folder = false → row.persistentState.getD [] = item.persistentState
  size : item.folder = false → row.size.getD 0 = if item.size = -1 then 0 else item.size
  errorCount : item.folder = false → row.errorCount.getD 0 = item.errorCount.toNat
  priority : item.folder = false → row.priority = some (item.priority.value : Int)
  action : item.folder = false →
    row.defaultExistsAction.getD OverwriteAction.unknown.value = item.defaultFileExistsAction.value

variable {text : PathText}

theorem RowOf.mono {localPaths remotePaths laterLocal laterRemote : PathTable}
    (rowOf : RowOf text localPaths remotePaths server item row)
    (locals : localPaths.rows ⊆ laterLocal.rows) (remotes : remotePaths.rows ⊆ laterRemote.rows) :
    RowOf text laterLocal laterRemote server item row := by
  refine { rowOf with localPath := ?_, remotePath := ?_ }
  · obtain ⟨id, bound, stored⟩ := rowOf.localPath
    refine ⟨id, bound, ?_⟩
    split
    case isTrue uses =>
      rw [if_pos uses] at stored
      exact ⟨stored.1, locals stored.2⟩
    case isFalse unused => rwa [if_neg unused] at stored
  · obtain ⟨id, bound, stored⟩ := rowOf.remotePath
    refine ⟨id, bound, ?_⟩
    split
    case isTrue uses =>
      rw [if_pos uses] at stored
      exact ⟨stored.1, remotes stored.2⟩
    case isFalse unused => rwa [if_neg unused] at stored

theorem priorityOf_value (priority : QueuePriority) : priorityOf priority.value = some priority := by
  cases priority <;> decide

theorem actionOf_value (action : OverwriteAction) :
    actionOf action.value = if action = .ask then .unknown else action := by
  cases action <;> decide

theorem ofInt_toNat {width : Nat} (value : BitVec width) :
    BitVec.ofInt width (value.toNat : Int) = value := by
  rw [BitVec.ofInt_natCast, BitVec.ofNat_toNat, BitVec.setWidth_eq]

theorem bindText_getD {Element : Type u} (elements : List Element) :
    (bindText elements).getD [] = elements := by
  unfold bindText
  split
  case isTrue none => exact (isEmpty_iff.mp none).symm
  case isFalse => rfl

open PathTable

theorem RowOf.get_paths
    (rowOf : RowOf text storage.localPaths storage.remotePaths server item row)
    (locals : storage.localPaths.Valid) (remotes : storage.remotePaths.Valid)
    (paths : WithPaths text item) :
    ∃ localId remoteId, row.localPath = some localId ∧ row.remotePath = some remoteId ∧
      (if item.usesLocalPath then localId ≠ -1 ∧
          storage.localPaths.get text.setLocalPath localId = some item.localPath
        else localId = -1) ∧
      (if item.usesRemotePath then remoteId ≠ -1 ∧
          storage.remotePaths.get text.setSafePath remoteId = some item.remotePath
        else remoteId = -1) := by
  obtain ⟨localId, localBound, localStored⟩ := rowOf.localPath
  obtain ⟨remoteId, remoteBound, remoteStored⟩ := rowOf.remotePath
  refine ⟨localId, remoteId, localBound, remoteBound, ?_, ?_⟩
  · split
    case isTrue uses =>
      rw [if_pos uses] at localStored
      obtain ⟨filled, set⟩ := paths.localPath uses
      exact ⟨localStored.1, get_of_mem locals localStored.2 filled set⟩
    case isFalse unused => rwa [if_neg unused] at localStored
  · split
    case isTrue uses =>
      rw [if_pos uses] at remoteStored
      obtain ⟨filled, set⟩ := paths.remotePath uses
      exact ⟨remoteStored.1, get_of_mem remotes remoteStored.2 filled set⟩
    case isFalse unused => rwa [if_neg unused] at remoteStored

theorem parseFileFromRow_of_rowOf
    (locals : storage.localPaths.Valid) (remotes : storage.remotePaths.Valid)
    (paths : WithPaths text item)
    (rowOf : RowOf text storage.localPaths storage.remotePaths server item row) :
    parseFileFromRow text storage row = restore item := by
  obtain ⟨localId, remoteId, localBound, remoteBound, localFound, remoteFound⟩ :=
    rowOf.get_paths locals remotes paths
  have flags : (BitVec.ofInt 16 (row.flags.getD 0) : TransferFlags) = item.flags.without .mask := by
    rw [rowOf.flags, Option.getD_some, ofInt_toNat]
  have isDownload : has (item.flags.without .mask) .download = item.download :=
    has_download item.flags
  unfold parseFileFromRow restore
  dsimp only
  rw [flags, rowOf.sourceFile, isDownload, localBound, remoteBound]
  simp only [FileItem.usesLocalPath, FileItem.usesRemotePath] at localFound remoteFound
  cases folder : item.folder with
  | true =>
    simp only [folder, Bool.not_true, Bool.false_or] at localFound remoteFound
    cases direction : item.download with
    | true =>
      simp only [direction, if_true, Bool.not_true, Bool.false_eq_true, if_false]
        at localFound remoteFound
      simp [remoteFound, localFound.2]
    | false =>
      simp only [direction, if_true, Bool.not_false, Bool.false_eq_true, if_false]
        at localFound remoteFound
      simp [localFound, remoteFound.2]
  | false =>
    simp only [folder, Bool.not_false, Bool.true_or, if_true] at localFound remoteFound
    have priority : priorityOf (row.priority.getD QueuePriority.normal.value) =
        some item.priority := by
      rw [rowOf.priority folder, Option.getD_some, priorityOf_value]
    have small : ((if item.size = -1 then 0 else item.size) < -1) = (item.size < -1) := by
      split
      case isTrue unknown => simp [unknown]
      case isFalse => rfl
    have ids : (decide (localId = -1) || decide (remoteId = -1)) = false := by
      simp [localFound.1, remoteFound.1]
    simp only [Option.getD_some, ids, Bool.false_eq_true, if_false, localFound.2, remoteFound.2,
      priority, rowOf.size folder, rowOf.targetFile folder, rowOf.extraFlags folder,
      rowOf.persistentState folder, rowOf.errorCount folder, rowOf.action folder,
      actionOf_value, ofInt_toNat, small]

structure Saved (text : PathText) (log : List (Int × FileItem)) (storage : Storage) : Prop where
  locals : storage.localPaths.Valid
  remotes : storage.remotePaths.Valid
  rows : Forall₂ (fun entry row =>
    RowOf text storage.localPaths storage.remotePaths entry.1 entry.2 row) log storage.files

theorem Saved.add (saved : Saved text log storage)
    {localPaths remotePaths : PathTable} {insertFile : FileRow} {nextServer : Int}
    (locals : localPaths.Valid) (remotes : remotePaths.Valid)
    (moreLocals : storage.localPaths.rows ⊆ localPaths.rows)
    (moreRemotes : storage.remotePaths.rows ⊆ remotePaths.rows)
    (rowOf : RowOf text localPaths remotePaths server item row) :
    Saved text (log ++ [(server, item)])
      { localPaths, remotePaths, files := storage.files ++ [row], nextServer, insertFile } where
  locals := locals
  remotes := remotes
  rows := rel_append (saved.rows.imp fun _ _ earlier => earlier.mono moreLocals moreRemotes)
    (.cons rowOf .nil)

theorem saveFile_saved
    (saved : Saved text log storage) (bound : storage.insertFile.server = some server)
    (isFile : item.folder = false) (stored : item.edit = false) :
    Saved text (log ++ [(server, item)]) (saveFile text storage item) ∧
      (saveFile text storage item).insertFile.server = some server := by
  obtain ⟨locals, localId, localStored, moreLocals⟩ :=
    save_valid saved.locals item.localPath
  obtain ⟨remotes, remoteId, remoteStored, moreRemotes⟩ :=
    save_valid saved.remotes (text.getSafePath item.remotePath)
  unfold saveFile
  rw [stored]
  refine ⟨saved.add locals remotes moreLocals moreRemotes ?_, bound⟩
  constructor
  case server => exact bound
  case localPath =>
    refine ⟨_, rfl, ?_⟩
    rw [if_pos (by simp [FileItem.usesLocalPath, isFile])]
    exact ⟨localId, localStored⟩
  case remotePath =>
    refine ⟨_, rfl, ?_⟩
    rw [if_pos (by simp [FileItem.usesRemotePath, isFile])]
    exact ⟨remoteId, remoteStored⟩
  case sourceFile => rfl
  case flags => rfl
  case targetFile => exact fun _ => bindText_getD _
  case extraFlags => exact fun _ => bindText_getD _
  case persistentState => exact fun _ => bindText_getD _
  case priority => exact fun _ => rfl
  case size =>
    intro _
    dsimp only
    split
    case isTrue => rfl
    case isFalse unknown => rw [if_pos (not_not.mp unknown)]; rfl
  case errorCount =>
    intro _
    dsimp only
    split
    case isTrue => rfl
    case isFalse none => rw [not_not.mp none]; rfl
  case action =>
    intro _
    dsimp only
    split
    case isTrue => rfl
    case isFalse none => rw [not_not.mp none]; rfl

theorem saveDirectory_saved
    (saved : Saved text log storage) (bound : storage.insertFile.server = some server)
    (isFolder : item.folder = true) (unnamed : item.download = true → item.sourceFile = []) :
    Saved text (log ++ [(server, item)]) (saveDirectory text storage item) ∧
      (saveDirectory text storage item).insertFile.server = some server := by
  have folder {Fact : Prop} : item.folder = false → Fact := fun isFile => by
    rw [isFolder] at isFile
    cases isFile
  unfold saveDirectory
  cases direction : item.download with
  | true =>
    obtain ⟨locals, localId, localStored, moreLocals⟩ :=
      save_valid saved.locals item.localPath
    refine ⟨saved.add locals saved.remotes moreLocals (fun _ member => member) ?_, bound⟩
    constructor
    case server => exact bound
    case sourceFile => exact (unnamed direction).symm
    case flags => rfl
    case localPath =>
      refine ⟨_, rfl, ?_⟩
      rw [if_pos (by simp [FileItem.usesLocalPath, direction])]
      exact ⟨localId, localStored⟩
    case remotePath =>
      refine ⟨_, rfl, ?_⟩
      rw [if_neg (by simp [FileItem.usesRemotePath, direction, isFolder])]
    all_goals exact folder
  | false =>
    obtain ⟨remotes, remoteId, remoteStored, moreRemotes⟩ :=
      save_valid saved.remotes (text.getSafePath item.remotePath)
    refine ⟨saved.add saved.locals remotes (fun _ member => member) moreRemotes ?_, bound⟩
    constructor
    case server => exact bound
    case sourceFile => rfl
    case flags => rfl
    case localPath =>
      refine ⟨_, rfl, ?_⟩
      rw [if_neg (by simp [FileItem.usesLocalPath, direction, isFolder])]
    case remotePath =>
      refine ⟨_, rfl, ?_⟩
      rw [if_pos (by simp [FileItem.usesRemotePath, direction])]
      exact ⟨remoteId, remoteStored⟩
    all_goals exact folder

def stored (server : Int) (items : List FileItem) : List (Int × FileItem) :=
  (items.filter fun item => !item.edit).map (Prod.mk server)

theorem saveItem_saved
    (saved : Saved text log storage) (bound : storage.insertFile.server = some server)
    (created : Created item) :
    Saved text (log ++ stored server [item]) (saveItem text storage item) ∧
      (saveItem text storage item).insertFile.server = some server := by
  unfold saveItem stored
  cases created with
  | file isFile =>
    rw [isFile]
    cases edited : item.edit with
    | true => simpa [saveFile, edited] using ⟨saved, bound⟩
    | false => simpa [edited] using saveFile_saved saved bound isFile edited
  | download => exact saveDirectory_saved saved bound rfl fun _ => rfl
  | upload => exact saveDirectory_saved saved bound rfl fun _ => rfl

theorem saveItem_nextServer (storage : Storage) (item : FileItem) :
    (saveItem text storage item).nextServer = storage.nextServer := by
  unfold saveItem
  split
  case isTrue => rfl
  case isFalse =>
    unfold saveFile
    split
    case isTrue => rfl
    case isFalse => rfl

theorem saveItems_saved {items : List FileItem} (created : ∀ item ∈ items, Created item)
    {log : List (Int × FileItem)} {storage : Storage} (saved : Saved text log storage)
    {server : Int} (bound : storage.insertFile.server = some server) :
    Saved text (log ++ stored server items) (items.foldl (saveItem text) storage) ∧
      (items.foldl (saveItem text) storage).nextServer = storage.nextServer := by
  induction items generalizing log storage with
  | nil => exact ⟨by simpa [stored] using saved, rfl⟩
  | cons item items ih =>
    obtain ⟨first, bound⟩ := saveItem_saved saved bound (created item mem_cons_self)
    obtain ⟨rest, same⟩ := ih (fun other member => created other (mem_cons_of_mem _ member))
      first bound
    refine ⟨?_, same.trans (saveItem_nextServer storage item)⟩
    have joined : stored server [item] ++ stored server items = stored server (item :: items) := by
      rw [stored, stored, stored, ← map_append, ← filter_append, singleton_append]
    rw [append_assoc, joined] at rest
    exact rest

def storedQueue : Int → List (List FileItem) → List (Int × FileItem)
  | _, [] => []
  | server, items :: queue => stored server items ++ storedQueue (server + 1) queue

theorem saveServers_saved {queue : List (List FileItem)}
    (created : ∀ items ∈ queue, ∀ item ∈ items, Created item) (saved : Saved text log storage) :
    Saved text (log ++ storedQueue storage.nextServer queue)
      (queue.foldl (saveServer text) storage) := by
  induction queue generalizing log storage with
  | nil => simpa [storedQueue] using saved
  | cons items queue ih =>
    have begun : Saved text log { storage with
        nextServer := storage.nextServer + 1
        insertFile := { storage.insertFile with server := some storage.nextServer } } :=
      { saved with }
    obtain ⟨first, next⟩ := @saveItems_saved text items (created items mem_cons_self) _ _
      begun storage.nextServer rfl
    have rest := ih (fun other member => created other (mem_cons_of_mem _ member)) first
    rw [next, append_assoc] at rest
    exact rest

theorem clearCaches_saved
    (saved : Saved text log storage) : Saved text log (clearCaches storage) where
  locals := clear_valid saved.locals
  remotes := clear_valid saved.remotes
  rows := saved.rows.imp fun _ _ rowOf =>
    rowOf.mono (fun _ member => member) (fun _ member => member)

theorem getFiles_saved
    (saved : Saved text log storage) (paths : ∀ entry ∈ log, WithPaths text entry.2)
    (server : Int) :
    getFiles text storage server =
      ((log.filter fun entry => entry.1 = server).map Prod.snd).filterMap restore := by
  have rows : ∀ {log : List (Int × FileItem)} {rows : List FileRow},
      Forall₂ (fun entry row =>
        RowOf text storage.localPaths storage.remotePaths entry.1 entry.2 row) log rows →
      (∀ entry ∈ log, WithPaths text entry.2) →
      (rows.filter fun row => row.server = some server).filterMap
          (parseFileFromRow text storage) =
        ((log.filter fun entry => entry.1 = server).map Prod.snd).filterMap restore := by
    intro log rows each paths
    induction each with
    | nil => rfl
    | @cons entry row log rows rowOf _ ih =>
      have rest := ih fun other member => paths other (mem_cons_of_mem _ member)
      have parsed := parseFileFromRow_of_rowOf saved.locals saved.remotes
        (paths entry mem_cons_self) rowOf
      rw [filter_cons, filter_cons, rowOf.server]
      by_cases same : entry.1 = server
      · simp [same, parsed, rest, filterMap_cons]
      · simp [same, rest]
  exact rows saved.rows paths

theorem storedQueue_le {first : Int} {queue : List (List FileItem)} {entry : Int × FileItem}
    (member : entry ∈ storedQueue first queue) : first ≤ entry.1 := by
  induction queue generalizing first with
  | nil => cases member
  | cons items queue ih =>
    rcases mem_append.mp member with here | later
    · obtain ⟨item, -, rfl⟩ := mem_map.mp here
      exact Int.le_refl _
    · exact Int.le_of_lt (ih later)

theorem stored_filter (server other : Int) (items : List FileItem) :
    ((stored server items).filter fun entry => entry.1 = other) =
      if server = other then stored server items else [] := by
  split
  case isTrue same =>
    refine filter_eq_self.mpr fun entry member => ?_
    obtain ⟨item, -, rfl⟩ := mem_map.mp member
    exact decide_eq_true same
  case isFalse different =>
    refine filter_eq_nil_iff.mpr fun entry member => ?_
    obtain ⟨item, -, rfl⟩ := mem_map.mp member
    simpa using different

theorem stored_items (server : Int) (items : List FileItem) :
    (stored server items).map Prod.snd = items.filter fun item => !item.edit := by
  rw [stored, map_map]
  exact map_id _

theorem storedQueue_filter (first : Int) (queue : List (List FileItem)) (index : Nat) :
    ((storedQueue first queue).filter fun entry => entry.1 = first + index).map Prod.snd =
      (queue[index]?.getD []).filter fun item => !item.edit := by
  induction queue generalizing first index with
  | nil => rfl
  | cons items queue ih =>
    rw [storedQueue, filter_append, map_append, stored_filter]
    cases index with
    | zero =>
      have none : ((storedQueue (first + 1) queue).filter fun entry =>
          entry.1 = first + (0 : Nat)) = [] := by
        refine filter_eq_nil_iff.mpr fun entry member => ?_
        have later := storedQueue_le member
        simp only [decide_eq_true_eq]
        omega
      rw [none, if_pos (by simp), stored_items]
      simp
    | succ index =>
      have shifted : first + ((index + 1 : Nat) : Int) = first + 1 + index := by omega
      rw [if_neg (by omega), shifted, ih (first + 1) index]
      simp

def RoundTrips (text : PathText) (storage : Storage) (queue : List (List FileItem)) : Prop :=
  ∀ (index : Nat) (items : List FileItem), queue[index]? = some items →
    Forall₂ Same (items.filter fun item => !item.edit)
      (getFiles text (saveQueue text storage queue) (storage.nextServer + index))

theorem forall₂_filterMap_iff {Element Other : Type u} {Related : Element → Other → Prop}
    {convert : Element → Option Other} {elements : List Element} :
    Forall₂ Related elements (elements.filterMap convert) ↔
      ∀ element ∈ elements, ∃ other, convert element = some other ∧ Related element other := by
  constructor
  · intro related
    induction elements with
    | nil => exact fun _ member => by cases member
    | cons element elements ih =>
      rw [filterMap_cons] at related
      cases converted : convert element with
      | none =>
        rw [converted] at related
        have same := related.length_eq
        have fewer := length_filterMap_le convert elements
        simp only [length_cons] at same
        omega
      | some other =>
        rw [converted] at related
        cases related with
        | cons here rest =>
          intro candidate member
          rcases mem_cons.mp member with rfl | later
          · exact ⟨other, converted, here⟩
          · exact ih rest candidate later
  · intro each
    induction elements with
    | nil => exact .nil
    | cons element elements ih =>
      obtain ⟨other, converted, here⟩ := each element mem_cons_self
      rw [filterMap_cons, converted]
      exact .cons here (ih fun candidate member => each candidate (mem_cons_of_mem _ member))

structure Storage.Empty (storage : Storage) : Prop where
  locals : storage.localPaths.rows = [] ∧ 0 < storage.localPaths.next
  remotes : storage.remotePaths.rows = [] ∧ 0 < storage.remotePaths.next
  files : storage.files = []

theorem clearCaches_empty (empty : storage.Empty) :
    Saved text [] (clearCaches storage) where
  locals :=
    { positive := empty.locals.2
      ids := fun row member => absurd member (by simp [clearCaches, empty.locals.1])
      unique := by simp [clearCaches, empty.locals.1]
      cached := fun _ member => by cases member }
  remotes :=
    { positive := empty.remotes.2
      ids := fun row member => absurd member (by simp [clearCaches, empty.remotes.1])
      unique := by simp [clearCaches, empty.remotes.1]
      cached := fun _ member => by cases member }
  rows := by
    simp [clearCaches, empty.files]

/-- The items of a queue come back from the database if and only if each of them is storable. -/
theorem files_roundTrip_iff {storage : Storage} (empty : storage.Empty)
    {queue : List (List FileItem)} (created : ∀ items ∈ queue, ∀ item ∈ items, Created item)
    (paths : ∀ items ∈ queue, ∀ item ∈ items, WithPaths text item) :
    RoundTrips text storage queue ↔
      ∀ items ∈ queue, ∀ item ∈ items, item.edit = false → Storable item := by
  have saved : Saved text (storedQueue storage.nextServer queue) (saveQueue text storage queue) :=
    clearCaches_saved (saveServers_saved created (clearCaches_empty empty))
  have inside : ∀ {first : Int} {queue : List (List FileItem)} {entry : Int × FileItem},
      entry ∈ storedQueue first queue → ∃ items ∈ queue, entry.2 ∈ items := by
    intro first queue entry member
    induction queue generalizing first with
    | nil => cases member
    | cons items queue ih =>
      rcases mem_append.mp member with here | later
      · obtain ⟨item, isItem, rfl⟩ := mem_map.mp here
        exact ⟨items, mem_cons_self, (mem_filter.mp isItem).1⟩
      · obtain ⟨others, isOthers, isItem⟩ := ih later
        exact ⟨others, mem_cons_of_mem _ isOthers, isItem⟩
  have loaded (index : Nat) (items : List FileItem) (here : queue[index]? = some items) :
      getFiles text (saveQueue text storage queue) (storage.nextServer + index) =
        (items.filter fun item => !item.edit).filterMap restore := by
    rw [getFiles_saved saved fun entry member => by
      obtain ⟨items, isItems, isItem⟩ := inside member
      exact paths items isItems entry.2 isItem]
    rw [storedQueue_filter, here, Option.getD_some]
  constructor
  · intro trips items isItems item isItem edited
    obtain ⟨index, bound, rfl⟩ := getElem_of_mem isItems
    have here : queue[index]? = some queue[index] := getElem?_eq_getElem bound
    have each := trips index _ here
    rw [loaded index _ here] at each
    have kept : item ∈ queue[index].filter fun item => !item.edit :=
      mem_filter.mpr ⟨isItem, by simp [edited]⟩
    exact (restore_same_iff (created _ isItems item isItem)).mp
      (forall₂_filterMap_iff.mp each item kept)
  · intro storable index items here
    have isItems : items ∈ queue := mem_of_getElem? here
    rw [loaded index items here]
    refine forall₂_filterMap_iff.mpr fun item kept => ?_
    obtain ⟨isItem, edited⟩ := mem_filter.mp kept
    exact (restore_same_iff (created items isItems item isItem)).mpr
      (storable items isItems item isItem (by simpa using edited))

private def remoteDir : CServerPath :=
  { data := some { segments := [wide "a"], pathPrefix := none }, type := .unix }

private def localDir : WString :=
  wide "/b/"

/-- The text forms of one remote path, and any local path -/
private def plainText : PathText where
  setLocalPath path := some path
  getSafePath path := if path = remoteDir then wide "1 0 1 a" else []
  setSafePath text := if text = wide "1 0 1 a" then some remoteDir else none

private def uploadedFile : FileItem :=
  { flags := .queued, sourceFile := wide "f", localPath := localDir, remotePath := remoteDir
    size := 5 }

private def downloadedFile : FileItem :=
  { flags := .download ||| .queued, sourceFile := wide "f", targetFile := wide "g"
    localPath := localDir, remotePath := remoteDir, size := 7, errorCount := 1, priority := .high
    defaultFileExistsAction := .skip }

private def plainQueue : List (List FileItem) :=
  [[uploadedFile, downloadFolder true localDir], [downloadedFile]]

theorem files_roundTrip_plain : RoundTrips plainText {} plainQueue := by
  have each : ∀ items ∈ plainQueue, ∀ item ∈ items, Created item ∧ WithPaths plainText item := by
    intro items isItems item isItem
    simp only [plainQueue, mem_cons, not_mem_nil, or_false] at isItems
    rcases isItems with rfl | rfl
    · simp only [mem_cons, not_mem_nil, or_false] at isItem
      rcases isItem with rfl | rfl
      · exact ⟨.file rfl, ⟨fun _ => by decide, fun _ => by decide⟩⟩
      · have folder : Created (downloadFolder true localDir) :=
          Created.download localDir (download ||| queued) 0 .normal
            (by decide)
        exact ⟨folder, ⟨fun _ => by decide, fun uses => absurd uses (by decide)⟩⟩
    · obtain rfl := mem_singleton.mp isItem
      exact ⟨.file rfl, ⟨fun _ => by decide, fun _ => by decide⟩⟩
  exact (files_roundTrip_iff ⟨⟨rfl, by decide⟩, ⟨rfl, by decide⟩, rfl⟩
    (fun items isItems item isItem => (each items isItems item isItem).1)
    (fun items isItems item isItem => (each items isItems item isItem).2)).mpr (by decide)

private def unknownFile : FileItem :=
  { uploadedFile with size := -1 }

private def newFolder : FileItem :=
  uploadFolder true remoteDir (wide "new")

/-- A size that is unknown comes back as 0, and a folder to be created on the server without its
name. -/
theorem files_lost :
    Created unknownFile ∧ Created newFolder ∧ WithPaths plainText unknownFile ∧
      WithPaths plainText newFolder ∧ Storage.Empty {} ∧
      (getFiles plainText (saveQueue plainText {} [[unknownFile, newFolder]]) 1).map
          (fun item => (item.folder, item.size, item.targetFile)) =
        [(false, 0, []), (true, -1, [])] ∧
      ¬RoundTrips plainText {} [[unknownFile, newFolder]] := by
  refine ⟨.file rfl, .upload remoteDir (wide "new") .queued 0 .normal (by decide),
    ⟨fun _ => by decide, fun _ => by decide⟩, ⟨fun uses => absurd uses (by decide),
    fun _ => by decide⟩, ⟨⟨rfl, by decide⟩, ⟨rfl, by decide⟩, rfl⟩, by decide, ?_⟩
  intro trips
  have each := trips 0 _ rfl
  cases each with
  | cons first rest =>
    have size := first.size
    revert size
    decide

end QueueStorage

end FileZilla
