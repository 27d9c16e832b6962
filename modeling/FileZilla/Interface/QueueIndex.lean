import FileZilla.Interface.QueueLists

namespace FileZilla

namespace CServerItem

def itemRows (items : Nat → CFileItem) (id : Nat) : List QueueRow :=
  .item id :: (items id).children.live.map .status

def visible (items : Nat → CFileItem) (ids : List Nat) : List QueueRow :=
  ids.flatMap (itemRows items)

def start (items : Nat → CFileItem) (ids : List Nat) (child : Nat) : Nat :=
  (visible items (ids.take child)).length

variable {items : Nat → CFileItem} {ids : List Nat}

variable (id : Nat) {row : Nat}

@[simp] theorem length_itemRows :
    (itemRows items id).length = (items id).childrenCount + 1 := by
  simp [itemRows, CFileItem.childrenCount]

@[simp] theorem visible_nil : visible items [] = [] := rfl

open List

@[simp] theorem visible_cons (ids : List Nat) :
    visible items (id :: ids) = itemRows items id ++ visible items ids :=
  flatMap_cons

@[simp] theorem visible_append (left right : List Nat) :
    visible items (left ++ right) = visible items left ++ visible items right :=
  flatMap_append

theorem rowCount_eq_length (items : Nat → CFileItem) (ids : List Nat) :
    rowCount items ids = (visible items ids).length := by
  induction ids with
  | nil => rfl
  | cons id ids ih =>
    rw [rowCount_cons, ih, visible_cons, length_append, length_itemRows]
    omega

@[simp] theorem start_zero : start items ids 0 = 0 := rfl

theorem start_succ {child id : Nat} (here : ids[child]? = some id) :
    start items ids (child + 1) = start items ids child + ((items id).childrenCount + 1) := by
  unfold start
  rw [take_add_one, here, Option.toList_some, visible_append, length_append,
    visible_cons, visible_nil, append_nil, length_itemRows]

theorem start_le_length (child : Nat) :
    start items ids child ≤ (visible items ids).length := by
  have whole : (visible items (ids.take child ++ ids.drop child)).length =
      (visible items ids).length := by rw [take_append_drop]
  rw [visible_append, length_append] at whole
  unfold start
  omega

theorem start_mono {first second : Nat} (before : first ≤ second) :
    start items ids first ≤ start items ids second := by
  have part : (ids.take second).take first = ids.take first := by
    rw [take_take, Nat.min_eq_left before]
  unfold start
  rw [← part]
  exact start_le_length first

theorem exists_block {child row : Nat} (inside : child ≤ ids.length)
    (above : row < start items ids child) :
    ∃ earlier id offset, earlier < child ∧ ids[earlier]? = some id ∧
      offset ≤ (items id).childrenCount ∧ row = start items ids earlier + offset := by
  induction child with
  | zero => exact absurd above (Nat.not_lt_zero _)
  | succ child ih =>
    have here : ids[child]? = some ids[child] := getElem?_eq_getElem inside
    rcases Nat.lt_or_ge row (start items ids child) with earlier | later
    · obtain ⟨found, id, offset, before, rest⟩ := ih (Nat.le_of_lt inside) earlier
      exact ⟨found, id, offset, Nat.lt_succ_of_lt before, rest⟩
    · rw [start_succ here] at above
      exact ⟨child, ids[child], row - start items ids child, Nat.lt_succ_self _, here,
        by omega, by omega⟩

theorem getElem?_itemRows (row : Nat) :
    (itemRows items id)[row]? =
      if row = 0 then some (.item id) else getStatus (items id) (row - 1) := by
  cases row with
  | zero => rfl
  | succ row =>
    rw [if_neg (Nat.succ_ne_zero row)]
    simp [itemRows, getStatus]

theorem getElem?_visible_start {child id offset : Nat} (here : ids[child]? = some id)
    (inside : offset ≤ (items id).childrenCount) :
    (visible items ids)[start items ids child + offset]? =
      if offset = 0 then some (.item id) else getStatus (items id) (offset - 1) := by
  obtain ⟨bound, same⟩ := List.getElem?_eq_some_iff.mp here
  have parts : ids.drop child = id :: ids.drop (child + 1) := by
    rw [drop_eq_getElem_cons bound, same]
  have whole : visible items ids = visible items (ids.take child) ++
        (itemRows items id ++ visible items (ids.drop (child + 1))) := by
    rw [← visible_cons, ← parts, ← visible_append, take_append_drop]
  rw [whole]
  change (_ ++ _)[(visible items (ids.take child)).length + offset]? = _
  rw [getElem?_append_right (Nat.le_add_right _ _), Nat.add_sub_cancel_left,
    getElem?_append_left (by rw [length_itemRows]; omega), getElem?_itemRows]

theorem getElem?_visible_drop {child : Nat} (below : start items ids child ≤ row) :
    (visible items (ids.drop child))[row - start items ids child]? =
      (visible items ids)[row]? := by
  have whole : visible items ids =
      visible items (ids.take child) ++ visible items (ids.drop child) := by
    rw [← visible_append, take_append_drop]
  rw [whole, getElem?_append_right below]
  rfl

theorem plainGetChild_eq (items : Nat → CFileItem) (ids : List Nat) (row : Nat) :
    plainGetChild items ids row = (visible items ids)[row]? := by
  induction ids generalizing row with
  | nil => rfl
  | cons id ids ih =>
    dsimp only [plainGetChild]
    rw [visible_cons]
    split
    case isTrue first =>
      rw [first]
      rfl
    case isFalse notFirst =>
      split
      case isTrue below =>
        rw [ih, getElem?_append_right (by rw [length_itemRows]; omega), length_itemRows]
      case isFalse above =>
        rw [getElem?_append_left (by rw [length_itemRows]; omega),
          getElem?_itemRows, if_neg notFirst]

theorem itemIndexLoop_eq {child id : Nat} (distinct : ids.Nodup)
    (here : ids[child]? = some id) (index : Nat) :
    itemIndexLoop items id ids index = start items ids child + index := by
  induction ids generalizing child index with
  | nil => cases here
  | cons other ids ih =>
    obtain ⟨notLater, distinct⟩ := nodup_cons.mp distinct
    dsimp only [itemIndexLoop]
    cases child with
    | zero =>
      cases here
      simp
    | succ child =>
      have later : ids[child]? = some id := here
      have apart : other ≠ id := by
        rintro rfl
        exact notLater (mem_of_getElem? later)
      rw [if_neg apart, ih distinct later]
      unfold start
      rw [take_succ_cons, visible_cons, length_append, length_itemRows]
      omega

theorem row_cases {shown : QueueRow} (here : (visible items ids)[row]? = some shown) :
    (∃ child id, ids[child]? = some id ∧ row = start items ids child ∧ shown = .item id) ∨
    ∃ status, shown = .status status := by
  have inside : row < start items ids ids.length := by
    unfold start
    rw [take_length]
    exact (List.getElem?_eq_some_iff.mp here).1
  obtain ⟨child, id, offset, _, atChild, within, rfl⟩ := exists_block (Nat.le_refl _) inside
  rw [getElem?_visible_start atChild within] at here
  split at here
  case isTrue first =>
    cases here
    exact .inl ⟨child, id, atChild, by rw [first, Nat.add_zero], rfl⟩
  case isFalse =>
    obtain ⟨status, _, same⟩ := Option.map_eq_some_iff.mp here
    exact .inr ⟨status, same.symm⟩

theorem getItemIndex_row {server : CServerItem} (distinct : server.children.live.Nodup)
    {shown : QueueRow} (here : (visible server.items server.children.live)[row]? = some shown) :
    server.getItemIndex shown = row + 1 ↔ ∃ id, shown = .item id := by
  rcases row_cases here with ⟨child, id, atChild, rfl, rfl⟩ | ⟨status, rfl⟩
  · exact iff_of_true (itemIndexLoop_eq distinct atChild 1) ⟨id, rfl⟩
  · refine iff_of_false (fun zero => ?_) fun ⟨_, same⟩ => ?_
    · exact absurd zero.symm (Nat.succ_ne_zero _)
    · cases same

theorem row_getItemIndex {server : CServerItem} (distinct : server.children.live.Nodup)
    {id : Nat} (member : id ∈ server.children.live) :
    (visible server.items server.children.live)[server.getItemIndex (.item id) - 1]? =
      some (.item id) := by
  obtain ⟨child, here⟩ := mem_iff_getElem?.mp member
  rw [getItemIndex, itemIndexLoop_eq distinct here 1, Nat.add_sub_cancel]
  exact getElem?_visible_start here (Nat.zero_le _)

structure Cached (server : CServerItem) (children : Nat) : Prop where
  inside : children ≤ server.children.live.length
  last : server.maxCachedIndex = (start server.items server.children.live children : Int) - 1
  resized : 0 < children → server.visibleOffspring ≤ server.lookupCache.length
  row : ∀ child id offset, child < children → server.children.live[child]? = some id →
    offset ≤ (server.items id).childrenCount →
    server.lookupCache[start server.items server.children.live child + offset]? =
      some { index := start server.items server.children.live child, child }

theorem cached_reset {server : CServerItem} (empty : server.maxCachedIndex = -1) :
    Cached server 0 where
  inside := Nat.zero_le _
  last := empty
  resized absurd := (Nat.lt_irrefl 0 absurd).elim
  row _ _ _ absurd := (Nat.not_lt_zero _ absurd).elim

theorem fillCache_eq {cache : List CacheItem} {child index count : Nat}
    (inside : index + count < cache.length) :
    ∃ filled, fillCache cache child index count = some filled ∧
      filled.length = cache.length ∧
      ∀ row, filled[row]? =
        if index ≤ row ∧ row ≤ index + count then some { index, child } else cache[row]? := by
  refine ⟨_, if_pos inside, ?_⟩
  suffices all : ∀ rows, index + rows ≤ cache.length →
      let filled := (range rows).foldl
        (fun cache k => cache.set (index + k) { index, child }) cache
      filled.length = cache.length ∧ ∀ row, filled[row]? =
        if index ≤ row ∧ row < index + rows then some { index, child } else cache[row]? by
    obtain ⟨length, rows⟩ := all (count + 1) inside
    refine ⟨length, fun row => (rows row).trans ?_⟩
    simp only [← Nat.add_assoc, Nat.lt_succ_iff]
  intro rows
  induction rows with
  | zero =>
    intro _
    refine ⟨rfl, fun row => ?_⟩
    rw [if_neg (by omega)]
    rfl
  | succ rows ih =>
    intro bound
    obtain ⟨length, earlier⟩ := ih (by omega)
    simp only [range_succ, foldl_append, foldl_cons, foldl_nil]
    refine ⟨by rw [length_set, length], fun row => ?_⟩
    rw [getElem?_set, earlier, length]
    by_cases here : index + rows = row
    case pos => rw [if_pos here, if_pos (by omega), if_pos (by omega)]
    case neg =>
      rw [if_neg here]
      exact if_congr (by omega) rfl rfl

theorem cached_fill {server : CServerItem} {child id : Nat} {cache filled : List CacheItem}
    (cached : Cached server child) (here : server.children.live[child]? = some id)
    (resized : server.visibleOffspring ≤ cache.length)
    (kept : ∀ row : Nat, (row : Int) ≤ server.maxCachedIndex → cache[row]? = server.lookupCache[row]?)
    (length : filled.length = cache.length) (rows : ∀ row, filled[row]? =
      if start server.items server.children.live child ≤ row ∧
          row ≤ start server.items server.children.live child + (server.items id).childrenCount
      then some { index := start server.items server.children.live child, child }
      else cache[row]?) :
    Cached
      { server with
        lookupCache := filled
        maxCachedIndex := (start server.items server.children.live child +
          (server.items id).childrenCount : Nat) } (child + 1) where
  inside := (List.getElem?_eq_some_iff.mp here).1
  last := by
    change ((_ + _ : Nat) : Int) = (start server.items server.children.live (child + 1) : Int) - 1
    rw [start_succ here, ← Nat.add_assoc, Int.natCast_succ, Int.add_sub_cancel]
  resized _ := by
    rw [length]
    exact resized
  row other otherId offset before there within := by
    change server.children.live[other]? = some otherId at there
    change offset ≤ (server.items otherId).childrenCount at within
    change filled[start server.items server.children.live other + offset]? = _
    rw [rows]
    rcases Nat.lt_succ_iff_lt_or_eq.mp before with earlier | rfl
    · have below : start server.items server.children.live other + offset <
          start server.items server.children.live child := by
        have upTo := @start_mono server.items server.children.live _ _ earlier
        rw [Nat.succ_eq_add_one, start_succ there] at upTo
        omega
      rw [if_neg (by omega), kept _ (by rw [cached.last]; omega)]
      exact cached.row other otherId offset earlier there within
    · cases here.symm.trans there
      exact if_pos ⟨Nat.le_add_right _ _, Nat.add_le_add_left within _⟩

theorem resized_eq {server : CServerItem} {child : Nat} (cached : Cached server child) :
    ∃ resized, (if server.maxCachedIndex = -1 ∧
          (server.lookupCache.length : Int) < server.visibleOffspring then
        server.lookupCache ++ replicate
          (server.visibleOffspring.toNat - server.lookupCache.length) { index := 0, child := 0 }
      else server.lookupCache) = resized ∧
      server.visibleOffspring ≤ resized.length ∧
      ∀ row : Nat, (row : Int) ≤ server.maxCachedIndex →
        resized[row]? = server.lookupCache[row]? := by
  refine ⟨_, rfl, ?_⟩
  split
  case isTrue short =>
    refine ⟨?_, fun row inCache => ?_⟩
    · rw [length_append, length_replicate]
      omega
    · omega
  case isFalse enough =>
    refine ⟨?_, fun _ _ => rfl⟩
    cases child with
    | zero =>
      have empty : server.maxCachedIndex = -1 := cached.last
      exact Int.not_lt.mp fun short => enough ⟨empty, short⟩
    | succ => exact cached.resized (Nat.succ_pos _)

theorem getChildLoop_eq {rest : List Nat} {server : CServerItem} {child : Nat}
    (booked : Booked server) (cached : Cached server child)
    (split : rest = server.children.live.drop child) (row : Nat) :
    ∃ after, getChildLoop server rest child (start server.items server.children.live child) row =
      some (after, plainGetChild server.items rest row) ∧ ∃ more, Cached after more := by
  induction rest generalizing server child row with
  | nil => exact ⟨server, rfl, child, cached⟩
  | cons id rest ih =>
    have here : server.children.live[child]? = some id := by
      rw [← Nat.add_zero child, ← getElem?_drop, ← split]
      rfl
    have next : rest = server.children.live.drop (child + 1) := by
      rw [← drop_drop, ← split]
      rfl
    dsimp only [getChildLoop, plainGetChild]
    split
    case isTrue => exact ⟨server, rfl, child, cached⟩
    case isFalse =>
      split
      case isFalse => exact ⟨server, rfl, child, cached⟩
      case isTrue =>
        obtain ⟨resized, resizedEq, enough, kept⟩ := resized_eq cached
        rw [resizedEq]
        have inside : start server.items server.children.live child +
            (server.items id).childrenCount < resized.length := by
          have upTo := @start_le_length server.items server.children.live (child + 1)
          rw [start_succ here] at upTo
          rw [booked.offspring, rowCount_eq_length] at enough
          omega
        obtain ⟨filled, filledEq, length, rows⟩ := @fillCache_eq resized child _ _ inside
        rw [filledEq]
        have index : start server.items server.children.live (child + 1) =
            start server.items server.children.live child +
              (server.items id).childrenCount + 1 := by
          rw [start_succ here, Nat.add_assoc]
        dsimp only
        rw [← index]
        exact @ih
          { server with
            lookupCache := filled
            maxCachedIndex := (start server.items server.children.live child +
              (server.items id).childrenCount : Nat) }
          (child + 1) ⟨booked.distinct, booked.filed, booked.offspring⟩
          (cached_fill cached here enough kept length rows) next _

theorem toInt_of_lt (small : row < 2 ^ 31) : toInt row = row := by
  unfold toInt
  rw [Int.bmod_eq_of_le] <;> omega

theorem getChild_eq {server : CServerItem} {children : Nat} (booked : Booked server)
    (cached : Cached server children) (small : row < 2 ^ 31) :
    ∃ after, server.getChild row =
      some (after, plainGetChild server.items server.children.live row) ∧
      ∃ more, Cached after more := by
  unfold getChild
  rw [toInt_of_lt small, cached.last]
  split
  case isTrue inCache =>
    obtain ⟨child, id, offset, before, here, within, rfl⟩ :=
      @exists_block server.items _ _ row cached.inside (by omega)
    rw [cached.row child id offset before here within]
    dsimp only
    rw [here, Nat.add_sub_cancel_left, plainGetChild_eq, getElem?_visible_start here within]
    dsimp only
    split <;> exact ⟨server, rfl, children, cached⟩
  case isFalse notInCache =>
    cases children with
    | zero => exact getChildLoop_eq booked cached rfl row
    | succ child =>
      obtain ⟨id, here⟩ : ∃ id, server.children.live[child]? = some id :=
        ⟨_, getElem?_eq_getElem cached.inside⟩
      have next := @start_succ server.items _ _ _ here
      have last : ((start server.items server.children.live (child + 1) : Int) - 1).toNat =
          start server.items server.children.live child +
            (server.items id).childrenCount := by omega
      have index : start server.items server.children.live child +
            (server.items id).childrenCount + 1 =
          start server.items server.children.live (child + 1) := by omega
      rw [if_neg (by omega)]
      dsimp only
      rw [last, cached.row child _ _ (Nat.lt_succ_self _) here (Nat.le_refl _)]
      dsimp only
      rw [index]
      obtain ⟨after, looked, more⟩ := getChildLoop_eq booked cached rfl
        (row - start server.items server.children.live (child + 1))
      refine ⟨after, looked.trans ?_, more⟩
      rw [plainGetChild_eq, plainGetChild_eq, getElem?_visible_drop (by omega)]

structure SameRows (server after : CServerItem) : Prop where
  children : after.children = server.children
  rows : ∀ id, (after.items id).childrenCount = (server.items id).childrenCount
  offspring : after.visibleOffspring = server.visibleOffspring
  last : after.maxCachedIndex = server.maxCachedIndex
  cache : after.lookupCache = server.lookupCache

namespace SameRows

variable {server middle after : CServerItem}

theorem refl (server : CServerItem) : SameRows server server :=
  ⟨rfl, fun _ => rfl, rfl, rfl, rfl⟩

theorem trans (first : SameRows server middle) (second : SameRows middle after) :
    SameRows server after :=
  ⟨second.children.trans first.children, fun id => (second.rows id).trans (first.rows id),
    second.offspring.trans first.offspring, second.last.trans first.last,
    second.cache.trans first.cache⟩

theorem foldl {α : Type} {step : CServerItem → α → CServerItem}
    (same : ∀ server element, SameRows server (step server element))
    (elements : List α) (server : CServerItem) :
    SameRows server (elements.foldl step server) := by
  induction elements generalizing server with
  | nil => exact refl server
  | cons element elements ih => exact (same server element).trans (ih _)

theorem setFileList (server : CServerItem) (queued : Bool) (priority : QueuePriority)
    (list : List Nat) : SameRows server (server.setFileList queued priority list) :=
  ⟨rfl, fun _ => rfl, rfl, rfl, rfl⟩

theorem setItem {server : CServerItem} {id : Nat} {item : CFileItem}
    (rows : item.childrenCount = (server.items id).childrenCount) :
    SameRows server (server.setItem id item) where
  children := rfl
  rows other := by
    by_cases same : other = id
    case pos =>
      subst same
      simpa [CServerItem.setItem] using rows
    case neg => simp [CServerItem.setItem, Function.update_of_ne same]
  offspring := rfl
  last := rfl
  cache := rfl

theorem setChildPriority (server : CServerItem) (id : Nat)
    (oldPriority newPriority : QueuePriority) :
    SameRows server (server.setChildPriority id oldPriority newPriority) := by
  dsimp only [CServerItem.setChildPriority]
  split
  case isTrue => exact (setFileList _ _ _ _).trans (setFileList _ _ _ _)
  case isFalse => exact refl _

theorem setItemPriority (server : CServerItem) (id : Nat) (priority : QueuePriority) :
    SameRows server (server.setItemPriority id priority) := by
  dsimp only [CServerItem.setItemPriority]
  split
  case isTrue => exact refl _
  case isFalse =>
    have moved := setChildPriority server id (server.items id).priority priority
    exact moved.trans (setItem (moved.rows id).symm)

theorem setPriorityLoop (priority : QueuePriority) (server : CServerItem) (id : Nat) :
    SameRows server (setPriorityLoop priority server id) := by
  dsimp only [CServerItem.setPriorityLoop]
  split
  case isTrue => exact setItem rfl
  case isFalse => exact setItemPriority server id priority

theorem mergeLists (priority : QueuePriority) (queued : Bool) (server : CServerItem) :
    SameRows server (mergeLists priority queued server) := by
  refine foldl (fun server other => ?_) _ _
  split
  case isTrue => exact (setFileList _ _ _ _).trans (setFileList _ _ _ _)
  case isFalse => exact refl _

theorem setPriority (server : CServerItem) (priority : QueuePriority) :
    SameRows server (server.setPriority priority) :=
  ((foldl (setPriorityLoop priority) _ _).trans (mergeLists priority true _)).trans
    (mergeLists priority false _)

theorem queueImmediateList (server : CServerItem) (priority : QueuePriority) :
    SameRows server (server.queueImmediateList priority) where
  children := rfl
  rows id := by
    change (if _ then _ else _ : CFileItem).childrenCount = _
    split <;> rfl
  offspring := rfl
  last := rfl
  cache := rfl

theorem queueImmediateFile (server : CServerItem) (id : Nat) :
    SameRows server (server.queueImmediateFile id) := by
  dsimp only [CServerItem.queueImmediateFile]
  split
  case isTrue => exact refl _
  case isFalse =>
    split
    case isFalse => exact refl _
    case isTrue =>
      have flagged := @setItem server id
        { server.items id with queued := true } rfl
      exact (flagged.trans (setFileList _ _ _ _)).trans (setFileList _ _ _ _)

end SameRows

theorem visible_length_congr {after : Nat → CFileItem} (ids : List Nat)
    (rows : ∀ id, (after id).childrenCount = (items id).childrenCount) :
    (visible after ids).length = (visible items ids).length := by
  induction ids with
  | nil => rfl
  | cons id ids ih =>
    simp only [visible_cons, length_append, length_itemRows, rows, ih]

theorem Cached.same {server after : CServerItem} {children : Nat}
    (cached : Cached server children) (same : SameRows server after) :
    Cached after children := by
  have starts (child : Nat) : start after.items after.children.live child =
      start server.items server.children.live child := by
    rw [same.children]
    exact visible_length_congr _ same.rows
  refine ⟨?_, ?_, ?_, ?_⟩
  · rw [same.children]
    exact cached.inside
  · rw [same.last, starts]
    exact cached.last
  · rw [same.offspring, same.cache]
    exact cached.resized
  · intro child id offset before here within
    rw [starts, same.cache]
    rw [same.children] at here
    rw [same.rows] at within
    exact cached.row child id offset before here within

theorem cached_setActive {server : CServerItem} {children : Nat}
    (cached : Cached server children) (id : Nat) (active : Bool) (statusId : Nat) :
    ∃ more, Cached (server.setActive id active statusId) more := by
  dsimp only [setActive]
  split
  case isTrue => exact ⟨children, cached.same (SameRows.setItem rfl)⟩
  case isFalse =>
    split
    case isTrue => exact ⟨0, cached_reset rfl⟩
    case isFalse =>
      split
      case isFalse => exact ⟨children, cached⟩
      case isTrue =>
        split
        case h_1 => exact ⟨children, cached.same (SameRows.setItem rfl)⟩
        case h_2 => exact ⟨0, cached_reset rfl⟩

theorem maxCachedIndex_fold (ids : List Nat) (server : CServerItem) :
    (ids.foldl addFileItemToList server).maxCachedIndex = server.maxCachedIndex :=
  (SameRows.foldl (fun server id => SameRows.setFileList server _ _ _) ids server).last

theorem cached_sort {server : CServerItem} {children : Nat}
    (cached : Cached server children) (statusText : Nat → WString) (col : Nat)
    (reverse : Bool) : ∃ more, Cached (server.sort statusText col reverse) more := by
  unfold sort
  split
  case h_1 => exact ⟨children, cached⟩
  case h_2 => exact ⟨0, cached_reset (maxCachedIndex_fold _ _)⟩

theorem maxCachedIndex_removeChild {server : CServerItem} (booked : Booked server)
    {id : Nat} (member : id ∈ server.children.live) (forward : Bool) :
    (server.removeChild id forward).maxCachedIndex = -1 := by
  obtain ⟨index, found, _⟩ := ChildVector.live_remove booked.distinct member forward
  unfold removeChild
  simp only [found]

theorem toInt_lt_zero (large : 2 ^ 31 ≤ row) (unsigned : row < 2 ^ 32) :
    toInt row ≤ -1 := by
  unfold toInt
  rw [Int.bmod_def]
  split <;> omega

theorem getChild_large {server : CServerItem} {children : Nat}
    (cached : Cached server children) (large : 2 ^ 31 ≤ row) (unsigned : row < 2 ^ 32) :
    (server.lookupCache.length ≤ row → server.getChild row = none) ∧
    ∀ after found, server.getChild row = some (after, found) → after = server := by
  have inCache : toInt row ≤ server.maxCachedIndex := by
    have negative := toInt_lt_zero large unsigned
    rw [cached.last]
    omega
  unfold getChild
  rw [if_pos inCache]
  refine ⟨fun short => ?_, fun after found got => ?_⟩
  · rw [getElem?_eq_none short]
  · split at got
    case h_1 => cases got
    case h_2 =>
      split at got
      case h_1 => cases got
      case h_2 =>
        split at got
        case isTrue =>
          cases got
          rfl
        case isFalse =>
          cases got
          rfl

theorem cached_step {statusText : Nat → WString} {server after : CServerItem}
    {call : QueueCall} {children : Nat} (booked : Booked server) (cached : Cached server children)
    (step : queueStep statusText server call = some after) :
    ∃ more, Cached after more := by
  cases call with
  | addChild id item =>
    obtain ⟨-, rfl⟩ := some_of_refusal step
    exact ⟨0, cached_reset rfl⟩
  | removeChild id forward =>
    obtain ⟨member, rfl⟩ := some_of_guard step
    exact ⟨0, cached_reset (maxCachedIndex_removeChild booked member forward)⟩
  | setPriority priority =>
    cases step
    exact ⟨children, cached.same (SameRows.setPriority server priority)⟩
  | setItemPriority id priority =>
    obtain ⟨-, rfl⟩ := some_of_guard step
    exact ⟨children, cached.same (SameRows.setItemPriority server id priority)⟩
  | queueImmediateFiles =>
    cases step
    exact ⟨children, cached.same (SameRows.foldl SameRows.queueImmediateList _ server)⟩
  | queueImmediateFile id =>
    obtain ⟨-, rfl⟩ := some_of_guard step
    exact ⟨children, cached.same (SameRows.queueImmediateFile server id)⟩
  | tryRemoveAll =>
    cases step
    exact ⟨0, cached_reset rfl⟩
  | sort col reverse =>
    cases step
    exact cached_sort cached statusText col reverse
  | setActive id active statusId =>
    obtain ⟨-, rfl⟩ := some_of_guard step
    exact cached_setActive cached id active statusId
  | getChild item =>
    obtain ⟨unsigned, step⟩ := of_guard step
    rcases Nat.lt_or_ge item (2 ^ 31) with small | large
    · obtain ⟨looked, found, more⟩ := getChild_eq booked cached small
      rw [found] at step
      cases step
      exact more
    · obtain ⟨⟨looked, row⟩, found, rfl⟩ := Option.map_eq_some_iff.mp step
      rw [(getChild_large cached large unsigned).2 looked row found]
      exact ⟨children, cached⟩

theorem cached_run {statusText : Nat → WString} {items : Nat → CFileItem}
    {trace : List (CServerItem × QueueCall)} {server : CServerItem}
    (run : Run (queueStep statusText) { items } trace server) :
    ∃ children, Cached server children := by
  induction run with
  | refl => exact ⟨0, cached_reset rfl⟩
  | step earlier taken ih =>
    obtain ⟨children, cached⟩ := ih
    exact cached_step (booked_run earlier) cached taken

/-- The cached and the plain lookup agree on every row number that fits a signed
integer; a larger one reads the cache outside of its bounds. The index is the
inverse on files and folders and on no status line. -/
theorem run_index {statusText : Nat → WString} {items : Nat → CFileItem}
    {trace : List (CServerItem × QueueCall)} {server : CServerItem}
    (run : Run (queueStep statusText) { items } trace server) :
    (∀ row, row < 2 ^ 31 → ∃ after, server.getChild row =
      some (after, plainGetChild server.items server.children.live row)) ∧
    (∀ row, 2 ^ 31 ≤ row → row < 2 ^ 32 → server.lookupCache.length ≤ row →
      server.getChild row = none) ∧
    (∀ row shown, plainGetChild server.items server.children.live row = some shown →
      (server.getItemIndex shown = row + 1 ↔ ∃ id, shown = .item id)) ∧
    ∀ id ∈ server.children.live, plainGetChild server.items server.children.live
      (server.getItemIndex (.item id) - 1) = some (.item id) := by
  have booked := booked_run run
  obtain ⟨children, cached⟩ := cached_run run
  refine ⟨fun row small => ?_, fun row large unsigned => ?_, fun row shown here => ?_,
    fun id member => ?_⟩
  · obtain ⟨after, found, _⟩ := getChild_eq booked cached small
    exact ⟨after, found⟩
  · exact (getChild_large cached large unsigned).1
  · rw [plainGetChild_eq] at here
    exact getItemIndex_row booked.distinct here
  · rw [plainGetChild_eq]
    exact row_getItemIndex booked.distinct member

theorem run_index_active_file : ∃ trace server, Run (queueStep fun _ => [])
      { items := fun _ => { folder := false, queued := true, download := true } } trace server ∧
    server.maxCachedIndex = 1 ∧
    ∃ after, server.getChild 2 =
      some (after, plainGetChild server.items server.children.live 2) := by
  obtain ⟨trace, server, run, cached⟩ := @exists_run_of_execute _ _ (queueStep fun _ => [])
    { items := fun _ => { folder := false, queued := true, download := true } }
    [.addChild 0 { folder := false, queued := true, download := true },
      .addChild 1 { folder := false, queued := true, download := true },
      .setActive 0 true 2, .getChild 2]
    (fun _ server => server.maxCachedIndex == 1) (by decide +kernel)
  exact ⟨trace, server, run, eq_of_beq cached, (run_index run).1 2 (by decide)⟩

/-- The status line of an active file has no parent. -/
theorem getItemIndex_not_inverse : ¬ ∀ statusText items trace server,
    Run (queueStep statusText) { items } trace server →
    (∀ row, row < 2 ^ 32 → ∃ after, server.getChild row =
      some (after, plainGetChild server.items server.children.live row)) ∧
    ∀ row shown, plainGetChild server.items server.children.live row = some shown →
      server.getItemIndex shown = row + 1 := by
  intro inverse
  obtain ⟨trace, server, run, shown⟩ := @exists_run_of_execute _ _ (queueStep fun _ => [])
    { items := fun _ => { folder := false, queued := true, download := true } }
    [.addChild 0 { folder := false, queued := true, download := true }, .setActive 0 true 1]
    (fun _ server =>
      plainGetChild server.items server.children.live 1 == some (.status 1))
    (by decide +kernel)
  have index : 0 = 2 := (inverse _ _ trace server run).2 1 (.status 1) (eq_of_beq shown)
  cases index

end CServerItem

end FileZilla
