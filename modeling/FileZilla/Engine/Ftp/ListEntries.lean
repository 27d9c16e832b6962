import FileZilla.Engine.Ftp.ListHidden

namespace FileZilla

open List Nat Function

namespace FtpList

open Ftp (Capability)

universe u

variable {Time : Type u} {towlower : WChar → WChar}

def withoutTime (entry : CDirentry Time) : CDirentry Time :=
  { entry with time := none }

def Keeps (shown entries : List (CDirentry Time)) : Prop :=
  ∀ entry ∈ shown, ∃ listed ∈ entries, withoutTime listed = withoutTime entry

theorem Keeps.of_subset {shown entries : List (CDirentry Time)} (subset : shown ⊆ entries) :
    Keeps shown entries :=
  fun entry member => ⟨entry, subset member, rfl⟩

open CFtpListOpData

theorem Keeps.shiftTimes {shown : List (CDirentry Time)} {listing : CDirectoryListing Time}
    (keeps : Keeps shown listing.entries) (shift : Time → Time) :
    Keeps shown (shiftTimes shift listing).entries := by
  intro entry member
  obtain ⟨listed, here, same⟩ := keeps entry member
  exact ⟨{ listed with time := listed.time.map shift }, mem_map_of_mem here, same⟩

open List.Subset

namespace ListServer

variable (server : ListServer towlower Time)

/-- What the program takes the directory to hold after `LIST -a`, if it takes the answer -/
def listedAll (path : CServerPath) : Option (List (CDirentry Time)) :=
  match server.hidden with
  | .superset listed _ => some (listed path)
  | .same => some (server.shown path)
  | .empty => some []
  | .misleading _ _ => some []
  | .rejected _ _ => none

/-- `LIST -a` shows everything, in whatever directory it is taken. -/
def Trustworthy : Prop :=
  ∀ path listed, server.listedAll path = some listed → server.shown path ⊆ listed

/-- `LIST -a` shows nothing at all. -/
def hidesAll : Bool :=
  match server.hidden with
  | .empty | .misleading _ _ => true
  | _ => false

theorem trustworthy_of_not_hidesAll (open_ : server.hidesAll = false) : server.Trustworthy := by
  intro path listed taken
  unfold listedAll at taken
  unfold hidesAll at open_
  split at taken
  case h_1 all _ =>
    cases taken
    exact (all path).subset
  case h_2 =>
    cases taken
    exact refl _
  case h_3 hidden =>
    rw [hidden] at open_
    cases open_
  case h_4 hidden =>
    rw [hidden] at open_
    cases open_
  case h_5 => cases taken

structure Holds (session : ListSession Time) : Prop where
  noMlsd : session.capabilities.mlsdCommand ≠ .yes
  cached : ∀ path listing, session.cache path = some listing →
    listing.path = path ∧ Keeps (server.shown path) listing.entries
  trusted : session.capabilities.listHiddenSupport = .yes → server.Trustworthy

variable {server}

namespace Holds

variable {session : ListSession Time}

theorem notify (holds : server.Holds session) (path : CServerPath) (failed : Bool) :
    server.Holds (session.notify path failed) where
  __ := holds

theorem store (holds : server.Holds session) {listing : CDirectoryListing Time}
    (keeps : Keeps (server.shown listing.path) listing.entries) :
    server.Holds (session.store listing) where
  __ := holds
  cached := by
    intro path cached here
    change update session.cache listing.path (some listing) path = some cached at here
    rcases eq_or_ne path listing.path with same | other
    · subst same
      rw [update_self] at here
      cases here
      exact ⟨rfl, keeps⟩
    · rw [update_of_ne other] at here
      exact holds.cached path cached here

theorem setTimezone (holds : server.Holds session) (capability : Capability) :
    server.Holds (session.setTimezone capability) where
  __ := holds

theorem setHiddenSupport (holds : server.Holds session) {capability : Capability}
    (trusted : capability = .yes → server.Trustworthy) :
    server.Holds (session.setHiddenSupport capability) where
  __ := holds
  trusted := trusted

end Holds

end ListServer

open ListServer

structure Succeeded (server : ListServer towlower Time) (path : CServerPath)
    (done : Performed Time) : Prop where
  holds : server.Holds done.session
  listed : done.reply = .ok → ∃ listing, done.session.cache path = some listing ∧
    (path, false) ∈ done.session.notifications

section Steps

variable {server : ListServer towlower Time} {path : CServerPath} {session : ListSession Time}
  {env : ListEnv Time} {op : CFtpListOpData Time} {commands : List ListCommand}

theorem stored_succeeded (holds : server.Holds session) (listing : CDirectoryListing Time)
    (here : listing.path = path) (keeps : Keeps (server.shown path) listing.entries)
    (reply : Reply) :
    Succeeded server path
      { reply, session := (session.store listing).notify path false, commands } where
  holds := (holds.store (here.symm ▸ keeps)).notify path false
  listed := fun _ => ⟨listing, by
    subst here
    exact update_self .., mem_append_right _ (mem_singleton_self _)⟩

theorem parseResponse_succeeded (holds : server.Holds session)
    (here : op.directoryListing.path = path)
    (keeps : Keeps (server.shown path) op.directoryListing.entries) :
    Succeeded server path
      { reply := (op.parseResponse env path session).reply
        session := (op.parseResponse env path session).session, commands } := by
  unfold parseResponse
  dsimp only
  split
  case isTrue =>
    cases env.mdtm with
    | some shift =>
      exact stored_succeeded (holds.setTimezone .yes)
        (shiftTimes shift op.directoryListing) here (keeps.shiftTimes shift) _
    | none =>
      dsimp only
      split
      case isTrue =>
        have without : server.Holds { session with
            capabilities := { session.capabilities with
              mdtmCommand := .no
              inferredTimezoneOffset := .no } } :=
          { noMlsd := holds.noMlsd, cached := holds.cached, trusted := holds.trusted }
        exact stored_succeeded without _ here keeps _
      case isFalse => exact stored_succeeded (holds.setTimezone .no) _ here keeps _
  case isFalse => exact stored_succeeded (holds.setTimezone .no) _ here keeps _

theorem complete_transfer (listing : CDirectoryListing Time) :
    (op.complete env path listing session).transfer = none := by
  unfold complete
  split <;> rfl

theorem complete_succeeded (waiting : op.opState = .waittransfer) (holds : server.Holds session)
    {listing : CDirectoryListing Time} (here : listing.path = path)
    (keeps : Keeps (server.shown path) listing.entries) :
    Succeeded server path (finish env path (op.complete env path listing session) commands) := by
  unfold complete checkTimezoneDetection
  have stored {session : ListSession Time} (holds : server.Holds session) :
      Succeeded server path (finish env path
        { reply := .ok, op := op, session := (session.store listing).notify path false }
        commands) := by
    unfold finish
    rw [if_neg (by simp [waiting])]
    exact stored_succeeded holds listing here keeps _
  split
  case h_1 later session' checked =>
    split at checked
    case isTrue =>
      split at checked
      case isTrue => cases checked
      case isFalse =>
        split at checked
        case isTrue =>
          cases checked
          unfold finish
          rw [if_pos (by rfl)]
          exact parseResponse_succeeded holds here keeps
        case isFalse => cases checked
    case isFalse => cases checked
  case h_2 session' checked =>
    split at checked
    case isTrue =>
      split at checked
      case isTrue =>
        cases checked
        exact stored (holds.setTimezone .no)
      case isFalse =>
        split at checked
        case isTrue => cases checked
        case isFalse =>
          cases checked
          exact stored holds
    case isFalse =>
      cases checked
      exact stored holds

theorem error_ne_ok : Reply.error ≠ .ok := by decide

/-- No transfer follows, and what follows keeps the entries. -/
def Final (server : ListServer towlower Time) (env : ListEnv Time) (path : CServerPath)
    (listed : Listed Time) : Prop :=
  listed.transfer = none ∧ ∀ commands, Succeeded server path (finish env path listed commands)

theorem final_complete (waiting : op.opState = .waittransfer) (holds : server.Holds session)
    {listing : CDirectoryListing Time} (here : listing.path = path)
    (keeps : Keeps (server.shown path) listing.entries) :
    Final server env path (op.complete env path listing session) :=
  ⟨complete_transfer listing, fun _ => complete_succeeded waiting holds here keeps⟩

theorem final_failed (holds : server.Holds session) :
    Final server env path { reply := .error, op := op, session := session } := by
  refine ⟨rfl, fun commands => ?_⟩
  unfold finish
  rw [if_neg (by simp [Reply.error, Reply.continued])]
  exact { holds, listed := fun ok => absurd ok error_ne_ok }

structure Truthful (towlower : WChar → WChar) (shown : List (CDirentry Time))
    (ended : TransferEnd Time) : Prop where
  listed : ended.prevResult = .ok → Keeps shown ended.entries
  misleading : ended.prevResult ≠ .ok →
    (ended.tranferCommandSent && isMisleadingListResponse towlower ended.response) = true →
      shown = []

theorem subcommandResult_final (unchecked : op.viewHiddenCheck = false)
    (waiting : op.opState = .waittransfer) (holds : server.Holds session)
    {ended : TransferEnd Time} (truthful : Truthful towlower (server.shown path) ended) :
    Final server env path (op.subcommandResult towlower env path ended session) := by
  unfold subcommandResult
  simp only [unchecked, Bool.false_and, Bool.false_eq_true, if_false]
  split
  case isTrue ok => exact final_complete waiting holds rfl (truthful.listed ok)
  case isFalse failed =>
    split
    case isTrue misleading =>
      refine final_complete waiting holds rfl ?_
      rw [truthful.misleading failed misleading]
      exact fun _ member => absurd member not_mem_nil
    case isFalse =>
      split
      · exact final_failed (holds.notify path true)
      · exact final_failed holds

/-- The answer to `LIST -a` after that to `LIST` -/
structure Comparable (server : ListServer towlower Time) (path : CServerPath)
    (ended : TransferEnd Time) : Prop where
  listed : ended.prevResult = .ok → (server.shown path).length ≤ ended.entries.length →
    Keeps (server.shown path) ended.entries ∧ server.Trustworthy
  misleading : ended.prevResult ≠ .ok →
    (ended.tranferCommandSent && isMisleadingListResponse towlower ended.response) = true →
      server.shown path = [] → server.Trustworthy

theorem subcommandResult_checked (checked : op.viewHiddenCheck = true)
    (hidden : op.viewHidden = true) (waiting : op.opState = .waittransfer)
    (here : op.directoryListing.path = path)
    (before : op.directoryListing.entries = server.shown path) (holds : server.Holds session)
    {ended : TransferEnd Time} (comparable : Comparable server path ended) :
    Final server env path (op.subcommandResult towlower env path ended session) := by
  have unsupported : server.Holds (session.setHiddenSupport .no) :=
    holds.setHiddenSupport fun no => by cases no
  have keeps : Keeps (server.shown path) op.directoryListing.entries :=
    .of_subset (before ▸ refl _)
  unfold subcommandResult
  simp only [checked, hidden, Bool.not_true, Bool.false_eq_true, Bool.true_and, if_true, if_false]
  split
  case isTrue ok =>
    split
    case isTrue included =>
      have size := (checkInclusion_iff_size _ _).mp included
      unfold CDirectoryListing.size at size
      rw [before] at size
      obtain ⟨all, trusted⟩ := comparable.listed ok size
      exact final_complete waiting (holds.setHiddenSupport fun _ => trusted) rfl all
    case isFalse => exact final_complete waiting unsupported here keeps
  case isFalse failed =>
    split
    case isTrue misleading =>
      split
      case isTrue => exact final_complete waiting unsupported here keeps
      case isFalse none =>
        have empty : server.shown path = [] := by
          rw [← before]
          exact eq_nil_of_length_eq_zero (not_not.mp none)
        have trusted := comparable.misleading failed misleading empty
        refine final_complete waiting (holds.setHiddenSupport fun _ => trusted) rfl ?_
        rw [empty]
        exact fun _ member => absurd member not_mem_nil
    case isFalse =>
      split
      case isTrue => exact final_complete waiting unsupported here keeps
      case isFalse =>
        split
        · exact final_failed (holds.notify path true)
        · exact final_failed holds

end Steps

section Answers

variable (server : ListServer towlower Time)

/-- The check is made, and no transfer of it fails. -/
def Checks (session : ListSession Time) (listing : Listing towlower Time) : Prop :=
  listing.env.changed = .ok ∧
  ((session.cache listing.path).isSome && listing.env.cacheUsable) = false ∧
  listing.env.viewHiddenFiles = true ∧ session.capabilities.listHiddenSupport = .unknown ∧
  listing.failures 0 = none ∧ listing.failures 1 = none

/-- Where `LIST -a` shows nothing, it is not tried in an empty directory first. -/
def Permitted (session : ListSession Time) (listing : Listing towlower Time) : Prop :=
  Checks session listing → server.hidesAll = true → server.shown listing.path = [] →
    ∀ path, server.shown path = []

variable {server} {listing : Listing towlower Time} {count : Nat}

theorem TransferFailure.truthful (failure : TransferFailure towlower Time)
    (shown : List (CDirentry Time)) : Truthful towlower shown failure.ended where
  listed := fun ok => absurd ok failure.failed
  misleading := fun _ misleading => by
    rw [failure.clear] at misleading
    cases misleading

theorem TransferFailure.comparable (failure : TransferFailure towlower Time)
    (path : CServerPath) : Comparable server path failure.ended where
  listed := fun ok => absurd ok failure.failed
  misleading := fun _ misleading => by
    rw [failure.clear] at misleading
    cases misleading

theorem list_truthful (path : CServerPath) :
    Truthful towlower (server.shown path) (server.answer path .list) := by
  unfold answer
  dsimp only
  split
  case h_1 response misleads =>
    exact {
      listed := fun ok => absurd ok error_ne_ok
      misleading := fun _ _ => (server.truthful path response misleads).2 }
  case h_2 =>
    exact {
      listed := fun _ => .of_subset (refl _)
      misleading := fun failed => absurd rfl failed }

theorem listAll_truthful (trusted : server.Trustworthy) (path : CServerPath) :
    Truthful towlower (server.shown path) (server.answer path .listAll) := by
  have taken := trusted path
  unfold listedAll at taken
  unfold answer
  dsimp only
  split
  case h_1 listed all hidden =>
    exact {
      listed := fun _ => .of_subset (all path).subset
      misleading := fun failed => absurd rfl failed }
  case h_2 =>
    exact {
      listed := fun _ => .of_subset (refl _)
      misleading := fun failed => absurd rfl failed }
  case h_3 hidden =>
    rw [hidden] at taken
    exact {
      listed := fun _ => .of_subset (taken [] rfl)
      misleading := fun failed => absurd rfl failed }
  case h_4 response known hidden =>
    rw [hidden] at taken
    exact {
      listed := fun ok => absurd ok error_ne_ok
      misleading := fun _ _ => subset_nil.mp (taken [] rfl) }
  case h_5 response clear hidden =>
    refine {
      listed := fun ok => absurd ok error_ne_ok
      misleading := fun _ misleading => ?_ }
    rw [show (refuse response : TransferEnd Time).response = response from rfl, clear]
      at misleading
    cases misleading

theorem listAll_comparable {path : CServerPath}
    (permitted : server.hidesAll = true → server.shown path = [] →
      ∀ path, server.shown path = []) :
    Comparable server path (server.answer path .listAll) := by
  have trusted (empty : server.shown path = []) : server.Trustworthy := by
    cases hides : server.hidesAll with
    | false => exact server.trustworthy_of_not_hidesAll hides
    | true =>
      intro other listed _
      rw [permitted hides empty other]
      exact nil_subset _
  have open_ (visible : server.hidesAll = false) := server.trustworthy_of_not_hidesAll visible
  unfold hidesAll at open_
  unfold answer
  dsimp only
  split
  case h_1 listed all hidden =>
    rw [hidden] at open_
    exact {
      listed := fun _ _ => ⟨.of_subset (all path).subset, open_ rfl⟩
      misleading := fun failed => absurd rfl failed }
  case h_2 hidden =>
    rw [hidden] at open_
    exact {
      listed := fun _ _ => ⟨.of_subset (refl _), open_ rfl⟩
      misleading := fun failed => absurd rfl failed }
  case h_3 =>
    refine {
      listed := fun _ size => ?_
      misleading := fun failed => absurd rfl failed }
    have empty := eq_nil_of_length_eq_zero (le_zero.mp size)
    exact ⟨empty ▸ .of_subset (refl _), trusted empty⟩
  case h_4 =>
    exact {
      listed := fun ok => absurd ok error_ne_ok
      misleading := fun _ _ => trusted }
  case h_5 response clear _ =>
    refine {
      listed := fun ok => absurd ok error_ne_ok
      misleading := fun _ misleading => ?_ }
    rw [show (refuse response : TransferEnd Time).response = response from rfl, clear]
      at misleading
    cases misleading

end Answers

section Runs

variable {server : ListServer towlower Time} {listing : Listing towlower Time}
  {session : ListSession Time} {op : CFtpListOpData Time}

/-- After the answer to `LIST`, either the operation ends or `LIST -a` follows. -/
theorem subcommandResult_first (checked : op.viewHiddenCheck = true)
    (first : op.viewHidden = false) (holds : server.Holds session) :
    Final server listing.env listing.path (op.subcommandResult towlower listing.env listing.path
        (listing.ended server .list 0) session) ∨
      listing.failures 0 = none ∧
        op.subcommandResult towlower listing.env listing.path (listing.ended server .list 0)
            session =
          { reply := .continued
            op := { op with
              viewHidden := true
              directoryListing := { path := listing.path, entries := server.shown listing.path } }
            session := session
            transfer := some .listAll } := by
  unfold subcommandResult
  simp only [checked, first, Bool.not_false, Bool.true_and, Bool.false_and, Bool.false_eq_true,
    if_true, if_false]
  cases failing : listing.failures 0 with
  | some failure =>
    have ended : listing.ended server .list 0 = failure.ended := by
      unfold Listing.ended
      rw [failing]
    rw [ended, if_neg failure.failed, if_neg (Bool.eq_false_iff.mp failure.clear)]
    left
    split
    · exact final_failed (holds.notify listing.path true)
    · exact final_failed holds
  | none =>
    have ended : listing.ended server .list 0 = server.answer listing.path .list := by
      unfold Listing.ended
      rw [failing]
    rw [ended]
    right
    refine ⟨rfl, ?_⟩
    unfold answer
    dsimp only
    cases misleads : server.emptyResponse listing.path with
    | none => rfl
    | some response =>
      obtain ⟨known, empty⟩ := server.truthful listing.path response misleads
      have refused : (refuse response : TransferEnd Time).prevResult ≠ .ok := error_ne_ok
      rw [if_neg refused, if_pos (by rw [Bool.and_eq_true]; exact ⟨rfl, known⟩), empty]

theorem transfers_final {listed : Listed Time}
    (final : Final server listing.env listing.path listed) (bound : Nat)
    (commands : List ListCommand) :
    transfers server listing (bound + 1) listed commands =
      some (finish listing.env listing.path listed commands) := by
  rw [transfers, final.1]

theorem finish_commands (env : ListEnv Time) (path : CServerPath) (listed : Listed Time)
    (commands : List ListCommand) : (finish env path listed commands).commands = commands := by
  unfold finish
  split <;> rfl

theorem ended_truthful (command : ListCommand) (count : Nat)
    (answered : Truthful towlower (server.shown listing.path)
      (server.answer listing.path command)) :
    Truthful towlower (server.shown listing.path) (listing.ended server command count) := by
  unfold Listing.ended
  cases listing.failures count with
  | some failure => exact failure.truthful _
  | none => exact answered

/-- The operation comes to its end after two transfers at most. -/
structure Ends (server : ListServer towlower Time) (bound : Nat) (session : ListSession Time)
    (listing : Listing towlower Time) (done : Performed Time) : Prop where
  performed : perform server bound session listing = some done
  few : done.commands.length ≤ 2
  succeeded : Succeeded server listing.path done

variable {bound : Nat}

theorem ends_of_final {first : Listed Time} {commands : List ListCommand}
    (few : commands.length ≤ 2) (final : Final server listing.env listing.path first)
    (performed : perform server (bound + 3) session listing =
      transfers server listing (bound + 3 - commands.length) first commands) :
    ∃ done, Ends server (bound + 3) session listing done := by
  obtain ⟨left, enough⟩ : ∃ left, bound + 3 - commands.length = left + 1 :=
    ⟨bound + 2 - commands.length, by omega⟩
  rw [enough, transfers_final final] at performed
  exact ⟨_, performed, by rwa [finish_commands], final.2 commands⟩

theorem ends_of_single (command : ListCommand) (holds : server.Holds session)
    (unchecked : op.viewHiddenCheck = false) (waiting : op.opState = .waittransfer)
    (answered : Truthful towlower (server.shown listing.path)
      (server.answer listing.path command))
    (performed : perform server (bound + 3) session listing = transfers server listing (bound + 3)
        { reply := .continued, op := op, session := session, transfer := some command } []) :
    ∃ done, Ends server (bound + 3) session listing done :=
  @ends_of_final _ _ server listing session bound _ [command] (le_succ 1)
    (subcommandResult_final unchecked waiting holds (ended_truthful command 0 answered)) performed

/-- `LIST`, and `LIST -a` if the first one was answered -/
theorem ends_of_check (holds : server.Holds session) (checked : op.viewHiddenCheck = true)
    (first : op.viewHidden = false) (waiting : op.opState = .waittransfer)
    (permitted : listing.failures 0 = none → listing.failures 1 = none →
      server.hidesAll = true → server.shown listing.path = [] → ∀ path, server.shown path = [])
    (performed : perform server (bound + 3) session listing = transfers server listing (bound + 3)
        { reply := .continued, op := op, session := session, transfer := some .list } []) :
    ∃ done, Ends server (bound + 3) session listing done := by
  rw [transfers] at performed
  rcases subcommandResult_first checked first holds with final | ⟨answered, again⟩
  · exact @ends_of_final _ _ server listing session bound _ [.list] (by decide) final performed
  · have comparable : Comparable server listing.path (listing.ended server .listAll 1) := by
      unfold Listing.ended
      cases failing : listing.failures 1 with
      | some failure => exact failure.comparable _
      | none => exact listAll_comparable (permitted answered failing)
    let hidden : CFtpListOpData Time :=
      { op with
        viewHidden := true
        directoryListing := { path := listing.path, entries := server.shown listing.path } }
    have final : Final server listing.env listing.path
        (hidden.subcommandResult towlower listing.env listing.path
          (listing.ended server .listAll 1) session) :=
      @subcommandResult_checked _ _ server listing.path session listing.env hidden checked rfl
        waiting rfl rfl holds _ comparable
    dsimp only [length_nil] at performed
    rw [again, transfers] at performed
    exact @ends_of_final _ _ server listing session bound _ [.list, .listAll] (le_refl 2) final
      performed

theorem exists_ends (bound : Nat) (holds : server.Holds session)
    (permitted : Permitted server session listing) :
    ∃ done, Ends server (bound + 3) session listing done := by
  by_cases changed : listing.env.changed = .ok
  swap
  · refine ⟨_, { performed := if_pos changed, few := zero_le _, succeeded := ?_ }⟩
    exact { holds, listed := fun ok => absurd ok changed }
  have begun : perform server (bound + 3) session listing = transfers server listing (bound + 3)
        (({ opState := .waitlock, directoryListing := { path := listing.path } } :
          CFtpListOpData Time).sendWaitlock listing.env listing.path session) [] :=
    if_neg (not_not_intro changed)
  unfold sendWaitlock at begun
  cases cached : (session.cache listing.path).isSome && listing.env.cacheUsable with
  | true =>
    rw [if_pos cached] at begun
    refine @ends_of_final _ _ server listing session bound _ [] (zero_le 2)
      ⟨rfl, fun commands => ?_⟩ begun
    obtain ⟨stored, here⟩ := Option.isSome_iff_exists.mp (Bool.and_eq_true_iff.mp cached).1
    exact {
      holds := holds.notify listing.path false
      listed := fun _ => ⟨stored, here, mem_append_right _ (mem_singleton_self _)⟩ }
  | false =>
    rw [if_neg (Bool.eq_false_iff.mp cached)] at begun
    dsimp only at begun
    rw [if_neg holds.noMlsd] at begun
    cases viewing : listing.env.viewHiddenFiles with
    | false =>
      rw [viewing, if_neg (by decide)] at begun
      exact ends_of_single .list holds rfl rfl (list_truthful _) begun
    | true =>
      rw [viewing, if_pos rfl] at begun
      cases support : session.capabilities.listHiddenSupport with
      | unknown =>
        rw [support] at begun
        refine ends_of_check holds rfl rfl rfl (fun first second => ?_) begun
        exact permitted ⟨changed, cached, viewing, support, first, second⟩
      | yes =>
        rw [support] at begun
        exact ends_of_single .listAll holds rfl rfl
          (listAll_truthful (holds.trusted support) _) begun
      | no =>
        rw [support] at begun
        exact ends_of_single .list holds rfl rfl (list_truthful _) begun

/-- The listings of the server's directories, one after another -/
def step (server : ListServer towlower Time) (session : ListSession Time)
    (listing : Listing towlower Time) : Option (ListSession Time) :=
  (perform server 3 session listing).map Performed.session

theorem holds_step {next : ListSession Time} (holds : server.Holds session)
    (permitted : Permitted server session listing)
    (taken : step server session listing = some next) : server.Holds next := by
  obtain ⟨done, ends⟩ := exists_ends 0 holds permitted
  rw [step, ends.performed] at taken
  cases taken
  exact ends.succeeded.holds

def fresh (capabilities : ListCapabilities) : ListSession Time where
  capabilities := { capabilities with listHiddenSupport := .unknown }

theorem holds_fresh {capabilities : ListCapabilities}
    (noMlsd : capabilities.mlsdCommand ≠ .yes) : server.Holds (fresh capabilities) where
  noMlsd := noMlsd
  cached := fun _ _ absent => by cases absent
  trusted := fun yes => by cases yes

/-- The operation ends after two commands at most, and if it succeeds it has stored and announced
a listing of the directory with all of its entries. -/
structure LosesNothing (server : ListServer towlower Time) (session : ListSession Time)
    (listing : Listing towlower Time) (done : Performed Time) : Prop where
  performed : perform server 3 session listing = some done
  few : done.commands.length ≤ 2
  complete : done.reply = .ok → ∃ stored, done.session.cache listing.path = some stored ∧
    stored.path = listing.path ∧ Keeps (server.shown listing.path) stored.entries ∧
    (listing.path, false) ∈ done.session.notifications

theorem probing_loses_nothing (server : ListServer towlower Time) {capabilities : ListCapabilities}
    (noMlsd : capabilities.mlsdCommand ≠ .yes)
    {trace : List (ListSession Time × Listing towlower Time)}
    {session : ListSession Time} (run : Run (step server) (fresh capabilities) trace session)
    (permitted : ∀ taken ∈ trace, Permitted server taken.1 taken.2)
    (listing : Listing towlower Time) (allowed : Permitted server session listing) :
    ∃ done, LosesNothing server session listing done := by
  have holds : server.Holds session :=
    Run.invariant_of_forall (holds_fresh noMlsd) (fun _ _ _ held allowed taken =>
      holds_step held allowed taken) run permitted
  obtain ⟨done, ends⟩ := exists_ends 0 holds allowed
  refine ⟨done, { performed := ends.performed, few := ends.few, complete := fun ok => ?_ }⟩
  obtain ⟨stored, here, announced⟩ := ends.succeeded.listed ok
  obtain ⟨path, keeps⟩ := ends.succeeded.holds.cached _ stored here
  exact ⟨stored, here, path, keeps, announced⟩

def directory (name : String) : CServerPath where
  data := some { segments := [wide name], pathPrefix := none }
  type := .unix

/-- Only the directory `b` holds a file, and `LIST -a` always finds none. -/
def hidingServer : ListServer Ftp.LogonData.lowerAscii Nat where
  shown path := if path = directory "b" then [{ name := wide "file" }] else []
  emptyResponse _ := none
  truthful := fun _ _ absent => by cases absent
  hidden := .misleading (wide "550 No files found.") (by decide)

theorem probing_loses_nothing_listed :
    ∃ trace session, Run (step hidingServer) (fresh {}) trace session ∧ trace ≠ [] ∧
      ∃ done, LosesNothing hidingServer session { path := directory "a" } done := by
  have taken : step hidingServer (fresh {}) { path := directory "b" } = some _ := rfl
  refine ⟨_, _, .step .refl taken, cons_ne_nil _ _,
    probing_loses_nothing hidingServer (by decide) (.step .refl taken) ?_ _ ?_⟩
  · intro event member
    cases mem_singleton.mp member
    exact fun _ _ empty => absurd empty (by decide)
  · exact fun checks => absurd checks.2.2.2.1 (by decide)

/-- The empty directory decides what is shown of the other one. -/
theorem probing_loses_file :
    ∃ trace session, Run (step hidingServer) (fresh {}) trace session ∧
      ∀ done, ¬LosesNothing hidingServer session { path := directory "b" } done := by
  have taken : step hidingServer (fresh {}) { path := directory "a" } = some _ := rfl
  refine ⟨_, _, .step .refl taken, fun done losesNothing => ?_⟩
  have performed := losesNothing.performed
  obtain ⟨stored, here, _, keeps, _⟩ := losesNothing.complete (by
    cases performed
    rfl)
  cases performed
  cases here
  obtain ⟨listed, member, _⟩ := keeps { name := wide "file" } (mem_singleton_self _)
  cases member

end Runs

end FtpList

end FileZilla
