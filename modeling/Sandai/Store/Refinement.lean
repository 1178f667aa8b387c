import Sandai.Store.Memory
import Sandai.System.Sync

/-! The in-memory repositories against the local store of `SyncWorld`.

`withMemory` answers the repository calls of a service method from `MemoryStores`, where
`SyncWorld` lets each call answer from a `SyncState`. While every participant call names a
tournament id without `:`, each memory answer is one `SyncWorld` allows, so the stores that calls
made one after another leave stand for a state those calls can leave in `SyncWorld`. A `:` in a
tournament id is where the two part: `makeKey` then gives two pairs one key.
-/

set_option autoImplicit false

namespace Sandai

/-- The calls whose memory answer depends only on their own pair: participant calls on a
tournament id without `:`. -/
def TournamentOp.ColonFree : TournamentOp → Prop
  | .getParticipant t _ => ':' ∉ t.toList
  | .saveParticipant q => ':' ∉ q.tournamentID.toList
  | _ => True

/-- The memory stores stand for the local side of a `SyncState`: the tournament under each id,
each id stored once, and the participant of each pair whose tournament id has no `:`; every
stored participant sits under its own pair's key and has such a tournament id. -/
structure MemoryStores.Represents (m : MemoryStores) (s : SyncState) : Prop where
  tournaments : m.tournaments.toMap = s.tournaments
  unique : (m.tournaments.entries.map (·.id)).Nodup
  participants : ∀ t p, ':' ∉ t.toList → (m.participants.get t p).toOption = s.participants (t, p)
  keys : ∀ key q, m.participants.participants key = some q →
    key = makeKey q.tournamentID q.playerID ∧ ':' ∉ q.tournamentID.toList

namespace MemoryStores.Represents

variable {m : MemoryStores} {s : SyncState}

theorem empty : MemoryStores.empty.Represents SyncState.empty :=
  ⟨rfl, List.nodup_nil, fun _ _ _ => rfl, fun _ _ stored => Option.noConfusion stored⟩

theorem ofLocal (rep : m.Represents s) {s' : SyncState}
    (tournaments : s'.tournaments = s.tournaments)
    (participants : s'.participants = s.participants) : m.Represents s' :=
  ⟨rep.tournaments.trans tournaments.symm, rep.unique,
    fun t p free => (rep.participants t p free).trans (congrFun participants.symm _), rep.keys⟩

theorem keyed (rep : m.Represents s) {t : TournamentID} {p : PlayerID} (free : ':' ∉ t.toList)
    {q : Participant} (found : s.participants (t, p) = some q) :
    q.tournamentID = t ∧ q.playerID = p := by
  rw [← rep.participants t p free] at found
  unfold MemoryParticipantRepository.get at found
  split at found
  · rename_i q' stored
    obtain rfl : q' = q := by simpa [Except.toOption] using found
    obtain ⟨key, freeQ⟩ := rep.keys _ _ stored
    obtain ⟨rfl, rfl⟩ := makeKey_inj free freeQ key
    exact ⟨rfl, rfl⟩
  · cases found

/-! ### The memory answer to each repository call -/

theorem get (rep : m.Represents s) (id : TournamentID) :
    SyncWorld (.get id) s (m.tournaments.get id) s := by
  have same := congrFun rep.tournaments id
  unfold MemoryRepository.toMap at same
  unfold MemoryRepository.get
  split
  · exact .found (same.symm.trans ‹_›)
  · exact .missing (same.symm.trans ‹_›)

theorem list (rep : m.Represents s) (limit offset : Int) :
    SyncWorld (.list limit offset) s (m.tournaments.list limit offset) s := by
  cases listed : m.tournaments.list limit offset with
  | ok page =>
    exact .listed fun t mem => rep.tournaments ▸
      MemoryRepository.toMap_of_mem rep.unique (MemoryRepository.mem_of_list listed mem)
  | error err => exact .failed (by simp)

theorem getParticipant (rep : m.Represents s) {t : TournamentID} (p : PlayerID)
    (free : ':' ∉ t.toList) :
    SyncWorld (.getParticipant t p) s (m.participants.get t p) s := by
  have same := rep.participants t p free
  cases found : m.participants.get t p with
  | ok q => exact .participantFound (by rw [← same, found]; rfl)
  | error err =>
    obtain rfl : err = ErrParticipantNotFound := by
      unfold MemoryParticipantRepository.get at found
      split at found <;> cases found
      rfl
    exact .participantMissing (by rw [← same, found]; rfl)

theorem saveTournament (rep : m.Represents s) (t : Tournament) :
    MemoryStores.Represents { m with tournaments := m.tournaments.save t }
      { s with tournaments := Function.update s.tournaments t.id (some t) } :=
  ⟨by dsimp only; rw [MemoryRepository.toMap_save, rep.tournaments],
    MemoryRepository.nodup_save _ _ rep.unique, rep.participants, rep.keys⟩

theorem deleteTournament (rep : m.Represents s) (id : TournamentID) :
    MemoryStores.Represents { m with tournaments := m.tournaments.delete id }
      { s with tournaments := Function.update s.tournaments id none } :=
  ⟨by dsimp only; rw [MemoryRepository.toMap_delete, rep.tournaments],
    MemoryRepository.nodup_delete _ _ rep.unique, rep.participants, rep.keys⟩

theorem saveParticipant (rep : m.Represents s) (q : Participant)
    (free : ':' ∉ q.tournamentID.toList) :
    MemoryStores.Represents { m with participants := m.participants.save q }
      { s with
        participants := Function.update s.participants (q.tournamentID, q.playerID) (some q) } := by
  refine ⟨rep.tournaments, rep.unique, fun t p freeT => ?_, fun key q' stored => ?_⟩
  · dsimp only
    rw [MemoryParticipantRepository.get_save_of_colon_free _ _ _ freeT free]
    by_cases same : (q.tournamentID, q.playerID) = (t, p)
    · rw [if_pos same, ← same, Function.update_same]; rfl
    · rw [if_neg same, Function.update_noteq (Ne.symm same), rep.participants t p freeT]
  · dsimp only [MemoryParticipantRepository.save] at stored
    by_cases same : key = makeKey q.tournamentID q.playerID
    · subst same
      rw [Function.update_same] at stored
      cases stored
      exact ⟨rfl, free⟩
    · rw [Function.update_noteq same] at stored
      exact rep.keys key q' stored

end MemoryStores.Represents

/-! ### Whole methods -/

/-- A method run on the memory stores, the provider answering as the path says, is a run
`SyncWorld` allows from any state the stores stand for, while its participant calls avoid `:`. -/
theorem withMemory_runs {A : Type} (p : Proc Tournaments A) {m : MemoryStores} {s : SyncState}
    (rep : m.Represents s) (free : Proc.Always SyncWorld (fun o _ => o.ColonFree) p s)
    {calls : List (Exchange Provider)} {a : A} {m' : MemoryStores}
    (path : Proc.Path (TournamentService.withMemory p m) calls (a, m')) :
    ∃ s', Proc.Runs SyncWorld p s a s' ∧ m'.Represents s' := by
  induction p generalizing m s calls with
  | done a' =>
    obtain ⟨-, same⟩ := Proc.path_done.mp path
    cases same
    exact ⟨s, .done _ _, rep⟩
  | call o next ih =>
    have step : ∀ {r m₁ s₁ calls'}, SyncWorld o s r s₁ → m₁.Represents s₁ →
        Proc.Path (TournamentService.withMemory (next r) m₁) calls' (a, m') →
        ∃ s', Proc.Runs SyncWorld (.call o next) s a s' ∧ m'.Represents s' :=
      fun w rep₁ path =>
        (ih _ rep₁ (free.2 _ _ w) path).imp fun _ ⟨run, rep'⟩ => ⟨.call w run, rep'⟩
    cases o with
    | save t => exact step .saved (rep.saveTournament t) path
    | get id => exact step (rep.get id) rep path
    | delete id => exact step .deleted (rep.deleteTournament id) path
    | list limit offset => exact step (rep.list limit offset) rep path
    | getParticipant t p => exact step (rep.getParticipant p free.1) rep path
    | saveParticipant q => exact step .participantSaved (rep.saveParticipant q free.1) path
    | createTournament params =>
      obtain ⟨r, _, rfl, rest⟩ := Proc.path_call.mp path
      cases r with
      | none => exact step .created (rep.ofLocal rfl rfl) rest
      | some err => exact step (.failed (by simp)) rep rest
    | deleteTournament id =>
      obtain ⟨r, _, rfl, rest⟩ := Proc.path_call.mp path
      cases r with
      | none => exact step .removed (rep.ofLocal rfl rfl) rest
      | some err => exact step (.failed (by simp)) rep rest
    | addAttempt t p count =>
      obtain ⟨r, _, rfl, rest⟩ := Proc.path_call.mp path
      cases r with
      | none => exact step .attemptsAdded (rep.ofLocal rfl rfl) rest
      | some err => exact step (.failed (by simp)) rep rest

namespace TournamentService

variable {s : SyncState}

theorem createTournament_colonFree (now : Time) (cmd : CreateTournamentCommand) :
    Proc.Always SyncWorld (fun o _ => o.ColonFree) (createTournament now cmd) s := by
  unfold createTournament
  split
  · trivial
  · refine ⟨trivial, fun r _ _ => ?_⟩
    cases r
    · exact ⟨trivial, fun r _ _ => by cases r <;> trivial⟩
    · trivial

theorem deleteTournament_colonFree (id : TournamentID) :
    Proc.Always SyncWorld (fun o _ => o.ColonFree) (deleteTournament id) s := by
  unfold deleteTournament
  split
  · trivial
  · refine ⟨trivial, fun r _ _ => ?_⟩
    cases r
    · exact ⟨trivial, fun _ _ _ => trivial⟩
    · trivial

theorem recordAttempts_colonFree (now : Time) (cmd : AddAttemptCommand)
    {participant : Participant} (free : ':' ∉ participant.tournamentID.toList) :
    Proc.Always SyncWorld (fun o _ => o.ColonFree) (recordAttempts now cmd participant) s := by
  unfold recordAttempts
  split
  · trivial
  · rename_i updated made
    have sameTournament := participant.addAttempts_tournamentID cmd.count now
    rw [made] at sameTournament
    refine ⟨show ':' ∉ updated.tournamentID.toList from sameTournament ▸ free,
      fun r _ _ => ?_⟩
    cases r
    · exact ⟨trivial, fun _ _ _ => trivial⟩
    · trivial

theorem addAttempt_colonFree (now : Time) (cmd : AddAttemptCommand)
    (free : ':' ∉ cmd.tournamentID.toList)
    (keyed : ∀ q, s.participants (cmd.tournamentID, cmd.playerID) = some q →
      q.tournamentID = cmd.tournamentID) :
    Proc.Always SyncWorld (fun o _ => o.ColonFree) (addAttempt now cmd) s := by
  unfold addAttempt
  split
  · trivial
  · trivial
  · split_ifs
    · trivial
    · refine ⟨free, fun _ _ got => ?_⟩
      cases got with
      | participantFound found => exact recordAttempts_colonFree now cmd (keyed _ found ▸ free)
      | participantMissing _ =>
        dsimp only
        rw [if_pos rfl]
        split
        · trivial
        · exact recordAttempts_colonFree now cmd ((newParticipant_pair ‹_›).1 ▸ free)
      | failed other =>
        dsimp only [TournamentOp.failed]
        rw [if_neg (other _ _ rfl)]
        trivial

theorem getTournament_colonFree (id : TournamentID) :
    Proc.Always SyncWorld (fun o _ => o.ColonFree) (getTournament id) s := by
  unfold getTournament
  split
  · trivial
  · exact ⟨trivial, fun _ _ _ => trivial⟩

end TournamentService

/-- The calls whose participant calls name only tournament ids without `:`. -/
def TournamentCall.ColonFree : TournamentCall → Prop
  | .addAttempt _ cmd => ':' ∉ cmd.tournamentID.toList
  | _ => True

theorem TournamentCall.always_colonFree (c : TournamentCall) (free : c.ColonFree)
    {m : MemoryStores} {s : SyncState} (rep : m.Represents s) :
    Proc.Always SyncWorld (fun o _ => o.ColonFree) c.proc s := by
  cases c with
  | createTournament now cmd => exact TournamentService.createTournament_colonFree now cmd
  | deleteTournament id => exact TournamentService.deleteTournament_colonFree id
  | addAttempt now cmd =>
    exact TournamentService.addAttempt_colonFree now cmd free fun _ found =>
      (rep.keyed free found).1
  | getTournament id => exact TournamentService.getTournament_colonFree id
  | listTournaments limit offset => exact ⟨trivial, fun _ _ _ => trivial⟩

/-- The stores calls made one after another leave on `NewTournamentServiceAdapter`'s in-memory
repositories, each call's provider answers as its path gives them. -/
def MemoryReachable (m : MemoryStores) : Prop :=
  Relation.ReflTransGen
    (fun m m' => ∃ c : TournamentCall, c.ColonFree ∧ ∃ (calls : List (Exchange Provider)) (a : c.Result),
      Proc.Path (TournamentService.withMemory c.proc m) calls (a, m'))
    MemoryStores.empty m

/-- While no `AddAttempt` names a tournament id with `:`, the in-memory repositories refine the
abstract local store: whatever the provider answers, the stores calls made one after another
leave stand for a state the same calls can leave in `SyncWorld`. -/
theorem memory_calls_refine_sync {m : MemoryStores} (reach : MemoryReachable m) :
    ∃ s, SequentiallyReachable s ∧ m.Represents s := by
  induction reach with
  | refl => exact ⟨_, .refl, .empty⟩
  | tail _ call ih =>
    obtain ⟨s, reach, rep⟩ := ih
    obtain ⟨c, free, _, a, path⟩ := call
    obtain ⟨s', run, rep'⟩ := withMemory_runs c.proc rep (c.always_colonFree free rep) path
    exact ⟨s', reach.tail ⟨c, a, run⟩, rep'⟩

theorem memory_calls_refine_sync_cup :
    ∃ m, MemoryReachable m ∧ ∃ s, SequentiallyReachable s ∧ m.Represents s :=
  have reach : MemoryReachable _ :=
    .single ⟨.createTournament (Time.ofUnix 50) cup, trivial,
      [⟨.createTournament cup.params, none⟩], _, .call (.done _)⟩
  ⟨_, reach, memory_calls_refine_sync reach⟩

end Sandai
