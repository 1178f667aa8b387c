import Sandai.Semantics.Proc
import Sandai.Domain.Tournament

/-! Tournament commands and queries (`app/tournaments`): `CreateTournament`, `DeleteTournament`,
`AddAttempt`, `GetTournament` and `ListTournaments` over the tournament repository, the
participant repository and the Nakama provider.

The clock is read once per call; its reading is the parameter `now`.
-/

set_option autoImplicit false

namespace Sandai

/-- `tournaments.CreateTournamentParams`; Go `int` fields are integers. -/
structure CreateTournamentParams where
  id : String
  authoritative : Bool
  sortOrder : String
  operator : String
  resetSchedule : String
  title : String
  description : String
  category : Int
  startTime : Int
  endTime : Int
  duration : Int
  maxSize : Int
  maxNumScore : Int
  joinRequired : Bool
  deriving DecidableEq, Repr

/-- The collaborators of `tournaments.Service`: `Repo`, `Participants` and `Provider`. -/
inductive TournamentOp where
  | save (t : Tournament)
  | get (id : TournamentID)
  | delete (id : TournamentID)
  | list (limit offset : Int)
  | getParticipant (tournamentID : TournamentID) (playerID : PlayerID)
  | saveParticipant (p : Participant)
  | createTournament (params : CreateTournamentParams)
  | deleteTournament (id : TournamentID)
  | addAttempt (tournamentID : TournamentID) (playerID : PlayerID) (count : Int)
  deriving DecidableEq

def TournamentOp.Reply : TournamentOp → Type
  | .get _ => Except GoError Tournament
  | .list _ _ => Except GoError (List Tournament)
  | .getParticipant _ _ => Except GoError Participant
  | .save _ | .delete _ | .saveParticipant _ | .createTournament _ | .deleteTournament _
  | .addAttempt _ _ _ => Option GoError

def Tournaments : Signature := ⟨TournamentOp, TournamentOp.Reply⟩

structure CreateTournamentCommand where
  id : TournamentID
  title : String
  description : String
  category : Int
  sortOrder : String
  operator : String
  resetSchedule : String
  authoritative : Bool
  joinRequired : Bool
  maxSize : Int
  maxNumScore : Int
  startTime : Time
  endTime : Option Time
  duration : Duration
  deriving DecidableEq, Repr

/-- The parameters `CreateTournament` sends to the provider, built from the command. -/
def CreateTournamentCommand.params (cmd : CreateTournamentCommand) : CreateTournamentParams :=
  { id := cmd.id, authoritative := cmd.authoritative, sortOrder := cmd.sortOrder,
    operator := cmd.operator, resetSchedule := cmd.resetSchedule, title := cmd.title,
    description := cmd.description, category := cmd.category, startTime := cmd.startTime.unix,
    duration := cmd.duration.seconds.toInt, maxSize := cmd.maxSize,
    maxNumScore := cmd.maxNumScore, joinRequired := cmd.joinRequired,
    endTime := match cmd.endTime with
      | some endTime => endTime.unix
      | none => 0 }

structure AddAttemptCommand where
  tournamentID : TournamentID
  playerID : PlayerID
  count : Int
  deriving DecidableEq, Repr

namespace TournamentService

/-- `Service.CreateTournament`; its result is the `TournamentID` of `CreateTournamentResult`. -/
def createTournament (now : Time) (cmd : CreateTournamentCommand) :
    Proc Tournaments (Except GoError TournamentID) :=
  match newTournament cmd.id cmd.title cmd.description cmd.category cmd.sortOrder cmd.operator
      cmd.resetSchedule cmd.authoritative cmd.joinRequired cmd.maxSize cmd.maxNumScore
      cmd.startTime cmd.duration now with
  | .error err => .done (.error err)
  | .ok t => .call (.save t) fun
    | some err => .done (.error err)
    | none => .call (.createTournament cmd.params) fun
      | some err => .done (.error err)
      | none => .done (.ok t.id)

/-- `Service.DeleteTournament`: the provider first, then the repository. -/
def deleteTournament (tournamentID : TournamentID) : Proc Tournaments (Option GoError) :=
  match tournamentID.validate with
  | .error err => .done (some err)
  | .ok () => .call (.deleteTournament tournamentID) fun
    | some err => .done (some err)
    | none => .call (.delete tournamentID) .done

/-- The part of `AddAttempt` after the participant is found or made. -/
def recordAttempts (now : Time) (cmd : AddAttemptCommand) (participant : Participant) :
    Proc Tournaments (Option GoError) :=
  match participant.addAttempts cmd.count now with
  | (_, some err) => .done (some err)
  | (updated, none) => .call (.saveParticipant updated) fun
    | some err => .done (some err)
    | none => .call (.addAttempt cmd.tournamentID cmd.playerID cmd.count) .done

/-- `Service.AddAttempt`. A repository error is compared with `ErrParticipantNotFound` by `==`. -/
def addAttempt (now : Time) (cmd : AddAttemptCommand) : Proc Tournaments (Option GoError) :=
  match cmd.tournamentID.validate, cmd.playerID.validate with
  | .error err, _ => .done (some err)
  | .ok (), .error err => .done (some err)
  | .ok (), .ok () =>
    if cmd.count ≤ 0 then .done (some ErrInvalidAttemptCount) else
    .call (.getParticipant cmd.tournamentID cmd.playerID) fun
      | .ok participant => recordAttempts now cmd participant
      | .error err =>
        if err = ErrParticipantNotFound then
          match newParticipant cmd.tournamentID cmd.playerID now with
          | .error err => .done (some err)
          | .ok participant => recordAttempts now cmd participant
        else .done (some err)

def getTournament (tournamentID : TournamentID) : Proc Tournaments (Except GoError Tournament) :=
  match tournamentID.validate with
  | .error err => .done (.error err)
  | .ok () => .call (.get tournamentID) .done

/-- `Service.ListTournaments`: a non-positive limit becomes 10, a negative offset 0. -/
def listTournaments (limit offset : Int) : Proc Tournaments (Except GoError (List Tournament)) :=
  .call (.list (if limit ≤ 0 then 10 else limit) (if offset < 0 then 0 else offset)) .done

theorem recordAttempts_of_pos {now : Time} {cmd : AddAttemptCommand} (participant : Participant)
    (positive : 0 < cmd.count) :
    ∃ next, recordAttempts now cmd participant =
        .call (.saveParticipant
          { participant with attempts := toInt64 (participant.attempts + cmd.count),
                             updatedAt := now }) next ∧
      next none = .call (.addAttempt cmd.tournamentID cmd.playerID cmd.count) .done := by
  unfold recordAttempts
  rw [participant.addAttempts_of_pos positive]
  exact ⟨_, rfl, rfl⟩

theorem addAttempt_of_valid {now : Time} {cmd : AddAttemptCommand}
    (tournamentValid : cmd.tournamentID.validate = .ok ())
    (playerValid : cmd.playerID.validate = .ok ()) (positive : 0 < cmd.count) :
    ∃ next, addAttempt now cmd = .call (.getParticipant cmd.tournamentID cmd.playerID) next ∧
      (∀ participant, next (.ok participant) = recordAttempts now cmd participant) ∧
      ∀ participant, newParticipant cmd.tournamentID cmd.playerID now = .ok participant →
        next (.error ErrParticipantNotFound) = recordAttempts now cmd participant := by
  unfold addAttempt
  rw [tournamentValid, playerValid]
  dsimp only
  rw [if_neg (not_le.mpr positive)]
  refine ⟨_, rfl, fun _ => rfl, fun _ made => ?_⟩
  dsimp only
  rw [if_pos rfl, made]

theorem createTournament_of_made {now : Time} {cmd : CreateTournamentCommand} {t : Tournament}
    (made : newTournament cmd.id cmd.title cmd.description cmd.category cmd.sortOrder cmd.operator
      cmd.resetSchedule cmd.authoritative cmd.joinRequired cmd.maxSize cmd.maxNumScore
      cmd.startTime cmd.duration now = .ok t) :
    createTournament now cmd = .call (.save t) fun
      | some err => .done (.error err)
      | none => .call (.createTournament cmd.params) fun
        | some err => .done (.error err)
        | none => .done (.ok t.id) := by
  unfold createTournament
  rw [made]

theorem deleteTournament_of_valid {id : TournamentID} (valid : id.validate = .ok ()) :
    deleteTournament id = .call (.deleteTournament id) fun
      | some err => .done (some err)
      | none => .call (.delete id) .done := by
  unfold deleteTournament
  rw [valid]

end TournamentService

/-! ## What `CreateTournament` sends where -/

section Snapshot

open TournamentService

variable {now : Time} {cmd : CreateTournamentCommand}

/-- The exchanges `CreateTournament` can make: the `Save` of the tournament `NewTournament`
built, then the provider call with the command's parameters. -/
theorem createTournament_after {calls : List (Exchange Tournaments)}
    {q : Proc Tournaments (Except GoError TournamentID)}
    (after : Proc.After (createTournament now cmd) calls q) :
    calls = [] ∨ ∃ t, newTournament cmd.id cmd.title cmd.description cmd.category cmd.sortOrder
      cmd.operator cmd.resetSchedule cmd.authoritative cmd.joinRequired cmd.maxSize
      cmd.maxNumScore cmd.startTime cmd.duration now = .ok t ∧
      ((∃ r, calls = [⟨.save t, r⟩]) ∨
        ∃ r, calls = [⟨.save t, none⟩, ⟨.createTournament cmd.params, r⟩]) := by
  unfold createTournament at after
  split at after
  · cases calls with
    | nil => exact .inl rfl
    | cons => exact absurd after Proc.after_done_cons
  · rename_i t made
    cases calls with
    | nil => exact .inl rfl
    | cons e rest =>
      obtain ⟨r, rfl, saved⟩ := Proc.after_call_cons.mp after
      refine .inr ⟨t, made, ?_⟩
      cases rest with
      | nil => exact .inl ⟨r, rfl⟩
      | cons e' rest' =>
        cases r with
        | some err => exact absurd saved Proc.after_done_cons
        | none =>
          obtain ⟨r', rfl, sent⟩ := Proc.after_call_cons.mp saved
          cases rest' with
          | nil => exact .inr ⟨r', rfl⟩
          | cons => cases r' <;> exact absurd sent Proc.after_done_cons

theorem newTournament_fields {id : TournamentID} {title description : String} {category : Int}
    {sortOrder operator resetSchedule : String} {authoritative joinRequired : Bool}
    {maxSize maxNumScore : Int} {startTime : Time} {duration : Duration} {t : Tournament}
    (made : newTournament id title description category sortOrder operator resetSchedule
      authoritative joinRequired maxSize maxNumScore startTime duration now = .ok t) :
    t = { id, title, description, category, sortOrder, operator, resetSchedule, authoritative,
          joinRequired, maxSize, maxNumScore, startTime, endTime := none, duration,
          state := .active, createdAt := now, updatedAt := now } ∧
      0 ≤ duration ∧ startTime.isZero = false := by
  revert made
  unfold newTournament
  cases id.validate with
  | error => rintro ⟨⟩
  | ok =>
    simp only [bind, Except.bind, pure, Except.pure]
    split_ifs with _ _ _ _ unset negative
    all_goals try rintro ⟨⟩
    exact ⟨rfl, le_of_not_lt negative, by simpa using unset⟩

/-- The provider gets the saved tournament's fields with the start time in Unix seconds and the
duration through `int(d.Seconds())`, which is exact on whole seconds; the saved tournament has
no end time, while the parameters carry the command's. -/
theorem createTournament_params_snapshot {calls : List (Exchange Tournaments)}
    {q : Proc Tournaments (Except GoError TournamentID)}
    (after : Proc.After (createTournament now cmd) calls q) {params : CreateTournamentParams}
    {r : Option GoError} (sent : ⟨.createTournament params, r⟩ ∈ calls) :
    ∃ t, ⟨.save t, none⟩ ∈ calls ∧
      params =
        { id := t.id, authoritative := t.authoritative, sortOrder := t.sortOrder,
          operator := t.operator, resetSchedule := t.resetSchedule, title := t.title,
          description := t.description, category := t.category,
          startTime := t.startTime.unix, duration := t.duration.seconds.toInt,
          maxSize := t.maxSize, maxNumScore := t.maxNumScore, joinRequired := t.joinRequired,
          endTime := match cmd.endTime with
            | some endTime => endTime.unix
            | none => 0 } ∧
      t.endTime = none ∧
      (t.duration % 1000000000 = 0 → t.duration < 2 ^ 53 * 1000000000 →
        params.duration = t.duration / 1000000000) := by
  rcases createTournament_after after with rfl | ⟨t, made, ⟨r', rfl⟩ | ⟨r', rfl⟩⟩
  · cases sent
  · simp at sent
  · have sameParams : params = cmd.params := by
      simp only [List.mem_cons, Sigma.mk.inj_iff, reduceCtorEq, heq_eq_eq, false_and,
        List.mem_singleton, false_or, List.not_mem_nil, or_false] at sent
      exact TournamentOp.createTournament.inj sent.1
    obtain ⟨rfl, nonneg, -⟩ := newTournament_fields made
    refine ⟨_, List.mem_cons_self _ _, by rw [sameParams]; rfl, rfl, fun whole small => ?_⟩
    dsimp only at whole small
    rw [sameParams]
    show (Duration.seconds cmd.duration).toInt = cmd.duration / 1000000000
    have split := Int.ediv_mul_cancel (Int.dvd_of_emod_eq_zero whole)
    conv_lhs => rw [← split]
    have below := Int.ediv_lt_of_lt_mul (by norm_num) small
    have above := Int.ediv_nonneg nonneg (by norm_num : (0 : Int) ≤ 1000000000)
    exact seconds_whole (by omega)

def cupWithEndTime : CreateTournamentCommand :=
  { id := "t1", title := "Cup", description := "", category := 0, sortOrder := "desc",
    operator := "best", resetSchedule := "", authoritative := true, joinRequired := false,
    maxSize := 10, maxNumScore := 0, startTime := Time.ofUnix 100,
    endTime := some (Time.ofUnix 200), duration := 0 }

def cupTournament : Tournament :=
  { id := "t1", title := "Cup", description := "", category := 0, sortOrder := "desc",
    operator := "best", resetSchedule := "", authoritative := true, joinRequired := false,
    maxSize := 10, maxNumScore := 0, startTime := Time.ofUnix 100, endTime := none,
    duration := 0, state := .active, createdAt := Time.ofUnix 50, updatedAt := Time.ofUnix 50 }

/-- The command's end time reaches the provider but not the saved tournament. -/
theorem createTournament_end_time_unsaved :
    Proc.Path (createTournament (Time.ofUnix 50) cupWithEndTime)
        [⟨.save cupTournament, none⟩, ⟨.createTournament cupWithEndTime.params, none⟩]
        (.ok "t1") ∧
      cupTournament.endTime = none ∧ cupWithEndTime.params.endTime = 200 :=
  ⟨.call (.call (.done _)), rfl, rfl⟩

theorem createTournament_params_snapshot_cup :
    ∃ t, ⟨.save t, none⟩ ∈ [⟨.save cupTournament, none⟩,
        (⟨.createTournament cupWithEndTime.params, none⟩ : Exchange Tournaments)] ∧
      cupWithEndTime.params =
        { id := t.id, authoritative := t.authoritative, sortOrder := t.sortOrder,
          operator := t.operator, resetSchedule := t.resetSchedule, title := t.title,
          description := t.description, category := t.category,
          startTime := t.startTime.unix, duration := t.duration.seconds.toInt,
          maxSize := t.maxSize, maxNumScore := t.maxNumScore, joinRequired := t.joinRequired,
          endTime := match cupWithEndTime.endTime with
            | some endTime => endTime.unix
            | none => 0 } ∧
      t.endTime = none ∧
      (t.duration % 1000000000 = 0 → t.duration < 2 ^ 53 * 1000000000 →
        cupWithEndTime.params.duration = t.duration / 1000000000) :=
  @createTournament_params_snapshot (Time.ofUnix 50) cupWithEndTime _ (.done (.ok "t1"))
    (.call (.call (.nil _))) _ _ (List.mem_cons_of_mem _ (List.mem_singleton_self _))

end Snapshot

end Sandai
