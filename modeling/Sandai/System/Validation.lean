import Sandai.Service.Bot
import Sandai.Service.Tournaments
import Sandai.Service.Commands
import Sandai.Service.Analytics

/-! Which command services validate their input before calling a collaborator. -/

set_option autoImplicit false

namespace Sandai

open TournamentService AnalyticsService

/-! ## Services whose input checks come first -/

theorem createGroup_invalid (now : Time) (cmd : CreateInput) {err : GoError}
    (invalid : cmd.creatorID.validate = .error err) : createGroup now cmd = .done (.error err) := by
  simp [createGroup, invalid]

theorem startBattle_invalid (now : Time) (cmd : StartCommand) {err : GoError}
    (invalid : (do cmd.leaderID.validate; cmd.idempotencyKey.validate) = .error err) :
    startBattle now cmd = .done (.error err) := by
  unfold startBattle
  revert invalid
  cases cmd.leaderID.validate <;> cases cmd.idempotencyKey.validate <;> rintro ⟨⟩ <;> rfl

theorem createTournament_invalid (now : Time) (cmd : CreateTournamentCommand) {err : GoError}
    (invalid : newTournament cmd.id cmd.title cmd.description cmd.category cmd.sortOrder
      cmd.operator cmd.resetSchedule cmd.authoritative cmd.joinRequired cmd.maxSize
      cmd.maxNumScore cmd.startTime cmd.duration now = .error err) :
    createTournament now cmd = .done (.error err) := by
  simp [createTournament, invalid]

theorem addAttempt_invalid (now : Time) (cmd : AddAttemptCommand) {err : GoError}
    (invalid :
      (do
        cmd.tournamentID.validate
        cmd.playerID.validate
        if cmd.count ≤ 0 then throw ErrInvalidAttemptCount) = .error err) :
    addAttempt now cmd = .done (some err) := by
  unfold addAttempt
  revert invalid
  cases cmd.tournamentID.validate <;> cases cmd.playerID.validate <;>
    simp only [bind, Except.bind, pure, Except.pure, Except.error.injEq]
  all_goals first | rintro rfl; rfl | split_ifs <;> simp_all [throw, throwThe, MonadExceptOf.throw]

theorem deleteTournament_invalid (id : TournamentID) {err : GoError}
    (invalid : id.validate = .error err) : deleteTournament id = .done (some err) := by
  simp [deleteTournament, invalid]

theorem startSession_invalid (rt : GoRuntime) (context : EventContext) (now : Time)
    (cmd : StartSessionCommand) {err : GoError}
    (invalid :
      (do
        cmd.userID.validate
        if cmd.version = "" then throw ErrInvalidEvent) = .error err) :
    startSession rt context now cmd = .done (some err) := by
  unfold startSession
  revert invalid
  cases cmd.userID.validate <;> simp only [bind, Except.bind, pure, Except.pure, Except.error.injEq]
  all_goals first | rintro rfl; rfl | split_ifs <;> simp_all [throw, throwThe, MonadExceptOf.throw]

theorem endSession_invalid (context : EventContext) (now : Time) (userID : PlayerID)
    {err : GoError} (invalid : userID.validate = .error err) :
    endSession context now userID = .done (some err) := by
  simp [endSession, invalid]

theorem submit_invalid (now : Time) (cmd : SubmitCommand) {err : GoError}
    (invalid : ScoreSubmission.validate ⟨cmd.playerID, cmd.seasonID, cmd.score,
      cmd.idempotencyKey, now⟩ = .error err) : submit now cmd = .done (.error err) := by
  simp [submit, invalid]

/-- Every command service but two checks its input's own fields before its first collaborator
call: a failed check returns its error from a program that makes no call. -/
theorem validation_precedes_calls :
    (∀ now (cmd : CreateInput) err, cmd.creatorID.validate = .error err →
      createGroup now cmd = .done (.error err)) ∧
    (∀ now (cmd : StartCommand) err,
      (do cmd.leaderID.validate; cmd.idempotencyKey.validate) = .error err →
      startBattle now cmd = .done (.error err)) ∧
    (∀ now (cmd : CreateTournamentCommand) err,
      newTournament cmd.id cmd.title cmd.description cmd.category cmd.sortOrder cmd.operator
        cmd.resetSchedule cmd.authoritative cmd.joinRequired cmd.maxSize cmd.maxNumScore
        cmd.startTime cmd.duration now = .error err →
      createTournament now cmd = .done (.error err)) ∧
    (∀ now (cmd : AddAttemptCommand) err,
      (do
        cmd.tournamentID.validate
        cmd.playerID.validate
        if cmd.count ≤ 0 then throw ErrInvalidAttemptCount) = .error err →
      addAttempt now cmd = .done (some err)) ∧
    (∀ (id : TournamentID) err, id.validate = .error err → deleteTournament id = .done (some err)) ∧
    (∀ rt context now (cmd : StartSessionCommand) err,
      (do
        cmd.userID.validate
        if cmd.version = "" then throw ErrInvalidEvent) = .error err →
      startSession rt context now cmd = .done (some err)) ∧
    (∀ context now (userID : PlayerID) err, userID.validate = .error err →
      endSession context now userID = .done (some err)) ∧
    (∀ now (cmd : SubmitCommand) err,
      ScoreSubmission.validate ⟨cmd.playerID, cmd.seasonID, cmd.score, cmd.idempotencyKey, now⟩ =
        .error err →
      submit now cmd = .done (.error err)) :=
  ⟨fun now cmd _ => createGroup_invalid now cmd, fun now cmd _ => startBattle_invalid now cmd,
    fun now cmd _ => createTournament_invalid now cmd, fun now cmd _ => addAttempt_invalid now cmd,
    fun id _ => deleteTournament_invalid id,
    fun rt context now cmd _ => startSession_invalid rt context now cmd,
    fun context now userID _ => endSession_invalid context now userID,
    fun now cmd _ => submit_invalid now cmd⟩

/-! ## The two that call first -/

/-- `Handle` reserves the key before `NewCommand` rejects a blank command id, and `CreateGroup`
asks the provider for a group before `NewGroup` rejects an empty name. -/
theorem validation_after_calls :
    Proc.Path ((⟨true, true⟩ : BotService).handle ⟨1⟩ ⟨"", "chat", "p1", [], "k"⟩)
        [⟨.reserveCommand "k", .error ErrNotFound⟩] (.error (.new "bot command id is required")) ∧
      Proc.Path (createGroup ⟨1⟩ ⟨"p1", "", "", false, "", ""⟩)
        [⟨.createGroup ⟨"", "", "p1", "", "", false⟩, .ok ⟨"g1", "h1"⟩⟩] (.error ErrNameRequired) :=
  ⟨.call (.done _), .call (.done _)⟩

end Sandai
