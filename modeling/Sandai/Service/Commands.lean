import Sandai.Semantics.Proc
import Sandai.Domain.Group

/-! The command services of `app/groups`, `app/battles` and `app/leaderboard`. Each reads its
clock once; the reading is the parameter `now`. -/

set_option autoImplicit false

namespace Sandai

/-! ## Groups -/

structure CreateGroupPayload where
  name : String
  description : String
  creatorID : PlayerID
  avatarURL : String
  langTag : String
  «open» : Bool
  deriving DecidableEq, Repr

structure CreateGroupResult where
  groupID : GroupID
  handle : String
  deriving DecidableEq, Repr

/-- The collaborators `CreateGroup` calls: `Provider.CreateGroup` and `Repo.Save`. -/
inductive GroupOp where
  | createGroup (payload : CreateGroupPayload)
  | save (g : Group)

def GroupOp.Reply : GroupOp → Type
  | .createGroup _ => Except GoError CreateGroupResult
  | .save _ => Option GoError

def Groups : Signature := ⟨GroupOp, GroupOp.Reply⟩

structure CreateInput where
  creatorID : PlayerID
  name : String
  description : String
  «open» : Bool
  avatarURL : String
  langTag : String
  deriving DecidableEq, Repr

/-- `groups.Service.CreateGroup`; its result is `CreateOutput`, which has the fields of
`CreateGroupResult`. -/
def createGroup (now : Time) (cmd : CreateInput) : Proc Groups (Except GoError CreateGroupResult) :=
  match cmd.creatorID.validate with
  | .error err => .done (.error err)
  | .ok () =>
    .call (.createGroup ⟨cmd.name, cmd.description, cmd.creatorID, cmd.avatarURL, cmd.langTag,
        cmd.«open»⟩) fun
      | .error err => .done (.error err)
      | .ok result =>
        match newGroup result.groupID cmd.name cmd.creatorID now with
        | .error err => .done (.error err)
        | .ok aggregate => .call (.save { aggregate with description := cmd.description }) fun
          | some err => .done (.error err)
          | none => .done (.ok result)

theorem createGroup_path_ok {now : Time} {cmd : CreateInput} {calls : List (Exchange Groups)}
    {result : CreateGroupResult} (path : Proc.Path (createGroup now cmd) calls (.ok result)) :
    ∃ g, newGroup result.groupID cmd.name cmd.creatorID now = .ok g ∧
      calls = [⟨.createGroup ⟨cmd.name, cmd.description, cmd.creatorID, cmd.avatarURL,
          cmd.langTag, cmd.«open»⟩, .ok result⟩,
        ⟨.save { g with description := cmd.description }, none⟩] := by
  unfold createGroup at path
  split at path
  · cases (Proc.path_done.mp path).2
  · obtain ⟨provided, rest, rfl, created⟩ := Proc.path_call.mp path
    cases provided with
    | error err => cases (Proc.path_done.mp created).2
    | ok provided =>
      dsimp only at created
      split at created
      · cases (Proc.path_done.mp created).2
      · rename_i g made
        obtain ⟨reply, rest, rfl, saved⟩ := Proc.path_call.mp created
        cases reply with
        | some err => cases (Proc.path_done.mp saved).2
        | none =>
          obtain ⟨rfl, same⟩ := Proc.path_done.mp saved
          cases same
          exact ⟨g, made, rfl⟩

/-! ## Battles -/

abbrev Metadata := List (String × String)

structure StartBattlePayload where
  leaderID : PlayerID
  metadata : Metadata
  preset : String
  deriving DecidableEq, Repr

structure StartBattleResult where
  battleID : BattleID
  matchID : String
  deriving DecidableEq, Repr

/-- The collaborators `StartBattle` calls: `Provider.CreateMatch` and `Repo.Save`. -/
inductive BattleOp where
  | createMatch (payload : StartBattlePayload)
  | save (b : Battle)
  deriving DecidableEq

def BattleOp.Reply : BattleOp → Type
  | .createMatch _ => Except GoError StartBattleResult
  | .save _ => Option GoError

def Battles : Signature := ⟨BattleOp, BattleOp.Reply⟩

structure StartCommand where
  leaderID : PlayerID
  idempotencyKey : IdempotencyKey
  metadata : Metadata
  preset : String
  deriving DecidableEq, Repr

/-- `battles.Service.StartBattle`; its `StartResult` has the fields of `StartBattleResult`. -/
def startBattle (now : Time) (cmd : StartCommand) :
    Proc Battles (Except GoError StartBattleResult) :=
  match cmd.leaderID.validate, cmd.idempotencyKey.validate with
  | .error err, _ => .done (.error err)
  | .ok (), .error err => .done (.error err)
  | .ok (), .ok () =>
    .call (.createMatch ⟨cmd.leaderID, cmd.metadata, cmd.preset⟩) fun
      | .error err => .done (.error err)
      | .ok result =>
        match newBattle result.battleID cmd.leaderID cmd.idempotencyKey now with
        | .error err => .done (.error err)
        | .ok aggregate => .call (.save aggregate) fun
          | some err => .done (.error err)
          | none => .done (.ok result)

theorem startBattle_path_ok {now : Time} {cmd : StartCommand} {calls : List (Exchange Battles)}
    {result : StartBattleResult} (path : Proc.Path (startBattle now cmd) calls (.ok result)) :
    ∃ b, newBattle result.battleID cmd.leaderID cmd.idempotencyKey now = .ok b ∧
      calls = [⟨.createMatch ⟨cmd.leaderID, cmd.metadata, cmd.preset⟩, .ok result⟩,
        ⟨.save b, none⟩] := by
  unfold startBattle at path
  split at path
  · cases (Proc.path_done.mp path).2
  · cases (Proc.path_done.mp path).2
  · obtain ⟨provided, rest, rfl, created⟩ := Proc.path_call.mp path
    cases provided with
    | error err => cases (Proc.path_done.mp created).2
    | ok provided =>
      dsimp only at created
      split at created
      · cases (Proc.path_done.mp created).2
      · rename_i b made
        obtain ⟨reply, rest, rfl, saved⟩ := Proc.path_call.mp created
        cases reply with
        | some err => cases (Proc.path_done.mp saved).2
        | none =>
          obtain ⟨rfl, same⟩ := Proc.path_done.mp saved
          cases same
          exact ⟨b, made, rfl⟩

/-! ## Leaderboard -/

structure ScoreSubmission where
  playerID : PlayerID
  seasonID : SeasonID
  value : Int
  idempotencyKey : IdempotencyKey
  submittedAt : Time
  deriving DecidableEq, Repr

structure Season where
  id : SeasonID
  startsAt : Time
  endsAt : Time
  active : Bool
  deriving DecidableEq, Repr

/-- `s.Activate(now)`: the season is active strictly between its start and its end, and the call
also clears `Active` outside that window. -/
def Season.activate (s : Season) (now : Time) : Season :=
  { s with active := now.after s.startsAt && now.before s.endsAt }

theorem Season.activate_active (s : Season) (now : Time) :
    (s.activate now).active = true ↔ s.startsAt.nanos < now.nanos ∧ now.nanos < s.endsAt.nanos := by
  simp [activate, Time.after, Time.before]

def ScoreSubmission.validate (submission : ScoreSubmission) : Except GoError Unit := do
  submission.playerID.validate
  submission.seasonID.validate
  submission.idempotencyKey.validate

/-- The collaborator `Submit` calls: `Repo.SubmitScore`. -/
inductive LeaderboardOp where
  | submitScore (submission : ScoreSubmission)
  deriving DecidableEq

def Leaderboard : Signature := ⟨LeaderboardOp, fun _ => Option GoError⟩

structure SubmitCommand where
  playerID : PlayerID
  seasonID : SeasonID
  score : Int
  idempotencyKey : IdempotencyKey
  deriving DecidableEq, Repr

/-- `leaderboard.Service.Submit`; `true` is `SubmitResult.Acknowledged`. -/
def submit (now : Time) (cmd : SubmitCommand) : Proc Leaderboard (Except GoError Bool) :=
  let submission : ScoreSubmission := ⟨cmd.playerID, cmd.seasonID, cmd.score, cmd.idempotencyKey, now⟩
  match submission.validate with
  | .error err => .done (.error err)
  | .ok () => .call (.submitScore submission) fun
    | some err => .done (.error err)
    | none => .done (.ok true)

theorem submit_path_ok {now : Time} {cmd : SubmitCommand} {calls : List (Exchange Leaderboard)}
    {acknowledged : Bool} (path : Proc.Path (submit now cmd) calls (.ok acknowledged)) :
    ScoreSubmission.validate ⟨cmd.playerID, cmd.seasonID, cmd.score, cmd.idempotencyKey, now⟩ =
        .ok () ∧ acknowledged = true ∧
      calls = [⟨.submitScore ⟨cmd.playerID, cmd.seasonID, cmd.score, cmd.idempotencyKey, now⟩,
        none⟩] := by
  unfold submit at path
  dsimp only at path
  split at path
  · cases (Proc.path_done.mp path).2
  · rename_i valid
    obtain ⟨reply, rest, rfl, stored⟩ := Proc.path_call.mp path
    cases reply with
    | some err => cases (Proc.path_done.mp stored).2
    | none =>
      obtain ⟨rfl, same⟩ := Proc.path_done.mp stored
      cases same
      exact ⟨valid, rfl, rfl⟩

end Sandai
