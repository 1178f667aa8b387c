import Sandai.Adapter.Segment
import Sandai.Service.Auth
import Sandai.Service.Commands
import Sandai.System.Intake

/-! The HTTP API (`cmd/api`): each handler decodes its JSON body, calls one application service
and writes what the service returns as a status code and, through `writeJSON`, a JSON body.

A request body is given decoded: `json.Decoder.Decode` either fills the request struct or
returns an error, whose text the handler writes back. The router, the middlewares (request id,
logging, metrics) and `main`'s wiring are not modelled: they pick a handler and observe it, and
change neither its calls nor its answer, apart from the `X-Request-Id` header.
-/

set_option autoImplicit false

namespace Sandai

namespace Api

/-- The `net/http` status codes the handlers write. -/
def statusOK : Nat := 200
def statusCreated : Nat := 201
def statusAccepted : Nat := 202
def statusBadRequest : Nat := 400
def statusUnauthorized : Nat := 401

/-- What a handler writes: a status code and, when it goes through `writeJSON`, a JSON body
(sent as `application/json`). -/
structure Response where
  status : Nat
  body : Option Json

def writeJSON (status : Nat) (payload : Json) : Response := ⟨status, some payload⟩

/-- `s.writeError(w, status, err)`: an `errorResponse` holding `err.Error()`. -/
def writeError (status : Nat) (err : GoError) : Response :=
  writeJSON status (.obj [("error", .str err.message)])

/-- What a handler writes for its service's answer: the error under `failed`, a result through
`answer`. -/
def respond {Out : Type} (failed : Nat) (answer : Out → Response) :
    Except GoError Out → Response
  | .error err => writeError failed err
  | .ok out => answer out

/-- The shape all five handlers share: a body that did not decode is answered `400` with no
call; otherwise the service is called on the request and its answer written. -/
def serve {I : Signature} {Req Out : Type} (decoded : Except GoError Req)
    (call : Req → Proc I (Except GoError Out)) (failed : Nat) (answer : Out → Response) :
    Proc I Response :=
  match decoded with
  | .error err => .done (writeError statusBadRequest err)
  | .ok req => (call req).bind fun result => .done (respond failed answer result)

theorem serve_path {I : Signature} {Req Out : Type} {decoded : Except GoError Req}
    {call : Req → Proc I (Except GoError Out)} {failed : Nat} {answer : Out → Response}
    {calls : List (Exchange I)} {resp : Response}
    (path : Proc.Path (serve decoded call failed answer) calls resp) :
    (∃ err, decoded = .error err ∧ calls = [] ∧ resp = writeError statusBadRequest err) ∨
      ∃ req result, decoded = .ok req ∧ Proc.Path (call req) calls result ∧
        resp = respond failed answer result := by
  cases decoded with
  | error err =>
    obtain ⟨rfl, rfl⟩ := Proc.path_done.mp path
    exact .inl ⟨err, rfl, rfl, rfl⟩
  | ok req =>
    obtain ⟨first, result, rest, rfl, called, answered⟩ := Proc.path_bind.mp path
    obtain ⟨rfl, rfl⟩ := Proc.path_done.mp answered
    rw [List.append_nil]
    exact .inr ⟨req, result, rfl, called, rfl⟩

/-! ## Login -/

structure AuthLoginRequest where
  strategy : String
  deviceID : String
  username : String
  email : String
  password : String
  vars : Vars

def authLoginResponse (result : AuthResult) : Json :=
  .obj [("user_id", .str result.userID), ("session_token", .str result.sessionToken),
    ("refresh_token", .str result.refreshToken), ("username", .str result.username)]

/-- `Server.handleAuthLogin`: the strategy `"device"` logs in with the device id, every other
strategy with the email and password; `now` and `wallClock` are the auth service's clocks. -/
def handleAuthLogin (now wallClock : Time) (decoded : Except GoError AuthLoginRequest) :
    Proc Auth Response :=
  serve decoded
    (fun req =>
      if req.strategy = "device" then
        AuthService.authenticateDevice now wallClock req.deviceID req.username req.vars
      else AuthService.authenticateEmail now wallClock req.email req.password req.vars)
    statusUnauthorized fun result => writeJSON statusOK (authLoginResponse result)

/-- A login answered `200` carries the tokens the provider returned, for the strategy the request
named exactly `"device"` or else the email one, and comes after the player's account was read
and saved; every other answer is a `400` for a body that did not decode or a `401` with the
service's error. -/
theorem handleAuthLogin_answers (now wallClock : Time) {decoded : Except GoError AuthLoginRequest}
    {calls : List (Exchange Auth)} {resp : Response}
    (path : Proc.Path (handleAuthLogin now wallClock decoded) calls resp) :
    (∃ err, decoded = .error err ∧ calls = [] ∧ resp = writeError statusBadRequest err) ∨
      ∃ req, decoded = .ok req ∧
        ((∃ err, resp = writeError statusUnauthorized err) ∨
          ∃ result reply saved, resp = writeJSON statusOK (authLoginResponse result) ∧
            (req.strategy = "device" ∧
                calls = [⟨.authenticateDevice req.deviceID req.username req.vars, .ok result⟩,
                  ⟨.getByID result.userID, reply⟩, ⟨.save saved, none⟩] ∨
              req.strategy ≠ "device" ∧
                calls = [⟨.authenticateEmail req.email req.password req.vars, .ok result⟩,
                  ⟨.getByID result.userID, reply⟩, ⟨.save saved, none⟩])) := by
  rcases serve_path path with rejected | ⟨req, result, rfl, called, rfl⟩
  · exact .inl rejected
  refine .inr ⟨req, rfl, ?_⟩
  cases result with
  | error err => exact .inl ⟨err, rfl⟩
  | ok result =>
    refine .inr ?_
    split_ifs at called with device
    · obtain ⟨reply, saved, rfl⟩ := AuthService.authenticateDevice_path_ok called
      exact ⟨result, reply, saved, rfl, .inl ⟨device, rfl⟩⟩
    · obtain ⟨reply, saved, rfl⟩ := AuthService.authenticateEmail_path_ok called
      exact ⟨result, reply, saved, rfl, .inr ⟨device, rfl⟩⟩

def deviceLoginP1 : AuthLoginRequest := ⟨"device", "d1", "p1", "", "", fun _ => ""⟩
def loginP1 : AuthResult := ⟨"p1", "s1", "r1", "p1"⟩
def savedP1 : PlayerAccount :=
  (playerOne.registerDevice ⟨"d1", "", ⟨2⟩⟩ ⟨5⟩).1.recordSession ⟨"s1", "", "", ⟨2⟩⟩ ⟨5⟩

theorem handleAuthLogin_answers_device :
    Proc.Path (handleAuthLogin ⟨2⟩ ⟨5⟩ (.ok deviceLoginP1))
        [⟨.authenticateDevice "d1" "p1" fun _ => "", .ok loginP1⟩, ⟨.getByID "p1", .ok playerOne⟩,
          ⟨.save savedP1, none⟩] (writeJSON statusOK (authLoginResponse loginP1)) ∧
      ((∃ err, (.ok deviceLoginP1 : Except GoError AuthLoginRequest) = .error err ∧
          ([⟨.authenticateDevice "d1" "p1" fun _ => "", .ok loginP1⟩, ⟨.getByID "p1", .ok playerOne⟩,
            ⟨.save savedP1, none⟩] : List (Exchange Auth)) = [] ∧
          writeJSON statusOK (authLoginResponse loginP1) = writeError statusBadRequest err) ∨
        ∃ req, (.ok deviceLoginP1 : Except GoError AuthLoginRequest) = .ok req ∧
          ((∃ err, writeJSON statusOK (authLoginResponse loginP1) =
              writeError statusUnauthorized err) ∨
            ∃ result reply saved, writeJSON statusOK (authLoginResponse loginP1) =
                writeJSON statusOK (authLoginResponse result) ∧
              (req.strategy = "device" ∧
                  ([⟨.authenticateDevice "d1" "p1" fun _ => "", .ok loginP1⟩,
                      ⟨.getByID "p1", .ok playerOne⟩, ⟨.save savedP1, none⟩] : List (Exchange Auth)) =
                    [⟨.authenticateDevice req.deviceID req.username req.vars, .ok result⟩,
                      ⟨.getByID result.userID, reply⟩, ⟨.save saved, none⟩] ∨
                req.strategy ≠ "device" ∧
                  ([⟨.authenticateDevice "d1" "p1" fun _ => "", .ok loginP1⟩,
                      ⟨.getByID "p1", .ok playerOne⟩, ⟨.save savedP1, none⟩] : List (Exchange Auth)) =
                    [⟨.authenticateEmail req.email req.password req.vars, .ok result⟩,
                      ⟨.getByID result.userID, reply⟩, ⟨.save saved, none⟩]))) := by
  refine ⟨?path, handleAuthLogin_answers _ _ ?path⟩
  exact .call (.call (.call (.done _)))

/-! ## Groups, battles and scores -/

structure CreateGroupRequest where
  creatorID : String
  name : String
  description : String
  «open» : Bool
  avatarURL : String
  langTag : String

def handleCreateGroup (now : Time) (decoded : Except GoError CreateGroupRequest) :
    Proc Groups Response :=
  serve decoded
    (fun req => createGroup now
      ⟨req.creatorID, req.name, req.description, req.«open», req.avatarURL, req.langTag⟩)
    statusBadRequest fun out =>
      writeJSON statusCreated (.obj [("group_id", .str out.groupID), ("handle", .str out.handle)])

/-- `StartBattleRequest`; its metadata is passed through unread. -/
structure StartBattleRequest where
  leaderID : String
  idempotencyKey : String
  metadata : Metadata
  preset : String

def handleStartBattle (now : Time) (decoded : Except GoError StartBattleRequest) :
    Proc Battles Response :=
  serve decoded
    (fun req => startBattle now ⟨req.leaderID, req.idempotencyKey, req.metadata, req.preset⟩)
    statusBadRequest fun out =>
      writeJSON statusAccepted
        (.obj [("battle_id", .str out.battleID), ("match_id", .str out.matchID)])

structure SubmitScoreRequest where
  playerID : String
  score : Int
  idempotencyKey : String

/-- `Server.handleSubmitScore`, for the `{season}` of the request's path; it answers with a bare
`202` and no body. -/
def handleSubmitScore (now : Time) (season : String)
    (decoded : Except GoError SubmitScoreRequest) : Proc Leaderboard Response :=
  serve decoded (fun req => submit now ⟨req.playerID, season, req.score, req.idempotencyKey⟩)
    statusBadRequest fun _ => ⟨statusAccepted, none⟩

/-- The group, battle and score handlers answer every failure, of decoding or of the service,
with a `400` and the error's text, and answer success only after the store accepted the write
the request asked for: the group `NewGroup` built from the provider's answer, the battle
`NewBattle` built from it, or the validated score of the season in the path. -/
theorem command_handlers_write_before_success (now : Time) :
    (∀ {decoded calls resp}, Proc.Path (handleCreateGroup now decoded) calls resp →
      (∃ err, resp = writeError statusBadRequest err) ∨
        ∃ req result g, decoded = .ok req ∧
          newGroup result.groupID req.name req.creatorID now = .ok g ∧
          calls = [⟨.createGroup ⟨req.name, req.description, req.creatorID, req.avatarURL,
              req.langTag, req.«open»⟩, .ok result⟩,
            ⟨.save { g with description := req.description }, none⟩] ∧
          resp = writeJSON statusCreated
            (.obj [("group_id", .str result.groupID), ("handle", .str result.handle)])) ∧
    (∀ {decoded calls resp}, Proc.Path (handleStartBattle now decoded) calls resp →
      (∃ err, resp = writeError statusBadRequest err) ∨
        ∃ req result b, decoded = .ok req ∧
          newBattle result.battleID req.leaderID req.idempotencyKey now = .ok b ∧
          calls = [⟨.createMatch ⟨req.leaderID, req.metadata, req.preset⟩, .ok result⟩,
            ⟨.save b, none⟩] ∧
          resp = writeJSON statusAccepted
            (.obj [("battle_id", .str result.battleID), ("match_id", .str result.matchID)])) ∧
    (∀ {season decoded calls resp}, Proc.Path (handleSubmitScore now season decoded) calls resp →
      (∃ err, resp = writeError statusBadRequest err) ∨
        ∃ req, decoded = .ok req ∧
          ScoreSubmission.validate ⟨req.playerID, season, req.score, req.idempotencyKey, now⟩ =
            .ok () ∧
          calls = [⟨.submitScore ⟨req.playerID, season, req.score, req.idempotencyKey, now⟩,
            none⟩] ∧
          resp = ⟨statusAccepted, none⟩) := by
  refine ⟨fun path => ?_, fun path => ?_, fun path => ?_⟩
  all_goals
    rcases serve_path path with ⟨err, -, -, rfl⟩ | ⟨req, result, rfl, called, rfl⟩
    · exact .inl ⟨err, rfl⟩
    cases result with
    | error err => exact .inl ⟨err, rfl⟩
    | ok result => ?_
  · obtain ⟨g, made, rfl⟩ := createGroup_path_ok called
    exact .inr ⟨req, result, g, rfl, made, rfl, rfl⟩
  · obtain ⟨b, made, rfl⟩ := startBattle_path_ok called
    exact .inr ⟨req, result, b, rfl, made, rfl, rfl⟩
  · obtain ⟨valid, -, rfl⟩ := submit_path_ok called
    exact .inr ⟨req, rfl, valid, rfl, rfl⟩

def scoreP1 : SubmitScoreRequest := ⟨"p1", 10, "k1"⟩

theorem command_handlers_write_before_success_score :
    Proc.Path (handleSubmitScore ⟨1⟩ "s1" (.ok scoreP1)) [⟨.submitScore ⟨"p1", "s1", 10, "k1", ⟨1⟩⟩, none⟩]
        ⟨statusAccepted, none⟩ ∧
      ((∃ err, (⟨statusAccepted, none⟩ : Response) = writeError statusBadRequest err) ∨
        ∃ req, (.ok scoreP1 : Except GoError SubmitScoreRequest) = .ok req ∧
          ScoreSubmission.validate ⟨req.playerID, "s1", req.score, req.idempotencyKey, ⟨1⟩⟩ =
            .ok () ∧
          [(⟨.submitScore ⟨"p1", "s1", 10, "k1", ⟨1⟩⟩, none⟩ : Exchange Leaderboard)] =
            [⟨.submitScore ⟨req.playerID, "s1", req.score, req.idempotencyKey, ⟨1⟩⟩, none⟩] ∧
          (⟨statusAccepted, none⟩ : Response) = ⟨statusAccepted, none⟩) :=
  by
    refine ⟨?path, (command_handlers_write_before_success ⟨1⟩).2.2 ?path⟩
    exact .call (.done _)

/-- `CreateGroup` asks the provider for the group before `NewGroup` can refuse it, and never
undoes that call. No run that fails has saved a group locally; and every request with a valid
creator and an empty name fails that way once the provider has created a group with a valid id,
which the API answers `400` with "group name required", leaving the provider's group with no
local record. -/
theorem createGroup_failure_leaves_provider_group (now : Time) :
    (∀ {cmd calls err}, Proc.Path (createGroup now cmd) calls (.error err) →
      ∀ g, (⟨.save g, none⟩ : Exchange Groups) ∉ calls) ∧
    ∀ (req : CreateGroupRequest) (result : CreateGroupResult),
      PlayerID.validate req.creatorID = .ok () → req.name = "" → result.groupID.validate = .ok () →
      Proc.Path (handleCreateGroup now (.ok req))
        [⟨.createGroup ⟨req.name, req.description, req.creatorID, req.avatarURL, req.langTag,
          req.«open»⟩, .ok result⟩] (writeError statusBadRequest ErrNameRequired) := by
  refine ⟨fun path g => ?_, fun req result valid blank provided => ?_⟩
  · unfold createGroup at path
    split at path
    · simp [(Proc.path_done.mp path).1]
    · obtain ⟨reply, rest, rfl, created⟩ := Proc.path_call.mp path
      cases reply with
      | error e => simp [(Proc.path_done.mp created).1]
      | ok result =>
        dsimp only at created
        split at created
        · simp [(Proc.path_done.mp created).1]
        · obtain ⟨saved, rest, rfl, answered⟩ := Proc.path_call.mp created
          cases saved with
          | some e => simp [(Proc.path_done.mp answered).1]
          | none => cases (Proc.path_done.mp answered).2
  · have refused : newGroup result.groupID req.name req.creatorID now = .error ErrNameRequired := by
      simp [newGroup, provided, valid, blank, bind, Except.bind, throw, throwThe,
        MonadExceptOf.throw]
    simp only [handleCreateGroup, serve, createGroup, valid, Proc.bind]
    exact .call (by simp only [refused]; exact .done _)

def unnamedGroupP1 : CreateGroupRequest := ⟨"p1", "", "", false, "", ""⟩

theorem createGroup_failure_leaves_provider_group_unnamed :
    PlayerID.validate unnamedGroupP1.creatorID = .ok () ∧ unnamedGroupP1.name = "" ∧
      GroupID.validate "g1" = .ok () ∧
      Proc.Path (handleCreateGroup ⟨1⟩ (.ok unnamedGroupP1))
        [⟨.createGroup ⟨"", "", "p1", "", "", false⟩, .ok ⟨"g1", "h1"⟩⟩]
        (writeError statusBadRequest ErrNameRequired) :=
  ⟨rfl, rfl, rfl,
    (createGroup_failure_leaves_provider_group ⟨1⟩).2 unnamedGroupP1 ⟨"g1", "h1"⟩ rfl rfl rfl⟩

/-! ## The bot webhook -/

/-- `BotWebhookRequest`; `json` has already base64-decoded the payload. -/
structure BotWebhookRequest where
  commandID : String
  channel : String
  playerID : String
  payload : List UInt8
  idempotencyKey : String

def BotWebhookRequest.input (req : BotWebhookRequest) : CommandInput :=
  ⟨req.commandID, req.channel, req.playerID, req.payload, req.idempotencyKey⟩

def handleBotWebhook (s : BotService) (now : Time) (decoded : Except GoError BotWebhookRequest) :
    Proc Bot Response :=
  serve decoded (fun req => s.handle now req.input) statusBadRequest fun out =>
    writeJSON statusAccepted (.obj [("accepted", .bool out.accepted)])

/-- The webhook never answers `"accepted": false`: it answers `202` with `"accepted": true`, or
`400` with an error. A `202` comes only for a key whose stored command had completed, or after
the command `NewCommand` built from the request was saved and, when the service has a producer,
enqueued. -/
theorem handleBotWebhook_answers (s : BotService) (now : Time)
    {decoded : Except GoError BotWebhookRequest} {calls : List (Exchange Bot)} {resp : Response}
    (path : Proc.Path (handleBotWebhook s now decoded) calls resp) :
    (∃ err, resp = writeError statusBadRequest err) ∨
      resp = writeJSON statusAccepted (.obj [("accepted", .bool true)]) ∧
        ∃ req, decoded = .ok req ∧
          ((∃ c, calls = [⟨.reserveCommand req.idempotencyKey, .ok c⟩] ∧
              c.state = .completed) ∨
            ∃ cmd, newCommand req.commandID req.channel req.payload req.idempotencyKey now =
                .ok cmd ∧ ⟨.save cmd, none⟩ ∈ calls ∧
              (s.hasProducer = true → ⟨.enqueue cmd, none⟩ ∈ calls)) := by
  rcases serve_path path with ⟨err, -, -, rfl⟩ | ⟨req, result, rfl, called, rfl⟩
  · exact .inl ⟨err, rfl⟩
  cases result with
  | error err => exact .inl ⟨err, rfl⟩
  | ok out =>
    obtain ⟨accepted, stored⟩ := BotService.handleTrace_accepted (BotService.handle_trace called.after)
    exact .inr ⟨by simp only [respond, accepted], req, rfl, stored⟩

def webhookC1 : BotWebhookRequest := ⟨"c1", "chat", "p1", [], "k1"⟩

theorem handleBotWebhook_answers_fresh :
    ∃ cmd, newCommand "c1" "chat" [] "k1" ⟨1⟩ = .ok cmd ∧
      Proc.Path (handleBotWebhook ⟨true, false⟩ ⟨1⟩ (.ok webhookC1))
        [⟨.reserveCommand "k1", .error ErrNotFound⟩, ⟨.save cmd, none⟩, ⟨.enqueue cmd, none⟩]
        (writeJSON statusAccepted (.obj [("accepted", .bool true)])) ∧
      ((∃ err, writeJSON statusAccepted (.obj [("accepted", .bool true)]) =
          writeError statusBadRequest err) ∨
        writeJSON statusAccepted (.obj [("accepted", .bool true)]) =
            writeJSON statusAccepted (.obj [("accepted", .bool true)]) ∧
          ∃ req, (.ok webhookC1 : Except GoError BotWebhookRequest) = .ok req ∧
            ((∃ c, [⟨.reserveCommand "k1", .error ErrNotFound⟩, ⟨.save cmd, none⟩,
                  ⟨.enqueue cmd, none⟩] = [(⟨.reserveCommand req.idempotencyKey, .ok c⟩ : Exchange Bot)] ∧
                c.state = .completed) ∨
              ∃ cmd', newCommand req.commandID req.channel req.payload req.idempotencyKey ⟨1⟩ =
                  .ok cmd' ∧
                (⟨.save cmd', none⟩ : Exchange Bot) ∈ [⟨.reserveCommand "k1", .error ErrNotFound⟩,
                  ⟨.save cmd, none⟩, ⟨.enqueue cmd, none⟩] ∧
                ((⟨true, false⟩ : BotService).hasProducer = true →
                  (⟨.enqueue cmd', none⟩ : Exchange Bot) ∈ [⟨.reserveCommand "k1", .error ErrNotFound⟩,
                    ⟨.save cmd, none⟩, ⟨.enqueue cmd, none⟩]))) :=
  by
    refine ⟨_, rfl, ?path, handleBotWebhook_answers _ _ ?path⟩
    exact .call (.call (.call (.done _)))

end Api

end Sandai
