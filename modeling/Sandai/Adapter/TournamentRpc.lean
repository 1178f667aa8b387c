import Sandai.Store.Memory

/-! The tournament RPCs of the Nakama module (`sample_go_module`): the legacy handlers, which call
the Nakama runtime directly, and those that go through `TournamentServiceAdapter`, whose
service runs on fresh in-memory repositories and the `NakamaProviderImpl` provider.

Both create handlers decode the payload with `decodeTournamentCreatePayload`, so decoding is
shared and not modelled: the handlers here start from the decoded payload, whose numbers Go's
decoder has already checked to fit an `int`. Both pass a nil metadata map and
`enableRanks = false` to `TournamentCreate`; those two arguments are left out. A successful
create returns the tournament id, which the Go handlers encode as a JSON object.
-/

set_option autoImplicit false

namespace Sandai

structure TournamentCreatePayload where
  authoritative : Bool
  sortOrder : String
  operator : String
  resetSchedule : String
  title : String
  description : String
  category : Int
  startTime : Int
  endTime : Int
  duration : Int
  maxSize : Int
  maxNumScore : Int
  joinRequired : Bool
  deriving DecidableEq, Repr

/-- The decoded numbers fit Go's 64-bit `int`. -/
def TournamentCreatePayload.Decoded (payload : TournamentCreatePayload) : Prop :=
  ∀ n ∈ [payload.category, payload.startTime, payload.endTime, payload.duration,
    payload.maxSize, payload.maxNumScore], -2 ^ 63 ≤ n ∧ n < 2 ^ 63

structure TournamentAddAttemptPayload where
  tournamentID : String
  ownerID : String
  count : Int
  deriving DecidableEq, Repr

/-- The arguments of `nk.TournamentCreate`, in its order. -/
structure TournamentCreateArgs where
  id : String
  authoritative : Bool
  sortOrder : String
  operator : String
  resetSchedule : String
  title : String
  description : String
  category : Int
  startTime : Int
  endTime : Int
  duration : Int
  maxSize : Int
  maxNumScore : Int
  joinRequired : Bool
  deriving DecidableEq, Repr

/-- The Nakama runtime calls the handlers make. -/
inductive NakamaOp where
  | tournamentCreate (args : TournamentCreateArgs)
  | tournamentDelete (id : String)
  | tournamentAddAttempt (id ownerID : String) (count : Int)
  deriving DecidableEq

def Nakama : Signature := ⟨NakamaOp, fun _ => Option GoError⟩

/-! ## The legacy handlers -/

def createTournamentLegacy (id : String) (args : TournamentCreatePayload) :
    Proc Nakama (Option GoError) :=
  .call (.tournamentCreate ⟨id, args.authoritative, args.sortOrder, args.operator,
      args.resetSchedule, args.title, args.description, args.category, args.startTime,
      args.endTime, args.duration, args.maxSize, args.maxNumScore, args.joinRequired⟩) fun
    | some err => .done (some (.wrap ("creating tournament " ++ id ++ ": ") err))
    | none => .done none

/-- `rpcCreateTournament` after decoding; `generated` is what `uuid.NewV4` returned. -/
def rpcCreateTournament (generated : Except GoError String) (args : TournamentCreatePayload) :
    Proc Nakama (Except GoError String) :=
  match generated with
  | .error err => .done (.error (.wrap "generating tournament id: " err))
  | .ok id => (createTournamentLegacy id args).bind fun
    | some err => .done (.error err)
    | none => .done (.ok id)

/-- `rpcCreateSameTournamentMultipleTimes` after decoding: `createTournament` twice with one
generated id. -/
def rpcCreateSameTournamentMultipleTimes (generated : Except GoError String)
    (args : TournamentCreatePayload) : Proc Nakama (Except GoError String) :=
  match generated with
  | .error err => .done (.error (.wrap "generating tournament id: " err))
  | .ok id => (createTournamentLegacy id args).bind fun
    | some err => .done (.error err)
    | none => (createTournamentLegacy id args).bind fun
      | some err => .done (.error err)
      | none => .done (.ok id)

/-- `rpcDeleteTournament` after decoding `tournamentIDPayload`. -/
def rpcDeleteTournament (tournamentID : String) : Proc Nakama (Except GoError String) :=
  if tournamentID = "" then .done (.error (.runtime "tournament_id is required" 3)) else
  .call (.tournamentDelete tournamentID) fun
    | some err => .done (.error (.wrap "deleting tournament: " err))
    | none => .done (.ok "{}")

/-- The checks both add-attempt handlers make on the decoded payload. -/
def checkAddAttemptPayload (args : TournamentAddAttemptPayload) : Option GoError :=
  if args.tournamentID = "" ∨ args.ownerID = "" then
    some (.runtime "tournament_id and owner_id are required" 3)
  else if args.count = 0 then some (.runtime "count must be non-zero" 3)
  else none

/-- `rpcAddAttemptTournament` after decoding. -/
def rpcAddAttemptTournament (args : TournamentAddAttemptPayload) :
    Proc Nakama (Except GoError String) :=
  match checkAddAttemptPayload args with
  | some err => .done (.error err)
  | none => .call (.tournamentAddAttempt args.tournamentID args.ownerID args.count) fun
    | some err => .done (.error (.wrap "adding tournament attempt: " err))
    | none => .done (.ok "{}")

theorem rpcCreateSameTournamentMultipleTimes_ok {generated : Except GoError String}
    {args : TournamentCreatePayload} {calls : List (Exchange Nakama)} {id : String}
    (succeeds : Proc.Path (rpcCreateSameTournamentMultipleTimes generated args) calls (.ok id)) :
    generated = .ok id ∧ ∃ createArgs next,
      calls = [⟨.tournamentCreate createArgs, none⟩, ⟨.tournamentCreate createArgs, none⟩] ∧
      rpcCreateTournament (.ok id) args = .call (.tournamentCreate createArgs) next := by
  cases generated with
  | error err => simp [rpcCreateSameTournamentMultipleTimes] at succeeds
  | ok id' =>
    simp only [rpcCreateSameTournamentMultipleTimes, createTournamentLegacy, Proc.bind,
      Proc.path_call] at succeeds
    obtain ⟨r, rest, rfl, first⟩ := succeeds
    cases r with
    | some err => simp [Proc.bind] at first
    | none =>
      obtain ⟨r', rest', rfl, second⟩ := Proc.path_call.mp first
      cases r' with
      | some err => simp [Proc.bind] at second
      | none =>
        obtain ⟨rfl, same⟩ := Proc.path_done.mp second
        cases same
        exact ⟨rfl, _, _, rfl, rfl⟩

/-! ## The handlers through the adapter -/

/-- `NakamaProviderImpl`: each provider call is one runtime call. -/
def nakamaProvider {A : Type} : Proc Provider A → Proc Nakama A
  | .done a => .done a
  | .call (.createTournament params) next =>
    .call (.tournamentCreate ⟨params.id, params.authoritative, params.sortOrder, params.operator,
        params.resetSchedule, params.title, params.description, params.category,
        params.startTime, params.endTime, params.duration, params.maxSize, params.maxNumScore,
        params.joinRequired⟩) fun r => nakamaProvider (next r)
  | .call (.deleteTournament id) next => .call (.tournamentDelete id) fun r => nakamaProvider (next r)
  | .call (.addAttempt t p count) next =>
    .call (.tournamentAddAttempt t p count) fun r => nakamaProvider (next r)

/-- The command `TournamentServiceAdapter.CreateTournament` builds: times through `time.Unix`,
the duration as `time.Duration(d) * time.Second` in 64-bit arithmetic, and an end time only
when the payload's is positive. -/
def adapterCommand (id : String) (payload : TournamentCreatePayload) : CreateTournamentCommand :=
  { id, title := payload.title, description := payload.description,
    category := payload.category, sortOrder := payload.sortOrder,
    operator := payload.operator, resetSchedule := payload.resetSchedule,
    authoritative := payload.authoritative, joinRequired := payload.joinRequired,
    maxSize := payload.maxSize, maxNumScore := payload.maxNumScore,
    startTime := Time.ofUnix payload.startTime,
    duration := toInt64 (payload.duration * 1000000000),
    endTime := if 0 < payload.endTime then some (Time.ofUnix payload.endTime) else none }

/-- `rpcCreateTournamentWithAdapter` after decoding, on a fresh adapter whose clock reads `now`. -/
def rpcCreateTournamentWithAdapter (generated : Except GoError String) (now : Time)
    (payload : TournamentCreatePayload) : Proc Nakama (Except GoError String) :=
  match generated with
  | .error err => .done (.error (.wrap "generating tournament id: " err))
  | .ok id =>
    (nakamaProvider (TournamentService.withMemory
      (TournamentService.createTournament now (adapterCommand id payload)) .empty)).bind fun
    | (.error err, _) => .done (.error err)
    | (.ok tournamentID, _) => .done (.ok tournamentID)

/-- `rpcAddAttemptTournamentWithAdapter` after decoding, on a fresh adapter. -/
def rpcAddAttemptTournamentWithAdapter (now : Time) (args : TournamentAddAttemptPayload) :
    Proc Nakama (Except GoError String) :=
  match checkAddAttemptPayload args with
  | some err => .done (.error err)
  | none =>
    (nakamaProvider (TournamentService.withMemory
      (TournamentService.addAttempt now ⟨args.tournamentID, args.ownerID, args.count⟩)
      .empty)).bind fun
    | (some err, _) => .done (.error (.wrap "adding tournament attempt: " err))
    | (none, _) => .done (.ok "{}")

/-- `rpcDeleteTournamentWithAdapter` after decoding, on a fresh adapter. -/
def rpcDeleteTournamentWithAdapter (tournamentID : String) : Proc Nakama (Except GoError String) :=
  if tournamentID = "" then .done (.error (.runtime "tournament_id is required" 3)) else
  (nakamaProvider (TournamentService.withMemory (TournamentService.deleteTournament tournamentID)
      .empty)).bind fun
    | (some err, _) => .done (.error (.wrap "deleting tournament: " err))
    | (none, _) => .done (.ok "{}")

end Sandai

namespace Sandai

open TournamentService

/-! ## What the adapter's service leaves for the runtime -/

theorem withMemory_createTournament (now : Time) (cmd : CreateTournamentCommand)
    (m : MemoryStores) :
    (∃ err, withMemory (createTournament now cmd) m = .done (.error err, m)) ∨
      ∃ (t : Tournament) (m' : MemoryStores), withMemory (createTournament now cmd) m =
        .call (.createTournament cmd.params) fun r =>
          .done ((match r with
            | some err => .error err
            | none => .ok t.id), m') := by
  unfold createTournament
  cases newTournament cmd.id cmd.title cmd.description cmd.category cmd.sortOrder cmd.operator
    cmd.resetSchedule cmd.authoritative cmd.joinRequired cmd.maxSize cmd.maxNumScore
    cmd.startTime cmd.duration now with
  | error err => exact .inl ⟨err, rfl⟩
  | ok t =>
    refine .inr ⟨t, { m with tournaments := m.tournaments.save t }, ?_⟩
    simp only [withMemory]
    congr 1
    funext r
    cases r <;> rfl

theorem withMemory_addAttempt_empty (now : Time) (cmd : AddAttemptCommand) :
    (∃ err m, withMemory (addAttempt now cmd) .empty = .done (some err, m)) ∨
      ∃ m, withMemory (addAttempt now cmd) .empty =
        .call (.addAttempt cmd.tournamentID cmd.playerID cmd.count) fun r => .done (r, m) := by
  unfold addAttempt
  cases cmd.tournamentID.validate <;> cases cmd.playerID.validate
  all_goals try exact .inl ⟨_, _, rfl⟩
  by_cases positive : cmd.count ≤ 0
  · exact .inl ⟨ErrInvalidAttemptCount, .empty, by simp [positive, withMemory]⟩
  · cases made : newParticipant cmd.tournamentID cmd.playerID now with
    | error err =>
      exact .inl ⟨err, .empty, by
        simp [positive, withMemory, MemoryParticipantRepository.get, MemoryStores.empty,
          MemoryParticipantRepository.empty, made]⟩
    | ok participant =>
      exact .inr ⟨_, by
        simp only [positive, withMemory, MemoryParticipantRepository.get, MemoryStores.empty,
          MemoryParticipantRepository.empty, made, if_true, if_false, recordAttempts,
          Participant.addAttempts_of_pos participant (not_le.mp positive)]
        rfl⟩

/-! ## The adapter's runtime calls against the legacy handlers' -/

theorem rpcCreateTournamentWithAdapter_call {generated : Except GoError String} {now : Time}
    {payload : TournamentCreatePayload} (decoded : payload.Decoded)
    {calls : List (Exchange Nakama)} {result : String}
    (succeeds : Proc.Path (rpcCreateTournamentWithAdapter generated now payload) calls
      (.ok result)) :
    ∃ id args legacyArgs next, generated = .ok id ∧ calls = [⟨.tournamentCreate args, none⟩] ∧
      rpcCreateTournament (.ok id) payload = .call (.tournamentCreate legacyArgs) next ∧
      args = { legacyArgs with
        endTime := if 0 < payload.endTime then payload.endTime else 0
        duration := (Duration.seconds (toInt64 (payload.duration * 1000000000))).toInt } := by
  cases generated with
  | error err => simp [rpcCreateTournamentWithAdapter] at succeeds
  | ok id =>
    rcases withMemory_createTournament now (adapterCommand id payload) .empty with
      ⟨err, same⟩ | ⟨t, m, same⟩
    · simp [rpcCreateTournamentWithAdapter, same, nakamaProvider, Proc.bind] at succeeds
    · simp only [rpcCreateTournamentWithAdapter, same, nakamaProvider, Proc.bind,
        Proc.path_call] at succeeds
      obtain ⟨r, rest, rfl, finished⟩ := succeeds
      cases r with
      | some err => simp at finished
      | none =>
        obtain ⟨rfl, -⟩ := Proc.path_done.mp finished
        obtain ⟨startLow, startHigh⟩ := decoded payload.startTime (by simp)
        obtain ⟨endLow, endHigh⟩ := decoded payload.endTime (by simp)
        refine ⟨id, _, _, _, rfl, rfl, rfl, ?_⟩
        simp only [adapterCommand, CreateTournamentCommand.params, TournamentCreateArgs.mk.injEq,
          Time.unix_ofUnix startLow startHigh, true_and]
        split_ifs <;> simp [Time.unix_ofUnix endLow endHigh]

theorem rpcAddAttemptTournamentWithAdapter_call {now : Time}
    {args : TournamentAddAttemptPayload} {calls : List (Exchange Nakama)} {result : String}
    (succeeds : Proc.Path (rpcAddAttemptTournamentWithAdapter now args) calls (.ok result)) :
    ∃ next, calls = [⟨.tournamentAddAttempt args.tournamentID args.ownerID args.count, none⟩] ∧
      rpcAddAttemptTournament args =
        .call (.tournamentAddAttempt args.tournamentID args.ownerID args.count) next := by
  unfold rpcAddAttemptTournamentWithAdapter at succeeds
  cases checked : checkAddAttemptPayload args with
  | some err => simp [checked] at succeeds
  | none =>
    refine ⟨_, ?_, by unfold rpcAddAttemptTournament; rw [checked]⟩
    rcases withMemory_addAttempt_empty now ⟨args.tournamentID, args.ownerID, args.count⟩ with
      ⟨err, m, same⟩ | ⟨m, same⟩
    · simp [checked, same, nakamaProvider, Proc.bind] at succeeds
    · simp only [checked, same, nakamaProvider, Proc.bind, Proc.path_call] at succeeds
      obtain ⟨r, rest, rfl, finished⟩ := succeeds
      cases r with
      | some err => simp at finished
      | none => obtain ⟨rfl, -⟩ := Proc.path_done.mp finished; rfl

theorem seconds_of_whole_duration {n : Int} (low : -2 ^ 63 ≤ n * 1000000000)
    (high : n * 1000000000 < 2 ^ 63) :
    (Duration.seconds (toInt64 (n * 1000000000))).toInt = n := by
  rw [toInt64_of_range low high]
  exact seconds_whole (by omega)

/-- The adapter's create and add-attempt handlers, when they succeed, make the legacy handlers'
runtime call with the same arguments, except that the create call's end time is `0` for a
non-positive payload value and its duration is `n` only when `n` seconds fit a `Duration`. -/
theorem tournament_rpc_adapter_agrees :
    (∀ (generated : Except GoError String) now (payload : TournamentCreatePayload) calls
        (result : String), payload.Decoded →
      Proc.Path (rpcCreateTournamentWithAdapter generated now payload) calls (.ok result) →
      ∃ id args legacyArgs next, generated = .ok id ∧ calls = [⟨.tournamentCreate args, none⟩] ∧
        rpcCreateTournament (.ok id) payload = .call (.tournamentCreate legacyArgs) next ∧
        args = { legacyArgs with
          endTime := if 0 < payload.endTime then payload.endTime else 0
          duration := (Duration.seconds (toInt64 (payload.duration * 1000000000))).toInt } ∧
        (-2 ^ 63 ≤ payload.duration * 1000000000 → payload.duration * 1000000000 < 2 ^ 63 →
          args.duration = legacyArgs.duration)) ∧
    (∀ now (args : TournamentAddAttemptPayload) calls (result : String),
      Proc.Path (rpcAddAttemptTournamentWithAdapter now args) calls (.ok result) →
      ∃ next, calls = [⟨.tournamentAddAttempt args.tournamentID args.ownerID args.count, none⟩] ∧
        rpcAddAttemptTournament args =
          .call (.tournamentAddAttempt args.tournamentID args.ownerID args.count) next) := by
  refine ⟨fun generated now payload calls result decoded succeeds => ?_,
    fun now args calls result succeeds => rpcAddAttemptTournamentWithAdapter_call succeeds⟩
  obtain ⟨id, args, legacyArgs, next, rfl, rfl, legacy, rfl⟩ :=
    rpcCreateTournamentWithAdapter_call decoded succeeds
  refine ⟨id, _, legacyArgs, next, rfl, rfl, legacy, rfl, fun low high => ?_⟩
  simp only [rpcCreateTournament, createTournamentLegacy, Proc.bind, Proc.call.injEq] at legacy
  rw [← NakamaOp.tournamentCreate.inj legacy.1]
  exact seconds_of_whole_duration low high

/-- The adapter's delete handler is the legacy one, as a program: for every id the same single
`TournamentDelete` call and, for every reply, the same result. The one exception is a non-empty
id made only of white space, which the service's `Validate` rejects before any runtime call,
where the legacy handler sends it to Nakama. -/
theorem rpcDeleteTournamentWithAdapter_eq (tournamentID : String) :
    rpcDeleteTournamentWithAdapter tournamentID =
      if tournamentID ≠ "" ∧ trimSpace tournamentID = "" then
        .done (.error (.wrap "deleting tournament: " (.new "tournament id is required")))
      else rpcDeleteTournament tournamentID := by
  unfold rpcDeleteTournamentWithAdapter rpcDeleteTournament deleteTournament
  by_cases empty : tournamentID = ""
  · simp [empty]
  · by_cases blank : trimSpace tournamentID = ""
    · simp [empty, blank, TournamentID.validate, validateId, withMemory, nakamaProvider, Proc.bind]
    · have valid : TournamentID.validate tournamentID = .ok () := (validateId_ok _ _).mpr blank
      simp only [empty, blank, valid, if_false, and_false, withMemory, nakamaProvider,
        Proc.bind]
      congr 1
      funext r
      cases r <;> rfl

def endlessCup : TournamentCreatePayload :=
  ⟨true, "desc", "best", "", "Cup", "", 0, 100, -1, 0, 10, 0, false⟩

/-- On a payload with a negative end time the adapter succeeds and sends end time `0`, where the
legacy handler sends `-1`. -/
theorem rpcCreateTournament_adapter_end_time :
    ∃ args legacyArgs next,
      Proc.Path (rpcCreateTournamentWithAdapter (.ok "t1") (Time.ofUnix 50) endlessCup)
        [⟨.tournamentCreate args, none⟩] (.ok "t1") ∧
      rpcCreateTournament (.ok "t1") endlessCup = .call (.tournamentCreate legacyArgs) next ∧
      args.endTime = 0 ∧ legacyArgs.endTime = -1 :=
  ⟨_, _, _, .call (.done _), rfl, rfl, rfl⟩

theorem tournament_rpc_adapter_agrees_endless_cup :
    ∃ calls, endlessCup.Decoded ∧
      Proc.Path (rpcCreateTournamentWithAdapter (.ok "t1") (Time.ofUnix 50) endlessCup) calls
        (.ok "t1") ∧
      ∃ id args legacyArgs next, (.ok "t1" : Except GoError String) = .ok id ∧
        calls = [⟨.tournamentCreate args, none⟩] ∧
        rpcCreateTournament (.ok id) endlessCup = .call (.tournamentCreate legacyArgs) next ∧
        args = { legacyArgs with
          endTime := if 0 < endlessCup.endTime then endlessCup.endTime else 0
          duration := (Duration.seconds (toInt64 (endlessCup.duration * 1000000000))).toInt } ∧
        (-2 ^ 63 ≤ endlessCup.duration * 1000000000 → endlessCup.duration * 1000000000 < 2 ^ 63 →
          args.duration = legacyArgs.duration) := by
  have decoded : endlessCup.Decoded := by
    simp only [TournamentCreatePayload.Decoded, endlessCup]
    decide
  obtain ⟨args, path⟩ : ∃ args, Proc.Path
      (rpcCreateTournamentWithAdapter (.ok "t1") (Time.ofUnix 50) endlessCup)
      [⟨.tournamentCreate args, none⟩] (.ok "t1") := ⟨_, .call (.done _)⟩
  exact ⟨_, decoded, path, tournament_rpc_adapter_agrees.1 _ _ _ _ _ decoded path⟩

end Sandai
