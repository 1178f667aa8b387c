import Sandai.Shared.Types

/-! The request hooks `InitModule` registers (`infra/runtime`): `beforeAuthenticateDevice` and
`beforeWriteLeaderboardRecord`. A before-hook returns the request Nakama goes on with, or an
error that rejects the call. `afterAuthenticateDevice` only writes a log line.

`beforeWriteLeaderboardRecord` stamps a record without metadata with the JSON object
`{"validated_at": ...}` of the wall clock, `time.Now().UTC()`; the text `json.Marshal` writes
for that reading is the parameter `validatedAt`.
-/

set_option autoImplicit false

namespace Sandai

/-- `runtime.BadInputError(message, nil)`: the message with gRPC code `InvalidArgument`. -/
def badInputError (message : String) : GoError := .runtime message 3

structure AccountDevice where
  id : String
  vars : List (String × String)
  deriving DecidableEq, Repr

/-- `api.AuthenticateDeviceRequest`; `Account` is a pointer. -/
structure AuthenticateDeviceRequest where
  account : Option AccountDevice
  create : Option Bool
  username : String
  deriving DecidableEq, Repr

def beforeAuthenticateDevice (req : AuthenticateDeviceRequest) :
    Except GoError AuthenticateDeviceRequest :=
  match req.account with
  | some account => if account.id = "" then .error (badInputError "device id required") else .ok req
  | none => .error (badInputError "device id required")

/-- `api.WriteLeaderboardRecordRequest_LeaderboardRecordWrite`; `Operator` is the enum's
number. -/
structure LeaderboardRecordWrite where
  score : Int
  subscore : Int
  metadata : String
  operator : Int
  deriving DecidableEq, Repr

/-- `api.WriteLeaderboardRecordRequest`; `Record` is a pointer. -/
structure WriteLeaderboardRecordRequest where
  leaderboardID : String
  record : Option LeaderboardRecordWrite
  deriving DecidableEq, Repr

/-- `beforeWriteLeaderboardRecord`; the error of `json.Marshal` is discarded and cannot occur on a
map holding one time. -/
def beforeWriteLeaderboardRecord (validatedAt : String) (req : WriteLeaderboardRecordRequest) :
    Except GoError WriteLeaderboardRecordRequest :=
  match req.record with
  | none => .error (badInputError "missing leaderboard record")
  | some record =>
    if record.metadata = "" then
      .ok { req with
        record := some { record with
          metadata := "\x7b\"validated_at\":" ++ validatedAt ++ "\x7d" } }
    else .ok req

theorem validatedAt_stamp_ne_empty (validatedAt : String) :
    "\x7b\"validated_at\":" ++ validatedAt ++ "\x7d" ≠ "" := by
  intro blank
  have := congrArg String.length blank
  simp only [String.length_append, String.length_empty, Nat.add_eq_zero] at this
  exact absurd this.2 (by decide)

theorem beforeAuthenticateDevice_ok (req next : AuthenticateDeviceRequest) :
    beforeAuthenticateDevice req = .ok next ↔
      next = req ∧ ∃ account, req.account = some account ∧ account.id ≠ "" := by
  unfold beforeAuthenticateDevice
  split
  · split_ifs with blank <;> simp_all [eq_comm]
  · simp_all

theorem beforeWriteLeaderboardRecord_passes_iff (validatedAt : String)
    (req : WriteLeaderboardRecordRequest) :
    (∃ next, beforeWriteLeaderboardRecord validatedAt req = .ok next) ↔ req.record.isSome := by
  unfold beforeWriteLeaderboardRecord
  split
  · simp_all
  · rename_i found
    simp only [found, Option.isSome_some, iff_true]
    split_ifs <;> exact ⟨_, rfl⟩

theorem beforeWriteLeaderboardRecord_stamps {validatedAt : String}
    {req next : WriteLeaderboardRecordRequest}
    (passed : beforeWriteLeaderboardRecord validatedAt req = .ok next) :
    ∃ record record', req.record = some record ∧ next = { req with record := some record' } ∧
      record' = { record with metadata := record'.metadata } ∧ record'.metadata ≠ "" ∧
      (record.metadata ≠ "" → record' = record) ∧
      ∀ later, beforeWriteLeaderboardRecord later next = .ok next := by
  unfold beforeWriteLeaderboardRecord at passed
  split at passed
  · cases passed
  · rename_i record found
    split_ifs at passed with empty <;> cases passed
    · refine ⟨record, _, found, rfl, rfl, validatedAt_stamp_ne_empty validatedAt,
        fun set => absurd empty set, fun later => ?_⟩
      simp only [beforeWriteLeaderboardRecord]
      rw [if_neg (validatedAt_stamp_ne_empty validatedAt)]
    · refine ⟨record, record, found, ?_, rfl, empty, fun _ => rfl, fun later => ?_⟩
      · cases req; simp_all
      simp only [beforeWriteLeaderboardRecord, found, if_neg empty]

/-- The record hook rejects exactly the requests without a record. What it lets through differs
from the request at most in the metadata, which it sets only when it was empty, to a non-empty
text; so a request it returns goes through it again unchanged, whatever the clock reads then. -/
theorem beforeWriteLeaderboardRecord_ok (validatedAt : String) (req : WriteLeaderboardRecordRequest) :
    ((∃ next, beforeWriteLeaderboardRecord validatedAt req = .ok next) ↔ req.record.isSome) ∧
      ∀ next, beforeWriteLeaderboardRecord validatedAt req = .ok next →
        ∃ record record', req.record = some record ∧ next = { req with record := some record' } ∧
          record' = { record with metadata := record'.metadata } ∧ record'.metadata ≠ "" ∧
          (record.metadata ≠ "" → record' = record) ∧
          ∀ later, beforeWriteLeaderboardRecord later next = .ok next :=
  ⟨beforeWriteLeaderboardRecord_passes_iff validatedAt req,
    fun _ passed => beforeWriteLeaderboardRecord_stamps passed⟩

def blankScoreWrite : WriteLeaderboardRecordRequest := ⟨"lb1", some ⟨10, 0, "", 2⟩⟩
def stampedScoreWrite : WriteLeaderboardRecordRequest :=
  ⟨"lb1", some ⟨10, 0, "\x7b\"validated_at\":" ++ "1" ++ "\x7d", 2⟩⟩

theorem beforeWriteLeaderboardRecord_ok_stamped :
    beforeWriteLeaderboardRecord "1" blankScoreWrite = .ok stampedScoreWrite ∧
      ((∃ next, beforeWriteLeaderboardRecord "1" blankScoreWrite = .ok next) ↔
        blankScoreWrite.record.isSome) ∧
      ∃ record record', blankScoreWrite.record = some record ∧
        stampedScoreWrite = { blankScoreWrite with record := some record' } ∧
        record' = { record with metadata := record'.metadata } ∧ record'.metadata ≠ "" ∧
        (record.metadata ≠ "" → record' = record) ∧
        ∀ later, beforeWriteLeaderboardRecord later stampedScoreWrite = .ok stampedScoreWrite :=
  ⟨rfl, (beforeWriteLeaderboardRecord_ok "1" blankScoreWrite).1,
    (beforeWriteLeaderboardRecord_ok "1" blankScoreWrite).2 _ rfl⟩

end Sandai
