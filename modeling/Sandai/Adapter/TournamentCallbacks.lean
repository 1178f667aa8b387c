import Sandai.Semantics.Proc

/-! The tournament and leaderboard callbacks of the Nakama module (`sample_go_module`):
`tournamentEndCallback`, `tournamentResetCallback` and `leaderboardResetCallback`.

The three share one body: list the top record of the tournament or leaderboard, and, when
there is one, set its owner's account metadata to a single key holding the id. They differ in
the key, in the error texts, and in the period listed: the two reset-time callbacks list the
period their `reset` argument names, the tournament reset callback lists with expiry `0`
whatever it is given. Of a record, only the owner id is read; of `AccountUpdateId`, only the
user id and the metadata are set, every other argument being empty.
-/

set_option autoImplicit false

namespace Sandai

/-- The runtime calls the callbacks make: `nk.LeaderboardRecordsList` with no owner ids and an
empty cursor, and `nk.AccountUpdateId` with the metadata map. -/
inductive RecordsOp where
  | leaderboardRecordsList (id : String) (limit : Int) (expiry : Int)
  | accountUpdateId (userID : String) (metadata : List (String × String))
  deriving DecidableEq

def RecordsOp.Reply : RecordsOp → Type
  | .leaderboardRecordsList _ _ _ => Except GoError (List String)
  | .accountUpdateId _ _ => Option GoError

def Records : Signature := ⟨RecordsOp, RecordsOp.Reply⟩

/-- The body the three callbacks share: the top record of `id` at `expiry`, and its owner's
metadata set to `key` holding `id`. -/
def markTopOwner (id : String) (expiry : Int) (key fetching updating : String) :
    Proc Records (Option GoError) :=
  .call (.leaderboardRecordsList id 1 expiry) fun
    | .error err => .done (some (.wrap fetching err))
    | .ok [] => .done none
    | .ok (owner :: _) => .call (.accountUpdateId owner [(key, id)]) fun
      | some err => .done (some (.wrap updating err))
      | none => .done none

/-- `tournamentEndCallback`: the winner of the period that ended gets `won`. -/
def tournamentEndCallback (tournamentID : String) (reset : Int) : Proc Records (Option GoError) :=
  markTopOwner tournamentID reset "won" "fetching tournament records: "
    "updating winner account metadata: "

/-- `tournamentResetCallback`: it lists with expiry `0`, not at its `reset` argument. -/
def tournamentResetCallback (tournamentID : String) : Proc Records (Option GoError) :=
  markTopOwner tournamentID 0 "expiry_tournament" "fetching tournament records: "
    "updating account metadata on tournament reset: "

def leaderboardResetCallback (leaderboardID : String) (reset : Int) :
    Proc Records (Option GoError) :=
  markTopOwner leaderboardID reset "expiry_leaderboard" "fetching leaderboard records: "
    "updating account metadata on leaderboard reset: "

theorem markTopOwner_path {id key fetching updating : String} {expiry : Int}
    {calls : List (Exchange Records)} {result : Option GoError} :
    Proc.Path (markTopOwner id expiry key fetching updating) calls result ↔
      (∃ err, calls = [⟨.leaderboardRecordsList id 1 expiry, .error err⟩] ∧
          result = some (.wrap fetching err)) ∨
        (calls = [⟨.leaderboardRecordsList id 1 expiry, .ok []⟩] ∧ result = none) ∨
        ∃ owner others r, calls = [⟨.leaderboardRecordsList id 1 expiry, .ok (owner :: others)⟩,
            ⟨.accountUpdateId owner [(key, id)], r⟩] ∧ result = r.map (.wrap updating) := by
  constructor
  · simp only [markTopOwner, Proc.path_call]
    rintro ⟨listed, rest, rfl, path⟩
    rcases listed with err | _ | ⟨owner, others⟩
    · obtain ⟨rfl, rfl⟩ := Proc.path_done.mp path
      exact .inl ⟨err, rfl, rfl⟩
    · obtain ⟨rfl, rfl⟩ := Proc.path_done.mp path
      exact .inr (.inl ⟨rfl, rfl⟩)
    · obtain ⟨r, rest', rfl, updated⟩ := Proc.path_call.mp path
      refine .inr (.inr ⟨owner, others, r, ?_⟩)
      cases r <;> obtain ⟨rfl, rfl⟩ := Proc.path_done.mp updated <;> exact ⟨rfl, rfl⟩
  · rintro (⟨err, rfl, rfl⟩ | ⟨rfl, rfl⟩ | ⟨owner, others, r, rfl, rfl⟩)
    · exact .call (.done _)
    · exact .call (.done _)
    · cases r <;> exact .call (.call (.done _))

end Sandai
