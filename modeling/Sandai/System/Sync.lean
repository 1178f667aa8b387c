import Sandai.Service.Tournaments

/-! The local store and the external system behind `tournaments.Service`, with every repository
and provider call free to succeed or fail.

The local store is changed only by successful repository writes and the external system only
by successful provider calls. A failed call changes nothing; a failed `Participants.Get`
returns an error other than `ErrParticipantNotFound`, which the service reads as "absent".
-/

set_option autoImplicit false

namespace Sandai

/-- The local repositories, with participants by pair, and what the external system holds:
the tournaments it has and the attempts it has accumulated per pair. -/
structure SyncState where
  tournaments : TournamentID → Option Tournament
  participants : TournamentID × PlayerID → Option Participant
  external : TournamentID → Bool
  externalAttempts : TournamentID × PlayerID → Int

def SyncState.empty : SyncState := ⟨fun _ => none, fun _ => none, fun _ => false, fun _ => 0⟩

def TournamentOp.failed : (o : TournamentOp) → GoError → TournamentOp.Reply o
  | .get _, err | .list _ _, err | .getParticipant _ _, err => .error err
  | .save _, err | .delete _, err | .saveParticipant _, err | .createTournament _, err
  | .deleteTournament _, err | .addAttempt _ _ _, err => some err

/-- What each call of the service can answer, and its effect. -/
inductive SyncWorld : (o : Tournaments.Op) → SyncState → Tournaments.Reply o → SyncState → Prop
  where
  | saved {s : SyncState} {t : Tournament} :
      SyncWorld (.save t) s none { s with tournaments := Function.update s.tournaments t.id (some t) }
  | deleted {s : SyncState} {id : TournamentID} :
      SyncWorld (.delete id) s none { s with tournaments := Function.update s.tournaments id none }
  | found {s : SyncState} {id : TournamentID} {t : Tournament} :
      s.tournaments id = some t → SyncWorld (.get id) s (.ok t) s
  | missing {s : SyncState} {id : TournamentID} :
      s.tournaments id = none → SyncWorld (.get id) s (.error ErrTournamentNotFound) s
  | listed {s : SyncState} {limit offset : Int} {page : List Tournament} :
      (∀ t ∈ page, s.tournaments t.id = some t) → SyncWorld (.list limit offset) s (.ok page) s
  | participantFound {s : SyncState} {t : TournamentID} {p : PlayerID} {participant : Participant} :
      s.participants (t, p) = some participant →
      SyncWorld (.getParticipant t p) s (.ok participant) s
  | participantMissing {s : SyncState} {t : TournamentID} {p : PlayerID} :
      s.participants (t, p) = none →
      SyncWorld (.getParticipant t p) s (.error ErrParticipantNotFound) s
  | participantSaved {s : SyncState} {participant : Participant} :
      SyncWorld (.saveParticipant participant) s none
        { s with
          participants := Function.update s.participants
            (participant.tournamentID, participant.playerID) (some participant) }
  | created {s : SyncState} {params : CreateTournamentParams} :
      SyncWorld (.createTournament params) s none
        { s with external := Function.update s.external params.id true }
  | removed {s : SyncState} {id : TournamentID} :
      SyncWorld (.deleteTournament id) s none
        { s with external := Function.update s.external id false }
  | attemptsAdded {s : SyncState} {t : TournamentID} {p : PlayerID} {count : Int} :
      SyncWorld (.addAttempt t p count) s none
        { s with
          externalAttempts := Function.update s.externalAttempts (t, p)
            (s.externalAttempts (t, p) + count) }
  | failed {o : TournamentOp} {s : SyncState} {err : GoError} :
      (∀ t p, o = .getParticipant t p → err ≠ ErrParticipantNotFound) →
      SyncWorld o s (o.failed err) s

/-! ## The attempts the two sides count -/

/-- Two accepted `AddAttempt` calls whose counts sum to `2^63`: the local `Attempts` wraps to
`-2^63` while the external system has accumulated `2^63`. -/
theorem addAttempt_external_ahead :
    ∃ s₁ s₂,
      Proc.Runs SyncWorld (TournamentService.addAttempt ⟨1⟩ ⟨"t1", "p1", 2 ^ 63 - 1⟩)
        SyncState.empty none s₁ ∧
      Proc.Runs SyncWorld (TournamentService.addAttempt ⟨2⟩ ⟨"t1", "p1", 1⟩) s₁ none s₂ ∧
      (s₂.participants ("t1", "p1")).map (·.attempts) = some (-2 ^ 63) ∧
      s₂.externalAttempts ("t1", "p1") = 2 ^ 63 :=
  ⟨_, _, .call (.participantMissing rfl) (.call .participantSaved (.call .attemptsAdded (.done _ _))),
    .call (.participantFound rfl) (.call .participantSaved (.call .attemptsAdded (.done _ _))),
    rfl, rfl⟩

/-! ## What an error tells the caller -/

def cup : CreateTournamentCommand :=
  { id := "t1", title := "Cup", description := "", category := 0, sortOrder := "desc",
    operator := "best", resetSchedule := "", authoritative := true, joinRequired := false,
    maxSize := 10, maxNumScore := 0, startTime := Time.ofUnix 100, endTime := none,
    duration := 0 }

/-- The same `context.Canceled` from `CreateTournament` after a failed `Repo.Save`, which left
the store unchanged, and after a failed provider call, which followed a successful save. -/
theorem createTournament_same_error_different_effect :
    ∃ s₁, Proc.Runs SyncWorld (TournamentService.createTournament (Time.ofUnix 50) cup)
        SyncState.empty (.error contextCanceled) SyncState.empty ∧
      Proc.Runs SyncWorld (TournamentService.createTournament (Time.ofUnix 50) cup)
        SyncState.empty (.error contextCanceled) s₁ ∧
      s₁.tournaments "t1" ≠ SyncState.empty.tournaments "t1" :=
  ⟨_, .call (@SyncWorld.failed _ _ contextCanceled (by simp)) (.done _ _),
    .call .saved (.call (@SyncWorld.failed _ _ contextCanceled (by simp)) (.done _ _)),
    by simp [SyncState.empty, cup]⟩

/-! ## An id that is already stored -/

def endedCupStore : SyncState :=
  { SyncState.empty with
    tournaments := Function.update SyncState.empty.tournaments "t1"
      (some (cupTournament.«end» (Time.ofUnix 200)).1) }

/-- `CreateTournament` with the id of a stored ended tournament saves the active tournament
`NewTournament` builds over it, with no end time. -/
theorem createTournament_rewinds_ended :
    ∃ s, Proc.Runs SyncWorld (TournamentService.createTournament (Time.ofUnix 300) cup)
        endedCupStore (.ok "t1") s ∧
      (endedCupStore.tournaments "t1").map (fun t => (t.state, t.endTime)) =
        some (.ended, some (Time.ofUnix 200)) ∧
      (s.tournaments "t1").map (fun t => (t.state, t.endTime)) = some (.active, none) :=
  ⟨_, .call .saved (.call .created (.done _ _)), rfl, rfl⟩

/-! ## What the order of the calls keeps

`CreateTournament` saves locally before it creates in Nakama, `DeleteTournament` deletes in Nakama
before it deletes locally, and `AddAttempt` saves the participant before it adds the attempts in
Nakama. Calls made one after another therefore never leave the external system ahead of the
local store; calls that overlap can. -/

/-- The local store holds every tournament the external system has, and a participant for every
pair the external system counts attempts for; each participant is stored under its own pair. -/
structure Mirrored (s : SyncState) : Prop where
  keyed : ∀ t p q, s.participants (t, p) = some q → q.tournamentID = t ∧ q.playerID = p
  tournaments : ∀ id, s.external id = true → s.tournaments id ≠ none
  attempts : ∀ pair, s.externalAttempts pair ≠ 0 → s.participants pair ≠ none

namespace Mirrored

variable {s : SyncState}

theorem empty : Mirrored SyncState.empty :=
  ⟨by simp [SyncState.empty], by simp [SyncState.empty], by simp [SyncState.empty]⟩

theorem saveTournament (m : Mirrored s) (t : Tournament) :
    Mirrored { s with tournaments := Function.update s.tournaments t.id (some t) } := by
  refine ⟨m.keyed, fun id held => ?_, m.attempts⟩
  by_cases same : id = t.id
  · subst same; simp
  · simpa [same] using m.tournaments id held

theorem createExternal (m : Mirrored s) {id : TournamentID} (stored : s.tournaments id ≠ none) :
    Mirrored { s with external := Function.update s.external id true } := by
  refine ⟨m.keyed, fun id' held => ?_, m.attempts⟩
  by_cases same : id' = id
  · subst same; exact stored
  · exact m.tournaments id' (by simpa [same] using held)

theorem removeExternal (m : Mirrored s) (id : TournamentID) :
    Mirrored { s with external := Function.update s.external id false } := by
  refine ⟨m.keyed, fun id' held => ?_, m.attempts⟩
  by_cases same : id' = id
  · subst same; simp at held
  · exact m.tournaments id' (by simpa [same] using held)

theorem deleteTournament (m : Mirrored s) {id : TournamentID} (gone : s.external id = false) :
    Mirrored { s with tournaments := Function.update s.tournaments id none } := by
  refine ⟨m.keyed, fun id' held => ?_, m.attempts⟩
  by_cases same : id' = id
  · subst same; simp [gone] at held
  · simpa [same] using m.tournaments id' held

theorem saveParticipant (m : Mirrored s) (q : Participant) :
    Mirrored
      { s with
        participants := Function.update s.participants (q.tournamentID, q.playerID) (some q) } := by
  refine ⟨fun t p q' found => ?_, m.tournaments, fun pair counted => ?_⟩
  · by_cases same : (t, p) = (q.tournamentID, q.playerID)
    · obtain ⟨rfl, rfl⟩ := Prod.mk.inj same
      obtain rfl : q = q' := by simpa using found
      exact ⟨rfl, rfl⟩
    · exact m.keyed t p q' (by simpa [Function.update_noteq same] using found)
  · by_cases same : pair = (q.tournamentID, q.playerID)
    · subst same; simp
    · simpa [same] using m.attempts pair counted

theorem addExternalAttempts (m : Mirrored s) {pair : TournamentID × PlayerID}
    (stored : s.participants pair ≠ none) (count : Int) :
    Mirrored
      { s with
        externalAttempts :=
          Function.update s.externalAttempts pair (s.externalAttempts pair + count) } := by
  refine ⟨m.keyed, m.tournaments, fun pair' counted => ?_⟩
  by_cases same : pair' = pair
  · subst same; exact stored
  · exact m.attempts pair' (by simpa [same] using counted)

end Mirrored

namespace TournamentService

variable {s : SyncState}

theorem createTournament_mirrored (now : Time) (cmd : CreateTournamentCommand)
    (m : Mirrored s) : Proc.wp SyncWorld (createTournament now cmd) (fun _ => Mirrored) s := by
  unfold createTournament
  split
  · exact m
  · rename_i t made
    obtain ⟨rfl, -, -⟩ := newTournament_fields made
    intro _ _ saved
    cases saved with
    | saved =>
      intro _ _ created
      cases created with
      | created =>
        exact (m.saveTournament _).createExternal (by simp [CreateTournamentCommand.params])
      | failed _ => exact m.saveTournament _
    | failed _ => exact m

theorem deleteTournament_mirrored (id : TournamentID) (m : Mirrored s) :
    Proc.wp SyncWorld (deleteTournament id) (fun _ => Mirrored) s := by
  unfold deleteTournament
  split
  · exact m
  · intro _ _ removed
    cases removed with
    | removed =>
      intro _ _ deleted
      cases deleted with
      | deleted => exact (m.removeExternal id).deleteTournament (Function.update_same _ _ _)
      | failed _ => exact m.removeExternal id
    | failed _ => exact m

theorem recordAttempts_mirrored (now : Time) (cmd : AddAttemptCommand) {participant : Participant}
    (own : participant.tournamentID = cmd.tournamentID ∧ participant.playerID = cmd.playerID)
    (m : Mirrored s) :
    Proc.wp SyncWorld (recordAttempts now cmd participant) (fun _ => Mirrored) s := by
  unfold recordAttempts
  split
  · exact m
  · rename_i updated made
    have sameTournament := participant.addAttempts_tournamentID cmd.count now
    have samePlayer := participant.addAttempts_playerID cmd.count now
    rw [made] at sameTournament samePlayer
    dsimp only at sameTournament samePlayer
    intro _ _ saved
    cases saved with
    | participantSaved =>
      intro _ _ added
      cases added with
      | attemptsAdded =>
        exact (m.saveParticipant updated).addExternalAttempts
          (by rw [sameTournament, samePlayer, own.1, own.2]; simp) _
      | failed _ => exact m.saveParticipant updated
    | failed _ => exact m

theorem addAttempt_mirrored (now : Time) (cmd : AddAttemptCommand) (m : Mirrored s) :
    Proc.wp SyncWorld (addAttempt now cmd) (fun _ => Mirrored) s := by
  unfold addAttempt
  split
  · exact m
  · exact m
  · split_ifs
    · exact m
    · intro _ _ got
      cases got with
      | participantFound found => exact recordAttempts_mirrored now cmd (m.keyed _ _ _ found) m
      | participantMissing _ =>
        dsimp only
        rw [if_pos rfl]
        split
        · exact m
        · exact recordAttempts_mirrored now cmd (newParticipant_pair ‹_›) m
      | failed other =>
        dsimp only [TournamentOp.failed]
        rw [if_neg (other _ _ rfl)]
        exact m

theorem getTournament_mirrored (id : TournamentID) (m : Mirrored s) :
    Proc.wp SyncWorld (getTournament id) (fun _ => Mirrored) s := by
  unfold getTournament
  split
  · exact m
  · intro _ _ got
    cases got <;> exact m

theorem listTournaments_mirrored (limit offset : Int) (m : Mirrored s) :
    Proc.wp SyncWorld (listTournaments limit offset) (fun _ => Mirrored) s := by
  intro _ _ listed
  cases listed <;> exact m

end TournamentService

/-- One call of `tournaments.Service`, with the clock reading of the calls that read the clock. -/
inductive TournamentCall where
  | createTournament (now : Time) (cmd : CreateTournamentCommand)
  | deleteTournament (id : TournamentID)
  | addAttempt (now : Time) (cmd : AddAttemptCommand)
  | getTournament (id : TournamentID)
  | listTournaments (limit offset : Int)

namespace TournamentCall

def Result : TournamentCall → Type
  | .createTournament _ _ => Except GoError TournamentID
  | .deleteTournament _ | .addAttempt _ _ => Option GoError
  | .getTournament _ => Except GoError Tournament
  | .listTournaments _ _ => Except GoError (List Tournament)

def proc : (c : TournamentCall) → Proc Tournaments c.Result
  | .createTournament now cmd => TournamentService.createTournament now cmd
  | .deleteTournament id => TournamentService.deleteTournament id
  | .addAttempt now cmd => TournamentService.addAttempt now cmd
  | .getTournament id => TournamentService.getTournament id
  | .listTournaments limit offset => TournamentService.listTournaments limit offset

/-- The call in a goroutine of its own: what it returns is dropped. -/
def task (c : TournamentCall) : Proc Tournaments Unit :=
  c.proc.bind fun _ => .done ()

theorem mirrored (c : TournamentCall) {s : SyncState} (m : Mirrored s) :
    Proc.wp SyncWorld c.proc (fun _ => Mirrored) s := by
  cases c with
  | createTournament now cmd => exact TournamentService.createTournament_mirrored now cmd m
  | deleteTournament id => exact TournamentService.deleteTournament_mirrored id m
  | addAttempt now cmd => exact TournamentService.addAttempt_mirrored now cmd m
  | getTournament id => exact TournamentService.getTournament_mirrored id m
  | listTournaments limit offset => exact TournamentService.listTournaments_mirrored limit offset m

end TournamentCall

/-- The states calls made one after another leave, from empty stores, whatever each repository
and provider call answers. -/
def SequentiallyReachable (s : SyncState) : Prop :=
  Relation.ReflTransGen
    (fun s s' => ∃ (c : TournamentCall) (a : c.Result), Proc.Runs SyncWorld c.proc s a s')
    SyncState.empty s

/-- Calls made one after another keep the external system behind the local store: every
tournament Nakama has is stored locally, and every pair Nakama counts attempts for has a stored
participant. -/
theorem sequential_calls_mirrored {s : SyncState} (reach : SequentiallyReachable s) :
    Mirrored s := by
  induction reach with
  | refl => exact Mirrored.empty
  | tail _ call ih =>
    obtain ⟨c, _, run⟩ := call
    exact run.post (c.mirrored ih)

theorem sequential_calls_mirrored_cup :
    ∃ s, SequentiallyReachable s ∧ s.external "t1" = true ∧ Mirrored s :=
  have reach : SequentiallyReachable _ :=
    .single ⟨.createTournament (Time.ofUnix 50) cup, _, .call .saved (.call .created (.done _ _))⟩
  ⟨_, reach, rfl, sequential_calls_mirrored reach⟩

/-- A `CreateTournament` and a `DeleteTournament` of its id that overlap. For every command that
`NewTournament` accepts and from every state of the stores, the delete can run between the local
save and the Nakama create: every call of both succeeds, and Nakama is left holding a tournament
the local store does not have. -/
theorem overlapping_calls_unmirrored {now : Time} {cmd : CreateTournamentCommand} {t : Tournament}
    (made : newTournament cmd.id cmd.title cmd.description cmd.category cmd.sortOrder cmd.operator
      cmd.resetSchedule cmd.authoritative cmd.joinRequired cmd.maxSize cmd.maxNumScore
      cmd.startTime cmd.duration now = .ok t) (s : SyncState) :
    ∃ σ, Interleaving.Reachable SyncWorld
        [(TournamentCall.createTournament now cmd).task,
          (TournamentCall.deleteTournament cmd.id).task] s σ ∧
      σ.threads = [.done (), .done ()] ∧
      σ.trace 0 = [⟨.save t, none⟩, ⟨.createTournament cmd.params, none⟩] ∧
      σ.trace 1 = [⟨.deleteTournament cmd.id, none⟩, ⟨.delete cmd.id, none⟩] ∧
      σ.world.external cmd.id = true ∧ σ.world.tournaments cmd.id = none ∧ ¬ Mirrored σ.world := by
  have valid : cmd.id.validate = .ok () := by
    revert made
    unfold newTournament
    cases cmd.id.validate with
    | error => rintro ⟨⟩
    | ok => exact fun _ => rfl
  simp only [TournamentCall.task, TournamentCall.proc, TournamentService.createTournament_of_made made,
    TournamentService.deleteTournament_of_valid valid]
  have held : ∀ w : SyncState,
      (Function.update (Function.update w.external cmd.id false) cmd.params.id true) cmd.id = true :=
    fun _ => Function.update_same _ _ _
  exact ⟨_, .head (.call (i := 0) rfl .saved) <| .head (.call (i := 1) rfl .removed) <|
      .head (.call (i := 1) rfl .deleted) <| .head (.call (i := 0) rfl .created) .refl,
    rfl, rfl, rfl, held _, Function.update_same _ _ _,
    fun m => m.tournaments cmd.id (held _) (Function.update_same _ _ _)⟩

theorem overlapping_calls_unmirrored_cup :
    ∃ σ, Interleaving.Reachable SyncWorld
        [(TournamentCall.createTournament (Time.ofUnix 50) cup).task,
          (TournamentCall.deleteTournament cup.id).task] SyncState.empty σ ∧
      σ.threads = [.done (), .done ()] ∧
      σ.trace 0 = [⟨.save cupTournament, none⟩, ⟨.createTournament cup.params, none⟩] ∧
      σ.trace 1 = [⟨.deleteTournament cup.id, none⟩, ⟨.delete cup.id, none⟩] ∧
      σ.world.external cup.id = true ∧ σ.world.tournaments cup.id = none ∧ ¬ Mirrored σ.world :=
  @overlapping_calls_unmirrored (Time.ofUnix 50) cup cupTournament rfl SyncState.empty

end Sandai
