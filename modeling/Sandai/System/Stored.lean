import Sandai.System.Sync

/-! What the local tournament store holds under any interleaving of `tournaments.Service` calls.

Only `CreateTournament` writes a tournament, and it writes the one `NewTournament` returned. So
whatever the calls in flight and however their repository and provider calls interleave or
fail, every stored tournament sits under its own id, is well formed, is active and has no end
time: the service never stores an ended or reset tournament.
-/

set_option autoImplicit false

namespace Sandai

/-- The calls that keep the store well formed: every `Save` is of a tournament as
`NewTournament` returns it. -/
def SavesFresh : TournamentOp → Prop
  | .save t => t.WellFormed ∧ t.state = .active ∧ t.endTime = none
  | _ => True

/-- Every stored tournament is under its own id and as `NewTournament` returns it, and every
stored participant is under its own pair. -/
structure StoreFresh (s : SyncState) : Prop where
  keyed : ∀ id t, s.tournaments id = some t → t.id = id
  fresh : ∀ id t, s.tournaments id = some t →
    t.WellFormed ∧ t.state = .active ∧ t.endTime = none
  participantsKeyed : ∀ pair q, s.participants pair = some q →
    (q.tournamentID, q.playerID) = pair

namespace StoreFresh

theorem empty : StoreFresh SyncState.empty :=
  ⟨fun _ _ => nofun, fun _ _ => nofun, fun _ _ => nofun⟩

theorem step {o : TournamentOp} {s s' : SyncState} {r : TournamentOp.Reply o}
    (saves : SavesFresh o) (f : StoreFresh s) (answer : SyncWorld o s r s') : StoreFresh s' := by
  cases answer with
  | @saved _ t =>
    exact ⟨forall_update_some f.keyed rfl, forall_update_some f.fresh saves, f.participantsKeyed⟩
  | @deleted _ id =>
    exact ⟨forall_update_none f.keyed id, forall_update_none f.fresh id, f.participantsKeyed⟩
  | participantSaved => exact ⟨f.keyed, f.fresh, forall_update_some f.participantsKeyed rfl⟩
  | found | missing | listed | participantFound | participantMissing | created | removed
  | attemptsAdded | failed => exact ⟨f.keyed, f.fresh, f.participantsKeyed⟩

end StoreFresh

namespace TournamentService

theorem createTournament_savesFresh (now : Time) (cmd : CreateTournamentCommand) :
    Proc.Respects SavesFresh (fun _ _ => True) (createTournament now cmd) := by
  unfold createTournament
  split
  · exact .done _
  · rename_i t made
    obtain ⟨wellFormed, -, -, -, active, noEnd⟩ := newTournament_wellFormed made
    refine .call ⟨wellFormed, active, noEnd⟩ fun saved _ => ?_
    cases saved
    · exact .call trivial fun sent _ => by cases sent <;> exact .done _
    · exact .done _

theorem deleteTournament_savesFresh (id : TournamentID) :
    Proc.Respects SavesFresh (fun _ _ => True) (deleteTournament id) := by
  unfold deleteTournament
  split
  · exact .done _
  · refine .call trivial fun removed _ => ?_
    cases removed
    · exact .call trivial fun _ _ => .done _
    · exact .done _

theorem recordAttempts_savesFresh (now : Time) (cmd : AddAttemptCommand)
    (participant : Participant) : Proc.Respects SavesFresh (fun _ _ => True) (recordAttempts now cmd participant) := by
  unfold recordAttempts
  split
  · exact .done _
  · refine .call trivial fun saved _ => ?_
    cases saved
    · exact .call trivial fun _ _ => .done _
    · exact .done _

theorem addAttempt_savesFresh (now : Time) (cmd : AddAttemptCommand) :
    Proc.Respects SavesFresh (fun _ _ => True) (addAttempt now cmd) := by
  unfold addAttempt
  split
  · exact .done _
  · exact .done _
  · split
    · exact .done _
    · refine .call trivial fun found _ => ?_
      cases found with
      | ok participant => exact recordAttempts_savesFresh now cmd participant
      | error err =>
        dsimp only
        split
        · split
          · exact .done _
          · exact recordAttempts_savesFresh now cmd _
        · exact .done _

theorem getTournament_savesFresh (id : TournamentID) :
    Proc.Respects SavesFresh (fun _ _ => True) (getTournament id) := by
  unfold getTournament
  split
  · exact .done _
  · exact .call trivial fun _ _ => .done _

end TournamentService

theorem TournamentCall.savesFresh (c : TournamentCall) : Proc.Respects SavesFresh (fun _ _ => True) c.task := by
  refine Proc.Respects.bind ?_ fun _ => .done ()
  cases c with
  | createTournament now cmd => exact TournamentService.createTournament_savesFresh now cmd
  | deleteTournament id => exact TournamentService.deleteTournament_savesFresh id
  | addAttempt now cmd => exact TournamentService.addAttempt_savesFresh now cmd
  | getTournament id => exact TournamentService.getTournament_savesFresh id
  | listTournaments limit offset => exact .call trivial fun _ _ => .done _

/-- Any number of `tournaments.Service` calls in flight together from empty stores, interleaved
in any order and with every repository and provider call free to succeed or fail: in every state
they reach, each stored tournament is under its own id, passes `Validate`, keeps the bounds
`NewTournament` checks, is active and has no end time, and each stored participant is under its
own pair. -/
theorem interleaved_calls_store_fresh (calls : List TournamentCall) {σ : Interleaving Tournaments Unit SyncState}
    (reach : Interleaving.Reachable SyncWorld (calls.map TournamentCall.task) SyncState.empty σ) :
    StoreFresh σ.world :=
  Interleaving.reachable_world_invariant
    (fun _ _ _ _ saves f answer => ⟨trivial, f.step saves answer⟩)
    (by simpa using fun c _ => c.savesFresh) StoreFresh.empty reach

theorem interleaved_calls_store_fresh_two_cups :
    ∃ σ, Interleaving.Reachable SyncWorld
        ([.createTournament (Time.ofUnix 50) cup, .createTournament (Time.ofUnix 60) cup].map
          TournamentCall.task) SyncState.empty σ ∧
      (σ.world.tournaments "t1").map (·.createdAt) = some (Time.ofUnix 60) ∧ StoreFresh σ.world :=
  have reach : Interleaving.Reachable SyncWorld
      ([.createTournament (Time.ofUnix 50) cup, .createTournament (Time.ofUnix 60) cup].map
        TournamentCall.task) SyncState.empty _ :=
    .head (.call (i := 0) rfl .saved) (.head (.call (i := 1) rfl .saved) .refl)
  ⟨_, reach, rfl, interleaved_calls_store_fresh _ reach⟩

end Sandai
