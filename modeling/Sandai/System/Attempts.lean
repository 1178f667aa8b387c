import Sandai.System.Sync

/-! The attempts the local participant store and Nakama count for each pair.

`AddAttempt` reads the participant, adds the count to its `Attempts` on Go's 64-bit `int`,
saves it, and then asks Nakama to add the same count. Calls made one after another therefore
keep the stored `Attempts` at the 64-bit wrap of Nakama's count plus the attempts whose Nakama
call failed, whatever each call returns.
-/

set_option autoImplicit false

namespace Sandai

theorem newParticipant_attempts {tournamentID : TournamentID} {playerID : PlayerID}
    {joinedAt : Time} {p : Participant} (made : newParticipant tournamentID playerID joinedAt = .ok p) :
    p.attempts = 0 := by
  revert made
  unfold newParticipant
  cases tournamentID.validate <;> cases playerID.validate <;>
    simp only [bind, Except.bind, pure, Except.pure, reduceCtorEq, false_implies]
  split_ifs <;> rintro ⟨⟩
  rfl

/-- The attempts of each pair whose Nakama `AddAttempt` call failed: proof-only ghost state,
which a failed `addAttempt` reply raises by its count and every other exchange leaves alone. -/
def TournamentOp.unsent : (o : TournamentOp) → TournamentOp.Reply o →
    (TournamentID × PlayerID → Int) → TournamentID × PlayerID → Int
  | .addAttempt t p count, some _, unsent => Function.update unsent (t, p) (unsent (t, p) + count)
  | _, _, unsent => unsent

/-- `SyncWorld` with the ghost record of failed sends. -/
def UnsentWorld : Proc.World Tournaments (SyncState × (TournamentID × PlayerID → Int)) :=
  Proc.World.withGhost SyncWorld TournamentOp.unsent

theorem UnsentWorld.step {o : TournamentOp} {s s' : SyncState} {r : TournamentOp.Reply o}
    (u : TournamentID × PlayerID → Int) (answer : SyncWorld o s r s') :
    UnsentWorld o (s, u) r (s', o.unsent r u) :=
  ⟨answer, rfl⟩

/-- The stores and the ghost record that calls made one after another leave, from empty stores
and no failed sends, whatever each repository and Nakama call answers. -/
def SequentiallyReachableWithUnsent (g : SyncState × (TournamentID × PlayerID → Int)) : Prop :=
  Relation.ReflTransGen
    (fun g g' => ∃ (c : TournamentCall) (a : c.Result), Proc.Runs UnsentWorld c.proc g a g')
    (SyncState.empty, fun _ => 0) g

/-- The ghost adds nothing to the runs: the states calls made one after another reach are those
reached with the ghost. -/
theorem sequentiallyReachable_iff_unsent {s : SyncState} :
    SequentiallyReachable s ↔ ∃ unsent, SequentiallyReachableWithUnsent (s, unsent) := by
  constructor
  · intro reach
    induction reach with
    | refl => exact ⟨_, .refl⟩
    | tail _ call ih =>
      obtain ⟨c, a, run⟩ := call
      obtain ⟨u, reach⟩ := ih
      obtain ⟨u', run'⟩ := run.add_ghost TournamentOp.unsent u
      exact ⟨u', reach.tail ⟨c, a, run'⟩⟩
  · rintro ⟨u, reach⟩
    exact reach.lift Prod.fst fun _ _ ⟨c, a, run⟩ => ⟨c, a, run.forget_ghost⟩

/-- What the two sides count for each pair, given the attempts whose Nakama call failed: the
stored participant is keyed by its own pair, a pair with no participant has no attempts on either
side, and a stored participant's `Attempts` is the 64-bit wrap of Nakama's count plus the failed
ones. -/
structure AttemptsAccounted (s : SyncState) (unsent : TournamentID × PlayerID → Int) : Prop where
  keyed : ∀ t p q, s.participants (t, p) = some q → q.tournamentID = t ∧ q.playerID = p
  absent : ∀ pair, s.participants pair = none → s.externalAttempts pair = 0 ∧ unsent pair = 0
  counted : ∀ pair q, s.participants pair = some q →
    q.attempts = toInt64 (s.externalAttempts pair + unsent pair)
  nonneg : ∀ pair, 0 ≤ unsent pair

namespace AttemptsAccounted

variable {s : SyncState} {u : TournamentID × PlayerID → Int}

theorem empty : AttemptsAccounted SyncState.empty fun _ => 0 :=
  ⟨by simp [SyncState.empty], fun _ _ => ⟨rfl, rfl⟩, by simp [SyncState.empty], fun _ => le_rfl⟩

theorem of_counts {s' : SyncState} (a : AttemptsAccounted s u)
    (participants : s'.participants = s.participants)
    (attempts : s'.externalAttempts = s.externalAttempts) : AttemptsAccounted s' u := by
  obtain ⟨keyed, absent, counted, nonneg⟩ := a
  exact ⟨participants ▸ keyed, participants ▸ attempts ▸ absent,
    participants ▸ attempts ▸ counted, nonneg⟩

/-- Saving a participant of `(t, p)` with `count` more attempts than both sides count: the
invariant holds as if its Nakama call had already failed. -/
theorem saveParticipant (a : AttemptsAccounted s u) {t : TournamentID} {p : PlayerID}
    {q : Participant} (own : q.tournamentID = t ∧ q.playerID = p) {count : Int} (nonneg : 0 ≤ count)
    (counted : q.attempts = toInt64 (s.externalAttempts (t, p) + (u (t, p) + count))) :
    AttemptsAccounted
      { s with participants := Function.update s.participants (q.tournamentID, q.playerID) (some q) }
      (Function.update u (t, p) (u (t, p) + count)) := by
  obtain ⟨rfl, rfl⟩ := own
  refine ⟨fun t' p' q' found => ?_, fun pair gone => ?_, fun pair q' found => ?_, fun pair => ?_⟩
  · by_cases same : (t', p') = (q.tournamentID, q.playerID)
    · obtain ⟨rfl, rfl⟩ := Prod.mk.inj same
      obtain rfl : q = q' := by simpa using found
      exact ⟨rfl, rfl⟩
    · exact a.keyed t' p' q' (by simpa [Function.update_noteq same] using found)
  · by_cases same : pair = (q.tournamentID, q.playerID)
    · subst same; simp at gone
    · simpa [Function.update_noteq same] using a.absent pair (by simpa [same] using gone)
  · by_cases same : pair = (q.tournamentID, q.playerID)
    · subst same
      obtain rfl : q = q' := by simpa using found
      simpa using counted
    · simpa [Function.update_noteq same] using a.counted pair q' (by simpa [same] using found)
  · by_cases same : pair = (q.tournamentID, q.playerID)
    · subst same; simpa using add_nonneg (a.nonneg _) nonneg
    · simpa [Function.update_noteq same] using a.nonneg pair

theorem addExternal {pair : TournamentID × PlayerID} {count : Int}
    (a : AttemptsAccounted s (Function.update u pair (u pair + count)))
    (stored : s.participants pair ≠ none) (base : 0 ≤ u pair) :
    AttemptsAccounted
      { s with
        externalAttempts :=
          Function.update s.externalAttempts pair (s.externalAttempts pair + count) } u := by
  refine ⟨a.keyed, fun pair' gone => ?_, fun pair' q found => ?_, fun pair' => ?_⟩
  · have other : pair' ≠ pair := by rintro rfl; exact stored gone
    simpa [other] using a.absent pair' gone
  · by_cases same : pair' = pair
    · subst same
      simp only [a.counted _ q found, Function.update_same]
      ring_nf
    · simpa [same] using a.counted pair' q found
  · by_cases same : pair' = pair
    · subst same; exact base
    · simpa [same] using a.nonneg pair'

end AttemptsAccounted

namespace TournamentService

variable {s : SyncState} {u : TournamentID × PlayerID → Int}

theorem createTournament_accounted (now : Time) (cmd : CreateTournamentCommand)
    (a : AttemptsAccounted s u) :
    Proc.wp UnsentWorld (createTournament now cmd) (fun _ g => AttemptsAccounted g.1 g.2) (s, u) := by
  unfold createTournament
  split
  · exact a
  · rintro _ ⟨_, _⟩ ⟨saved, rfl⟩
    cases saved with
    | saved =>
      rintro _ ⟨_, _⟩ ⟨created, rfl⟩
      cases created <;> exact a.of_counts rfl rfl
    | failed _ => exact a

theorem deleteTournament_accounted (id : TournamentID) (a : AttemptsAccounted s u) :
    Proc.wp UnsentWorld (deleteTournament id) (fun _ g => AttemptsAccounted g.1 g.2) (s, u) := by
  unfold deleteTournament
  split
  · exact a
  · rintro _ ⟨_, _⟩ ⟨removed, rfl⟩
    cases removed with
    | removed =>
      rintro _ ⟨_, _⟩ ⟨deleted, rfl⟩
      cases deleted <;> exact a.of_counts rfl rfl
    | failed _ => exact a

theorem recordAttempts_accounted (now : Time) (cmd : AddAttemptCommand)
    {participant : Participant}
    (own : participant.tournamentID = cmd.tournamentID ∧ participant.playerID = cmd.playerID)
    (counted : participant.attempts = toInt64 (s.externalAttempts (cmd.tournamentID, cmd.playerID) +
      u (cmd.tournamentID, cmd.playerID)))
    (a : AttemptsAccounted s u) :
    Proc.wp UnsentWorld (recordAttempts now cmd participant) (fun _ g => AttemptsAccounted g.1 g.2)
      (s, u) := by
  unfold recordAttempts
  split
  · exact a
  · rename_i updated made
    have positive : 0 < cmd.count := by
      by_contra nonpos
      simp [Participant.addAttempts, not_lt.mp nonpos] at made
    rw [Participant.addAttempts_of_pos _ positive, Prod.mk.injEq] at made
    obtain ⟨rfl, -⟩ := made
    rintro _ ⟨_, _⟩ ⟨saved, rfl⟩
    cases saved with
    | participantSaved =>
      have kept := a.saveParticipant (q := { participant with
          attempts := toInt64 (participant.attempts + cmd.count), updatedAt := now }) own
        positive.le (by rw [counted, toInt64_add_toInt64, add_assoc])
      rintro _ ⟨_, _⟩ ⟨added, rfl⟩
      cases added with
      | attemptsAdded =>
        refine kept.addExternal ?_ (a.nonneg _)
        rw [← own.1, ← own.2]
        simp
      | failed _ => exact kept
    | failed _ => exact a

theorem addAttempt_accounted (now : Time) (cmd : AddAttemptCommand) (a : AttemptsAccounted s u) :
    Proc.wp UnsentWorld (addAttempt now cmd) (fun _ g => AttemptsAccounted g.1 g.2) (s, u) := by
  unfold addAttempt
  split
  · exact a
  · exact a
  · split_ifs
    · exact a
    · rintro _ ⟨_, _⟩ ⟨got, rfl⟩
      cases got with
      | participantFound found =>
        obtain ⟨sameT, sameP⟩ := a.keyed _ _ _ found
        exact recordAttempts_accounted now cmd ⟨sameT, sameP⟩ (a.counted _ _ found) a
      | participantMissing missing =>
        dsimp only
        rw [if_pos rfl]
        split
        · exact a
        · rename_i made
          obtain ⟨external, none⟩ := a.absent _ missing
          refine recordAttempts_accounted now cmd (newParticipant_pair made) ?_ a
          rw [newParticipant_attempts made, external, none]
          rfl
      | failed other =>
        dsimp only [TournamentOp.failed]
        rw [if_neg (other _ _ rfl)]
        exact a

theorem getTournament_accounted (id : TournamentID) (a : AttemptsAccounted s u) :
    Proc.wp UnsentWorld (getTournament id) (fun _ g => AttemptsAccounted g.1 g.2) (s, u) := by
  unfold getTournament
  split
  · exact a
  · rintro _ ⟨_, _⟩ ⟨got, rfl⟩
    cases got <;> exact a

theorem listTournaments_accounted (limit offset : Int) (a : AttemptsAccounted s u) :
    Proc.wp UnsentWorld (listTournaments limit offset) (fun _ g => AttemptsAccounted g.1 g.2)
      (s, u) := by
  rintro _ ⟨_, _⟩ ⟨listed, rfl⟩
  cases listed <;> exact a

end TournamentService

theorem TournamentCall.accounted (c : TournamentCall) {s : SyncState}
    {u : TournamentID × PlayerID → Int} (a : AttemptsAccounted s u) :
    Proc.wp UnsentWorld c.proc (fun _ g => AttemptsAccounted g.1 g.2) (s, u) := by
  cases c with
  | createTournament now cmd => exact TournamentService.createTournament_accounted now cmd a
  | deleteTournament id => exact TournamentService.deleteTournament_accounted id a
  | addAttempt now cmd => exact TournamentService.addAttempt_accounted now cmd a
  | getTournament id => exact TournamentService.getTournament_accounted id a
  | listTournaments limit offset => exact TournamentService.listTournaments_accounted limit offset a

theorem accounted_of_reachable {g : SyncState × (TournamentID × PlayerID → Int)}
    (reach : SequentiallyReachableWithUnsent g) : AttemptsAccounted g.1 g.2 := by
  induction reach with
  | refl => exact AttemptsAccounted.empty
  | tail _ call ih =>
    obtain ⟨c, _, run⟩ := call
    exact run.post (c.accounted ih)

/-- Calls of `tournaments.Service` made one after another from empty stores, whatever each
repository and Nakama call returns, reach exactly the states they reach with the ghost record of
failed sends. With that record, they keep each participant's stored `Attempts` at the 64-bit wrap
of the attempts Nakama holds for its pair plus the attempts of that pair whose Nakama
`AddAttempt` call failed after the save; a pair without a stored participant has no attempts on
either side. -/
theorem sequential_calls_account_attempts (s : SyncState) :
    (SequentiallyReachable s ↔ ∃ unsent, SequentiallyReachableWithUnsent (s, unsent)) ∧
      ∀ unsent, SequentiallyReachableWithUnsent (s, unsent) → AttemptsAccounted s unsent :=
  ⟨sequentiallyReachable_iff_unsent, fun _ reach => accounted_of_reachable reach⟩

theorem sequential_calls_account_attempts_failed_send :
    ∃ g, SequentiallyReachableWithUnsent g ∧
      (g.1.participants ("t1", "p1")).map (·.attempts) = some 3 ∧
      g.1.externalAttempts ("t1", "p1") = 0 ∧ g.2 ("t1", "p1") = 3 ∧ AttemptsAccounted g.1 g.2 :=
  have reach : SequentiallyReachableWithUnsent _ :=
    .single ⟨.addAttempt ⟨1⟩ ⟨"t1", "p1", 3⟩, _, .call (.step _ (.participantMissing rfl))
      (.call (.step _ .participantSaved)
        (.call (.step _ (@SyncWorld.failed _ _ contextCanceled (by simp))) (.done _ _)))⟩
  ⟨_, reach, rfl, rfl, rfl, (sequential_calls_account_attempts _).2 _ reach⟩

/-! ## Overlapping calls -/

theorem recordAttempts_runs (s : SyncState) (now : Time) (cmd : AddAttemptCommand)
    (participant : Participant) (positive : 0 < cmd.count) (reply : Option GoError) :
    ∃ s', Proc.Runs SyncWorld (TournamentService.recordAttempts now cmd participant) s reply s' ∧
      s'.tournaments = s.tournaments ∧
      s'.participants = Function.update s.participants
        (participant.tournamentID, participant.playerID)
        (some { participant with attempts := toInt64 (participant.attempts + cmd.count),
                                 updatedAt := now }) ∧
      s'.externalAttempts = if reply = none then
        Function.update s.externalAttempts (cmd.tournamentID, cmd.playerID)
          (s.externalAttempts (cmd.tournamentID, cmd.playerID) + cmd.count)
        else s.externalAttempts := by
  obtain ⟨next, start, sent⟩ :=
    @TournamentService.recordAttempts_of_pos now cmd participant positive
  rw [start]
  cases reply with
  | none =>
    constructor
    constructor
    · exact .call .participantSaved (by rw [sent]; exact .call .attemptsAdded (.done _ _))
    · exact ⟨rfl, rfl, rfl⟩
  | some err =>
    constructor
    constructor
    · exact .call .participantSaved (by
        rw [sent]; exact .call (@SyncWorld.failed (.addAttempt _ _ _) _ err nofun) (.done _ _))
    · exact ⟨rfl, rfl, rfl⟩

theorem addAttempt_runs_found (s : SyncState) (now : Time) (cmd : AddAttemptCommand)
    (tournamentValid : cmd.tournamentID.validate = .ok ())
    (playerValid : cmd.playerID.validate = .ok ()) (positive : 0 < cmd.count) {q : Participant}
    (stored : s.participants (cmd.tournamentID, cmd.playerID) = some q) (reply : Option GoError) :
    ∃ s', Proc.Runs SyncWorld (TournamentService.addAttempt now cmd) s reply s' ∧
      s'.tournaments = s.tournaments ∧
      s'.participants = Function.update s.participants (q.tournamentID, q.playerID)
        (some { q with attempts := toInt64 (q.attempts + cmd.count), updatedAt := now }) ∧
      s'.externalAttempts = if reply = none then
        Function.update s.externalAttempts (cmd.tournamentID, cmd.playerID)
          (s.externalAttempts (cmd.tournamentID, cmd.playerID) + cmd.count)
        else s.externalAttempts := by
  obtain ⟨next, start, found, -⟩ :=
    @TournamentService.addAttempt_of_valid now cmd tournamentValid playerValid positive
  obtain ⟨s', record, effects⟩ := recordAttempts_runs s now cmd q positive reply
  refine ⟨s', ?_, effects⟩
  rw [start]
  exact .call (.participantFound stored) (by rw [found]; exact record)

/-- `AddAttempt` never looks at the tournaments: for a tournament the local store does not
have, with valid ids and a positive count, it reads or makes the participant and saves it with
the count added before it calls Nakama, so whatever Nakama answers, and the call returns, the
local store holds attempts for a tournament it does not have. -/
theorem addAttempt_records_without_tournament {s : SyncState} {t : TournamentID} {p : PlayerID}
    (absent : s.tournaments t = none)
    (keyed : ∀ q, s.participants (t, p) = some q → q.tournamentID = t ∧ q.playerID = p)
    (tournamentValid : t.validate = .ok ()) (playerValid : p.validate = .ok ()) {c : Int}
    (positive : 0 < c) {now : Time} (clock : now.isZero = false) (reply : Option GoError) :
    ∃ s' q, Proc.Runs SyncWorld (TournamentService.addAttempt now ⟨t, p, c⟩) s reply s' ∧
      s'.tournaments t = none ∧ s'.participants (t, p) = some q ∧
      q.attempts = toInt64 (((s.participants (t, p)).map (·.attempts)).getD 0 + c) := by
  cases stored : s.participants (t, p) with
  | some q =>
    obtain ⟨s', run, tournaments, participants, -⟩ :=
      addAttempt_runs_found s now ⟨t, p, c⟩ tournamentValid playerValid positive stored reply
    refine ⟨s', { q with attempts := toInt64 (q.attempts + c), updatedAt := now }, run,
      tournaments ▸ absent, ?_, rfl⟩
    rw [participants, ← (keyed q stored).1, ← (keyed q stored).2, Function.update_same]
  | none =>
    obtain ⟨next, start, -, missing⟩ :=
      @TournamentService.addAttempt_of_valid now ⟨t, p, c⟩ tournamentValid playerValid positive
    obtain ⟨q, made⟩ : ∃ q, newParticipant t p now = .ok q := by
      simp [newParticipant, tournamentValid, playerValid, clock, bind, Except.bind, pure,
        Except.pure]
    obtain ⟨s', record, tournaments, participants, -⟩ :=
      recordAttempts_runs s now ⟨t, p, c⟩ q positive reply
    obtain ⟨sameT, sameP⟩ := newParticipant_pair made
    refine ⟨s', { q with attempts := toInt64 (q.attempts + c), updatedAt := now }, ?_,
      tournaments ▸ absent, ?_, by rw [newParticipant_attempts made]; rfl⟩
    · rw [start]
      exact .call (.participantMissing stored) (by rw [missing q made]; exact record)
    · rw [participants, sameT, sameP, Function.update_same]

theorem addAttempt_records_without_tournament_rejected :
    ∃ s' q, Proc.Runs SyncWorld (TournamentService.addAttempt ⟨1⟩ ⟨"t1", "p1", 3⟩)
        SyncState.empty (some contextCanceled) s' ∧
      s'.tournaments "t1" = none ∧ s'.participants ("t1", "p1") = some q ∧
      q.attempts =
        toInt64 (((SyncState.empty.participants ("t1", "p1")).map (·.attempts)).getD 0 + 3) :=
  @addAttempt_records_without_tournament SyncState.empty "t1" "p1" rfl
    (fun _ found => by cases found) rfl rfl 3 (by decide) ⟨1⟩ rfl (some contextCanceled)

/-- Two `AddAttempt` calls for a stored participant that overlap: the second reads the
participant, the first runs to its end, and the second saves what it read plus its own count.
For every participant and positive counts, with every call succeeding, the stored `Attempts`
loses the first count while Nakama adds both. -/
theorem overlapping_addAttempts_lose_count {s : SyncState} {t : TournamentID} {p : PlayerID}
    {q : Participant} (stored : s.participants (t, p) = some q)
    (own : q.tournamentID = t ∧ q.playerID = p) (tournamentValid : t.validate = .ok ())
    (playerValid : p.validate = .ok ()) (now₁ now₂ : Time) {c₁ c₂ : Int} (first : 0 < c₁)
    (second : 0 < c₂) :
    ∃ σ, Interleaving.Reachable SyncWorld
        [(TournamentCall.addAttempt now₁ ⟨t, p, c₁⟩).task,
          (TournamentCall.addAttempt now₂ ⟨t, p, c₂⟩).task] s σ ∧
      σ.threads = [.done (), .done ()] ∧
      (σ.world.participants (t, p)).map (·.attempts) = some (toInt64 (q.attempts + c₂)) ∧
      σ.world.externalAttempts (t, p) = s.externalAttempts (t, p) + c₁ + c₂ := by
  obtain ⟨next₂, start₂, found₂, -⟩ :=
    @TournamentService.addAttempt_of_valid now₂ ⟨t, p, c₂⟩ tournamentValid playerValid second
  have read := @Interleaving.Step.call _ _ _ SyncWorld
    ⟨[(TournamentCall.addAttempt now₁ ⟨t, p, c₁⟩).task,
      (TournamentCall.addAttempt now₂ ⟨t, p, c₂⟩).task], s, []⟩ 1 _
    (fun r => (next₂ r).bind fun _ => .done ()) _ _
    (by simp only [TournamentCall.task, TournamentCall.proc, start₂]; rfl)
    (.participantFound stored)
  obtain ⟨s₁, run₁, -, participants₁, attempts₁⟩ :=
    addAttempt_runs_found s now₁ ⟨t, p, c₁⟩ tournamentValid playerValid first stored none
  obtain ⟨log₁, ran₁⟩ := Interleaving.runs_alone
    (σ := ⟨[(TournamentCall.addAttempt now₁ ⟨t, p, c₁⟩).task,
      (next₂ (.ok q)).bind fun _ => .done ()], s, [(1, ⟨.getParticipant t p, .ok q⟩)]⟩)
    (i := 0) rfl (run₁.bind (.done () s₁))
  obtain ⟨s₂, record₂, -, participants₂, attempts₂⟩ :=
    recordAttempts_runs s₁ now₂ ⟨t, p, c₂⟩ q second none
  have run₂ : Proc.Runs SyncWorld ((next₂ (.ok q)).bind fun _ => .done ()) s₁ () s₂ := by
    rw [found₂]
    exact record₂.bind (.done () s₂)
  obtain ⟨log₂, ran₂⟩ := Interleaving.runs_alone
    (σ := ⟨[.done (), (next₂ (.ok q)).bind fun _ => .done ()], s₁,
      [(1, ⟨.getParticipant t p, .ok q⟩)] ++ log₁⟩) (i := 1) rfl run₂
  refine ⟨_, .head read (ran₁.trans ran₂), by simp, ?_, ?_⟩
  · rw [participants₂, ← own.1, ← own.2, Function.update_same]
    rfl
  · simp [attempts₂, attempts₁, add_assoc]

def attemptedOnce : SyncState :=
  { SyncState.empty with
    participants := fun pair => if pair = ("t1", "p1") then some ⟨"t1", "p1", 3, ⟨1⟩, ⟨1⟩⟩ else none
    externalAttempts := fun pair => if pair = ("t1", "p1") then 3 else 0 }

theorem overlapping_addAttempts_lose_count_after_three :
    ∃ σ, Interleaving.Reachable SyncWorld
        [(TournamentCall.addAttempt ⟨2⟩ ⟨"t1", "p1", 2⟩).task,
          (TournamentCall.addAttempt ⟨3⟩ ⟨"t1", "p1", 4⟩).task] attemptedOnce σ ∧
      σ.threads = [.done (), .done ()] ∧
      (σ.world.participants ("t1", "p1")).map (·.attempts) = some (toInt64 (3 + 4)) ∧
      σ.world.externalAttempts ("t1", "p1") = attemptedOnce.externalAttempts ("t1", "p1") + 2 + 4 :=
  @overlapping_addAttempts_lose_count attemptedOnce "t1" "p1" ⟨"t1", "p1", 3, ⟨1⟩, ⟨1⟩⟩
    (by decide) ⟨rfl, rfl⟩ rfl rfl ⟨2⟩ ⟨3⟩ 2 4 (by decide) (by decide)

/-! ## A tournament deleted and created again -/

theorem deleteTournament_keeps_participants (s : SyncState) (id : TournamentID) :
    Proc.wp SyncWorld (TournamentService.deleteTournament id)
      (fun reply s' => s'.participants = s.participants ∧
        (reply = none → id.validate = .ok () ∧ s'.tournaments id = none)) s := by
  unfold TournamentService.deleteTournament
  split
  · exact ⟨rfl, nofun⟩
  · rename_i valid
    intro _ _ removed
    cases removed with
    | removed =>
      intro _ _ deleted
      cases deleted with
      | deleted => exact ⟨rfl, fun _ => ⟨valid, Function.update_same _ _ _⟩⟩
      | failed _ => exact ⟨rfl, nofun⟩
    | failed _ => exact ⟨rfl, nofun⟩

theorem createTournament_keeps_participants (s : SyncState) (now : Time)
    (cmd : CreateTournamentCommand) :
    Proc.wp SyncWorld (TournamentService.createTournament now cmd)
      (fun result s' => s'.participants = s.participants ∧
        ∀ id, result = .ok id → s'.tournaments id ≠ none) s := by
  unfold TournamentService.createTournament
  split
  · exact ⟨rfl, fun _ => nofun⟩
  · intro _ _ saved
    cases saved with
    | saved =>
      intro _ _ created
      cases created with
      | created => exact ⟨rfl, by rintro _ ⟨⟩; simp⟩
      | failed _ => exact ⟨rfl, fun _ => nofun⟩
    | failed _ => exact ⟨rfl, fun _ => nofun⟩

/-- `DeleteTournament` removes a tournament and leaves its participants. So when a tournament is
deleted and then created again under the same id, `AddAttempt` goes on from the count the
deleted tournament's participant holds, whatever the calls after it answer. -/
theorem recreated_tournament_continues_attempts {s s₁ s₂ : SyncState} {t : TournamentID}
    {p : PlayerID} {q : Participant} (stored : s.participants (t, p) = some q)
    (keyed : q.tournamentID = t ∧ q.playerID = p)
    (deleted : Proc.Runs SyncWorld (TournamentService.deleteTournament t) s none s₁)
    {now : Time} {cmd : CreateTournamentCommand}
    (created : Proc.Runs SyncWorld (TournamentService.createTournament now cmd) s₁ (.ok t) s₂)
    (playerValid : p.validate = .ok ()) {c : Int} (positive : 0 < c) (later : Time)
    (reply : Option GoError) :
    s₁.tournaments t = none ∧ s₂.tournaments t ≠ none ∧
      ∃ s₃, Proc.Runs SyncWorld (TournamentService.addAttempt later ⟨t, p, c⟩) s₂ reply s₃ ∧
        s₃.participants (t, p) =
          some { q with attempts := toInt64 (q.attempts + c), updatedAt := later } := by
  obtain ⟨kept₁, removed⟩ := deleted.post (deleteTournament_keeps_participants s t)
  obtain ⟨tournamentValid, gone⟩ := removed rfl
  obtain ⟨kept₂, back⟩ := created.post (createTournament_keeps_participants s₁ now cmd)
  have stored₂ : s₂.participants (t, p) = some q := by rw [kept₂, kept₁, stored]
  obtain ⟨s₃, run, -, participants, -⟩ :=
    addAttempt_runs_found s₂ later ⟨t, p, c⟩ tournamentValid playerValid positive stored₂ reply
  refine ⟨gone, back t rfl, s₃, run, ?_⟩
  rw [participants, keyed.1, keyed.2, Function.update_same]

theorem recreated_tournament_continues_attempts_cup :
    ∃ s₁ s₂, attemptedOnce.participants ("t1", "p1") = some ⟨"t1", "p1", 3, ⟨1⟩, ⟨1⟩⟩ ∧
      Proc.Runs SyncWorld (TournamentService.deleteTournament "t1") attemptedOnce none s₁ ∧
      Proc.Runs SyncWorld (TournamentService.createTournament (Time.ofUnix 50) cup) s₁ (.ok "t1")
        s₂ ∧
      s₁.tournaments "t1" = none ∧ s₂.tournaments "t1" ≠ none ∧
      ∃ s₃, Proc.Runs SyncWorld (TournamentService.addAttempt ⟨4⟩ ⟨"t1", "p1", 2⟩) s₂ none s₃ ∧
        s₃.participants ("t1", "p1") =
          some { (⟨"t1", "p1", 3, ⟨1⟩, ⟨1⟩⟩ : Participant) with
            attempts := toInt64 (3 + 2), updatedAt := ⟨4⟩ } := by
  obtain ⟨s₁, deleted⟩ : ∃ s₁,
      Proc.Runs SyncWorld (TournamentService.deleteTournament "t1") attemptedOnce none s₁ :=
    ⟨_, .call .removed (.call .deleted (.done _ _))⟩
  obtain ⟨s₂, created⟩ : ∃ s₂,
      Proc.Runs SyncWorld (TournamentService.createTournament (Time.ofUnix 50) cup) s₁
        (.ok "t1") s₂ :=
    ⟨_, .call .saved (.call .created (.done _ _))⟩
  exact ⟨s₁, s₂, rfl, deleted, created,
    @recreated_tournament_continues_attempts attemptedOnce s₁ s₂ "t1" "p1" ⟨"t1", "p1", 3, ⟨1⟩, ⟨1⟩⟩
      rfl ⟨rfl, rfl⟩ deleted (Time.ofUnix 50) cup created rfl 2 (by decide) ⟨4⟩ none⟩

end Sandai
