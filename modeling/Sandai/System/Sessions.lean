import Sandai.Service.Analytics
import Sandai.Adapter.Segment

/-! The analytics service over the in-memory session repository, with the dispatcher free to
answer either way.

`EndSession` saves the ended session before it dispatches the end event, and returns
`ErrDispatchFailed` before its cleanup: after a failed dispatch the ended session stays stored,
and every later `EndSession` for the user is refused until a `StartSession` replaces it.
-/

set_option autoImplicit false

namespace Sandai

/-- What each call of `analytics.Service` can answer over `MemorySessionRepository`, which never
fails; the dispatcher may answer anything. -/
inductive SessionWorld :
    (o : Analytics.Op) → MemorySessionRepository → Analytics.Reply o → MemorySessionRepository →
      Prop where
  | saved {r : MemorySessionRepository} {session : Session} :
      SessionWorld (.saveSession session) r none (r.save session)
  | got {r : MemorySessionRepository} {userID : PlayerID} :
      SessionWorld (.getSession userID) r (r.get userID) r
  | deleted {r : MemorySessionRepository} {userID : PlayerID} :
      SessionWorld (.deleteSession userID) r none (r.delete userID)
  | dispatched {r : MemorySessionRepository} {events : List Event} (reply : Option GoError) :
      SessionWorld (.dispatch events) r reply r

namespace AnalyticsService

variable (context : EventContext) {r : MemorySessionRepository} {userID : PlayerID} {now : Time}

def activeU1 : Session :=
  { userID := "u1", state := .active, version := "1.0", variant := "", startedAt := ⟨1⟩,
    endedAt := none }

theorem endSession_of_ended {session : Session} (valid : userID.validate = .ok ())
    (stored : r.sessions userID = some session) (over : session.state = .ended) :
    Proc.wp SessionWorld (endSession context now userID)
      (fun result r' => result = some ErrSessionAlreadyEnded ∧ r' = r) r := by
  unfold endSession
  rw [valid]
  intro _ _ got
  cases got
  simp [MemorySessionRepository.get, stored, Session.«end», over, ErrSessionAlreadyEnded]

/-- `StartSession` stores the session `NewSession` makes, whatever the dispatcher answers: a user
can always start again. -/
theorem startSession_saves (rt : GoRuntime) (cmd : StartSessionCommand) {session : Session}
    (made : newSession cmd.userID cmd.version cmd.variant now = .ok session) :
    Proc.wp SessionWorld (startSession rt context now cmd) (fun _ r' => r' = r.save session) r := by
  have valid : cmd.userID.validate = .ok () := by
    revert made
    unfold newSession
    cases cmd.userID.validate <;> simp [bind, Except.bind]
  have versioned : cmd.version ≠ "" := by
    rintro blank
    simp [newSession, valid, blank, bind, Except.bind, throw, throwThe, MonadExceptOf.throw] at made
  unfold startSession
  rw [valid]
  dsimp only
  rw [if_neg versioned, made]
  intro _ _ saved
  cases saved
  split
  · rfl
  · rfl
  · intro reply _ dispatched
    cases dispatched
    cases reply <;> rfl

theorem startSession_saves_u1 :
    newSession "u1" "1.0" "" ⟨1⟩ = .ok activeU1 ∧
      Proc.wp SessionWorld
        (startSession linuxRuntime (defaultContext linuxRuntime) ⟨1⟩ ⟨"u1", "1.0", ""⟩)
        (fun _ r' => r' = MemorySessionRepository.empty.save activeU1)
        MemorySessionRepository.empty :=
  ⟨rfl, startSession_saves _ _ _ rfl⟩

end AnalyticsService

/-- `StartSession` for `u1` with a dispatch that succeeds, then `EndSession` with one that fails:
the ended session stays stored, and the next `EndSession` is refused. -/
theorem endSession_failed_dispatch_blocks_end :
    ∃ r₁ r₂,
      Proc.Runs SessionWorld
        (AnalyticsService.startSession linuxRuntime (defaultContext linuxRuntime) ⟨1⟩
          ⟨"u1", "1.0", ""⟩) .empty none r₁ ∧
      Proc.Runs SessionWorld (AnalyticsService.endSession (defaultContext linuxRuntime) ⟨2⟩ "u1")
        r₁ (some ErrDispatchFailed) r₂ ∧
      (r₂.sessions "u1").map (·.state) = some .ended ∧
      Proc.wp SessionWorld (AnalyticsService.endSession (defaultContext linuxRuntime) ⟨3⟩ "u1")
        (fun result r₃ => result = some ErrSessionAlreadyEnded ∧ r₃ = r₂) r₂ :=
  ⟨_, _, .call .saved (.call (.dispatched none) (.done _ _)),
    .call .got (.call .saved (.call (.dispatched (some (.new "503"))) (.done _ _))), rfl,
    AnalyticsService.endSession_of_ended _ rfl rfl rfl⟩

/-! ## Any interleaving -/

/-- The calls that keep the sessions well formed: every session saved is. -/
def SavesWellFormed : AnalyticsOp → Prop
  | .saveSession session => session.WellFormed
  | _ => True

/-- What the repository answers under `SessionsKept`: a session it returns is well formed. -/
def GetsWellFormed : (o : AnalyticsOp) → AnalyticsOp.Reply o → Prop
  | .getSession _, .ok session => session.WellFormed
  | _, _ => True

/-- Every stored session is under its own user id and well formed. -/
def SessionsKept (r : MemorySessionRepository) : Prop :=
  ∀ userID session, r.sessions userID = some session → session.userID = userID ∧ session.WellFormed

theorem SessionsKept.step {o : AnalyticsOp} {r r' : MemorySessionRepository}
    {reply : AnalyticsOp.Reply o} (saves : SavesWellFormed o) (kept : SessionsKept r)
    (answer : SessionWorld o r reply r') : GetsWellFormed o reply ∧ SessionsKept r' := by
  cases answer with
  | saved => exact ⟨trivial, forall_update_some kept ⟨rfl, saves⟩⟩
  | @got _ userID =>
    refine ⟨?_, kept⟩
    cases found : r.sessions userID with
    | none => simp [GetsWellFormed, MemorySessionRepository.get, found]
    | some session =>
      simpa [GetsWellFormed, MemorySessionRepository.get, found] using (kept _ _ found).2
  | @deleted _ userID => exact ⟨trivial, forall_update_none kept userID⟩
  | dispatched => exact ⟨trivial, kept⟩

namespace AnalyticsService

theorem startSession_savesWellFormed (rt : GoRuntime) (context : EventContext) (now : Time)
    (cmd : StartSessionCommand) :
    Proc.Respects SavesWellFormed GetsWellFormed (startSession rt context now cmd) := by
  unfold startSession
  split
  · exact .done _
  · split
    · exact .done _
    · split
      · exact .done _
      · rename_i session made
        refine .call (newSession_wellFormed made).1 fun saved _ => ?_
        cases saved with
        | some => exact .done _
        | none =>
          dsimp only
          split
          · exact .done _
          · exact .done _
          · exact .call trivial fun dispatched _ => by cases dispatched <;> exact .done _

theorem endSession_savesWellFormed (context : EventContext) (now : Time) (userID : PlayerID) :
    Proc.Respects SavesWellFormed GetsWellFormed (endSession context now userID) := by
  unfold endSession
  split
  · exact .done _
  · refine .call trivial fun got relied => ?_
    cases got with
    | error => exact .done _
    | ok session =>
      dsimp only
      split
      · exact .done _
      · rename_i ended accepted
        have kept := (@Session.WellFormed.end session relied now (by rw [accepted])).1
        rw [accepted] at kept
        refine .call kept fun saved _ => ?_
        cases saved with
        | some => exact .done _
        | none =>
          dsimp only
          split
          · exact .done _
          · refine .call trivial fun dispatched _ => ?_
            cases dispatched with
            | some => exact .done _
            | none => exact .call trivial fun _ _ => .done _

theorem trackEvent_savesWellFormed (context : EventContext) (now : Time) (cmd : TrackEventCommand) :
    Proc.Respects SavesWellFormed GetsWellFormed (trackEvent context now cmd) := by
  unfold trackEvent
  split
  · exact .done _
  · split
    · exact .done _
    · exact .call trivial fun dispatched _ => by cases dispatched <;> exact .done _

end AnalyticsService

/-- One call of `analytics.Service`, with its clock reading. -/
inductive AnalyticsCall where
  | startSession (now : Time) (cmd : StartSessionCommand)
  | endSession (now : Time) (userID : PlayerID)
  | trackEvent (now : Time) (cmd : TrackEventCommand)

/-- The call in a goroutine of its own, on a service built by `NewService` on runtime `rt`, whose
`ContextFactory` returns `context`: what it returns is dropped. -/
def AnalyticsCall.task (rt : GoRuntime) (context : EventContext) :
    AnalyticsCall → Proc Analytics Unit
  | .startSession now cmd => (AnalyticsService.startSession rt context now cmd).bind fun _ => .done ()
  | .endSession now userID => (AnalyticsService.endSession context now userID).bind fun _ => .done ()
  | .trackEvent now cmd => (AnalyticsService.trackEvent context now cmd).bind fun _ => .done ()

theorem AnalyticsCall.savesWellFormed (rt : GoRuntime) (context : EventContext) (c : AnalyticsCall) :
    Proc.Respects SavesWellFormed GetsWellFormed (c.task rt context) := by
  cases c with
  | startSession now cmd =>
    exact (AnalyticsService.startSession_savesWellFormed rt context now cmd).bind fun _ => .done ()
  | endSession now userID =>
    exact (AnalyticsService.endSession_savesWellFormed context now userID).bind fun _ => .done ()
  | trackEvent now cmd =>
    exact (AnalyticsService.trackEvent_savesWellFormed context now cmd).bind fun _ => .done ()

/-- Any number of `analytics.Service` calls in flight together on the in-memory session
repository, from an empty one, interleaved in any order and with the dispatcher answering
anything: in every state they reach, each stored session is under its own user id, passes the
checks of `NewSession`, has an end time exactly when it has ended, and an ended one's end time
is not before its start, so that its `Duration` is non-negative. -/
theorem interleaved_sessions_well_formed (rt : GoRuntime) (context : EventContext)
    (calls : List AnalyticsCall) {σ : Interleaving Analytics Unit MemorySessionRepository}
    (reach : Interleaving.Reachable SessionWorld (calls.map (·.task rt context)) .empty σ)
    (userID : PlayerID) (session : Session) (stored : σ.world.sessions userID = some session) :
    session.userID = userID ∧ session.WellFormed ∧
      ∀ endedAt, session.endedAt = some endedAt → ∀ wallClock, 0 ≤ session.duration wallClock := by
  have kept : SessionsKept σ.world :=
    Interleaving.reachable_world_invariant (P := SavesWellFormed) (R := GetsWellFormed)
      (fun _ _ _ _ saves kept answer => kept.step saves answer)
      (by simpa using fun c _ => c.savesWellFormed rt context) (fun _ _ => nofun) reach
  obtain ⟨same, wellFormed⟩ := kept userID session stored
  exact ⟨same, wellFormed, fun _ over => wellFormed.duration_nonneg over⟩

theorem interleaved_sessions_well_formed_overlap :
    ∃ σ session, Interleaving.Reachable SessionWorld
        ([AnalyticsCall.startSession ⟨1⟩ ⟨"u1", "1.0", ""⟩, .endSession ⟨2⟩ "u1"].map
          (AnalyticsCall.task linuxRuntime (defaultContext linuxRuntime))) .empty σ ∧
      σ.world.sessions "u1" = some session ∧ session.state = .ended ∧
      (session.userID = "u1" ∧ session.WellFormed ∧
        ∀ endedAt, session.endedAt = some endedAt → ∀ wallClock, 0 ≤ session.duration wallClock) :=
  have reach : Interleaving.Reachable SessionWorld
      ([AnalyticsCall.startSession ⟨1⟩ ⟨"u1", "1.0", ""⟩, .endSession ⟨2⟩ "u1"].map
        (AnalyticsCall.task linuxRuntime (defaultContext linuxRuntime))) .empty _ :=
    .head (.call (i := 0) rfl .saved) <| .head (.call (i := 1) rfl .got) <|
      .head (.call (i := 1) rfl .saved) <|
      .head (.call (i := 1) rfl (.dispatched (some (.new "503")))) <|
      .head (.call (i := 0) rfl (.dispatched none)) .refl
  ⟨_, _, reach, rfl, rfl, interleaved_sessions_well_formed _ _ _ reach "u1" _ rfl⟩

/-! ## An `EndSession` overlapping a `StartSession` -/

namespace AnalyticsService

theorem startSession_runs (rt : GoRuntime) (context : EventContext) {now : Time}
    {cmd : StartSessionCommand} {session : Session}
    (made : newSession cmd.userID cmd.version cmd.variant now = .ok session)
    (r : MemorySessionRepository) :
    Proc.Runs SessionWorld (startSession rt context now cmd) r none (r.save session) := by
  obtain ⟨wellFormed, same, rfl⟩ := newSession_wellFormed made
  have valid : cmd.userID.validate = .ok () := same ▸ wellFormed.valid
  obtain ⟨identify, identified⟩ : ∃ e, newIdentifyEvent cmd.userID context session.startedAt = .ok e := by
    simp [newIdentifyEvent, valid, wellFormed.started, bind, Except.bind, pure, Except.pure]
  obtain ⟨track, tracked⟩ :
      ∃ e, newTrackEvent cmd.userID eventNameStart context session.startedAt = .ok e := by
    simp [newTrackEvent, valid, wellFormed.started, eventNameStart, bind, Except.bind, pure,
      Except.pure]
  unfold startSession
  rw [valid]
  dsimp only
  have versioned : cmd.version ≠ "" := by
    rintro blank
    simp [newSession, valid, blank, bind, Except.bind, throw, throwThe, MonadExceptOf.throw] at made
  rw [if_neg versioned, made]
  refine .call .saved ?_
  dsimp only
  rw [identified, tracked]
  exact .call (.dispatched none) (.done _ _)

theorem endSession_of_accepted (context : EventContext) {now : Time} {userID : PlayerID}
    {session : Session} (valid : userID.validate = .ok ()) (accepted : (session.«end» now).2 = none)
    (clock : now.isZero = false) :
    ∃ next rest, endSession context now userID = .call (.getSession userID) next ∧
      next (.ok session) = .call (.saveSession (session.«end» now).1) rest ∧
      ∀ r, Proc.Runs SessionWorld (rest none) r none (r.delete userID) := by
  have ended : session.«end» now = ((session.«end» now).1, none) := Prod.ext rfl accepted
  obtain ⟨track, tracked⟩ : ∃ e, newTrackEvent userID eventNameEnd context now = .ok e := by
    simp [newTrackEvent, valid, clock, eventNameEnd, bind, Except.bind, pure, Except.pure]
  unfold endSession
  rw [valid]
  refine ⟨_, _, rfl, by dsimp only; rw [ended], fun r => ?_⟩
  dsimp only
  rw [tracked]
  exact .call (.dispatched none) (.call .deleted (.done _ _))

end AnalyticsService

/-- An `EndSession` and a `StartSession` for one user that overlap: the end gets the stored
session and saves it ended, the start then saves its new session and returns nil, and the end's
cleanup deletes the user's record and returns nil. For every stored session that `End` accepts
and every new session `NewSession` makes, the store holds the new session once `StartSession`
has returned, and none once both calls have returned nil: the session `StartSession` reported
started is lost. -/
theorem overlapping_endSession_deletes_new_session (rt : GoRuntime) (context : EventContext)
    {r : MemorySessionRepository} {userID : PlayerID} {session : Session}
    (stored : r.sessions userID = some session) (valid : userID.validate = .ok ())
    {now₁ : Time} (accepted : (session.«end» now₁).2 = none) (clock : now₁.isZero = false)
    {now₂ : Time} {cmd : StartSessionCommand} (same : cmd.userID = userID) {fresh : Session}
    (made : newSession cmd.userID cmd.version cmd.variant now₂ = .ok fresh) :
    ∃ σ₁ σ, Interleaving.Reachable SessionWorld
        [AnalyticsService.endSession context now₁ userID,
          AnalyticsService.startSession rt context now₂ cmd] r σ₁ ∧
      σ₁.threads[1]? = some (.done none) ∧ σ₁.world.sessions userID = some fresh ∧
      Relation.ReflTransGen (Interleaving.Step SessionWorld) σ₁ σ ∧
      σ.threads = [.done none, .done none] ∧ σ.world.sessions userID = none := by
  obtain ⟨next, rest, start, got, cleanup⟩ :=
    AnalyticsService.endSession_of_accepted context valid accepted clock
  have answer : SessionWorld (.getSession userID) r (.ok session) r := by
    have get : r.get userID = .ok session := by simp [MemorySessionRepository.get, stored]
    exact get ▸ .got
  have read := @Interleaving.Step.call _ _ _ SessionWorld
    ⟨[AnalyticsService.endSession context now₁ userID,
      AnalyticsService.startSession rt context now₂ cmd], r, []⟩ 0 _ next (.ok session) r
    (by rw [start]; rfl) answer
  have saved := @Interleaving.Step.call _ _ _ SessionWorld
    ⟨[next (.ok session), AnalyticsService.startSession rt context now₂ cmd], r,
      [(0, ⟨.getSession userID, .ok session⟩)]⟩ 0 _ rest none _
    (by rw [got]; rfl) .saved
  obtain ⟨log₁, started⟩ := Interleaving.runs_alone
    (σ := ⟨[rest none, AnalyticsService.startSession rt context now₂ cmd],
      r.save (session.«end» now₁).1,
      [(0, ⟨.getSession userID, .ok session⟩), (0, ⟨.saveSession (session.«end» now₁).1, none⟩)]⟩)
    (i := 1) rfl (AnalyticsService.startSession_runs rt context made _)
  obtain ⟨log₂, cleaned⟩ := Interleaving.runs_alone
    (σ := ⟨[rest none, .done none], (r.save (session.«end» now₁).1).save fresh,
      [(0, ⟨.getSession userID, .ok session⟩), (0, ⟨.saveSession (session.«end» now₁).1, none⟩)] ++
        log₁⟩)
    (i := 0) rfl (cleanup _)
  have owner : fresh.userID = userID := (newSession_wellFormed made).2.1.trans same
  exact ⟨_, _, .head read (.head saved started), rfl,
    by simp [MemorySessionRepository.save, owner], cleaned, rfl,
    by simp [MemorySessionRepository.delete]⟩

theorem overlapping_endSession_deletes_new_session_u1 :
    ∃ σ₁ σ, Interleaving.Reachable SessionWorld
        [AnalyticsService.endSession (defaultContext linuxRuntime) ⟨2⟩ "u1",
          AnalyticsService.startSession linuxRuntime (defaultContext linuxRuntime) ⟨3⟩
            ⟨"u1", "1.0", ""⟩] (MemorySessionRepository.empty.save AnalyticsService.activeU1) σ₁ ∧
      σ₁.threads[1]? = some (.done none) ∧
      σ₁.world.sessions "u1" = some { AnalyticsService.activeU1 with startedAt := ⟨3⟩ } ∧
      Relation.ReflTransGen (Interleaving.Step SessionWorld) σ₁ σ ∧
      σ.threads = [.done none, .done none] ∧ σ.world.sessions "u1" = none :=
  @overlapping_endSession_deletes_new_session linuxRuntime (defaultContext linuxRuntime) _ "u1"
    AnalyticsService.activeU1 rfl rfl ⟨2⟩ rfl rfl ⟨3⟩ ⟨"u1", "1.0", ""⟩ rfl { AnalyticsService.activeU1 with startedAt := ⟨3⟩ } rfl

end Sandai
