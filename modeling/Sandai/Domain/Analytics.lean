import Sandai.Shared.Time

/-! The analytics aggregates (`domain/analytics`): the user session and the tracking event.

An ended session's `Duration` is `EndedAt.Sub(StartedAt)`, which Go caps at `maxDuration`: it is
the exact nanosecond count only for sessions shorter than about 292 years.
-/

set_option autoImplicit false

namespace Sandai

def ErrSessionNotFound : GoError := .new "session not found"
def ErrSessionAlreadyEnded : GoError := .new "session already ended"
def ErrInvalidEvent : GoError := .new "invalid event"
def ErrDispatchFailed : GoError := .new "failed to dispatch events"

/-- `analytics.SessionState`; no code path stores a value other than its two constants. -/
inductive SessionState where
  | active
  | ended
  deriving DecidableEq, Repr

structure Session where
  userID : PlayerID
  state : SessionState
  version : String
  variant : String
  startedAt : Time
  endedAt : Option Time
  deriving DecidableEq, Repr

def newSession (userID : PlayerID) (version variant : String) (startedAt : Time) :
    Except GoError Session := do
  userID.validate
  if version = "" then throw (.new "version is required")
  if startedAt.isZero then throw (.new "start time is required")
  return { userID, state := .active, version, variant, startedAt, endedAt := none }

namespace Session

def «end» (s : Session) (endedAt : Time) : Session × Option GoError :=
  if s.state = .ended then (s, some (.new "session already ended"))
  else if endedAt.before s.startedAt then (s, some (.new "end time cannot be before start time"))
  else ({ s with state := .ended, endedAt := some endedAt }, none)

def isActive (s : Session) : Bool := s.state = .active

/-- `s.Duration()`; an open session is measured against the wall clock (`time.Since`). -/
def duration (s : Session) (wallClock : Time) : Duration :=
  match s.endedAt with
  | none => wallClock.sub s.startedAt
  | some endedAt => endedAt.sub s.startedAt

theorem end_accepted {s : Session} {endedAt : Time} (accepted : (s.«end» endedAt).2 = none) :
    endedAt.before s.startedAt = false ∧
      (s.«end» endedAt).1 = { s with state := .ended, endedAt := some endedAt } := by
  unfold «end» at accepted ⊢
  split_ifs at accepted ⊢ with over early
  exact ⟨Bool.eq_false_iff.mpr early, rfl⟩

/-- Every `End` that succeeds leaves a session whose `Duration` is never negative: the
nanoseconds from `StartedAt` to `EndedAt`, capped at `maxDuration` (`2 ^ 63 - 1`), and so exact
for a session shorter than about 292 years. -/
theorem duration_of_end {s : Session} {endedAt : Time} (accepted : (s.«end» endedAt).2 = none)
    (wallClock : Time) :
    0 ≤ (s.«end» endedAt).1.duration wallClock ∧
      (s.«end» endedAt).1.duration wallClock =
        min (2 ^ 63 - 1) (endedAt.nanos - s.startedAt.nanos) := by
  obtain ⟨notBefore, ended⟩ := end_accepted accepted
  rw [ended]
  exact Time.sub_of_not_before notBefore

/-- What `NewSession` checks and an accepted `End` keeps: a valid user id, a version, a start
time, an end time exactly when the session has ended, and none before the start. -/
structure WellFormed (s : Session) : Prop where
  valid : s.userID.validate = .ok ()
  versioned : s.version ≠ ""
  started : s.startedAt.isZero = false
  ended : s.state = .ended ↔ s.endedAt.isSome
  notBefore : ∀ endedAt, s.endedAt = some endedAt → endedAt.before s.startedAt = false

theorem WellFormed.end {s : Session} (w : s.WellFormed) {endedAt : Time}
    (accepted : (s.«end» endedAt).2 = none) :
    (s.«end» endedAt).1.WellFormed ∧ (s.«end» endedAt).1.userID = s.userID := by
  obtain ⟨notBefore, ended⟩ := end_accepted accepted
  rw [ended]
  exact ⟨⟨w.valid, w.versioned, w.started, by simp, by rintro _ ⟨⟩; exact notBefore⟩, rfl⟩

theorem WellFormed.duration_nonneg {s : Session} (w : s.WellFormed) {endedAt : Time}
    (over : s.endedAt = some endedAt) (wallClock : Time) : 0 ≤ s.duration wallClock := by
  rw [duration, over]
  exact (Time.sub_of_not_before (w.notBefore endedAt over)).1

def epochSession : Session :=
  { userID := "u1", state := .active, version := "1.0", variant := "", startedAt := Time.ofUnix 0,
    endedAt := none }

theorem duration_of_end_minute :
    newSession "u1" "1.0" "" (Time.ofUnix 0) = .ok epochSession ∧
      (epochSession.«end» (Time.ofUnix 60)).2 = none ∧
      0 ≤ (epochSession.«end» (Time.ofUnix 60)).1.duration (Time.ofUnix 0) ∧
      (epochSession.«end» (Time.ofUnix 60)).1.duration (Time.ofUnix 0) =
        min (2 ^ 63 - 1) ((Time.ofUnix 60).nanos - (Time.ofUnix 0).nanos) :=
  ⟨rfl, rfl, @duration_of_end epochSession (Time.ofUnix 60) rfl _⟩

/-- The session that `NewSession` starts at the Unix epoch, ended by `End` at Unix second
`10 ^ 10`, in the year 2286: the two times are `10 ^ 19` ns apart, and `Duration` returns
`maxDuration`, `2 ^ 63 - 1` ns, at any wall-clock time. -/
theorem duration_capped_long_session :
    newSession "u1" "1.0" "" (Time.ofUnix 0) = .ok epochSession ∧
      (epochSession.«end» (Time.ofUnix 10000000000)).2 = none ∧
      (Time.ofUnix 10000000000).nanos - (Time.ofUnix 0).nanos = 10 ^ 19 ∧
      ∀ wallClock,
        (epochSession.«end» (Time.ofUnix 10000000000)).1.duration wallClock = 2 ^ 63 - 1 :=
  ⟨rfl, rfl, rfl, fun _ => rfl⟩

end Session

/-- A session `NewSession` returns is well formed and belongs to the user it was given, from
the time it was given. -/
theorem newSession_wellFormed {userID : PlayerID} {version variant : String} {startedAt : Time}
    {s : Session} (made : newSession userID version variant startedAt = .ok s) :
    s.WellFormed ∧ s.userID = userID ∧ s.startedAt = startedAt := by
  revert made
  unfold newSession
  cases valid : userID.validate with
  | error => rintro ⟨⟩
  | ok =>
    simp only [bind, Except.bind, pure, Except.pure]
    split_ifs with unversioned unset
    all_goals try rintro ⟨⟩
    exact ⟨⟨valid, unversioned, by simpa using unset, by simp, nofun⟩, rfl, rfl⟩

/-- A session `NewSession` starts and `End` accepts an end time for has a non-negative
`Duration`: the nanoseconds from the start time to the end time, capped at `maxDuration`. It is
that exact difference just when the difference is below `2 ^ 63` ns, about 292 years. -/
theorem newSession_duration_exact_iff {userID : PlayerID} {version variant : String}
    {startedAt : Time} {s : Session} (made : newSession userID version variant startedAt = .ok s)
    {endedAt : Time} (accepted : (s.«end» endedAt).2 = none) (wallClock : Time) :
    0 ≤ (s.«end» endedAt).1.duration wallClock ∧
      (s.«end» endedAt).1.duration wallClock = min (2 ^ 63 - 1) (endedAt.nanos - startedAt.nanos) ∧
      ((s.«end» endedAt).1.duration wallClock = endedAt.nanos - startedAt.nanos ↔
        endedAt.nanos - startedAt.nanos < 2 ^ 63) := by
  obtain ⟨-, -, rfl⟩ := newSession_wellFormed made
  obtain ⟨notBefore, ended⟩ := Session.end_accepted accepted
  obtain ⟨nonneg, capped⟩ := Time.sub_of_not_before notBefore
  have measured : (s.«end» endedAt).1.duration wallClock = endedAt.sub s.startedAt := by
    rw [ended]; rfl
  rw [measured]
  exact ⟨nonneg, capped, by rw [capped, min_eq_right_iff]; exact Int.le_sub_one_iff⟩

theorem newSession_duration_exact_iff_minute :
    0 ≤ (Session.epochSession.«end» (Time.ofUnix 60)).1.duration (Time.ofUnix 0) ∧
      (Session.epochSession.«end» (Time.ofUnix 60)).1.duration (Time.ofUnix 0) =
        min (2 ^ 63 - 1) ((Time.ofUnix 60).nanos - (Time.ofUnix 0).nanos) ∧
      ((Session.epochSession.«end» (Time.ofUnix 60)).1.duration (Time.ofUnix 0) =
          (Time.ofUnix 60).nanos - (Time.ofUnix 0).nanos ↔
        (Time.ofUnix 60).nanos - (Time.ofUnix 0).nanos < 2 ^ 63) :=
  @newSession_duration_exact_iff "u1" "1.0" "" (Time.ofUnix 0) Session.epochSession rfl
    (Time.ofUnix 60) rfl (Time.ofUnix 0)

/-! ## Events -/

/-- `analytics.EventType` and `analytics.EventName` are Go string types. -/
abbrev EventType := String
abbrev EventName := String

def eventTypeIdentify : EventType := "identify"
def eventTypeTrack : EventType := "track"
def eventNameStart : EventName := "start"
def eventNameEnd : EventName := "end"

structure LibraryInfo where
  name : String
  version : String
  deriving DecidableEq, Repr

structure EventContext where
  direct : Bool
  library : LibraryInfo
  deriving DecidableEq, Repr

/-- `analytics.AppInfo`; it also stands for `analytics.OSInfo`, which has the same two fields. -/
structure AppInfo where
  name : String
  version : String
  deriving DecidableEq, Repr

/-- `analytics.Event`; `App` and `OS` are nil pointers until set. -/
structure Event where
  type : EventType
  userID : PlayerID
  name : EventName
  context : EventContext
  app : Option AppInfo
  os : Option AppInfo
  timestamp : Time
  deriving DecidableEq, Repr

def newIdentifyEvent (userID : PlayerID) (ctx : EventContext) (timestamp : Time) :
    Except GoError Event := do
  userID.validate
  if timestamp.isZero then throw (.new "timestamp cannot be zero")
  return { type := eventTypeIdentify, userID, name := "", context := ctx, app := none,
           os := none, timestamp }

def newTrackEvent (userID : PlayerID) (name : EventName) (ctx : EventContext)
    (timestamp : Time) : Except GoError Event := do
  userID.validate
  if name = "" then throw (.new "event name cannot be empty")
  if timestamp.isZero then throw (.new "timestamp cannot be zero")
  return { type := eventTypeTrack, userID, name, context := ctx, app := none, os := none,
           timestamp }

namespace Event

def withAppInfo (e : Event) (name version : String) : Event := { e with app := some ⟨name, version⟩ }

def withOSInfo (e : Event) (name version : String) : Event := { e with os := some ⟨name, version⟩ }

def validate (e : Event) : Except GoError Unit := do
  if e.type = "" then throw (.new "event type is required")
  e.userID.validate
  if e.type = eventTypeTrack ∧ e.name = "" then throw (.new "track events require a name")
  if e.timestamp.isZero then throw (.new "timestamp is required")

end Event

end Sandai
