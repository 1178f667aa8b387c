import Sandai.Shared.Time

/-! The tournament aggregate and its participants (`domain/tournament`).

A mutator of the Go code changes its receiver in place and returns an `error`; here it returns
the receiver after the call together with that error, so that what a failed call leaves behind
is part of the model.
-/

set_option autoImplicit false

namespace Sandai

def ErrTournamentNotFound : GoError := .new "tournament not found"
def ErrTournamentAlreadyExists : GoError := .new "tournament already exists"
def ErrTournamentAlreadyEnded : GoError := .new "tournament already ended"
def ErrParticipantNotFound : GoError := .new "participant not found"
def ErrParticipantAlreadyJoined : GoError := .new "participant already joined"
def ErrTournamentFull : GoError := .new "tournament is full"
def ErrInvalidAttemptCount : GoError := .new "invalid attempt count"

/-- `tournament.TournamentState`; no code path stores a value other than its three constants. -/
inductive TournamentState where
  | active
  | ended
  | reset
  deriving DecidableEq, Repr

/-- `tournament.Tournament`. `SortOrder` and `Operator` are Go string types whose values come
unchecked from callers, so they stay strings. -/
structure Tournament where
  id : TournamentID
  title : String
  description : String
  category : Int
  sortOrder : String
  operator : String
  resetSchedule : String
  authoritative : Bool
  joinRequired : Bool
  maxSize : Int
  maxNumScore : Int
  startTime : Time
  endTime : Option Time
  duration : Duration
  state : TournamentState
  createdAt : Time
  updatedAt : Time
  deriving DecidableEq, Repr

def newTournament (id : TournamentID) (title description : String) (category : Int)
    (sortOrder operator resetSchedule : String) (authoritative joinRequired : Bool)
    (maxSize maxNumScore : Int) (startTime : Time) (duration : Duration) (now : Time) :
    Except GoError Tournament := do
  id.validate
  if title = "" then throw (.new "title is required")
  if category < 0 then throw (.new "category must be non-negative")
  if maxSize < 0 then throw (.new "max size must be non-negative")
  if maxNumScore < 0 then throw (.new "max num score must be non-negative")
  if startTime.isZero then throw (.new "start time is required")
  if duration < 0 then throw (.new "duration must be non-negative")
  return { id, title, description, category, sortOrder, operator, resetSchedule, authoritative,
           joinRequired, maxSize, maxNumScore, startTime, endTime := none, duration,
           state := .active, createdAt := now, updatedAt := now }

namespace Tournament

def «end» (t : Tournament) (endTime : Time) : Tournament × Option GoError :=
  if t.state = .ended then (t, some ErrTournamentAlreadyEnded)
  else if endTime.before t.startTime then (t, some (.new "end time cannot be before start time"))
  else ({ t with state := .ended, endTime := some endTime, updatedAt := endTime }, none)

def reset (t : Tournament) (resetTime : Time) : Tournament × Option GoError :=
  if t.state ≠ .active ∧ t.state ≠ .ended then
    (t, some (.new "can only reset active or ended tournaments"))
  else ({ t with state := .reset, updatedAt := resetTime }, none)

def isActive (t : Tournament) : Bool := t.state = .active

/-- `t.CalculateEndTime()`: a positive duration wins over a recorded end time. -/
def calculateEndTime (t : Tournament) : Time :=
  if 0 < t.duration then t.startTime.add t.duration
  else match t.endTime with
    | some endTime => endTime
    | none => ⟨0⟩

theorem calculateEndTime_eq (t : Tournament) :
    t.calculateEndTime =
      if 0 < t.duration then t.startTime.add t.duration else t.endTime.getD ⟨0⟩ := by
  unfold calculateEndTime
  split_ifs
  · rfl
  · cases t.endTime <;> rfl

def validate (t : Tournament) : Except GoError Unit := do
  t.id.validate
  if t.title = "" then throw (.new "title is required")
  if t.startTime.isZero then throw (.new "start time is required")

/-- What `NewTournament` checks of the tournament it returns: `Validate` passes and the
counts and the duration are not negative. -/
structure WellFormed (t : Tournament) : Prop where
  valid : t.validate = .ok ()
  category : 0 ≤ t.category
  maxSize : 0 ≤ t.maxSize
  maxNumScore : 0 ≤ t.maxNumScore
  duration : 0 ≤ t.duration

theorem WellFormed.withLifecycle {t : Tournament} (w : t.WellFormed) (state : TournamentState)
    (endTime : Option Time) (updatedAt : Time) : WellFormed { t with state, endTime, updatedAt } :=
  ⟨w.valid, w.category, w.maxSize, w.maxNumScore, w.duration⟩

end Tournament

/-- A tournament `NewTournament` returns is well formed and active, has no end time, and has the
id, start time and duration it was given. -/
theorem newTournament_wellFormed {id : TournamentID} {title description : String}
    {category : Int} {sortOrder operator resetSchedule : String}
    {authoritative joinRequired : Bool} {maxSize maxNumScore : Int} {startTime : Time}
    {duration : Duration} {now : Time} {t : Tournament}
    (made : newTournament id title description category sortOrder operator resetSchedule
      authoritative joinRequired maxSize maxNumScore startTime duration now = .ok t) :
    t.WellFormed ∧ t.id = id ∧ t.startTime = startTime ∧ t.duration = duration ∧
      t.state = .active ∧ t.endTime = none := by
  revert made
  unfold newTournament
  cases valid : id.validate with
  | error => rintro ⟨⟩
  | ok =>
    simp only [bind, Except.bind, pure, Except.pure]
    split_ifs with untitled negCategory negSize negScore unset negative
    all_goals try rintro ⟨⟩
    refine ⟨⟨?_, not_lt.mp negCategory, not_lt.mp negSize, not_lt.mp negScore,
      not_lt.mp negative⟩, rfl, rfl, rfl, rfl, rfl⟩
    simp [Tournament.validate, valid, untitled, unset]

theorem end_cases (t : Tournament) (endTime : Time) :
    (∃ err, t.«end» endTime = (t, some err)) ∨
      (t.state ≠ .ended ∧ endTime.before t.startTime = false ∧
        t.«end» endTime =
          ({ t with state := .ended, endTime := some endTime, updatedAt := endTime }, none)) := by
  unfold Tournament.«end»
  split
  · exact .inl ⟨_, rfl⟩
  · split
    · exact .inl ⟨_, rfl⟩
    · rename_i notEnded notBefore
      exact .inr ⟨notEnded, by simpa using notBefore, rfl⟩

theorem reset_cases (t : Tournament) (resetTime : Time) :
    (∃ err, t.reset resetTime = (t, some err)) ∨
      ((t.state = .active ∨ t.state = .ended) ∧
        t.reset resetTime = ({ t with state := .reset, updatedAt := resetTime }, none)) := by
  unfold Tournament.reset
  split
  · exact .inl ⟨_, rfl⟩
  · exact .inr ⟨by tauto, rfl⟩

/-- `End` from `reset` is accepted: the guard rejects only `ended`, so a reset tournament ends
again and its `EndTime` is overwritten. -/
theorem end_from_reset (t : Tournament) (endTime : Time) (wasReset : t.state = .reset)
    (notBefore : endTime.before t.startTime = false) :
    t.«end» endTime =
      ({ t with state := .ended, endTime := some endTime, updatedAt := endTime }, none) := by
  simp [Tournament.«end», wasReset, notBefore]

/-- One call of the lifecycle, with the time it is given. -/
inductive LifecycleCall where
  | «end» (time : Time)
  | reset (time : Time)
  deriving DecidableEq, Repr

def Tournament.apply (t : Tournament) : LifecycleCall → Tournament × Option GoError
  | .«end» time => t.«end» time
  | .reset time => t.reset time

def Tournament.run (t : Tournament) : List LifecycleCall → List (Tournament × Option GoError)
  | [] => []
  | c :: rest => t.apply c :: (t.apply c).1.run rest

def Tournament.applyAll (t : Tournament) (calls : List LifecycleCall) : Tournament :=
  calls.foldl (fun t c => (t.apply c).1) t

/-- The times of the `End` calls of a run that returned nil, in order. -/
def acceptedEndTimes : List LifecycleCall → List (Tournament × Option GoError) → List Time
  | .«end» time :: calls, (_, none) :: steps => time :: acceptedEndTimes calls steps
  | _ :: calls, _ :: steps => acceptedEndTimes calls steps
  | _, _ => []

theorem acceptedEndTimes_cons (c : LifecycleCall) (step : Tournament × Option GoError)
    (calls : List LifecycleCall) (steps : List (Tournament × Option GoError)) :
    acceptedEndTimes (c :: calls) (step :: steps) =
      acceptedEndTimes [c] [step] ++ acceptedEndTimes calls steps := by
  obtain ⟨u, _ | err⟩ := step <;> cases c <;> rfl

theorem apply_fields (t : Tournament) (c : LifecycleCall) :
    ∃ state updatedAt, (t.apply c).1 =
      { t with state, updatedAt,
               endTime := (acceptedEndTimes [c] [t.apply c]).getLast?.or t.endTime } := by
  cases c with
  | «end» time =>
    rcases end_cases t time with ⟨err, same⟩ | ⟨-, -, same⟩ <;>
      simp only [Tournament.apply, same, acceptedEndTimes]
    · exact ⟨t.state, t.updatedAt, rfl⟩
    · exact ⟨_, _, rfl⟩
  | reset time =>
    rcases reset_cases t time with ⟨err, same⟩ | ⟨-, same⟩ <;>
      simp only [Tournament.apply, same, acceptedEndTimes]
    · exact ⟨t.state, t.updatedAt, rfl⟩
    · exact ⟨_, _, rfl⟩

theorem applyAll_fields (t : Tournament) (calls : List LifecycleCall) :
    ∃ state updatedAt, t.applyAll calls =
      { t with state, updatedAt,
               endTime := (acceptedEndTimes calls (t.run calls)).getLast?.or t.endTime } := by
  induction calls generalizing t with
  | nil => exact ⟨t.state, t.updatedAt, rfl⟩
  | cons c rest ih =>
    obtain ⟨state, updatedAt, same⟩ := apply_fields t c
    obtain ⟨state', updatedAt', later⟩ := ih (t.apply c).1
    refine ⟨state', updatedAt', ?_⟩
    rw [Tournament.applyAll, List.foldl_cons, ← Tournament.applyAll, later, Tournament.run,
      acceptedEndTimes_cons c (t.apply c) rest, List.getLast?_append, Option.or_assoc, same]

/-- Every tournament `NewTournament` returns, and every tournament any sequence of `End` and
`Reset` calls makes of it, is well formed: it passes `Validate` and keeps the bounds
`NewTournament` checks. Its `CalculateEndTime` is the start plus the duration when the duration
is positive, whatever the calls; otherwise it is the time of the last `End` that returned nil,
which a later `Reset` does not clear, and the zero `Time` while no `End` has been accepted. -/
theorem newTournament_lifecycle {id : TournamentID} {title description : String}
    {category : Int} {sortOrder operator resetSchedule : String}
    {authoritative joinRequired : Bool} {maxSize maxNumScore : Int} {startTime : Time}
    {duration : Duration} {now : Time} {t : Tournament}
    (made : newTournament id title description category sortOrder operator resetSchedule
      authoritative joinRequired maxSize maxNumScore startTime duration now = .ok t)
    (calls : List LifecycleCall) :
    (t.applyAll calls).WellFormed ∧
      (t.applyAll calls).calculateEndTime =
        if 0 < duration then startTime.add duration
        else (acceptedEndTimes calls (t.run calls)).getLast?.getD ⟨0⟩ := by
  obtain ⟨wellFormed, rfl, rfl, rfl, -, noEnd⟩ := newTournament_wellFormed made
  obtain ⟨state, updatedAt, same⟩ := applyAll_fields t calls
  rw [same, Tournament.calculateEndTime_eq, noEnd, Option.or_none]
  exact ⟨wellFormed.withLifecycle _ _ _, rfl⟩

theorem newTournament_lifecycle_reset_keeps_end :
    ∃ t, newTournament "t1" "Cup" "" 0 "desc" "best" "" true false 10 0 ⟨1⟩ 0 ⟨1⟩ = .ok t ∧
      ((t.applyAll [.«end» ⟨3⟩, .reset ⟨4⟩]).WellFormed ∧
        (t.applyAll [.«end» ⟨3⟩, .reset ⟨4⟩]).calculateEndTime =
          if 0 < (0 : Duration) then Time.add ⟨1⟩ 0
          else (acceptedEndTimes [.«end» ⟨3⟩, .reset ⟨4⟩]
            (t.run [.«end» ⟨3⟩, .reset ⟨4⟩])).getLast?.getD ⟨0⟩) ∧
      (t.applyAll [.«end» ⟨3⟩, .reset ⟨4⟩]).calculateEndTime = ⟨3⟩ :=
  ⟨_, rfl, @newTournament_lifecycle "t1" "Cup" "" 0 "desc" "best" "" true false 10 0 ⟨1⟩ 0 ⟨1⟩ _ rfl _,
    rfl⟩

/-- A tournament created at time 1 and ended at 3, reset at 4 and ended again at 5: every call
returns nil, the last moves the state from `reset` to `ended` and replaces the end time. -/
theorem lifecycle_reset_then_end :
    (newTournament "t1" "Cup" "" 0 "desc" "best" "" true false 10 0 ⟨1⟩ 0 ⟨1⟩).map
        (fun t => (t.run [.«end» ⟨3⟩, .reset ⟨4⟩, .«end» ⟨5⟩]).map
          fun step => (step.1.state, step.1.endTime, step.2)) =
      .ok [(.ended, some ⟨3⟩, none), (.reset, some ⟨3⟩, none), (.ended, some ⟨5⟩, none)] := by
  rfl

/-! ## Participants -/

structure Participant where
  tournamentID : TournamentID
  playerID : PlayerID
  attempts : Int
  joinedAt : Time
  updatedAt : Time
  deriving DecidableEq, Repr

def newParticipant (tournamentID : TournamentID) (playerID : PlayerID) (joinedAt : Time) :
    Except GoError Participant := do
  tournamentID.validate
  playerID.validate
  if joinedAt.isZero then throw (.new "joined time is required")
  return { tournamentID, playerID, attempts := 0, joinedAt, updatedAt := joinedAt }

theorem newParticipant_pair {tournamentID : TournamentID} {playerID : PlayerID} {joinedAt : Time}
    {p : Participant} (made : newParticipant tournamentID playerID joinedAt = .ok p) :
    p.tournamentID = tournamentID ∧ p.playerID = playerID := by
  revert made
  unfold newParticipant
  cases tournamentID.validate <;> cases playerID.validate <;>
    simp only [bind, Except.bind, pure, Except.pure, reduceCtorEq, false_implies]
  split_ifs <;> rintro ⟨⟩
  exact ⟨rfl, rfl⟩

namespace Participant

/-- `p.AddAttempts(count, now)`: `p.Attempts += count` on Go's 64-bit `int`. -/
def addAttempts (p : Participant) (count : Int) (now : Time) : Participant × Option GoError :=
  if count ≤ 0 then (p, some (.new "attempt count must be positive"))
  else ({ p with attempts := toInt64 (p.attempts + count), updatedAt := now }, none)

@[simp] theorem addAttempts_tournamentID (p : Participant) (count : Int) (now : Time) :
    (p.addAttempts count now).1.tournamentID = p.tournamentID := by
  unfold addAttempts; split <;> rfl

@[simp] theorem addAttempts_playerID (p : Participant) (count : Int) (now : Time) :
    (p.addAttempts count now).1.playerID = p.playerID := by
  unfold addAttempts; split <;> rfl

/-- From `2^63 - 1` attempts, one more wraps the count to `-2^63`. -/
theorem addAttempts_wraps_at_max :
    (addAttempts ⟨"t1", "p1", 2 ^ 63 - 1, ⟨1⟩, ⟨1⟩⟩ 1 ⟨2⟩).1.attempts = -2 ^ 63 := by
  decide

def resetAttempts (p : Participant) (now : Time) : Participant :=
  { p with attempts := 0, updatedAt := now }

theorem addAttempts_of_pos (p : Participant) {count : Int} (positive : 0 < count) (now : Time) :
    p.addAttempts count now =
      ({ p with attempts := toInt64 (p.attempts + count), updatedAt := now }, none) := by
  simp [addAttempts, not_le.mpr positive]

end Participant

end Sandai
