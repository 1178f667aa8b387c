import Sandai.Shared.Time

/-! The player account aggregate (`domain/player`).

`RegisterDevice`, `RecordSession`, `Suspend` and `Reinstate` read the wall clock
(`time.Now().UTC()`) for `UpdatedAt` and for a zero `LastSeen` or `IssuedAt`; each takes that
reading as its `wallClock` argument, one instant for the whole call.
-/

set_option autoImplicit false

namespace Sandai

def ErrEmailRequired : GoError := .new "player email is required"
def ErrAccountSuspended : GoError := .new "player account suspended"
def ErrDeviceInvalid : GoError := .new "device fingerprint invalid"

structure DeviceFingerprint where
  id : String
  platform : String
  lastSeen : Time
  deriving DecidableEq, Repr

structure SessionMetadata where
  sessionID : String
  ipAddress : String
  userAgent : String
  issuedAt : Time
  deriving DecidableEq, Repr

/-- `player.PlayerAccount`; the `Devices` map is a function from device ids. -/
structure PlayerAccount where
  id : PlayerID
  email : String
  displayName : String
  devices : String → Option DeviceFingerprint
  sessions : List SessionMetadata
  createdAt : Time
  updatedAt : Time
  suspended : Bool
  suspensionMsg : String

def newPlayerAccount (id : PlayerID) (email displayName : String) (now : Time) :
    Except GoError PlayerAccount := do
  id.validate
  if email = "" then throw ErrEmailRequired
  return { id, email, displayName, devices := fun _ => none, sessions := [], createdAt := now,
           updatedAt := now, suspended := false, suspensionMsg := "" }

namespace PlayerAccount

def registerDevice (p : PlayerAccount) (device : DeviceFingerprint) (wallClock : Time) :
    PlayerAccount × Option GoError :=
  if p.suspended then (p, some ErrAccountSuspended)
  else if device.id = "" then (p, some ErrDeviceInvalid)
  else
    let device := if device.lastSeen.isZero then { device with lastSeen := wallClock } else device
    ({ p with
        devices := Function.update p.devices device.id (some device), updatedAt := wallClock },
      none)

/-- `p.RecordSession(session)`: it has no error result, and no check of `Suspended`. -/
def recordSession (p : PlayerAccount) (session : SessionMetadata) (wallClock : Time) :
    PlayerAccount :=
  if session.sessionID = "" then p
  else
    let session :=
      if session.issuedAt.isZero then { session with issuedAt := wallClock } else session
    { p with sessions := p.sessions ++ [session], updatedAt := wallClock }

def suspend (p : PlayerAccount) (message : String) (wallClock : Time) : PlayerAccount :=
  { p with suspended := true, suspensionMsg := message, updatedAt := wallClock }

def reinstate (p : PlayerAccount) (wallClock : Time) : PlayerAccount :=
  { p with suspended := false, suspensionMsg := "", updatedAt := wallClock }

def canStartBattle (p : PlayerAccount) (key : IdempotencyKey) : Option GoError :=
  if p.suspended then some ErrAccountSuspended
  else match key.validate with
    | .error err => some err
    | .ok () => none

variable {p : PlayerAccount}

theorem registerDevice_of_suspended (suspended : p.suspended = true) (device : DeviceFingerprint)
    (wallClock : Time) : p.registerDevice device wallClock = (p, some ErrAccountSuspended) := by
  simp [registerDevice, suspended]

@[simp] theorem registerDevice_suspended (p : PlayerAccount) (device : DeviceFingerprint)
    (wallClock : Time) : (p.registerDevice device wallClock).1.suspended = p.suspended := by
  unfold registerDevice; split_ifs <;> rfl

@[simp] theorem recordSession_suspended (p : PlayerAccount) (session : SessionMetadata)
    (wallClock : Time) : (p.recordSession session wallClock).suspended = p.suspended := by
  unfold recordSession; split_ifs <;> rfl

@[simp] theorem recordSession_devices (p : PlayerAccount) (session : SessionMetadata)
    (wallClock : Time) : (p.recordSession session wallClock).devices = p.devices := by
  unfold recordSession; split_ifs <;> rfl

theorem registerDevice_devices_of_active (active : p.suspended = false)
    (device : DeviceFingerprint) (named : device.id ≠ "") (wallClock : Time) :
    ((p.registerDevice device wallClock).1.devices device.id).isSome ∧
      ∀ other, other ≠ device.id →
        (p.registerDevice device wallClock).1.devices other = p.devices other := by
  unfold registerDevice
  rw [if_neg (by simp [active]), if_neg named]
  refine ⟨by split_ifs <;> simp, fun other different => ?_⟩
  split_ifs <;> exact Function.update_noteq different _ _

@[simp] theorem canStartBattle_suspended_iff (p : PlayerAccount) (key : IdempotencyKey) :
    p.canStartBattle key = some ErrAccountSuspended ↔ p.suspended = true := by
  unfold canStartBattle IdempotencyKey.validate validateId
  split_ifs <;> simp_all [ErrAccountSuspended]

@[simp] theorem registerDevice_suspended_iff (p : PlayerAccount) (device : DeviceFingerprint)
    (wallClock : Time) :
    (p.registerDevice device wallClock).2 = some ErrAccountSuspended ↔ p.suspended = true := by
  unfold registerDevice
  split_ifs <;> simp_all [ErrDeviceInvalid, ErrAccountSuspended]

end PlayerAccount

/-! ## Runs of the account's methods -/

/-- One call of the account's methods, with the wall-clock reading it takes. -/
inductive AccountCall where
  | registerDevice (device : DeviceFingerprint) (wallClock : Time)
  | recordSession (session : SessionMetadata) (wallClock : Time)
  | suspend (message : String) (wallClock : Time)
  | reinstate (wallClock : Time)

def AccountCall.suspension : AccountCall → Option Bool
  | .suspend _ _ => some true
  | .reinstate _ => some false
  | _ => none

/-- Whether an account is suspended after the calls, read from the calls alone: the last
`Suspend` or `Reinstate` decides, and with neither the account keeps `start`. -/
def suspendedAfter (start : Bool) (calls : List AccountCall) : Bool :=
  calls.foldl (fun suspended c => c.suspension.getD suspended) start

namespace PlayerAccount

def apply (p : PlayerAccount) : AccountCall → PlayerAccount
  | .registerDevice device wallClock => (p.registerDevice device wallClock).1
  | .recordSession session wallClock => p.recordSession session wallClock
  | .suspend message wallClock => p.suspend message wallClock
  | .reinstate wallClock => p.reinstate wallClock

def applyAll (p : PlayerAccount) (calls : List AccountCall) : PlayerAccount := calls.foldl apply p

/-- What `NewPlayerAccount` sets and every call keeps: an account that is not suspended carries
no suspension message. -/
def Cleared (p : PlayerAccount) : Prop := p.suspended = false → p.suspensionMsg = ""

theorem apply_suspended (p : PlayerAccount) (c : AccountCall) :
    (p.apply c).suspended = c.suspension.getD p.suspended := by
  cases c <;> simp [apply, AccountCall.suspension, suspend, reinstate]

theorem Cleared.apply {p : PlayerAccount} (cleared : p.Cleared) (c : AccountCall) :
    (p.apply c).Cleared := by
  cases c with
  | registerDevice device wallClock =>
    simp only [PlayerAccount.apply, registerDevice]
    split_ifs <;> exact cleared
  | recordSession session wallClock =>
    simp only [PlayerAccount.apply, recordSession]
    split_ifs <;> exact cleared
  | suspend message wallClock => nofun
  | reinstate wallClock => exact fun _ => rfl

theorem sessions_prefix_apply (p : PlayerAccount) (c : AccountCall) :
    p.sessions <+: (p.apply c).sessions := by
  cases c with
  | registerDevice device wallClock =>
    simp only [apply, registerDevice]
    split_ifs <;> exact List.prefix_refl _
  | recordSession session wallClock =>
    simp only [apply, recordSession]
    split_ifs with blank
    · exact List.prefix_refl _
    all_goals exact List.prefix_append _ _
  | suspend | reinstate => exact List.prefix_refl _

theorem applyAll_suspended (p : PlayerAccount) (calls : List AccountCall) :
    (p.applyAll calls).suspended = suspendedAfter p.suspended calls := by
  induction calls generalizing p with
  | nil => rfl
  | cons c rest ih =>
    show (applyAll (p.apply c) rest).suspended = suspendedAfter (c.suspension.getD p.suspended) rest
    rw [ih, apply_suspended]

theorem Cleared.applyAll {p : PlayerAccount} (cleared : p.Cleared) (calls : List AccountCall) :
    (p.applyAll calls).Cleared := by
  induction calls generalizing p with
  | nil => exact cleared
  | cons c rest ih => exact ih (cleared.apply c)

theorem applyAll_append (p : PlayerAccount) (calls more : List AccountCall) :
    p.applyAll (calls ++ more) = (p.applyAll calls).applyAll more :=
  List.foldl_append _ _ _ _

theorem sessions_prefix_applyAll (p : PlayerAccount) (calls : List AccountCall) :
    p.sessions <+: (p.applyAll calls).sessions := by
  induction calls generalizing p with
  | nil => exact List.prefix_refl _
  | cons c rest ih => exact (sessions_prefix_apply p c).trans (ih (p.apply c))

end PlayerAccount

/-- From any account `NewPlayerAccount` returns, over any calls of the account's methods: the
account is suspended exactly when the last `Suspend` or `Reinstate` among the calls was a
`Suspend`, and `CanStartBattle` and `RegisterDevice` are refused with `ErrAccountSuspended`
exactly then; an account that is not suspended has no suspension message; and every session
recorded at some point of the run is still there, in order, at any later point, suspended or
not. -/
theorem newPlayerAccount_policy {id : PlayerID} {email displayName : String} {now : Time}
    {p : PlayerAccount} (made : newPlayerAccount id email displayName now = .ok p)
    (calls : List AccountCall) :
    (p.applyAll calls).suspended = suspendedAfter false calls ∧
      (∀ key, (p.applyAll calls).canStartBattle key = some ErrAccountSuspended ↔
        suspendedAfter false calls = true) ∧
      (∀ device wallClock,
        ((p.applyAll calls).registerDevice device wallClock).2 = some ErrAccountSuspended ↔
          suspendedAfter false calls = true) ∧
      ((p.applyAll calls).suspended = false → (p.applyAll calls).suspensionMsg = "") ∧
      ∀ done more, calls = done ++ more →
        (p.applyAll done).sessions <+: (p.applyAll calls).sessions := by
  obtain ⟨fresh, cleared⟩ : p.suspended = false ∧ p.Cleared := by
    revert made
    unfold newPlayerAccount
    cases id.validate <;> simp only [bind, Except.bind, pure, Except.pure]
    · rintro ⟨⟩
    · split_ifs <;> rintro ⟨⟩
      exact ⟨rfl, fun _ => rfl⟩
  have suspended := PlayerAccount.applyAll_suspended p calls
  rw [fresh] at suspended
  refine ⟨suspended, fun key => ?_, fun device wallClock => ?_, cleared.applyAll calls, ?_⟩
  · rw [PlayerAccount.canStartBattle_suspended_iff, suspended]
  · rw [PlayerAccount.registerDevice_suspended_iff, suspended]
  · rintro done more rfl
    rw [PlayerAccount.applyAll_append]
    exact PlayerAccount.sessions_prefix_applyAll _ more

def freshP1 : PlayerAccount :=
  { id := "p1", email := "p1@example.com", displayName := "p1", devices := fun _ => none,
    sessions := [], createdAt := ⟨1⟩, updatedAt := ⟨1⟩, suspended := false, suspensionMsg := "" }
def suspendRecordReinstate : List AccountCall :=
  [.suspend "cheating" ⟨2⟩, .recordSession ⟨"s1", "", "", ⟨3⟩⟩ ⟨3⟩, .reinstate ⟨4⟩]

theorem newPlayerAccount_policy_reinstated :
    newPlayerAccount "p1" "p1@example.com" "p1" ⟨1⟩ = .ok freshP1 ∧
      (freshP1.applyAll suspendRecordReinstate).suspended =
        suspendedAfter false suspendRecordReinstate ∧
      (∀ key, (freshP1.applyAll suspendRecordReinstate).canStartBattle key =
          some ErrAccountSuspended ↔ suspendedAfter false suspendRecordReinstate = true) ∧
      (∀ device wallClock,
        ((freshP1.applyAll suspendRecordReinstate).registerDevice device wallClock).2 =
            some ErrAccountSuspended ↔ suspendedAfter false suspendRecordReinstate = true) ∧
      ((freshP1.applyAll suspendRecordReinstate).suspended = false →
        (freshP1.applyAll suspendRecordReinstate).suspensionMsg = "") ∧
      ∀ done more, suspendRecordReinstate = done ++ more →
        (freshP1.applyAll done).sessions <+: (freshP1.applyAll suspendRecordReinstate).sessions :=
  ⟨rfl, @newPlayerAccount_policy "p1" "p1@example.com" "p1" ⟨1⟩ freshP1 rfl suspendRecordReinstate⟩

end Sandai
