import Sandai.Service.Auth

/-! One player account as the authentication service and the account's own methods see it: the
repository returns it from `GetByID`, and a successful `Save` replaces it.

While suspended, the account keeps its devices and `RegisterDevice` is refused; the
authentication calls discard that refusal and still save the account and return the provider's
result.
-/

set_option autoImplicit false

namespace Sandai

/-- A repository holding one account, which `GetByID` returns for any id; `Save` replaces it or
fails, and the provider may answer anything. -/
inductive HeldWorld : (o : Auth.Op) → PlayerAccount → Auth.Reply o → PlayerAccount → Prop where
  | device {a : PlayerAccount} {deviceID username : String} {vars : Vars}
      (reply : Except GoError AuthResult) :
      HeldWorld (.authenticateDevice deviceID username vars) a reply a
  | email {a : PlayerAccount} {email password : String} {vars : Vars}
      (reply : Except GoError AuthResult) :
      HeldWorld (.authenticateEmail email password vars) a reply a
  | got {a : PlayerAccount} {id : PlayerID} : HeldWorld (.getByID id) a (.ok a) a
  | saved {a account : PlayerAccount} : HeldWorld (.save account) a none account
  | saveFailed {a account : PlayerAccount} (err : GoError) :
      HeldWorld (.save account) a (some err) a

/-- One call on the held account, and the account after it: one of its methods, or an
authentication call. -/
inductive AccountStep : PlayerAccount → PlayerAccount → Prop where
  | registerDevice {a : PlayerAccount} (device : DeviceFingerprint) (wallClock : Time) :
      AccountStep a (a.registerDevice device wallClock).1
  | recordSession {a : PlayerAccount} (session : SessionMetadata) (wallClock : Time) :
      AccountStep a (a.recordSession session wallClock)
  | authenticateDevice {a a' : PlayerAccount} {now wallClock : Time} {deviceID username : String}
      {vars : Vars} {result : Except GoError AuthResult} :
      Proc.Runs HeldWorld (AuthService.authenticateDevice now wallClock deviceID username vars) a
        result a' → AccountStep a a'
  | authenticateEmail {a a' : PlayerAccount} {now wallClock : Time} {email password : String}
      {vars : Vars} {result : Except GoError AuthResult} :
      Proc.Runs HeldWorld (AuthService.authenticateEmail now wallClock email password vars) a
        result a' → AccountStep a a'

namespace AuthService

variable {a : PlayerAccount} {now wallClock : Time}

/-- What a step keeps of a suspended account. -/
def Frozen (a a' : PlayerAccount) : Prop := a'.suspended = true ∧ a'.devices = a.devices

theorem authenticateDevice_frozen (suspended : a.suspended = true) (deviceID username : String)
    (vars : Vars) :
    Proc.wp HeldWorld (authenticateDevice now wallClock deviceID username vars)
      (fun _ => Frozen a) a := by
  intro reply _ provider
  cases provider
  cases reply with
  | error => exact ⟨suspended, rfl⟩
  | ok result =>
    intro _ _ got
    cases got
    intro _ _ saved
    cases saved with
    | saved =>
      simp [Frozen, loadAccount, PlayerAccount.registerDevice_of_suspended suspended, suspended]
    | saveFailed => exact ⟨suspended, rfl⟩

theorem authenticateEmail_frozen (suspended : a.suspended = true) (email password : String)
    (vars : Vars) :
    Proc.wp HeldWorld (authenticateEmail now wallClock email password vars)
      (fun _ => Frozen a) a := by
  intro reply _ provider
  cases provider
  cases reply with
  | error => exact ⟨suspended, rfl⟩
  | ok result =>
    intro _ _ got
    cases got
    intro _ _ saved
    cases saved with
    | saved => simp [Frozen, loadAccount, suspended]
    | saveFailed => exact ⟨suspended, rfl⟩

theorem authenticateDevice_returns_result (a : PlayerAccount) (now wallClock : Time)
    (deviceID username : String) (vars : Vars) (result : AuthResult) :
    ∃ saved, Proc.Path (authenticateDevice now wallClock deviceID username vars)
      [⟨.authenticateDevice deviceID username vars, .ok result⟩, ⟨.getByID result.userID, .ok a⟩,
        ⟨.save saved, none⟩] (.ok result) :=
  ⟨_, .call (.call (.call (.done _)))⟩

theorem authenticateEmail_returns_result (a : PlayerAccount) (now wallClock : Time)
    (email password : String) (vars : Vars) (result : AuthResult) :
    ∃ saved, Proc.Path (authenticateEmail now wallClock email password vars)
      [⟨.authenticateEmail email password vars, .ok result⟩, ⟨.getByID result.userID, .ok a⟩,
        ⟨.save saved, none⟩] (.ok result) :=
  ⟨_, .call (.call (.call (.done _)))⟩

end AuthService

theorem AccountStep.frozen {a a' : PlayerAccount} (step : AccountStep a a')
    (suspended : a.suspended = true) : AuthService.Frozen a a' := by
  cases step with
  | registerDevice device wallClock =>
    rw [PlayerAccount.registerDevice_of_suspended suspended]; exact ⟨suspended, rfl⟩
  | recordSession session wallClock => simp [AuthService.Frozen, suspended]
  | authenticateDevice ran => exact ran.post (AuthService.authenticateDevice_frozen suspended _ _ _)
  | authenticateEmail ran => exact ran.post (AuthService.authenticateEmail_frozen suspended _ _ _)

/-- For a suspended account and any calls of `RegisterDevice`, `RecordSession`, and of
`AuthenticateDevice` and `AuthenticateEmail` whose repository returns it: the account stays
suspended with the same devices, `RegisterDevice` is refused with `ErrAccountSuspended`, and an
authentication call whose provider answers and whose `Save` succeeds returns the provider's
result. -/
theorem suspended_account_keeps_devices {a a' : PlayerAccount} (suspended : a.suspended = true)
    (steps : Relation.ReflTransGen AccountStep a a') :
    a'.suspended = true ∧ a'.devices = a.devices ∧
      (∀ device wallClock, a'.registerDevice device wallClock = (a', some ErrAccountSuspended)) ∧
      (∀ now wallClock deviceID username vars result, ∃ saved,
        Proc.Path (AuthService.authenticateDevice now wallClock deviceID username vars)
          [⟨.authenticateDevice deviceID username vars, .ok result⟩,
            ⟨.getByID result.userID, .ok a'⟩, ⟨.save saved, none⟩] (.ok result)) ∧
      ∀ now wallClock email password vars result, ∃ saved,
        Proc.Path (AuthService.authenticateEmail now wallClock email password vars)
          [⟨.authenticateEmail email password vars, .ok result⟩,
            ⟨.getByID result.userID, .ok a'⟩, ⟨.save saved, none⟩] (.ok result) := by
  have frozen : AuthService.Frozen a a' := by
    induction steps with
    | refl => exact ⟨suspended, rfl⟩
    | tail _ step ih => exact ⟨(step.frozen ih.1).1, (step.frozen ih.1).2.trans ih.2⟩
  exact ⟨frozen.1, frozen.2, PlayerAccount.registerDevice_of_suspended frozen.1,
    AuthService.authenticateDevice_returns_result a',
    AuthService.authenticateEmail_returns_result a'⟩

def suspendedPlayerOne : PlayerAccount := { playerOne with suspended := true }

theorem suspended_account_keeps_devices_recorded :
    suspendedPlayerOne.suspended = true ∧
      Relation.ReflTransGen AccountStep suspendedPlayerOne
        (suspendedPlayerOne.recordSession ⟨"s1", "", "", ⟨2⟩⟩ ⟨3⟩) ∧
      (suspendedPlayerOne.recordSession ⟨"s1", "", "", ⟨2⟩⟩ ⟨3⟩).suspended = true ∧
      (suspendedPlayerOne.recordSession ⟨"s1", "", "", ⟨2⟩⟩ ⟨3⟩).devices =
        suspendedPlayerOne.devices ∧
      (∀ device wallClock,
        (suspendedPlayerOne.recordSession ⟨"s1", "", "", ⟨2⟩⟩ ⟨3⟩).registerDevice device wallClock =
          (suspendedPlayerOne.recordSession ⟨"s1", "", "", ⟨2⟩⟩ ⟨3⟩, some ErrAccountSuspended)) ∧
      (∀ now wallClock deviceID username vars result, ∃ saved,
        Proc.Path (AuthService.authenticateDevice now wallClock deviceID username vars)
          [⟨.authenticateDevice deviceID username vars, .ok result⟩,
            ⟨.getByID result.userID,
              .ok (suspendedPlayerOne.recordSession ⟨"s1", "", "", ⟨2⟩⟩ ⟨3⟩)⟩,
            ⟨.save saved, none⟩] (.ok result)) ∧
      ∀ now wallClock email password vars result, ∃ saved,
        Proc.Path (AuthService.authenticateEmail now wallClock email password vars)
          [⟨.authenticateEmail email password vars, .ok result⟩,
            ⟨.getByID result.userID,
              .ok (suspendedPlayerOne.recordSession ⟨"s1", "", "", ⟨2⟩⟩ ⟨3⟩)⟩,
            ⟨.save saved, none⟩] (.ok result) :=
  ⟨rfl, .single (.recordSession _ _),
    suspended_account_keeps_devices rfl (.single (.recordSession _ _))⟩

/-- `AuthenticateDevice` on a suspended account: the provider accepts, and the call saves the
account with a new session and returns the provider's result. -/
theorem authenticateDevice_accepts_suspended :
    ∃ saved, Proc.Path (AuthService.authenticateDevice ⟨2⟩ ⟨3⟩ "d1" "p1" fun _ => "")
        [⟨.authenticateDevice "d1" "p1" fun _ => "", .ok ⟨"p1", "s1", "r1", "p1"⟩⟩,
          ⟨.getByID "p1", .ok suspendedPlayerOne⟩, ⟨.save saved, none⟩]
        (.ok ⟨"p1", "s1", "r1", "p1"⟩) ∧
      saved.suspended = true ∧ saved.sessions.length = 1 ∧ suspendedPlayerOne.sessions = [] :=
  ⟨_, .call (.call (.call (.done _))), rfl, rfl, rfl⟩

/-! ## Two logins at once -/

/-- Two `AuthenticateDevice` calls for one active player, from two devices, overlapping: the
first reads the account, the second runs to the end and saves the account with its device, and
the first then saves the account it read with only its own device. Both calls return the
provider's result, and the second device, stored when its call returned, is gone. -/
theorem overlapping_device_logins_lose_device {a : PlayerAccount} (active : a.suspended = false)
    {d₁ d₂ : String} (distinct : d₂ ≠ d₁) (named₁ : d₁ ≠ "") (named₂ : d₂ ≠ "")
    (now₁ now₂ wallClock₁ wallClock₂ : Time) (username : String) (vars₁ vars₂ : Vars)
    (result₁ result₂ : AuthResult) :
    ∃ σ₁ σ, Interleaving.Reachable HeldWorld
        [AuthService.authenticateDevice now₁ wallClock₁ d₁ username vars₁,
          AuthService.authenticateDevice now₂ wallClock₂ d₂ username vars₂] a σ₁ ∧
      σ₁.threads[1]? = some (.done (.ok result₂)) ∧ (σ₁.world.devices d₂).isSome ∧
      Relation.ReflTransGen (Interleaving.Step HeldWorld) σ₁ σ ∧
      σ.threads = [.done (.ok result₁), .done (.ok result₂)] ∧
      (σ.world.devices d₁).isSome ∧ σ.world.devices d₂ = a.devices d₂ := by
  obtain ⟨next, after, start, signedIn, loaded⟩ : ∃ next after,
      AuthService.authenticateDevice now₁ wallClock₁ d₁ username vars₁ =
        .call (.authenticateDevice d₁ username vars₁) next ∧
      next (.ok result₁) = .call (.getByID result₁.userID) after ∧
      after (.ok a) = AuthService.saveAccount result₁
        ((a.registerDevice ⟨d₁, vars₁ "platform", now₁⟩ wallClock₁).1.recordSession
          ⟨result₁.sessionToken, "", "", now₁⟩ wallClock₁) :=
    ⟨_, _, rfl, rfl, rfl⟩
  have signIn := @Interleaving.Step.call _ _ _ HeldWorld
    ⟨[AuthService.authenticateDevice now₁ wallClock₁ d₁ username vars₁,
      AuthService.authenticateDevice now₂ wallClock₂ d₂ username vars₂], a, []⟩ 0 _ next
    (.ok result₁) a (by rw [start]; rfl) (.device _)
  have read := @Interleaving.Step.call _ _ _ HeldWorld
    ⟨[next (.ok result₁), AuthService.authenticateDevice now₂ wallClock₂ d₂ username vars₂], a,
      [(0, ⟨.authenticateDevice d₁ username vars₁, .ok result₁⟩)]⟩ 0 _ after (.ok a) a
    (by rw [signedIn]; rfl) .got
  obtain ⟨log₂, second⟩ := Interleaving.runs_alone
    (σ := ⟨[after (.ok a), AuthService.authenticateDevice now₂ wallClock₂ d₂ username vars₂], a,
      [(0, ⟨.authenticateDevice d₁ username vars₁, .ok result₁⟩),
        (0, ⟨.getByID result₁.userID, .ok a⟩)]⟩)
    (i := 1) rfl (show Proc.Runs HeldWorld _ a (.ok result₂) _ from
      .call (.device (.ok result₂)) (.call .got (.call .saved (.done _ _))))
  obtain ⟨log₁, first⟩ := Interleaving.runs_alone
    (σ := ⟨[after (.ok a), .done (.ok result₂)],
      (a.registerDevice ⟨d₂, vars₂ "platform", now₂⟩ wallClock₂).1.recordSession
        ⟨result₂.sessionToken, "", "", now₂⟩ wallClock₂,
      [(0, ⟨.authenticateDevice d₁ username vars₁, .ok result₁⟩),
        (0, ⟨.getByID result₁.userID, .ok a⟩)] ++ log₂⟩)
    (i := 0) rfl (show Proc.Runs HeldWorld (after (.ok a)) _ (.ok result₁) _ by
      rw [loaded]; exact .call .saved (.done _ _))
  have kept₁ := a.registerDevice_devices_of_active active ⟨d₁, vars₁ "platform", now₁⟩ named₁
    wallClock₁
  have kept₂ := a.registerDevice_devices_of_active active ⟨d₂, vars₂ "platform", now₂⟩ named₂
    wallClock₂
  exact ⟨_, _, .head signIn (.head read second), rfl, by simpa using kept₂.1, first, rfl,
    by simpa using kept₁.1, by simpa using kept₁.2 d₂ distinct⟩

theorem overlapping_device_logins_lose_device_p1 :
    playerOne.suspended = false ∧ "d2" ≠ "d1" ∧ "d1" ≠ "" ∧ "d2" ≠ "" ∧
      ∃ σ₁ σ, Interleaving.Reachable HeldWorld
          [AuthService.authenticateDevice ⟨2⟩ ⟨5⟩ "d1" "p1" fun _ => "",
            AuthService.authenticateDevice ⟨3⟩ ⟨6⟩ "d2" "p1" fun _ => ""] playerOne σ₁ ∧
        σ₁.threads[1]? = some (.done (.ok ⟨"p1", "s2", "r2", "p1"⟩)) ∧
        (σ₁.world.devices "d2").isSome ∧
        Relation.ReflTransGen (Interleaving.Step HeldWorld) σ₁ σ ∧
        σ.threads = [.done (.ok ⟨"p1", "s1", "r1", "p1"⟩), .done (.ok ⟨"p1", "s2", "r2", "p1"⟩)] ∧
        (σ.world.devices "d1").isSome ∧ σ.world.devices "d2" = playerOne.devices "d2" :=
  ⟨rfl, by decide, by decide, by decide,
    @overlapping_device_logins_lose_device playerOne rfl "d1" "d2" (by decide) (by decide)
      (by decide) ⟨2⟩ ⟨3⟩ ⟨5⟩ ⟨6⟩ "p1" (fun _ => "") (fun _ => "") ⟨"p1", "s1", "r1", "p1"⟩
      ⟨"p1", "s2", "r2", "p1"⟩⟩

end Sandai
