import Sandai.Semantics.Proc
import Sandai.Domain.Player

/-! Player authentication (`app/auth`): `AuthenticateDevice` and `AuthenticateEmail` over the
Nakama auth provider and the player repository.

The injected `Clock` is read once per call; its reading is `now`. The account methods the
service calls read the wall clock as well; that reading is `wallClock`.
-/

set_option autoImplicit false

namespace Sandai

structure AuthResult where
  userID : PlayerID
  sessionToken : String
  refreshToken : String
  username : String
  deriving DecidableEq, Repr

/-- A Go `map[string]string`, read with the zero value `""` for a missing key. -/
abbrev Vars := String → String

/-- The collaborators of `auth.Service`: `Auth` and `Repo` (of which the service uses `GetByID`
and `Save`). -/
inductive AuthOp where
  | authenticateDevice (deviceID username : String) (vars : Vars)
  | authenticateEmail (email password : String) (vars : Vars)
  | getByID (id : PlayerID)
  | save (account : PlayerAccount)

def AuthOp.Reply : AuthOp → Type
  | .authenticateDevice _ _ _ | .authenticateEmail _ _ _ => Except GoError AuthResult
  | .getByID _ => Except GoError PlayerAccount
  | .save _ => Option GoError

def Auth : Signature := ⟨AuthOp, AuthOp.Reply⟩

namespace AuthService

/-- The account both methods go on with: the stored one, or for `ErrNotFound` a new one. -/
def loadAccount (id : PlayerID) (email displayName : String) (now : Time) :
    Except GoError PlayerAccount → Except GoError PlayerAccount
  | .ok account => .ok account
  | .error err =>
    if !err.is ErrNotFound then .error err else newPlayerAccount id email displayName now

/-- `Repo.Save(account)`, then the provider's result. -/
def saveAccount (result : AuthResult) (account : PlayerAccount) :
    Proc Auth (Except GoError AuthResult) :=
  .call (.save account) fun
    | some err => .done (.error err)
    | none => .done (.ok result)

/-- `Service.AuthenticateDevice(ctx, deviceID, username, vars)`; the error of `RegisterDevice` is
discarded. -/
def authenticateDevice (now wallClock : Time) (deviceID username : String) (vars : Vars) :
    Proc Auth (Except GoError AuthResult) :=
  .call (.authenticateDevice deviceID username vars) fun
    | .error err => .done (.error err)
    | .ok result => .call (.getByID result.userID) fun reply =>
      match loadAccount result.userID (vars "email") username now reply with
      | .error err => .done (.error err)
      | .ok account =>
        let account := (account.registerDevice ⟨deviceID, vars "platform", now⟩ wallClock).1
        saveAccount result (account.recordSession ⟨result.sessionToken, "", "", now⟩ wallClock)

def authenticateEmail (now wallClock : Time) (email password : String) (vars : Vars) :
    Proc Auth (Except GoError AuthResult) :=
  .call (.authenticateEmail email password vars) fun
    | .error err => .done (.error err)
    | .ok result => .call (.getByID result.userID) fun reply =>
      match loadAccount result.userID email result.username now reply with
      | .error err => .done (.error err)
      | .ok account =>
        saveAccount result (account.recordSession ⟨result.sessionToken, "", "", now⟩ wallClock)

theorem saveAccount_path_ok {result result' : AuthResult} {account : PlayerAccount}
    {calls : List (Exchange Auth)}
    (path : Proc.Path (saveAccount result account) calls (.ok result')) :
    result' = result ∧ calls = [⟨.save account, none⟩] := by
  obtain ⟨reply, rest, rfl, answered⟩ := Proc.path_call.mp path
  cases reply with
  | some err => cases (Proc.path_done.mp answered).2
  | none =>
    obtain ⟨rfl, same⟩ := Proc.path_done.mp answered
    cases same
    exact ⟨rfl, rfl⟩

theorem authenticateDevice_path_ok {now wallClock : Time} {deviceID username : String}
    {vars : Vars} {calls : List (Exchange Auth)} {result : AuthResult}
    (path : Proc.Path (authenticateDevice now wallClock deviceID username vars) calls
      (.ok result)) :
    ∃ reply saved, calls = [⟨.authenticateDevice deviceID username vars, .ok result⟩,
      ⟨.getByID result.userID, reply⟩, ⟨.save saved, none⟩] := by
  obtain ⟨provided, rest, rfl, signedIn⟩ := Proc.path_call.mp path
  cases provided with
  | error err => cases (Proc.path_done.mp signedIn).2
  | ok provided =>
    obtain ⟨reply, rest, rfl, loaded⟩ := Proc.path_call.mp signedIn
    split at loaded
    · cases (Proc.path_done.mp loaded).2
    · obtain ⟨rfl, rfl⟩ := saveAccount_path_ok loaded
      exact ⟨reply, _, rfl⟩

theorem authenticateEmail_path_ok {now wallClock : Time} {email password : String}
    {vars : Vars} {calls : List (Exchange Auth)} {result : AuthResult}
    (path : Proc.Path (authenticateEmail now wallClock email password vars) calls
      (.ok result)) :
    ∃ reply saved, calls = [⟨.authenticateEmail email password vars, .ok result⟩,
      ⟨.getByID result.userID, reply⟩, ⟨.save saved, none⟩] := by
  obtain ⟨provided, rest, rfl, signedIn⟩ := Proc.path_call.mp path
  cases provided with
  | error err => cases (Proc.path_done.mp signedIn).2
  | ok provided =>
    obtain ⟨reply, rest, rfl, loaded⟩ := Proc.path_call.mp signedIn
    split at loaded
    · cases (Proc.path_done.mp loaded).2
    · obtain ⟨rfl, rfl⟩ := saveAccount_path_ok loaded
      exact ⟨reply, _, rfl⟩

end AuthService

def playerOne : PlayerAccount :=
  { id := "p1", email := "p1@example.com", displayName := "p1", devices := fun _ => none,
    sessions := [], createdAt := ⟨1⟩, updatedAt := ⟨1⟩, suspended := false, suspensionMsg := "" }

/-- Two `AuthenticateDevice` runs with the same clock reading, arguments, provider result and
stored account, at wall-clock times 5 and 6: the accounts they save differ in `UpdatedAt`. -/
theorem authenticateDevice_saves_wall_clock :
    ∃ saved₁ saved₂,
      Proc.Path (AuthService.authenticateDevice ⟨2⟩ ⟨5⟩ "d1" "p1" fun _ => "")
        [⟨.authenticateDevice "d1" "p1" fun _ => "", .ok ⟨"p1", "s1", "r1", "p1"⟩⟩,
          ⟨.getByID "p1", .ok playerOne⟩, ⟨.save saved₁, none⟩] (.ok ⟨"p1", "s1", "r1", "p1"⟩) ∧
      Proc.Path (AuthService.authenticateDevice ⟨2⟩ ⟨6⟩ "d1" "p1" fun _ => "")
        [⟨.authenticateDevice "d1" "p1" fun _ => "", .ok ⟨"p1", "s1", "r1", "p1"⟩⟩,
          ⟨.getByID "p1", .ok playerOne⟩, ⟨.save saved₂, none⟩] (.ok ⟨"p1", "s1", "r1", "p1"⟩) ∧
      saved₁.updatedAt = ⟨5⟩ ∧ saved₂.updatedAt = ⟨6⟩ :=
  ⟨_, _, .call (.call (.call (.done _))), .call (.call (.call (.done _))), rfl, rfl⟩

end Sandai
