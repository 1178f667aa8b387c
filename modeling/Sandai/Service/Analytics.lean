import Sandai.Semantics.Proc
import Sandai.Domain.Analytics

/-! The analytics service (`app/analytics`): `StartSession`, `EndSession` and `TrackEvent` over
the session repository and the event dispatcher.

The session repository hands out pointers and `EndSession` ends the session it got before
saving it; with the in-memory repository, which never fails, saving the ended value leaves the
same contents.
-/

set_option autoImplicit false

namespace Sandai

/-- The collaborators of `analytics.Service`: `Sessions` and `Dispatcher`. -/
inductive AnalyticsOp where
  | saveSession (session : Session)
  | getSession (userID : PlayerID)
  | deleteSession (userID : PlayerID)
  | dispatch (events : List Event)
  deriving DecidableEq

def AnalyticsOp.Reply : AnalyticsOp → Type
  | .getSession _ => Except GoError Session
  | .saveSession _ | .deleteSession _ | .dispatch _ => Option GoError

def Analytics : Signature := ⟨AnalyticsOp, AnalyticsOp.Reply⟩

/-- The Go runtime's answers the analytics code reads: `runtime.GOOS`, `runtime.GOARCH` and
`runtime.Version()`. -/
structure GoRuntime where
  goos : String
  goarch : String
  version : String
  deriving DecidableEq, Repr

/-- `defaultContextFactory()`, the `ContextFactory` of `NewService`. -/
def defaultContext (rt : GoRuntime) : EventContext := ⟨true, ⟨"go", rt.version⟩⟩

structure StartSessionCommand where
  userID : PlayerID
  version : String
  variant : String
  deriving DecidableEq, Repr

structure TrackEventCommand where
  userID : PlayerID
  name : EventName
  appName : String
  appVersion : String
  osName : String
  osVersion : String
  deriving DecidableEq, Repr

namespace AnalyticsService

variable (rt : GoRuntime) (context : EventContext)

/-- `Service.StartSession`, with `context` what its `ContextFactory` returns. -/
def startSession (now : Time) (cmd : StartSessionCommand) : Proc Analytics (Option GoError) :=
  match cmd.userID.validate with
  | .error err => .done (some err)
  | .ok () =>
    if cmd.version = "" then .done (some ErrInvalidEvent) else
    match newSession cmd.userID cmd.version cmd.variant now with
    | .error err => .done (some err)
    | .ok session => .call (.saveSession session) fun
      | some err => .done (some err)
      | none =>
        match newIdentifyEvent cmd.userID context now, newTrackEvent cmd.userID eventNameStart context now with
        | .error err, _ => .done (some err)
        | .ok _, .error err => .done (some err)
        | .ok identify, .ok track =>
          .call (.dispatch [identify, (track.withAppInfo cmd.variant cmd.version).withOSInfo rt.goos rt.goarch])
            fun
            | some _ => .done (some ErrDispatchFailed)
            | none => .done none

/-- `Service.EndSession`: the record is deleted after a successful dispatch, its error ignored. -/
def endSession (now : Time) (userID : PlayerID) : Proc Analytics (Option GoError) :=
  match userID.validate with
  | .error err => .done (some err)
  | .ok () => .call (.getSession userID) fun
    | .error err => .done (some err)
    | .ok session =>
      match session.«end» now with
      | (_, some err) => .done (some err)
      | (ended, none) => .call (.saveSession ended) fun
        | some err => .done (some err)
        | none =>
          match newTrackEvent userID eventNameEnd context now with
          | .error err => .done (some err)
          | .ok track => .call (.dispatch [track]) fun
            | some _ => .done (some ErrDispatchFailed)
            | none => .call (.deleteSession userID) fun _ => .done none

/-- `Service.TrackEvent`: app and OS information are attached when either of their fields is set. -/
def trackEvent (now : Time) (cmd : TrackEventCommand) : Proc Analytics (Option GoError) :=
  match cmd.userID.validate with
  | .error err => .done (some err)
  | .ok () =>
    match newTrackEvent cmd.userID cmd.name context now with
    | .error err => .done (some err)
    | .ok event =>
      let event := if cmd.appName ≠ "" ∨ cmd.appVersion ≠ "" then
        event.withAppInfo cmd.appName cmd.appVersion else event
      let event := if cmd.osName ≠ "" ∨ cmd.osVersion ≠ "" then
        event.withOSInfo cmd.osName cmd.osVersion else event
      .call (.dispatch [event]) fun
        | some _ => .done (some ErrDispatchFailed)
        | none => .done none

end AnalyticsService

end Sandai
