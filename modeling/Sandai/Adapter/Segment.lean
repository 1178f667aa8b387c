import Sandai.Service.Analytics

/-! Segment tracking: the legacy `se.Tracker`, which posts its own JSON batches, and
`se.TrackerAdapter`, which runs `analytics.Service` on a fresh in-memory session repository and
a `SegmentDispatcher` (`infra/analytics`).

HTTP is one operation: a `POST` of a JSON body to the batch endpoint with the write key, answered
by a status code or a transport error. `json.Marshal` cannot fail on these types and the
endpoint is the default constant, so neither error path is modelled. The legacy `se.Context`,
`se.AppInfo` and `se.OSInfo` have the fields of their `analytics` namesakes and are modelled by
them.
-/

set_option autoImplicit false

namespace Sandai

/-- A JSON value; an object's members are in the order the encoder writes them. -/
inductive Json where
  | null
  | bool (b : Bool)
  | str (s : String)
  | arr (items : List Json)
  | obj (members : List (String × Json))

inductive JsonStep where
  | key (name : String)
  | index (i : Nat)

def Json.get? : Json → List JsonStep → Option Json
  | v, [] => some v
  | .obj members, .key name :: rest => (members.lookup name).bind (·.get? rest)
  | .arr items, .index i :: rest => items[i]?.bind (·.get? rest)
  | _, _ :: _ => none

/-- `defaultBaseURL`, the Segment batch endpoint. -/
def defaultBaseURL : String := "https://api.segment.io/v1/batch"

/-- The HTTP call: a `POST` of a body to an endpoint with a write key. -/
inductive HttpOp where
  | post (url key : String) (body : Json)

def Http : Signature := ⟨HttpOp, fun _ => Except GoError Nat⟩

def EventContext.toJson (ctx : EventContext) : Json :=
  .obj [("direct", .bool ctx.direct),
    ("library", .obj [("name", .str ctx.library.name), ("version", .str ctx.library.version)])]

/-! ## The legacy tracker -/

structure LegacyEvent where
  type : String
  userID : String
  name : String
  context : EventContext
  app : Option AppInfo
  os : Option AppInfo

def omitEmpty (name value : String) : List (String × Json) :=
  if value = "" then [] else [(name, .str value)]

def omitNil (name : String) : Option Json → List (String × Json)
  | none => []
  | some v => [(name, v)]

/-- `se.AppInfo` and `se.OSInfo` as `json.Marshal` writes them: both fields are `omitempty`. -/
def AppInfo.toLegacyJson (info : AppInfo) : Json :=
  .obj (omitEmpty "name" info.name ++ omitEmpty "version" info.version)

/-- `se.Event` as `json.Marshal` writes it; `omitempty` never drops the context struct. -/
def LegacyEvent.toJson (e : LegacyEvent) : Json :=
  .obj (omitEmpty "type" e.type ++ omitEmpty "userId" e.userID ++ omitEmpty "event" e.name ++
    [("context", e.context.toJson)] ++ omitNil "app" (e.app.map AppInfo.toLegacyJson) ++
    omitNil "os" (e.os.map AppInfo.toLegacyJson))

/-- `se.Batch`: its `batch` member is `omitempty`. -/
def legacyBatchJson (events : List LegacyEvent) : Json :=
  .obj (if events.isEmpty then [] else [("batch", .arr (events.map LegacyEvent.toJson))])

namespace Tracker

variable (rt : GoRuntime) (key : String)

/-- `dispatch`: the batch is posted and any response is success. -/
def dispatch (events : List LegacyEvent) : Proc Http (Option GoError) :=
  .call (.post defaultBaseURL key (legacyBatchJson events)) fun
    | .error err => .done (some err)
    | .ok _ => .done none

/-- `Tracker.StartSession` of `NewTracker(key)`: an identify event and a start track event. -/
def startSession (userID version variant : String) : Proc Http (Option GoError) :=
  dispatch key [⟨"identify", userID, "", defaultContext rt, none, none⟩,
    ⟨"track", userID, "start", defaultContext rt, some ⟨variant, version⟩,
      some ⟨rt.goos, rt.goarch⟩⟩]

/-- `Tracker.EndSession` of `NewTracker(key)`: an end track event. -/
def endSession (userID : String) : Proc Http (Option GoError) :=
  dispatch key [⟨"track", userID, "end", defaultContext rt, none, none⟩]

end Tracker

/-! ## The adapter -/

/-- `segmentEvent` as `json.Marshal` writes it: only `event`, `app` and `os` are `omitempty`,
and the app and OS objects always have both members. -/
def segmentEventJson (e : Event) : Json :=
  let info (i : AppInfo) : Json := .obj [("name", .str i.name), ("version", .str i.version)]
  .obj ([("type", .str e.type), ("userId", .str e.userID)] ++
    omitEmpty "event" (if e.type = eventTypeTrack then e.name else "") ++
    [("context", e.context.toJson)] ++ omitNil "app" (e.app.map info) ++
    omitNil "os" (e.os.map info))

/-- `SegmentDispatcher.Dispatch` with the default endpoint: every event is validated, the batch
is posted, and a status of 400 or more is `ErrDispatchFailed`. -/
def segmentDispatch (key : String) (events : List Event) : Proc Http (Option GoError) :=
  if events.isEmpty then .done none else
  match events.forM Event.validate with
  | .error err => .done (some err)
  | .ok () => .call (.post defaultBaseURL key (.obj [("batch", .arr (events.map segmentEventJson))]))
    fun
    | .error err => .done (some err)
    | .ok status => .done (if 400 ≤ status then some ErrDispatchFailed else none)

theorem forM_validate_ok (events : List Event) :
    events.forM Event.validate = .ok () ↔ ∀ e ∈ events, e.validate = .ok () := by
  induction events with
  | nil => simp [pure, Except.pure]
  | cons e rest ih =>
    simp only [List.forM_cons', List.mem_cons, forall_eq_or_imp, ← ih]
    cases e.validate <;> simp [bind, Except.bind]

theorem Event.name_of_track {e : Event} (valid : e.validate = .ok ())
    (track : e.type = eventTypeTrack) : e.name ≠ "" := by
  intro unnamed
  revert valid
  simp only [Event.validate, bind, Except.bind, track, unnamed, and_self]
  split_ifs <;> cases e.userID.validate <;> simp [throw, throwThe, MonadExceptOf.throw, pure,
    Except.pure]

/-- `Dispatch` posts exactly when the batch is not empty and every event passes `Validate`; the
body it posts has, at each index of its batch, the type and the user id of the event at that
index, and an `event` member exactly for a track event, holding its name, which `Validate` has
made non-empty. -/
theorem segmentDispatch_posts (key : String) (events : List Event) :
    ((∃ url k body next, segmentDispatch key events = .call (.post url k body) next) ↔
      events ≠ [] ∧ ∀ e ∈ events, e.validate = .ok ()) ∧
    ∀ url k body next, segmentDispatch key events = .call (.post url k body) next →
      url = defaultBaseURL ∧ k = key ∧ ∀ i e, events[i]? = some e →
        body.get? [.key "batch", .index i, .key "type"] = some (.str e.type) ∧
        body.get? [.key "batch", .index i, .key "userId"] = some (.str e.userID) ∧
        body.get? [.key "batch", .index i, .key "event"] =
          if e.type = eventTypeTrack then some (.str e.name) else none := by
  unfold segmentDispatch
  by_cases empty : events = []
  · simp [empty]
  cases checked : events.forM Event.validate with
  | error err =>
    have invalid := mt (forM_validate_ok events).mpr (by simp [checked])
    simp [empty, checked, invalid]
  | ok u =>
    have valid := (forM_validate_ok events).mp checked
    simp only [List.isEmpty_iff, empty, if_false, checked, Proc.call.injEq, HttpOp.post.injEq]
    refine ⟨⟨fun _ => ⟨empty, valid⟩, fun _ => ⟨_, _, _, _, rfl, HEq.rfl⟩⟩, ?_⟩
    rintro url k body next ⟨posted, -⟩
    cases posted
    refine ⟨rfl, rfl, fun i e found => ?_⟩
    have named := fun track => Event.name_of_track (valid e (List.getElem?_mem found)) track
    by_cases track : e.type = eventTypeTrack
    · simp [Json.get?, List.lookup_cons, List.getElem?_map, found, segmentEventJson, omitEmpty,
        track, named track]
    · obtain ⟨type, userID, name, context, app, os, timestamp⟩ := e
      cases app <;> cases os <;> simp [Json.get?, List.lookup_cons, List.getElem?_map, found,
        segmentEventJson, omitEmpty, omitNil, track]

/-- `MemorySessionRepository`: sessions by user id. -/
structure MemorySessionRepository where
  sessions : PlayerID → Option Session

namespace MemorySessionRepository

def empty : MemorySessionRepository := ⟨fun _ => none⟩

def save (r : MemorySessionRepository) (session : Session) : MemorySessionRepository :=
  ⟨Function.update r.sessions session.userID (some session)⟩

def get (r : MemorySessionRepository) (userID : PlayerID) : Except GoError Session :=
  match r.sessions userID with
  | some session => .ok session
  | none => .error ErrSessionNotFound

def delete (r : MemorySessionRepository) (userID : PlayerID) : MemorySessionRepository :=
  ⟨Function.update r.sessions userID none⟩

end MemorySessionRepository

/-- An analytics method run on an in-memory session repository and a `SegmentDispatcher`. -/
def withSegment {A : Type} (key : String) :
    Proc Analytics A → MemorySessionRepository → Proc Http A
  | .done a, _ => .done a
  | .call (.saveSession session) next, m => withSegment key (next none) (m.save session)
  | .call (.getSession userID) next, m => withSegment key (next (m.get userID)) m
  | .call (.deleteSession userID) next, m => withSegment key (next none) (m.delete userID)
  | .call (.dispatch events) next, m =>
    (segmentDispatch key events).bind fun r => withSegment key (next r) m

namespace TrackerAdapter

variable (rt : GoRuntime) (key : String)

/-- `StartWithAdapter(key, id, version, variant)`: a fresh adapter whose clock reads `now`. -/
def startWithAdapter (userID version variant : String) (now : Time) : Proc Http (Option GoError) :=
  withSegment key (AnalyticsService.startSession rt (defaultContext rt) now ⟨userID, version, variant⟩)
    .empty

/-- `EndWithAdapter(key, id)`: a fresh adapter whose clock reads `now`. -/
def endWithAdapter (userID : String) (now : Time) : Proc Http (Option GoError) :=
  withSegment key (AnalyticsService.endSession (defaultContext rt) now userID) .empty

end TrackerAdapter

/-! ## The adapter against the legacy tracker -/

theorem endWithAdapter_not_found (rt : GoRuntime) (key : String) {userID : PlayerID}
    (valid : userID.validate = .ok ()) (now : Time) :
    TrackerAdapter.endWithAdapter rt key userID now = .done (some ErrSessionNotFound) := by
  simp [TrackerAdapter.endWithAdapter, AnalyticsService.endSession, valid, withSegment,
    MemorySessionRepository.get, MemorySessionRepository.empty]

def linuxRuntime : GoRuntime := ⟨"linux", "amd64", "go1.22.0"⟩

/-- With an empty variant the legacy body has no `name` in the start event's `app`, while the
dispatcher writes `"name": ""`; and `EndWithAdapter` never posts, while `End` posts the end
event. -/
theorem segment_adapter_diverges :
    (∃ legacyBody adapterBody,
      Proc.Path (Tracker.startSession linuxRuntime "k" "u1" "1.0" "")
        [⟨.post defaultBaseURL "k" legacyBody, .ok 200⟩] none ∧
      Proc.Path (TrackerAdapter.startWithAdapter linuxRuntime "k" "u1" "1.0" "" ⟨1⟩)
        [⟨.post defaultBaseURL "k" adapterBody, .ok 200⟩] none ∧
      legacyBody.get? [.key "batch", .index 1, .key "app", .key "name"] = none ∧
      adapterBody.get? [.key "batch", .index 1, .key "app", .key "name"] = some (.str "")) ∧
    ∀ rt key (userID : PlayerID) now, userID.validate = .ok () →
      TrackerAdapter.endWithAdapter rt key userID now = .done (some ErrSessionNotFound) ∧
      ∃ body, Proc.Path (Tracker.endSession rt key userID)
        [⟨.post defaultBaseURL key body, .ok 200⟩] none :=
  ⟨⟨_, _, .call (.done _), .call (.done _), rfl, rfl⟩,
    fun rt key _ now valid => ⟨endWithAdapter_not_found rt key valid now, _, .call (.done _)⟩⟩

/-- With a valid user id, a version, a variant, a runtime that names its OS and architecture and a
clock past the zero time, `StartWithAdapter` posts the batch the legacy `StartSession` posts, to
the same endpoint with the same key. Only what they return differs: the legacy tracker passes a
transport error through and takes every status as success, while the adapter returns
`ErrDispatchFailed` for a transport error and for a status of 400 or more. -/
theorem startWithAdapter_posts_legacy_batch (rt : GoRuntime) (key : String) {userID : PlayerID}
    (valid : userID.validate = .ok ()) {version variant : String} (versioned : version ≠ "")
    (named : variant ≠ "") (platform : rt.goos ≠ "" ∧ rt.goarch ≠ "") {now : Time}
    (clock : now.isZero = false) :
    ∃ body, ∀ reply : Except GoError Nat,
      Proc.Path (Tracker.startSession rt key userID version variant)
        [⟨.post defaultBaseURL key body, reply⟩]
        (match reply with
          | .error err => some err
          | .ok _ => none) ∧
      Proc.Path (TrackerAdapter.startWithAdapter rt key userID version variant now)
        [⟨.post defaultBaseURL key body, reply⟩]
        (match reply with
          | .error _ => some ErrDispatchFailed
          | .ok status => if 400 ≤ status then some ErrDispatchFailed else none) := by
  refine ⟨_, fun reply => ⟨by cases reply <;> exact .call (.done _), ?_⟩⟩
  have present := validateId_ne_empty valid
  simp only [TrackerAdapter.startWithAdapter, AnalyticsService.startSession, valid, versioned,
    ↓reduceIte, newSession, clock, Bool.false_eq_true, bind_pure_comp, map_pure, Except.map_ok,
    newIdentifyEvent, newTrackEvent, eventNameStart, String.reduceEq, withSegment, segmentDispatch,
    eventTypeIdentify, Event.withOSInfo, Event.withAppInfo, eventTypeTrack, List.isEmpty_cons,
    List.forM_cons', Event.validate, and_true, pure_bind, and_false, List.forM_nil', List.map_cons,
    List.map_nil, Proc.bind, Proc.path_call, List.cons.injEq, Sigma.mk.inj_iff, heq_eq_eq,
    List.nil_eq]
  refine ⟨reply, [], ⟨⟨?_, rfl⟩, rfl⟩, ?_⟩
  · simp [legacyBatchJson, LegacyEvent.toJson, segmentEventJson, omitEmpty, omitNil,
      AppInfo.toLegacyJson, present, named, versioned, platform.1, platform.2, eventTypeTrack]
  · cases reply with
    | error => exact .done _
    | ok status => by_cases failed : 400 ≤ status <;> simp [failed, Proc.bind, withSegment]

theorem startWithAdapter_posts_legacy_batch_linux :
    ∃ body, ∀ reply : Except GoError Nat,
      Proc.Path (Tracker.startSession linuxRuntime "k" "u1" "1.0" "b")
        [⟨.post defaultBaseURL "k" body, reply⟩]
        (match reply with
          | .error err => some err
          | .ok _ => none) ∧
      Proc.Path (TrackerAdapter.startWithAdapter linuxRuntime "k" "u1" "1.0" "b" ⟨1⟩)
        [⟨.post defaultBaseURL "k" body, reply⟩]
        (match reply with
          | .error _ => some ErrDispatchFailed
          | .ok status => if 400 ≤ status then some ErrDispatchFailed else none) :=
  @startWithAdapter_posts_legacy_batch linuxRuntime "k" "u1" rfl "1.0" "b" (by decide) (by decide)
    ⟨by decide, by decide⟩ ⟨1⟩ rfl

end Sandai
