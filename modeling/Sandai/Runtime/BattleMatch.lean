import Mathlib.Data.Finmap
import Sandai.Semantics.Proc

/-! The authoritative battle match of the Nakama runtime module (`infra/runtime`, `battleMatch`).

Nakama's match runtime calls `MatchInit` once and then, while the match runs, the other
callbacks in an order of its choosing; a run here is any sequence of them. `matchState.Players`
is a Go map from session ids to presences, modelled as a `Finmap`, whose `keys.card` is Go's
`len`. `MatchLoop` makes one `BroadcastMessage` call per message, discards the error each call
returns, and ends the match by returning nil, which is `none` here.

The arguments the callbacks never read (context, logger, database, Nakama module, the join
metadata, `MatchInit`'s params and the tick passed to callbacks other than `MatchLoop`) are left
out.
-/

set_option autoImplicit false

namespace Sandai

/-- `runtime.Presence`; the match reads only its session id. -/
structure Presence where
  userID : String
  sessionID : String
  username : String
  node : String
  deriving DecidableEq, Repr

/-- `runtime.MatchData`: a client's message with its sender and op code. -/
structure MatchData where
  presence : Presence
  opCode : Int
  data : List UInt8
  deriving DecidableEq, Repr

/-- `runtime.MatchDispatcher`, of which the match calls `BroadcastMessage`; an empty presence
list sends to every presence in the match. -/
inductive DispatcherOp where
  | broadcastMessage (opCode : Int) (data : List UInt8) (presences : List Presence)
      (sender : Option Presence) (reliable : Bool)
  deriving DecidableEq, Repr

def Dispatcher : Signature := ⟨DispatcherOp, fun _ => Option GoError⟩

namespace BattleMatch

structure MatchState where
  tick : Int
  players : Finmap fun _ : String => Presence

/-- `MatchInit`: an empty state, tick rate 10 and label "sandai". -/
def matchInit : MatchState × Int × String := (⟨0, ∅⟩, 10, "sandai")

/-- `MatchJoinAttempt`: every presence is accepted, with no reason. -/
def matchJoinAttempt (st : MatchState) (_presence : Presence) : MatchState × Bool × String :=
  (st, true, "")

/-- `MatchJoin`: each presence is stored under its session id, in order. -/
def matchJoin (st : MatchState) (presences : List Presence) : MatchState :=
  { st with players := presences.foldl (fun players p => players.insert p.sessionID p) st.players }

/-- `MatchLeave`: each presence's session id is deleted. -/
def matchLeave (st : MatchState) (presences : List Presence) : MatchState :=
  { st with players := presences.foldl (fun players p => players.erase p.sessionID) st.players }

/-- The dispatcher call `MatchLoop` makes for one message: op code 1 to every presence, with no
sender, reliably. -/
def broadcastOf (msg : MatchData) : DispatcherOp := .broadcastMessage 1 msg.data [] none true

/-- The `BroadcastMessage` calls of `MatchLoop`, one per message, each error discarded. -/
def broadcastAll : List MatchData → Proc Dispatcher Unit
  | [] => .done ()
  | msg :: rest => .call (broadcastOf msg) fun _ => broadcastAll rest

/-- `MatchLoop`; `none` is the nil state that ends the match. -/
def matchLoop (st : MatchState) (tick : Int) (messages : List MatchData) :
    Proc Dispatcher (Option MatchState) :=
  (broadcastAll messages).bind fun () =>
    .done (if st.players.keys.card = 0 ∧ 30 < tick then none else some { st with tick })

def matchTerminate (st : MatchState) (_graceSeconds : Int) : MatchState := st

/-- `MatchSignal`: the state, and the signal's data as the reply. -/
def matchSignal (st : MatchState) (data : String) : MatchState × String := (st, data)

/-- A callback of Nakama's match runtime on a running match, with the arguments it reads. -/
inductive MatchCall where
  | joinAttempt (presence : Presence)
  | join (presences : List Presence)
  | leave (presences : List Presence)
  | loop (tick : Int) (messages : List MatchData)
  | terminate (graceSeconds : Int)
  | signal (data : String)
  deriving DecidableEq, Repr

/-- One callback on the match state; `none` when it ends the match. -/
def handle (st : MatchState) : MatchCall → Proc Dispatcher (Option MatchState)
  | .joinAttempt presence => .done (some (matchJoinAttempt st presence).1)
  | .join presences => .done (some (matchJoin st presences))
  | .leave presences => .done (some (matchLeave st presences))
  | .loop tick messages => matchLoop st tick messages
  | .terminate graceSeconds => .done (some (matchTerminate st graceSeconds))
  | .signal data => .done (some (matchSignal st data).1)

/-- `Run st calls trace final`: from `st` the match handles these callbacks, making these
dispatcher calls whatever each returns; `final` is the state left, or `none` when the last
callback ended the match. Nakama makes no callback after the one that ends it. -/
inductive Run : MatchState → List MatchCall → List (Exchange Dispatcher) → Option MatchState →
    Prop where
  | nil (st : MatchState) : Run st [] [] (some st)
  | ended {st : MatchState} {c : MatchCall} {first : List (Exchange Dispatcher)} :
      Proc.Path (handle st c) first none → Run st [c] first none
  | next {st st' : MatchState} {c : MatchCall} {rest : List MatchCall}
      {first trace : List (Exchange Dispatcher)} {final : Option MatchState} :
      Proc.Path (handle st c) first (some st') → Run st' rest trace final →
        Run st (c :: rest) (first ++ trace) final

/-! ## What one callback does -/

def after (st : MatchState) : MatchCall → MatchState
  | .join presences => matchJoin st presences
  | .leave presences => matchLeave st presences
  | .loop tick _ => { st with tick }
  | _ => st

/-- Whether a callback ends the match from `st`: a loop past tick 30 with no player. -/
def ends (st : MatchState) : MatchCall → Bool
  | .loop tick _ => decide (st.players.keys.card = 0 ∧ 30 < tick)
  | _ => false

def MatchCall.broadcasts : MatchCall → List DispatcherOp
  | .loop _ messages => messages.map broadcastOf
  | _ => []

theorem broadcastAll_path {messages : List MatchData} {calls : List (Exchange Dispatcher)}
    {u : Unit} :
    Proc.Path (broadcastAll messages) calls u ↔ calls.map (·.1) = messages.map broadcastOf := by
  induction messages generalizing calls with
  | nil => simp [broadcastAll]
  | cons msg rest ih =>
    simp only [broadcastAll, Proc.path_call, ih, List.map_cons]
    constructor
    · rintro ⟨r, calls, rfl, same⟩
      rw [List.map_cons, same]
    · intro same
      cases calls with
      | nil => cases same
      | cons e calls =>
        obtain ⟨o, r⟩ := e
        simp only [List.map_cons, List.cons.injEq] at same
        obtain ⟨rfl, same⟩ := same
        exact ⟨r, calls, rfl, same⟩

theorem handle_path {st : MatchState} {c : MatchCall} {calls : List (Exchange Dispatcher)}
    {r : Option MatchState} :
    Proc.Path (handle st c) calls r ↔
      calls.map (·.1) = c.broadcasts ∧ r = if ends st c then none else some (after st c) := by
  cases c with
  | loop tick messages =>
    simp only [handle, matchLoop, Proc.path_bind, Proc.path_done, broadcastAll_path, ends,
      after, MatchCall.broadcasts, decide_eq_true_eq]
    constructor
    · rintro ⟨first, -, rest, rfl, same, rfl, rfl⟩
      rw [List.append_nil, same]
      exact ⟨rfl, rfl⟩
    · rintro ⟨same, rfl⟩
      exact ⟨calls, (), [], (List.append_nil calls).symm, same, rfl, rfl⟩
  | _ =>
    simp only [handle, ends, after, MatchCall.broadcasts, matchJoinAttempt, matchTerminate,
      matchSignal, Proc.path_done, List.map_eq_nil_iff, Bool.false_eq_true, if_false]
    exact and_congr_right fun _ => eq_comm

/-! ## The players map -/

/-- What a callback says about session `sid`: nothing (`none`), that it left (`some none`), or
the presence it joined with, the last of a batch winning. -/
def MatchCall.mentions (sid : String) : MatchCall → Option (Option Presence)
  | .join presences => (presences.reverse.find? (·.sessionID = sid)).map some
  | .leave presences => if presences.any (·.sessionID = sid) then some none else none
  | _ => none

def lastMention (sid : String) (calls : List MatchCall) : Option (Option Presence) :=
  calls.reverse.findSome? (·.mentions sid)

theorem lookup_foldl_insert (sid : String) (presences : List Presence)
    (players : Finmap fun _ : String => Presence) :
    (presences.foldl (fun players p => players.insert p.sessionID p) players).lookup sid =
      (presences.reverse.find? (·.sessionID = sid)).or (players.lookup sid) := by
  induction presences generalizing players with
  | nil => rfl
  | cons p rest ih =>
    rw [List.foldl_cons, ih, List.reverse_cons, List.find?_append, Option.or_assoc]
    congr 1
    by_cases mine : p.sessionID = sid
    · subst mine; simp [Finmap.lookup_insert]
    · simp [mine, Finmap.lookup_insert_of_ne _ (Ne.symm mine)]

theorem lookup_foldl_erase (sid : String) (presences : List Presence)
    (players : Finmap fun _ : String => Presence) :
    (presences.foldl (fun players p => players.erase p.sessionID) players).lookup sid =
      if presences.any (·.sessionID = sid) then none else players.lookup sid := by
  induction presences generalizing players with
  | nil => rfl
  | cons p rest ih =>
    rw [List.foldl_cons, ih]
    by_cases mine : p.sessionID = sid
    · subst mine; simp [Finmap.lookup_erase]
    · simp [mine, Finmap.lookup_erase_ne (Ne.symm mine)]

theorem lookup_after (st : MatchState) (c : MatchCall) (sid : String) :
    (after st c).players.lookup sid = (c.mentions sid).getD (st.players.lookup sid) := by
  cases c with
  | join presences =>
    rw [after, matchJoin, lookup_foldl_insert, MatchCall.mentions]
    cases presences.reverse.find? (·.sessionID = sid) <;> rfl
  | leave presences =>
    rw [after, matchLeave, lookup_foldl_erase, MatchCall.mentions]
    split <;> rfl
  | _ => rfl

theorem lastMention_cons (sid : String) (c : MatchCall) (rest : List MatchCall) :
    lastMention sid (c :: rest) = (lastMention sid rest).or (c.mentions sid) := by
  simp only [lastMention, List.reverse_cons, List.findSome?_append, List.findSome?_cons,
    List.findSome?_nil]
  cases c.mentions sid <;> rfl

def replay (st : MatchState) (calls : List MatchCall) : MatchState := calls.foldl after st

theorem replay_lookup (st : MatchState) (calls : List MatchCall) (sid : String) :
    (replay st calls).players.lookup sid = (lastMention sid calls).getD (st.players.lookup sid) := by
  induction calls generalizing st with
  | nil => rfl
  | cons c rest ih =>
    rw [replay, List.foldl_cons, ← replay, ih, lastMention_cons, lookup_after]
    cases lastMention sid rest <;> rfl

theorem card_keys_eq_zero {players : Finmap fun _ : String => Presence} :
    players.keys.card = 0 ↔ ∀ sid, players.lookup sid = none := by
  simp [Finset.eq_empty_iff_forall_not_mem, Finmap.lookup_eq_none, Finmap.mem_keys]

theorem ends_iff (st : MatchState) (c : MatchCall) :
    ends st c = true ↔ ∃ tick messages, c = .loop tick messages ∧ 30 < tick ∧
      ∀ sid, st.players.lookup sid = none := by
  cases c <;> simp only [ends, decide_eq_true_eq, card_keys_eq_zero] <;> simp [and_comm]

/-! ## Runs -/

theorem Run.eq_replay {st : MatchState} {calls : List MatchCall}
    {trace : List (Exchange Dispatcher)} {st' : MatchState} (run : Run st calls trace (some st')) :
    st' = replay st calls := by
  generalize kept : some st' = final at run
  induction run with
  | nil => cases kept; rfl
  | ended => cases kept
  | @next st st₁ c rest first trace final path _ ih =>
    obtain ⟨-, result⟩ := handle_path.mp path
    split at result <;> cases result
    exact ih kept

theorem Run.ends_iff {st : MatchState} {calls : List MatchCall}
    {trace : List (Exchange Dispatcher)} {final : Option MatchState}
    (run : Run st calls trace final) (pre : List MatchCall) (c : MatchCall)
    (more : List MatchCall) (parts : calls = pre ++ c :: more) :
    ends (replay st pre) c = true ↔ more = [] ∧ final = none := by
  induction run generalizing pre with
  | nil => simp at parts
  | @ended st c₀ first path =>
    obtain ⟨rfl, rfl, rfl⟩ : pre = [] ∧ c = c₀ ∧ more = [] := by
      cases pre <;> simp_all
    obtain ⟨-, result⟩ := handle_path.mp path
    split at result <;> simp_all [replay]
  | @next st st₁ c₀ rest first trace final path run ih =>
    obtain ⟨-, result⟩ := handle_path.mp path
    split at result
    · cases result
    rename_i continues
    cases result
    cases pre with
    | nil =>
      obtain ⟨rfl, rfl⟩ := List.cons.inj parts
      simp only [replay, List.foldl_nil, continues, Bool.false_eq_true, false_iff, not_and]
      rintro rfl
      cases run
      simp
    | cons c₁ pre =>
      obtain ⟨rfl, later⟩ := List.cons.inj parts
      exact ih pre later

theorem Run.none_iff {st : MatchState} {calls : List MatchCall}
    {trace : List (Exchange Dispatcher)} {final : Option MatchState}
    (run : Run st calls trace final) :
    final = none ↔ ∃ pre c, calls = pre ++ [c] ∧ ends (replay st pre) c = true := by
  constructor
  · intro stopped
    rcases List.eq_nil_or_concat calls with rfl | ⟨pre, c, parts⟩
    · cases run; cases stopped
    · rw [List.concat_eq_append] at parts
      exact ⟨pre, c, parts, (run.ends_iff pre c [] parts).mpr ⟨rfl, stopped⟩⟩
  · rintro ⟨pre, c, parts, stops⟩
    exact ((run.ends_iff pre c [] parts).mp stops).2

theorem Run.cons {st : MatchState} {c : MatchCall} {rest : List MatchCall}
    {trace : List (Exchange Dispatcher)} {final : Option MatchState}
    (first : List (Exchange Dispatcher)) (continues : ends st c = false) (sent : first.map (·.1) = c.broadcasts)
    (run : Run (after st c) rest trace final) : Run st (c :: rest) (first ++ trace) final :=
  .next (handle_path.mpr ⟨sent, by simp [continues]⟩) run

theorem Run.last {st : MatchState} {c : MatchCall} {first : List (Exchange Dispatcher)}
    (stops : ends st c = true) (sent : first.map (·.1) = c.broadcasts) : Run st [c] first none :=
  .ended (handle_path.mpr ⟨sent, by simp [stops]⟩)

/-- Every run relays each message of each `MatchLoop` once, in order, as a broadcast with op code
1 to every presence, whatever the dispatcher returns, and makes no other dispatcher call. -/
theorem run_broadcasts_every_message {st : MatchState} {calls : List MatchCall}
    {trace : List (Exchange Dispatcher)} {final : Option MatchState}
    (run : Run st calls trace final) :
    trace.map (·.1) = calls.flatMap MatchCall.broadcasts := by
  induction run with
  | nil => rfl
  | ended path => simp [(handle_path.mp path).1]
  | next path _ ih => rw [List.map_append, (handle_path.mp path).1, ih, List.flatMap_cons]

def playerP1 : Presence := ⟨"p1", "s1", "p1", "node1"⟩

def helloFromP1 : MatchData := ⟨playerP1, 7, [104, 105]⟩

def soloCalls : List MatchCall :=
  [.join [playerP1], .loop 31 [helloFromP1], .leave [playerP1], .loop 32 []]

def soloTrace : List (Exchange Dispatcher) :=
  [⟨broadcastOf helloFromP1, some (.new "send failed")⟩]

theorem soloCalls_run : Run matchInit.1 soloCalls soloTrace none :=
  Run.cons [] (by decide) rfl <| Run.cons soloTrace (by decide) rfl <|
    Run.cons [] (by decide) rfl <| Run.last (by decide) rfl

theorem run_broadcasts_every_message_solo :
    Run matchInit.1 soloCalls soloTrace none ∧
      soloTrace.map (·.1) = soloCalls.flatMap MatchCall.broadcasts :=
  ⟨soloCalls_run, run_broadcasts_every_message soloCalls_run⟩

/-! ## Runs from `MatchInit` -/

theorem lookup_replay_init (pre : List MatchCall) (sid : String) :
    (replay matchInit.1 pre).players.lookup sid = (lastMention sid pre).getD none := by
  rw [replay_lookup]
  rfl

theorem ends_replay_init (pre : List MatchCall) (c : MatchCall) :
    ends (replay matchInit.1 pre) c = true ↔ ∃ tick messages, c = .loop tick messages ∧
      30 < tick ∧ ∀ sid, (lastMention sid pre).getD none = none := by
  simp only [ends_iff, lookup_replay_init]

/-- From `MatchInit`, in every state a run leaves, each session holds the presence it last joined
with unless a later `MatchLeave` listed it: the last callback that mentions the session decides,
and a session no callback mentions is absent. -/
theorem run_players_last_mention {calls : List MatchCall} {trace : List (Exchange Dispatcher)}
    {st : MatchState} (run : Run matchInit.1 calls trace (some st)) (sid : String) :
    st.players.lookup sid = (lastMention sid calls).getD none := by
  rw [run.eq_replay, lookup_replay_init]

theorem run_players_last_mention_solo :
    ∃ st, Run matchInit.1 (soloCalls.take 2) soloTrace (some st) ∧
      st.players.lookup "s1" = (lastMention "s1" (soloCalls.take 2)).getD none :=
  have run : Run matchInit.1 (soloCalls.take 2) soloTrace (some _) :=
    Run.cons [] (by decide) rfl <| Run.cons soloTrace (by decide) rfl <| .nil _
  ⟨_, run, run_players_last_mention run "s1"⟩

/-- From `MatchInit`, a run ends the match exactly at a `MatchLoop` past tick 30 at which every
session that joined has since left, and at no other point: such a loop is always the run's last
callback. -/
theorem run_ends_iff_empty_past_tick_30 {calls : List MatchCall}
    {trace : List (Exchange Dispatcher)} {final : Option MatchState}
    (run : Run matchInit.1 calls trace final) :
    (final = none ↔ ∃ pre tick messages, calls = pre ++ [.loop tick messages] ∧ 30 < tick ∧
        ∀ sid, (lastMention sid pre).getD none = none) ∧
      ∀ pre tick messages more, calls = pre ++ .loop tick messages :: more → 30 < tick →
        (∀ sid, (lastMention sid pre).getD none = none) → more = [] ∧ final = none := by
  refine ⟨?_, fun pre tick messages more parts late empty => (run.ends_iff pre _ more parts).mp
    ((ends_replay_init pre _).mpr ⟨tick, messages, rfl, late, empty⟩)⟩
  rw [run.none_iff]
  constructor
  · rintro ⟨pre, c, parts, stops⟩
    obtain ⟨tick, messages, rfl, late, empty⟩ := (ends_replay_init pre c).mp stops
    exact ⟨pre, tick, messages, parts, late, empty⟩
  · rintro ⟨pre, tick, messages, parts, late, empty⟩
    exact ⟨pre, _, parts, (ends_replay_init pre _).mpr ⟨tick, messages, rfl, late, empty⟩⟩

theorem run_ends_iff_empty_past_tick_30_solo :
    Run matchInit.1 soloCalls soloTrace none ∧
      ((none : Option MatchState) = none ↔ ∃ pre tick messages,
          soloCalls = pre ++ [.loop tick messages] ∧ 30 < tick ∧
          ∀ sid, (lastMention sid pre).getD none = none) ∧
      ∀ pre tick messages more, soloCalls = pre ++ .loop tick messages :: more → 30 < tick →
        (∀ sid, (lastMention sid pre).getD none = none) →
          more = [] ∧ (none : Option MatchState) = none :=
  ⟨soloCalls_run, run_ends_iff_empty_past_tick_30 soloCalls_run⟩

end BattleMatch

end Sandai
