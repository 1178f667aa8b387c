import Sandai.Service.Bot

/-! Idempotent intake under concurrency: any number of `Handle` calls, interleaved at their
collaborator calls, against a command store whose `ReserveCommand` is an atomic
reserve-or-fetch.

The first part says once what a single `Handle` call can have done (`HandleTrace`); the second
is the store, whose invariant holds whatever the calls in flight are; the third combines them.
-/

set_option autoImplicit false

namespace Sandai

/-! ## What one `Handle` call can have done -/

/-- The command an exchange writes: the argument of a `Save` or an `Enqueue`. -/
def writtenBy : Exchange Bot → Option Command
  | ⟨.save c, _⟩ => some c
  | ⟨.enqueue c, _⟩ => some c
  | _ => none

def storedBy : Exchange Bot → Option Command
  | ⟨.save c, r⟩ => match r with
    | none => some c
    | some _ => none
  | _ => none

def isEnqueue : Exchange Bot → Bool
  | ⟨.enqueue _, _⟩ => true
  | _ => false

/-- A `Save` of a command in `pending` state: the save of a new record. -/
def isNewSave : Exchange Bot → Bool
  | ⟨.save c, _⟩ => c.state = .pending
  | _ => false

/-- A `ReserveCommand` of `k` answered with `ErrNotFound`: a fresh reservation. -/
def freshFor (k : IdempotencyKey) : Exchange Bot → Bool
  | ⟨.reserveCommand key, r⟩ => match r with
    | .error err => key = k && err.is ErrNotFound
    | .ok _ => false
  | _ => false

def lastStored (calls : List (Exchange Bot)) : Option Command := (calls.filterMap storedBy).getLast?

/-- The exchanges start with a fresh reservation of `k`: the call got past the reservation. -/
def Proceeds (k : IdempotencyKey) (calls : List (Exchange Bot)) : Prop :=
  ∃ e, calls.head? = some e ∧ freshFor k e = true

@[simp] theorem proceeds_nil (k : IdempotencyKey) : ¬ Proceeds k [] := by
  simp [Proceeds]

@[simp] theorem proceeds_cons {k : IdempotencyKey} {e : Exchange Bot}
    {rest : List (Exchange Bot)} : Proceeds k (e :: rest) ↔ freshFor k e = true := by
  simp [Proceeds]

namespace BotService

variable (s : BotService) (now : Time) (input : CommandInput)

/-- The exchanges made after a fresh reservation once `NewCommand` built `cmd`, and what remains. -/
inductive FreshTrace (cmd : Command) :
    List (Exchange Bot) → Proc Bot (Except GoError CommandResult) → Prop where
  | saveFailed (err : GoError) : FreshTrace cmd [⟨.save cmd, some err⟩] (.done (.error err))
  | saved : FreshTrace cmd [⟨.save cmd, none⟩] (s.dispatch now input cmd)
  | enqueueFailed (err : GoError) : s.hasProducer →
      FreshTrace cmd [⟨.save cmd, none⟩, ⟨.enqueue cmd, some err⟩]
        (.call (.save (cmd.markAttempt now (some err))) fun _ => .done (.error err))
  | marked (err : GoError) (r : Option GoError) : s.hasProducer →
      FreshTrace cmd [⟨.save cmd, none⟩, ⟨.enqueue cmd, some err⟩,
        ⟨.save (cmd.markAttempt now (some err)), r⟩] (.done (.error err))
  | enqueued : s.hasProducer →
      FreshTrace cmd [⟨.save cmd, none⟩, ⟨.enqueue cmd, none⟩] (s.acknowledge input)
  | notified (middle : List (Exchange Bot)) (r : Option GoError) :
      (middle = [⟨.enqueue cmd, none⟩] ∧ s.hasProducer ∨ middle = [] ∧ s.hasProducer = false) →
      s.hasNotifier ∧ input.playerID ≠ "" →
      FreshTrace cmd (⟨.save cmd, none⟩ :: middle ++
        [⟨.notify input.playerID [("status", "accepted")], r⟩]) (.done (.ok ⟨true⟩))

/-- Every exchange sequence a `Handle` call can have made, with what remains of it. -/
inductive HandleTrace : List (Exchange Bot) → Proc Bot (Except GoError CommandResult) → Prop where
  | start : HandleTrace [] (s.handle now input)
  | reserved (r : Except GoError Command) :
      HandleTrace [⟨.reserveCommand input.idempotencyKey, r⟩] (s.onReserve now input r)
  | fresh {err : GoError} {cmd : Command} {tail : List (Exchange Bot)}
      {q : Proc Bot (Except GoError CommandResult)} : err.is ErrNotFound →
      newCommand input.commandID input.channel input.payload input.idempotencyKey now = .ok cmd →
      FreshTrace s now input cmd tail q →
      HandleTrace (⟨.reserveCommand input.idempotencyKey, .error err⟩ :: tail) q

variable {s now input}

theorem acknowledge_after {e : Exchange Bot} {rest : List (Exchange Bot)}
    {q : Proc Bot (Except GoError CommandResult)}
    (after : Proc.After (s.acknowledge input) (e :: rest) q) :
    (s.hasNotifier ∧ input.playerID ≠ "") ∧
      ∃ r, e = ⟨.notify input.playerID [("status", "accepted")], r⟩ ∧ rest = [] ∧
        q = .done (.ok ⟨true⟩) := by
  unfold acknowledge at after
  split at after
  · obtain ⟨r, rfl, notified⟩ := Proc.after_call_cons.mp after
    cases rest with
    | nil => exact ⟨‹_›, r, rfl, rfl, Proc.after_nil.mp notified⟩
    | cons => exact absurd notified Proc.after_done_cons
  · exact absurd after Proc.after_done_cons

theorem dispatch_trace {cmd : Command} {e : Exchange Bot} {rest : List (Exchange Bot)}
    {q : Proc Bot (Except GoError CommandResult)}
    (after : Proc.After (s.dispatch now input cmd) (e :: rest) q) :
    FreshTrace s now input cmd (⟨.save cmd, none⟩ :: e :: rest) q := by
  unfold dispatch at after
  split at after
  · rename_i producer
    obtain ⟨r, rfl, enqueued⟩ := Proc.after_call_cons.mp after
    cases r with
    | some err =>
      cases rest with
      | nil => rw [Proc.after_nil.mp enqueued]; exact .enqueueFailed err producer
      | cons e' rest' =>
        obtain ⟨r', rfl, marked⟩ := Proc.after_call_cons.mp enqueued
        cases rest' with
        | nil => rw [Proc.after_nil.mp marked]; exact .marked err r' producer
        | cons => exact absurd marked Proc.after_done_cons
    | none =>
      cases rest with
      | nil => rw [Proc.after_nil.mp enqueued]; exact .enqueued producer
      | cons e' rest' =>
        obtain ⟨notifier, r', rfl, rfl, rfl⟩ := acknowledge_after enqueued
        exact .notified [⟨.enqueue cmd, none⟩] r' (.inl ⟨rfl, producer⟩) notifier
  · rename_i noProducer
    obtain ⟨notifier, r, rfl, rfl, rfl⟩ := acknowledge_after after
    exact .notified [] r (.inr ⟨rfl, by simpa using noProducer⟩) notifier

theorem persist_trace {cmd : Command} {e : Exchange Bot} {rest : List (Exchange Bot)}
    {q : Proc Bot (Except GoError CommandResult)}
    (after : Proc.After (s.persist now input cmd) (e :: rest) q) :
    FreshTrace s now input cmd (e :: rest) q := by
  obtain ⟨r, rfl, saved⟩ := Proc.after_call_cons.mp after
  cases r with
  | some err =>
    cases rest with
    | nil => rw [Proc.after_nil.mp saved]; exact .saveFailed err
    | cons => exact absurd saved Proc.after_done_cons
  | none =>
    cases rest with
    | nil => rw [Proc.after_nil.mp saved]; exact .saved
    | cons e' rest' => exact dispatch_trace saved

theorem handle_trace {calls : List (Exchange Bot)} {q : Proc Bot (Except GoError CommandResult)}
    (after : Proc.After (s.handle now input) calls q) : HandleTrace s now input calls q := by
  cases calls with
  | nil => rw [Proc.after_nil.mp after]; exact .start
  | cons e rest =>
    obtain ⟨r, rfl, reserved⟩ := Proc.after_call_cons.mp after
    cases rest with
    | nil => rw [Proc.after_nil.mp reserved]; exact .reserved r
    | cons e' rest' =>
      cases r with
      | ok c => exact absurd reserved Proc.after_done_cons
      | error err =>
        by_cases notFound : err.is ErrNotFound = true
        · cases made : newCommand input.commandID input.channel input.payload
              input.idempotencyKey now with
          | error e => simp [onReserve, notFound, made] at reserved
          | ok cmd =>
            simp only [onReserve, notFound, made, Bool.not_true, Bool.false_eq_true,
              if_false] at reserved
            exact .fresh notFound made (persist_trace reserved)
        · simp [onReserve, notFound] at reserved

/-! What a `Handle` call's exchanges tell about its writes. -/

theorem freshTrace_written {cmd : Command} {tail : List (Exchange Bot)}
    {q : Proc Bot (Except GoError CommandResult)} (trace : FreshTrace s now input cmd tail q)
    {e : Exchange Bot} (member : e ∈ tail) {c : Command} (writes : writtenBy e = some c) :
    c.idempotencyKey = cmd.idempotencyKey := by
  cases trace with
  | notified middle r shape =>
    rcases shape with ⟨rfl, -⟩ | ⟨rfl, -⟩ <;> simp only [List.cons_append, List.nil_append,
      List.mem_cons, List.mem_singleton, List.not_mem_nil, or_false] at member <;>
      rcases member with rfl | rfl | rfl <;> cases writes <;> rfl
  | _ =>
    simp only [List.mem_cons, List.mem_singleton, List.not_mem_nil, or_false] at member
    rcases member with rfl | rfl | rfl <;> cases writes <;> simp

theorem freshTrace_counts {cmd : Command} {tail : List (Exchange Bot)}
    {q : Proc Bot (Except GoError CommandResult)} (trace : FreshTrace s now input cmd tail q)
    (pending : cmd.state = .pending) :
    (tail.filter isEnqueue).length ≤ 1 ∧ (tail.filter isNewSave).length ≤ 1 := by
  cases trace with
  | notified middle r shape =>
    rcases shape with ⟨rfl, -⟩ | ⟨rfl, -⟩ <;> simp [isEnqueue, isNewSave, pending]
  | _ => simp [isEnqueue, isNewSave, pending]

theorem handleTrace_written {calls : List (Exchange Bot)}
    {q : Proc Bot (Except GoError CommandResult)} (trace : HandleTrace s now input calls q)
    {e : Exchange Bot} (member : e ∈ calls) {c : Command} (writes : writtenBy e = some c) :
    c.idempotencyKey = input.idempotencyKey ∧ Proceeds c.idempotencyKey calls := by
  cases trace with
  | start => cases member
  | reserved r =>
    rw [List.mem_singleton] at member; subst member; cases writes
  | fresh notFound made tail =>
    rcases List.mem_cons.mp member with rfl | later
    · cases writes
    · have key := (freshTrace_written tail later writes).trans (newCommand_ok made).1
      exact ⟨key, by simp [freshFor, key, notFound]⟩

theorem handleTrace_counts {calls : List (Exchange Bot)}
    {q : Proc Bot (Except GoError CommandResult)} (trace : HandleTrace s now input calls q) :
    (calls.filter isEnqueue).length ≤ 1 ∧ (calls.filter isNewSave).length ≤ 1 := by
  cases trace with
  | fresh _ made tail =>
    simpa [isEnqueue, isNewSave] using freshTrace_counts tail (newCommand_ok made).2
  | _ => simp [isEnqueue, isNewSave]

theorem handleTrace_not_proceeds {calls : List (Exchange Bot)}
    {q : Proc Bot (Except GoError CommandResult)} (trace : HandleTrace s now input calls q)
    (stopped : ¬ Proceeds input.idempotencyKey calls) :
    calls.length ≤ 1 ∧ ∀ result, q = .done result →
      ∃ r, calls = [⟨.reserveCommand input.idempotencyKey, r⟩] ∧
        ((∃ c, r = .ok c ∧
            result = if c.state = .completed then .ok ⟨true⟩ else .error ErrDuplicate) ∨
          (∃ err, r = .error err ∧ err.is ErrNotFound = false ∧ result = .error err)) := by
  cases trace with
  | start => exact ⟨by simp, fun result finished => by cases finished⟩
  | reserved r =>
    refine ⟨by simp, fun result finished => ⟨r, rfl, ?_⟩⟩
    cases r with
    | ok c => exact .inl ⟨c, rfl, by cases finished; rfl⟩
    | error err =>
      have notFound : err.is ErrNotFound = false := by
        simpa [freshFor] using stopped
      simp only [onReserve, notFound, Bool.not_false, if_true, Proc.done.injEq] at finished
      exact .inr ⟨err, rfl, notFound, finished.symm⟩
  | fresh notFound _ _ => simp [freshFor, notFound] at stopped

/-- A call that got a fresh reservation and returned has stored its command, in `pending`
state or in `failed` state after a failed enqueue, unless `NewCommand` or the first `Save`
failed, in which case it stored nothing and returned that error. -/
theorem handleTrace_finished {calls : List (Exchange Bot)} {result : Except GoError CommandResult}
    (trace : HandleTrace s now input calls (.done result))
    (fresh : Proceeds input.idempotencyKey calls) :
    (∃ c, lastStored calls = some c ∧ c.idempotencyKey = input.idempotencyKey ∧
        (c.state = .pending ∨ c.state = .failed)) ∨
      (lastStored calls = none ∧ ∃ err, result = .error err ∧
        (newCommand input.commandID input.channel input.payload input.idempotencyKey now =
            .error err ∨
          ∃ cmd, newCommand input.commandID input.channel input.payload input.idempotencyKey now =
            .ok cmd ∧ ⟨.save cmd, some err⟩ ∈ calls)) := by
  generalize finished : Proc.done result = q at trace
  cases trace with
  | start => cases finished
  | reserved r =>
    cases r with
    | ok c => simp [freshFor] at fresh
    | error err =>
      have notFound : err.is ErrNotFound = true := by simpa [freshFor] using fresh
      refine .inr ⟨by simp [lastStored, storedBy], ?_⟩
      cases made : newCommand input.commandID input.channel input.payload input.idempotencyKey now
      <;> simp only [onReserve, notFound, made, Bool.not_true, Bool.false_eq_true, if_false,
        persist] at finished
      · cases finished; exact ⟨_, rfl, .inl rfl⟩
      · cases finished
  | fresh _ made tail =>
    obtain ⟨key, pending⟩ := newCommand_ok made
    cases tail with
    | saveFailed err =>
      cases finished
      exact .inr ⟨by simp [lastStored, storedBy], err, rfl, .inr ⟨_, made, by simp⟩⟩
    | marked err r =>
      refine .inl ?_
      cases r <;> simp [lastStored, storedBy, key, pending]
    | notified middle r shape =>
      refine .inl ?_
      rcases shape with ⟨rfl, -⟩ | ⟨rfl, -⟩ <;> simp [lastStored, storedBy, key, pending]
    | saved | enqueued _ => exact .inl ⟨_, by simp [lastStored, storedBy], key, .inl pending⟩
    | enqueueFailed => cases finished

theorem handleTrace_accepted {calls : List (Exchange Bot)} {result : CommandResult}
    (trace : HandleTrace s now input calls (.done (.ok result))) :
    result.accepted = true ∧
      ((∃ c, calls = [⟨.reserveCommand input.idempotencyKey, .ok c⟩] ∧ c.state = .completed) ∨
        ∃ cmd, newCommand input.commandID input.channel input.payload input.idempotencyKey now =
            .ok cmd ∧ ⟨.save cmd, none⟩ ∈ calls ∧
          (s.hasProducer = true → ⟨.enqueue cmd, none⟩ ∈ calls)) := by
  generalize finished : (Proc.done (.ok result) : Proc Bot (Except GoError CommandResult)) = q
    at trace
  cases trace with
  | start => cases finished
  | reserved r =>
    cases r with
    | ok c =>
      simp only [onReserve] at finished
      split_ifs at finished with completed <;> cases finished
      exact ⟨rfl, .inl ⟨c, rfl, completed⟩⟩
    | error err =>
      simp only [onReserve] at finished
      split_ifs at finished
      · cases finished
      · split at finished <;> cases finished
  | fresh _ made tail =>
    cases tail with
    | saveFailed | marked | enqueueFailed => cases finished
    | saved =>
      simp only [dispatch, acknowledge] at finished
      split_ifs at finished with producer
      cases finished
      exact ⟨rfl, .inr ⟨_, made, by simp, fun p => absurd p producer⟩⟩
    | enqueued producer =>
      simp only [acknowledge] at finished
      split_ifs at finished
      cases finished
      exact ⟨rfl, .inr ⟨_, made, by simp, fun _ => by simp⟩⟩
    | notified middle r shape =>
      cases finished
      refine ⟨rfl, .inr ⟨_, made, by simp, fun producer => ?_⟩⟩
      rcases shape with ⟨rfl, -⟩ | ⟨-, absent⟩
      · simp
      · exact absurd producer (by simp [absent])

end BotService

/-! ## The command store -/

/-- A key's slot in the store: reserved with no record yet, or the record last saved. -/
inductive Slot where
  | reserved
  | stored (c : Command)
  deriving DecidableEq

def Slot.ofStored : Option Command → Slot
  | none => .reserved
  | some c => .stored c

abbrev CommandStore := IdempotencyKey → Option Slot

/-- A command store whose `ReserveCommand` is an atomic reserve-or-fetch: `ErrNotFound` only
for a key it has never seen, which it reserves in the same step; for a reserved key a pending
record; for a stored key the record; and a non-`ErrNotFound` error at any time. `Save` stores
its command under its key or fails and changes nothing; the queue and the notifier do not
touch it. -/
inductive AtomicStore : (o : Bot.Op) → CommandStore → Bot.Reply o → CommandStore → Prop where
  | reserve {store : CommandStore} {key : IdempotencyKey} {err : GoError} :
      store key = none → err.is ErrNotFound = true →
      AtomicStore (.reserveCommand key) store (.error err) (Function.update store key (some .reserved))
  | reserveFails {store : CommandStore} {key : IdempotencyKey} {err : GoError} :
      err.is ErrNotFound = false → AtomicStore (.reserveCommand key) store (.error err) store
  | fetchStored {store : CommandStore} {key : IdempotencyKey} {c : Command} :
      store key = some (.stored c) → AtomicStore (.reserveCommand key) store (.ok c) store
  | fetchPending {store : CommandStore} {key : IdempotencyKey} {c : Command} :
      store key = some .reserved → c.state = .pending →
      AtomicStore (.reserveCommand key) store (.ok c) store
  | saved {store : CommandStore} {c : Command} :
      AtomicStore (.save c) store none (Function.update store c.idempotencyKey (some (.stored c)))
  | saveFails {store : CommandStore} {c : Command} {err : GoError} :
      AtomicStore (.save c) store (some err) store
  | enqueue {store : CommandStore} {c : Command} {r : Option GoError} :
      AtomicStore (.enqueue c) store r store
  | notify {store : CommandStore} {playerID : PlayerID} {payload : List (String × String)}
      {r : Option GoError} : AtomicStore (.notify playerID payload) store r store

theorem freshFor_key {k k' : IdempotencyKey} {e : Exchange Bot} (fresh : freshFor k e = true)
    (fresh' : freshFor k' e = true) : k = k' := by
  rcases e with ⟨_ | _ | _ | _, r⟩ <;> try cases r
  all_goals simp_all [freshFor]

theorem storedBy_of_freshFor {k : IdempotencyKey} {e : Exchange Bot}
    (fresh : freshFor k e = true) : storedBy e = none := by
  rcases e with ⟨_ | _ | _ | _, r⟩ <;> simp_all [freshFor, storedBy]

theorem writtenBy_of_storedBy {e : Exchange Bot} {c : Command} (stored : storedBy e = some c) :
    writtenBy e = some c := by
  rcases e with ⟨_ | _ | _ | _, r⟩ <;> try cases r
  all_goals simp_all [storedBy, writtenBy]

section Store

variable {o : BotOp} {w w' : CommandStore} {r : Bot.Reply o}

theorem atomicStore_cases (answer : AtomicStore o w r w') :
    (∃ k, freshFor k ⟨o, r⟩ = true ∧ w k = none ∧
        w' = Function.update w k (some .reserved)) ∨
      (∃ c, storedBy ⟨o, r⟩ = some c ∧
        w' = Function.update w c.idempotencyKey (some (.stored c))) ∨
      ((∀ k, freshFor k ⟨o, r⟩ = false) ∧ storedBy ⟨o, r⟩ = none ∧ w' = w) := by
  cases answer with
  | reserve unseen notFound => exact .inl ⟨_, by simp [freshFor, notFound], unseen, rfl⟩
  | reserveFails notFound => exact .inr (.inr ⟨by simp [freshFor, notFound], rfl, rfl⟩)
  | saved => exact .inr (.inl ⟨_, rfl, rfl⟩)
  | _ => exact .inr (.inr ⟨by simp [freshFor], rfl, rfl⟩)

def freshEntries (k : IdempotencyKey) (log : List (Nat × Exchange Bot)) :
    List (Nat × Exchange Bot) :=
  log.filter fun entry => freshFor k entry.2

/-- What the store guarantees whatever its callers do: each key is reserved fresh at most once,
and never while it has a slot. -/
structure StoreInvariant (world : CommandStore) (log : List (Nat × Exchange Bot)) : Prop where
  atMostOnce : ∀ k, (freshEntries k log).length ≤ 1
  unreserved : ∀ k, world k = none → freshEntries k log = []

theorem StoreInvariant.initial (world : CommandStore) : StoreInvariant world [] :=
  ⟨fun _ => by simp [freshEntries], fun _ _ => by simp [freshEntries]⟩

theorem StoreInvariant.step {log : List (Nat × Exchange Bot)} (inv : StoreInvariant w log)
    (answer : AtomicStore o w r w') (i : Nat) : StoreInvariant w' (log ++ [(i, ⟨o, r⟩)]) := by
  have entries : ∀ k, freshEntries k (log ++ [(i, ⟨o, r⟩)]) =
      freshEntries k log ++ if freshFor k ⟨o, r⟩ then [(i, ⟨o, r⟩)] else [] := by
    simp [freshEntries, List.filter_append, List.filter_singleton]
  rcases atomicStore_cases answer with ⟨k, fresh, unseen, rfl⟩ | ⟨c, stored, rfl⟩ |
    ⟨never, -, rfl⟩
  · refine ⟨fun k' => ?_, fun k' none' => ?_⟩ <;> rw [entries]
    · by_cases same : k' = k
      · subst same; simp [fresh, inv.unreserved _ unseen]
      · have : freshFor k' ⟨o, r⟩ = false := by
          by_contra other; exact same (freshFor_key (by simpa using other) fresh)
        simpa [this] using inv.atMostOnce k'
    · have same : k' ≠ k := by rintro rfl; simp at none'
      have : freshFor k' ⟨o, r⟩ = false := by
        by_contra other; exact same (freshFor_key (by simpa using other) fresh)
      simpa [this] using inv.unreserved k' (by simpa [Function.update_noteq same] using none')
  · have never : ∀ k, freshFor k ⟨o, r⟩ = false := fun k => by
      by_contra other; simp [storedBy_of_freshFor (by simpa using other)] at stored
    refine ⟨fun k => ?_, fun k none' => ?_⟩ <;> rw [entries] <;> simp only [never, if_false,
      List.append_nil, Bool.false_eq_true]
    · exact inv.atMostOnce k
    · have same : k ≠ c.idempotencyKey := by rintro rfl; simp at none'
      exact inv.unreserved k (by simpa [Function.update_noteq same] using none')
  · refine ⟨fun k => ?_, fun k none' => ?_⟩ <;> rw [entries] <;> simp only [never, if_false,
      List.append_nil, Bool.false_eq_true]
    · exact inv.atMostOnce k
    · exact inv.unreserved k none'

end Store

theorem lastStored_snoc (calls : List (Exchange Bot)) (e : Exchange Bot) :
    lastStored (calls ++ [e]) = (storedBy e).or (lastStored calls) := by
  cases stored : storedBy e <;> simp [lastStored, stored]

/-! ## Any number of `Handle` calls against the store -/

/-- The store invariant holds in every state reachable from any calls whatsoever, also with an
environment acting on the store that never empties a slot. -/
theorem reachableWith_storeInvariant {A : Type}
    {env : Interleaving Bot A CommandStore → CommandStore → Prop}
    (keeps : ∀ σ w k, env σ w → w k = none → σ.world k = none) {programs : List (Proc Bot A)}
    {store₀ : CommandStore} {σ : Interleaving Bot A CommandStore}
    (reach : Interleaving.ReachableWith AtomicStore env programs store₀ σ) :
    StoreInvariant σ.world σ.log := by
  induction reach with
  | refl => exact .initial store₀
  | tail _ step inv =>
    cases step with
    | call step => cases step with | call _ answer => exact inv.step answer _
    | env acts => exact ⟨inv.atMostOnce, fun k none' => inv.unreserved k (keeps _ _ k acts none')⟩

theorem reachable_storeInvariant {A : Type} {programs : List (Proc Bot A)} {store₀ : CommandStore}
    {σ : Interleaving Bot A CommandStore}
    (reach : Interleaving.Reachable AtomicStore programs store₀ σ) :
    StoreInvariant σ.world σ.log :=
  reachableWith_storeInvariant (fun _ _ _ never => False.elim never)
    (reach.withEnv fun _ _ => False)

private theorem eq_of_mem_of_length_le_one {α : Type} {l : List α} (short : l.length ≤ 1) {a b : α}
    (first : a ∈ l) (second : b ∈ l) : a = b := by
  rcases l with _ | ⟨x, _ | ⟨y, rest⟩⟩
  · cases first
  · simp_all
  · simp at short

/-- At most one call gets past the reservation of a key. -/
theorem proceeds_unique {A : Type} {σ : Interleaving Bot A CommandStore}
    (inv : StoreInvariant σ.world σ.log) {k : IdempotencyKey} {i j : Nat}
    (first : Proceeds k (σ.trace i)) (second : Proceeds k (σ.trace j)) : i = j := by
  obtain ⟨e, found, fresh⟩ := first
  obtain ⟨e', found', fresh'⟩ := second
  have member : (i, e) ∈ freshEntries k σ.log := List.mem_filter.mpr
    ⟨Interleaving.mem_trace.mp (List.mem_of_mem_head? found), fresh⟩
  have member' : (j, e') ∈ freshEntries k σ.log := List.mem_filter.mpr
    ⟨Interleaving.mem_trace.mp (List.mem_of_mem_head? found'), fresh'⟩
  exact congrArg Prod.fst (eq_of_mem_of_length_le_one (inv.atMostOnce k) member member')

theorem Proceeds.of_prefix {k : IdempotencyKey} {calls calls' : List (Exchange Bot)}
    (proceeds : Proceeds k calls) (longer : calls <+: calls') : Proceeds k calls' := by
  obtain ⟨e, found, fresh⟩ := proceeds
  obtain ⟨rest, rfl⟩ := longer
  exact ⟨e, by simp [found], fresh⟩

namespace BotService

variable (s : BotService)

/-- The `Handle` calls of a run: one per delivered input, with the clock reading it gets. -/
def handleCalls (calls : List (Time × CommandInput)) :
    List (Proc Bot (Except GoError CommandResult)) :=
  calls.map fun call => s.handle call.1 call.2

variable {s} {calls : List (Time × CommandInput)} {store₀ : CommandStore}
  {σ : Interleaving Bot (Except GoError CommandResult) CommandStore}
  {env : Interleaving Bot (Except GoError CommandResult) CommandStore → CommandStore → Prop}

theorem reachableWith_handleTrace
    (reach : Interleaving.ReachableWith AtomicStore env (s.handleCalls calls) store₀ σ) {i : Nat}
    {now : Time} {input : CommandInput} (call : calls[i]? = some (now, input)) :
    ∃ q, σ.threads[i]? = some q ∧ HandleTrace s now input (σ.trace i) q := by
  obtain ⟨q, current, after⟩ :=
    (Interleaving.reachableWith_after reach).2 i (s.handle now input) (by simp [handleCalls, call])
  exact ⟨q, current, handle_trace after⟩

theorem reachable_handleTrace
    (reach : Interleaving.Reachable AtomicStore (s.handleCalls calls) store₀ σ) {i : Nat}
    {now : Time} {input : CommandInput} (call : calls[i]? = some (now, input)) :
    ∃ q, σ.threads[i]? = some q ∧ HandleTrace s now input (σ.trace i) q :=
  reachableWith_handleTrace (reach.withEnv fun _ _ => False) call

theorem reachableWith_call {i : Nat} {e : Exchange Bot}
    (reach : Interleaving.ReachableWith AtomicStore env (s.handleCalls calls) store₀ σ)
    (logged : (i, e) ∈ σ.log) : ∃ now input, calls[i]? = some (now, input) := by
  have bound : i < calls.length := by
    simpa [handleCalls] using Interleaving.reachableWith_log_index reach _ logged
  exact ⟨_, _, List.getElem?_eq_getElem bound⟩

theorem reachable_call {i : Nat} {e : Exchange Bot}
    (reach : Interleaving.Reachable AtomicStore (s.handleCalls calls) store₀ σ)
    (logged : (i, e) ∈ σ.log) : ∃ now input, calls[i]? = some (now, input) :=
  reachableWith_call (reach.withEnv fun _ _ => False) logged

theorem reachableWith_written
    (reach : Interleaving.ReachableWith AtomicStore env (s.handleCalls calls) store₀ σ) {i : Nat}
    {e : Exchange Bot} (logged : (i, e) ∈ σ.log) {c : Command} (writes : writtenBy e = some c) :
    Proceeds c.idempotencyKey (σ.trace i) := by
  obtain ⟨now, input, call⟩ := reachableWith_call reach logged
  obtain ⟨q, -, trace⟩ := reachableWith_handleTrace reach call
  exact (handleTrace_written trace (Interleaving.mem_trace.mpr logged) writes).2

theorem reachable_written
    (reach : Interleaving.Reachable AtomicStore (s.handleCalls calls) store₀ σ) {i : Nat}
    {e : Exchange Bot} (logged : (i, e) ∈ σ.log) {c : Command} (writes : writtenBy e = some c) :
    Proceeds c.idempotencyKey (σ.trace i) :=
  reachableWith_written (reach.withEnv fun _ _ => False) logged writes

/-- Once call `i` holds the reservation of `k`, the store's slot for `k` is what `i`'s last
successful `Save` left there. -/
def HeldBy (σ : Interleaving Bot (Except GoError CommandResult) CommandStore) : Prop :=
  ∀ i k, Proceeds k (σ.trace i) → σ.world k = some (Slot.ofStored (lastStored (σ.trace i)))

theorem heldBy_step {σ' : Interleaving Bot (Except GoError CommandResult) CommandStore}
    (reach : Interleaving.Reachable AtomicStore (s.handleCalls calls) store₀ σ')
    (step : Interleaving.Step AtomicStore σ σ') (held : HeldBy σ) : HeldBy σ' := by
  have unique : ∀ {k i j}, Proceeds k (σ'.trace i) → Proceeds k (σ'.trace j) → i = j :=
    proceeds_unique (reachable_storeInvariant reach)
  cases step with
  | @call j o next r w _ answer =>
  intro i k proceeds
  by_cases same : i = j
  · subst same
    rw [Interleaving.trace_snoc_self] at proceeds ⊢
    rw [lastStored_snoc]
    cases old : σ.trace i with
    | nil =>
      rw [old, List.nil_append, proceeds_cons] at proceeds
      rcases atomicStore_cases answer with ⟨k', fresh, -, rfl⟩ | ⟨c, stored, -⟩ | ⟨never, -, -⟩
      · rw [freshFor_key fresh proceeds, storedBy_of_freshFor proceeds]
        simp [lastStored, Slot.ofStored]
      · simp [storedBy_of_freshFor proceeds] at stored
      · simp [never] at proceeds
    | cons x rest =>
      rw [old, List.cons_append, proceeds_cons] at proceeds
      have slot := held i k (by rw [old, proceeds_cons]; exact proceeds)
      rcases atomicStore_cases answer with ⟨k', fresh, unseen, rfl⟩ | ⟨c, stored, rfl⟩ |
        ⟨-, unstored, rfl⟩
      · have other : k ≠ k' := by rintro rfl; simp [slot] at unseen
        simp [Function.update_noteq other, storedBy_of_freshFor fresh, slot, old]
      · have writer := reachable_written reach (List.mem_append_right _ (List.mem_singleton_self _))
          (writtenBy_of_storedBy stored)
        rw [Interleaving.trace_snoc_self, old, List.cons_append, proceeds_cons] at writer
        rw [freshFor_key proceeds writer, stored]
        simp [Slot.ofStored]
      · simp [unstored, slot, old]
  · rw [Interleaving.trace_snoc_other _ _ same] at proceeds ⊢
    have slot := held i k proceeds
    rcases atomicStore_cases answer with ⟨k', -, unseen, rfl⟩ | ⟨c, stored, rfl⟩ | ⟨-, -, rfl⟩
    · have other : k ≠ k' := by rintro rfl; simp [slot] at unseen
      simp [Function.update_noteq other, slot]
    · have other : k ≠ c.idempotencyKey := by
        rintro rfl
        have writer := reachable_written reach (List.mem_append_right _ (List.mem_singleton_self _))
          (writtenBy_of_storedBy stored)
        exact same (unique (by rwa [Interleaving.trace_snoc_other _ _ same]) writer)
      simp [Function.update_noteq other, slot]
    · exact slot

theorem reachable_heldBy
    (reach : Interleaving.Reachable AtomicStore (s.handleCalls calls) store₀ σ) : HeldBy σ := by
  induction reach with
  | refl => intro i k proceeds; simp [Interleaving.trace] at proceeds
  | tail before step held => exact heldBy_step (before.tail step) step held

theorem reachable_counts
    (reach : Interleaving.Reachable AtomicStore (s.handleCalls calls) store₀ σ) (i : Nat) :
    ((σ.trace i).filter isEnqueue).length ≤ 1 ∧ ((σ.trace i).filter isNewSave).length ≤ 1 := by
  cases made : σ.trace i with
  | nil => simp
  | cons e rest =>
    have logged := Interleaving.mem_trace.mp (made ▸ List.mem_cons_self e rest)
    obtain ⟨now, input, call⟩ := reachable_call reach logged
    obtain ⟨q, -, trace⟩ := reachable_handleTrace reach call
    exact made ▸ handleTrace_counts trace

end BotService

def writesKey (k : IdempotencyKey) (e : Exchange Bot) : Bool :=
  match writtenBy e with
  | some c => c.idempotencyKey = k
  | none => false

def writesOf (k : IdempotencyKey) (p : Exchange Bot → Bool) (log : List (Nat × Exchange Bot)) :
    List (Nat × Exchange Bot) :=
  log.filter fun entry => p entry.2 && writesKey k entry.2

namespace BotService

variable {s : BotService} {calls : List (Time × CommandInput)} {store₀ : CommandStore}
  {σ : Interleaving Bot (Except GoError CommandResult) CommandStore}

theorem writesOf_length_le
    (reach : Interleaving.Reachable AtomicStore (s.handleCalls calls) store₀ σ)
    (k : IdempotencyKey) (p : Exchange Bot → Bool) :
    ∃ i, (writesOf k p σ.log).length ≤ ((σ.trace i).filter p).length := by
  have writer : ∀ entry ∈ σ.log, (p entry.2 && writesKey k entry.2) = true →
      Proceeds k (σ.trace entry.1) := by
    rintro ⟨j, e⟩ logged picked
    cases writes : writtenBy e with
    | none => simp [writesKey, writes] at picked
    | some c =>
      have key : c.idempotencyKey = k := by simp [writesKey, writes] at picked; exact picked.2
      exact key ▸ reachable_written reach logged writes
  by_cases held : ∃ i, Proceeds k (σ.trace i)
  · obtain ⟨i, holder⟩ := held
    refine ⟨i, ?_⟩
    have holderOnly : writesOf k p σ.log =
        (σ.log.filter fun entry => entry.1 = i).filter fun entry => p entry.2 && writesKey k entry.2 := by
      rw [List.filter_filter, writesOf]
      refine List.filter_congr fun entry logged => ?_
      cases picked : (p entry.2 && writesKey k entry.2)
      · rfl
      · simp [proceeds_unique (reachable_storeInvariant reach) (writer entry logged picked) holder]
    calc (writesOf k p σ.log).length
        = ((σ.trace i).filter fun e => p e && writesKey k e).length := by
          rw [holderOnly, Interleaving.trace, List.filter_map, List.length_map]; rfl
      _ ≤ ((σ.trace i).filter p).length := by
          rw [← List.filter_filter]; exact ((List.filter_sublist _).filter p).length_le
  · refine ⟨0, ?_⟩
    have none : writesOf k p σ.log = [] := List.filter_eq_nil_iff.mpr fun entry logged picked =>
      held ⟨entry.1, writer entry logged (by simpa using picked)⟩
    simp [none]

end BotService

/-! ## At most one processing per key -/

/-- What a run of `Handle` calls guarantees for the idempotency key `k`. -/
structure Deduplicated (calls : List (Time × CommandInput))
    (σ : Interleaving Bot (Except GoError CommandResult) CommandStore) (k : IdempotencyKey) :
    Prop where
  /-- At most one call gets past the reservation of `k`. -/
  single : ∀ i j, Proceeds k (σ.trace i) → Proceeds k (σ.trace j) → i = j
  /-- Every `Save` and `Enqueue` of a command with key `k` is made by that call. -/
  writers : ∀ i e c, (i, e) ∈ σ.log → writtenBy e = some c → c.idempotencyKey = k →
    Proceeds k (σ.trace i)
  /-- A new record with key `k` is saved at most once, and enqueued at most once. -/
  once : (writesOf k isNewSave σ.log).length ≤ 1 ∧ (writesOf k isEnqueue σ.log).length ≤ 1
  /-- Every other call with key `k` makes only its `ReserveCommand`; once finished it has
  returned `Accepted` for a completed record, `ErrDuplicate` for another record, or the
  store's error. -/
  others : ∀ i now input, calls[i]? = some (now, input) → input.idempotencyKey = k →
    ¬ Proceeds k (σ.trace i) →
      (σ.trace i).length ≤ 1 ∧ ∀ result, σ.threads[i]? = some (.done result) →
        ∃ r, σ.trace i = [⟨.reserveCommand k, r⟩] ∧
          ((∃ c, r = .ok c ∧
              result = if c.state = .completed then .ok ⟨true⟩ else .error ErrDuplicate) ∨
            (∃ err, r = .error err ∧ err.is ErrNotFound = false ∧ result = .error err))

theorem handle_at_most_once (s : BotService) (calls : List (Time × CommandInput))
    (store₀ : CommandStore) (σ : Interleaving Bot (Except GoError CommandResult) CommandStore)
    (reach : Interleaving.Reachable AtomicStore (s.handleCalls calls) store₀ σ)
    (k : IdempotencyKey) : Deduplicated calls σ k := by
  have once : ∀ p : Exchange Bot → Bool, (∀ i, ((σ.trace i).filter p).length ≤ 1) →
      (writesOf k p σ.log).length ≤ 1 := fun p each => by
    obtain ⟨i, bound⟩ := BotService.writesOf_length_le reach k p
    exact bound.trans (each i)
  refine ⟨fun i j => proceeds_unique (reachable_storeInvariant reach), ?_, ?_, ?_⟩
  · rintro i e c logged writes rfl
    exact BotService.reachable_written reach logged writes
  · exact ⟨once _ fun i => (BotService.reachable_counts reach i).2,
      once _ fun i => (BotService.reachable_counts reach i).1⟩
  · rintro i now input call rfl stopped
    obtain ⟨q, current, trace⟩ := BotService.reachable_handleTrace reach call
    obtain ⟨short, finished⟩ := BotService.handleTrace_not_proceeds trace stopped
    refine ⟨short, fun result done => finished result ?_⟩
    rw [current, Option.some.injEq] at done
    exact done

/-! ## A redelivery after a blank command id -/

def blankThenValid : List (Time × CommandInput) :=
  [(⟨1⟩, ⟨"", "chat", "p1", [], "k"⟩), (⟨2⟩, ⟨"c1", "chat", "p1", [], "k"⟩)]

def pendingRecord : Command :=
  { id := "", channel := "", payload := [], idempotencyKey := "k", state := .pending,
    attemptedAt := ⟨0⟩, completedAt := ⟨0⟩, retryCount := 0, lastError := "", createdAt := ⟨0⟩ }

def blankThenValidEnd : Interleaving Bot (Except GoError CommandResult) CommandStore where
  threads := [.done (.error (.new "bot command id is required")), .done (.error ErrDuplicate)]
  world := Function.update (fun _ => none) "k" (some .reserved)
  log := [(0, ⟨.reserveCommand "k", .error ErrNotFound⟩),
    (1, ⟨.reserveCommand "k", .ok pendingRecord⟩)]

theorem blankThenValid_reachable :
    Interleaving.Reachable AtomicStore ((⟨true, true⟩ : BotService).handleCalls blankThenValid)
      (fun _ => none) blankThenValidEnd :=
  .head (.call (i := 0) rfl (@AtomicStore.reserve _ "k" ErrNotFound rfl rfl))
    (.head (.call (i := 1) rfl (@AtomicStore.fetchPending _ "k" pendingRecord rfl rfl)) .refl)

theorem handle_at_most_once_redelivery :
    Interleaving.Reachable AtomicStore ((⟨true, true⟩ : BotService).handleCalls blankThenValid)
      (fun _ => none) blankThenValidEnd ∧ Deduplicated blankThenValid blankThenValidEnd "k" :=
  ⟨blankThenValid_reachable,
    handle_at_most_once ⟨true, true⟩ blankThenValid _ _ blankThenValid_reachable "k"⟩

def retriedAfterFailedSave : List (Time × CommandInput) :=
  [(⟨1⟩, ⟨"c1", "chat", "p1", [], "k"⟩), (⟨2⟩, ⟨"c1", "chat", "p1", [], "k"⟩)]

/-- A fresh reservation that `Handle` leaves with no record, in two ways: a blank command id,
which `NewCommand` rejects after the reservation, and a first `Save` that fails. In both runs
every call has returned, the key stays reserved with no command stored, and the later valid
delivery of the key is told it is a duplicate. -/
theorem handle_strands_reserved_key :
    (∃ σ, Interleaving.Reachable AtomicStore
        ((⟨true, true⟩ : BotService).handleCalls blankThenValid) (fun _ => none) σ ∧
      Proceeds "k" (σ.trace 0) ∧
      σ.threads = [.done (.error (.new "bot command id is required")), .done (.error ErrDuplicate)] ∧
      σ.world "k" = some .reserved) ∧
    ∃ σ, Interleaving.Reachable AtomicStore
        ((⟨true, true⟩ : BotService).handleCalls retriedAfterFailedSave) (fun _ => none) σ ∧
      Proceeds "k" (σ.trace 0) ∧
      σ.threads = [.done (.error contextCanceled), .done (.error ErrDuplicate)] ∧
      σ.world "k" = some .reserved :=
  ⟨⟨blankThenValidEnd, blankThenValid_reachable, ⟨_, rfl, rfl⟩, rfl, rfl⟩,
    _, .head (.call (i := 0) rfl (@AtomicStore.reserve _ "k" ErrNotFound rfl rfl))
      (.head (.call (i := 0) rfl (@AtomicStore.saveFails _ _ contextCanceled))
        (.head (.call (i := 1) rfl (@AtomicStore.fetchPending _ "k" pendingRecord rfl rfl)) .refl)),
    ⟨_, rfl, rfl⟩, rfl, rfl⟩

/-- A call that reserved its key fresh and returned has left its command in the store, pending
or failed, or it returned the error of `NewCommand` or of its first `Save` and left the key
reserved with no record. Nothing releases the reservation: from then on the key keeps its slot
and no other call gets past its reservation. -/
theorem handle_reservation_outcome (s : BotService) (calls : List (Time × CommandInput))
    (store₀ : CommandStore) (σ : Interleaving Bot (Except GoError CommandResult) CommandStore)
    (reach : Interleaving.Reachable AtomicStore (s.handleCalls calls) store₀ σ) {i : Nat}
    {now : Time} {input : CommandInput} (call : calls[i]? = some (now, input))
    (fresh : Proceeds input.idempotencyKey (σ.trace i)) {result : Except GoError CommandResult}
    (finished : σ.threads[i]? = some (.done result)) :
    ((∃ c, σ.world input.idempotencyKey = some (.stored c) ∧
        c.idempotencyKey = input.idempotencyKey ∧ (c.state = .pending ∨ c.state = .failed)) ∨
      (σ.world input.idempotencyKey = some .reserved ∧ ∃ err, result = .error err ∧
        (newCommand input.commandID input.channel input.payload input.idempotencyKey now =
            .error err ∨
          ∃ cmd, newCommand input.commandID input.channel input.payload input.idempotencyKey
            now = .ok cmd ∧ ⟨.save cmd, some err⟩ ∈ σ.trace i))) ∧
    ∀ σ', Relation.ReflTransGen (Interleaving.Step AtomicStore) σ σ' →
      σ'.world input.idempotencyKey ≠ none ∧
        ∀ j, Proceeds input.idempotencyKey (σ'.trace j) → j = i := by
  obtain ⟨q, current, trace⟩ := BotService.reachable_handleTrace reach call
  rw [finished, Option.some.injEq] at current
  subst current
  have slot := BotService.reachable_heldBy reach i _ fresh
  refine ⟨?_, fun σ' later => ?_⟩
  · rcases BotService.handleTrace_finished trace fresh with ⟨c, stored, key, state⟩ |
      ⟨nothing, err, rfl, cause⟩
    · exact .inl ⟨c, by rw [slot, stored]; rfl, key, state⟩
    · exact .inr ⟨by rw [slot, nothing]; rfl, err, rfl, cause⟩
  · have reach' := Relation.ReflTransGen.trans reach later
    have fresh' := fresh.of_prefix (Interleaving.trace_prefix_of_reflTransGen later i)
    refine ⟨by simp [BotService.reachable_heldBy reach' i _ fresh'], fun j other => ?_⟩
    exact proceeds_unique (reachable_storeInvariant reach') other fresh'

theorem handle_reservation_outcome_blank :
    ((∃ c, blankThenValidEnd.world "k" = some (.stored c) ∧ c.idempotencyKey = "k" ∧
        (c.state = .pending ∨ c.state = .failed)) ∨
      (blankThenValidEnd.world "k" = some .reserved ∧
        ∃ err, (.error (.new "bot command id is required") : Except GoError CommandResult) =
          .error err ∧
        (newCommand "" "chat" [] "k" ⟨1⟩ = .error err ∨
          ∃ cmd, newCommand "" "chat" [] "k" ⟨1⟩ = .ok cmd ∧
            ⟨.save cmd, some err⟩ ∈ blankThenValidEnd.trace 0))) ∧
    ∀ σ', Relation.ReflTransGen (Interleaving.Step AtomicStore) blankThenValidEnd σ' →
      σ'.world "k" ≠ none ∧ ∀ j, Proceeds "k" (σ'.trace j) → j = 0 :=
  handle_reservation_outcome ⟨true, true⟩ blankThenValid _ _ blankThenValid_reachable
    (i := 0) rfl ⟨_, rfl, rfl⟩ rfl

end Sandai
