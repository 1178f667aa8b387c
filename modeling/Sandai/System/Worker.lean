import Sandai.System.Intake

/-! The worker beside the intake: between the `Handle` calls' collaborator calls it runs
`MarkAttempt` on a stored command and saves it back.

`MarkAttempt` has no guard on the state it starts from, so a worker that marks a completed
record again with an error moves it to `failed`. A worker that only marks records the queue has
received and that are not yet completed leaves every completed record in place: the one call
that could still write it has handed it to the queue and saves nothing more.
-/

set_option autoImplicit false

namespace Sandai

/-- `p` makes no `Save`, whatever the replies. -/
def SavesNothing {A : Type} : Proc Bot A → Prop
  | .done _ => True
  | .call o next => (∀ c, o ≠ .save c) ∧ ∀ r, SavesNothing (next r)

namespace BotService

variable {s : BotService} {now : Time} {input : CommandInput}

theorem acknowledge_savesNothing : SavesNothing (s.acknowledge input) := by
  unfold acknowledge
  split
  · exact ⟨fun _ => by simp, fun _ => trivial⟩
  · trivial

theorem freshTrace_written_state {cmd : Command} {tail : List (Exchange Bot)}
    {q : Proc Bot (Except GoError CommandResult)} (trace : FreshTrace s now input cmd tail q)
    (pending : cmd.state = .pending) {e : Exchange Bot} (member : e ∈ tail) {c : Command}
    (writes : writtenBy e = some c) : c.state ≠ .completed := by
  cases trace with
  | notified middle r shape =>
    rcases shape with ⟨rfl, -⟩ | ⟨rfl, -⟩ <;> simp only [List.cons_append, List.nil_append,
      List.mem_cons, List.mem_singleton, List.not_mem_nil, or_false] at member <;>
      rcases member with rfl | rfl | rfl <;> cases writes <;> simp [pending]
  | _ =>
    simp only [List.mem_cons, List.mem_singleton, List.not_mem_nil, or_false] at member
    rcases member with rfl | rfl | rfl <;> cases writes <;> simp [pending]

theorem handleTrace_written_state {calls : List (Exchange Bot)}
    {q : Proc Bot (Except GoError CommandResult)} (trace : HandleTrace s now input calls q)
    {e : Exchange Bot} (member : e ∈ calls) {c : Command} (writes : writtenBy e = some c) :
    c.state ≠ .completed := by
  cases trace with
  | start => cases member
  | reserved r => rw [List.mem_singleton] at member; subst member; cases writes
  | fresh _ made tail =>
    rcases List.mem_cons.mp member with rfl | later
    · cases writes
    · exact freshTrace_written_state tail (newCommand_ok made).2 later writes

theorem handleTrace_enqueued {calls : List (Exchange Bot)}
    {q : Proc Bot (Except GoError CommandResult)} (trace : HandleTrace s now input calls q)
    {c : Command} (member : ⟨.enqueue c, none⟩ ∈ calls) : SavesNothing q := by
  cases trace with
  | start => cases member
  | reserved r => rw [List.mem_singleton] at member; cases member
  | fresh _ _ tail =>
    cases tail with
    | enqueued => exact acknowledge_savesNothing
    | notified => trivial
    | _ =>
      simp only [List.mem_cons, List.mem_singleton, List.not_mem_nil, or_false] at member
      rcases member with h | h | h | h <;> cases h

end BotService

/-! ## The worker -/

/-- The store after the worker's `MarkAttempt` on the record `c` it read for `k`, saved back. -/
def markStored (store : CommandStore) (k : IdempotencyKey) (c : Command) (now : Time)
    (err : Option GoError) : CommandStore :=
  Function.update store k (some (.stored (c.markAttempt now err)))

/-- The worker as a run may interleave it: `MarkAttempt` on any stored record, with the outcome
of its processing. -/
inductive Worker (σ : Interleaving Bot (Except GoError CommandResult) CommandStore) :
    CommandStore → Prop where
  | markAttempt {k : IdempotencyKey} {c : Command} (now : Time) (err : Option GoError) :
      σ.world k = some (.stored c) → Worker σ (markStored σ.world k c now err)

/-- Some call has handed a command with key `k` to the queue. -/
def Enqueued (σ : Interleaving Bot (Except GoError CommandResult) CommandStore)
    (k : IdempotencyKey) : Prop :=
  ∃ i c, (i, ⟨.enqueue c, none⟩) ∈ σ.log ∧ c.idempotencyKey = k

/-- The worker running off the queue: it marks only a record whose command the queue has
received, and never a completed one. -/
inductive QueueWorker (σ : Interleaving Bot (Except GoError CommandResult) CommandStore) :
    CommandStore → Prop where
  | markAttempt {k : IdempotencyKey} {c : Command} (now : Time) (err : Option GoError) :
      σ.world k = some (.stored c) → c.state ≠ .completed → Enqueued σ k →
      QueueWorker σ (markStored σ.world k c now err)

theorem QueueWorker.worker {σ : Interleaving Bot (Except GoError CommandResult) CommandStore}
    {w : CommandStore} (acts : QueueWorker σ w) : Worker σ w := by
  cases acts with | markAttempt now err found _ _ => exact .markAttempt now err found

theorem markStored_none {store : CommandStore} {k k' : IdempotencyKey} {c : Command} {now : Time}
    {err : Option GoError} (empty : markStored store k c now err k' = none) : store k' = none := by
  by_cases same : k' = k
  · subst same; simp [markStored] at empty
  · simpa [markStored, Function.update_noteq same] using empty

theorem QueueWorker.keeps {σ : Interleaving Bot (Except GoError CommandResult) CommandStore}
    {w : CommandStore} (acts : QueueWorker σ w) (k : IdempotencyKey) (empty : w k = none) :
    σ.world k = none := by
  cases acts with | markAttempt _ _ _ _ _ => exact markStored_none empty

theorem Proceeds.of_snoc {k : IdempotencyKey} {calls : List (Exchange Bot)} {e : Exchange Bot}
    (proceeds : Proceeds k (calls ++ [e])) (notFresh : freshFor k e = false) :
    Proceeds k calls := by
  cases calls with
  | nil => rw [List.nil_append, proceeds_cons, notFresh] at proceeds; cases proceeds
  | cons x rest =>
    rw [List.cons_append, proceeds_cons] at proceeds; exact proceeds_cons.mpr proceeds

theorem storedBy_save {e : Exchange Bot} {c : Command} (stored : storedBy e = some c) :
    e.1 = .save c := by
  rcases e with ⟨_ | _ | _ | _, r⟩ <;> try cases r
  all_goals simp_all [storedBy]

/-! ## Completed records stay -/

section Settled

variable {s : BotService} {calls : List (Time × CommandInput)} {store₀ : CommandStore}
  {σ σ' : Interleaving Bot (Except GoError CommandResult) CommandStore}

/-- Every completed record is held, if at all, by a call that saves nothing more. -/
def CompletedSettled (σ : Interleaving Bot (Except GoError CommandResult) CommandStore) : Prop :=
  ∀ k c, σ.world k = some (.stored c) → c.state = .completed →
    ∀ i, Proceeds k (σ.trace i) → ∃ q, σ.threads[i]? = some q ∧ SavesNothing q

theorem savesNothing_step {i j : Nat} {o : BotOp}
    {next : Bot.Reply o → Proc Bot (Except GoError CommandResult)} {r : Bot.Reply o}
    {w : CommandStore} {k : IdempotencyKey} (found : σ.threads[j]? = some (.call o next))
    (notFresh : freshFor k ⟨o, r⟩ = false)
    (held : Proceeds k (σ.trace i) → ∃ q, σ.threads[i]? = some q ∧ SavesNothing q)
    (proceeds : Proceeds k ((⟨σ.threads.set j (next r), w, σ.log ++ [(j, ⟨o, r⟩)]⟩ :
      Interleaving Bot (Except GoError CommandResult) CommandStore).trace i)) :
    ∃ q, (σ.threads.set j (next r))[i]? = some q ∧ SavesNothing q := by
  by_cases same : i = j
  · subst same
    rw [Interleaving.trace_snoc_self] at proceeds
    obtain ⟨q, current, nothing⟩ := held (proceeds.of_snoc notFresh)
    rw [found, Option.some.injEq] at current
    subst current
    exact ⟨next r, by simp [List.getElem?_set, (List.getElem?_eq_some_iff.mp found).1], nothing.2 r⟩
  · rw [Interleaving.trace_snoc_other _ _ same] at proceeds
    obtain ⟨q, current, nothing⟩ := held proceeds
    exact ⟨q, by simpa [List.getElem?_set, Ne.symm same] using current, nothing⟩

theorem reachableWith_written_state
    {env : Interleaving Bot (Except GoError CommandResult) CommandStore → CommandStore → Prop}
    (reach : Interleaving.ReachableWith AtomicStore env (s.handleCalls calls) store₀ σ) {i : Nat}
    {e : Exchange Bot} (logged : (i, e) ∈ σ.log) {c : Command} (writes : writtenBy e = some c) :
    c.state ≠ .completed := by
  obtain ⟨now, input, call⟩ := BotService.reachableWith_call reach logged
  obtain ⟨q, -, trace⟩ := BotService.reachableWith_handleTrace reach call
  exact BotService.handleTrace_written_state trace (Interleaving.mem_trace.mpr logged) writes

theorem CompletedSettled.call
    {env : Interleaving Bot (Except GoError CommandResult) CommandStore → CommandStore → Prop}
    (reach : Interleaving.ReachableWith AtomicStore env (s.handleCalls calls) store₀ σ')
    (step : Interleaving.Step AtomicStore σ σ') (settled : CompletedSettled σ) :
    CompletedSettled σ' := by
  cases step with
  | @call j o next r w found answer =>
  intro k c stored completed i proceeds
  have before : σ.world k = some (.stored c) ∧ freshFor k ⟨o, r⟩ = false := by
    rcases atomicStore_cases answer with ⟨k', fresh, -, rfl⟩ | ⟨c', saved, rfl⟩ | ⟨never, -, rfl⟩
    · have other : k ≠ k' := by rintro rfl; simp at stored
      exact ⟨by simpa [Function.update_noteq other] using stored,
        by by_contra yes; exact other (freshFor_key (by simpa using yes) fresh)⟩
    · have other : k ≠ c'.idempotencyKey := by
        rintro rfl
        simp only [Function.update_same, Option.some.injEq, Slot.stored.injEq] at stored
        subst stored
        exact reachableWith_written_state reach
          (List.mem_append_right _ (List.mem_singleton_self _)) (writtenBy_of_storedBy saved)
          completed
      exact ⟨by simpa [Function.update_noteq other] using stored,
        by by_contra yes; simp [storedBy_of_freshFor (by simpa using yes)] at saved⟩
    · exact ⟨stored, never k⟩
  exact savesNothing_step found before.2 (settled k c before.1 completed i) proceeds

theorem CompletedSettled.worker
    (reach : Interleaving.ReachableWith AtomicStore QueueWorker (s.handleCalls calls) store₀ σ)
    (settled : CompletedSettled σ) {w : CommandStore} (acts : QueueWorker σ w) :
    CompletedSettled ⟨σ.threads, w, σ.log⟩ := by
  cases acts with
  | @markAttempt k₀ c₀ now err found notDone queued =>
  intro k c stored completed i proceeds
  by_cases same : k = k₀
  · subst same
    obtain ⟨j, queuedCmd, logged, key⟩ := queued
    have holder := BotService.reachableWith_written reach logged rfl
    rw [key] at holder
    obtain rfl := proceeds_unique
      (reachableWith_storeInvariant (fun _ _ k acts => acts.keeps k) reach) proceeds holder
    obtain ⟨now', input', call⟩ := BotService.reachableWith_call reach logged
    obtain ⟨q, current, trace⟩ := BotService.reachableWith_handleTrace reach call
    exact ⟨q, current, BotService.handleTrace_enqueued trace (Interleaving.mem_trace.mpr logged)⟩
  · exact settled k c (by simpa [markStored, Function.update_noteq same] using stored) completed i
      proceeds

theorem reachableWith_completedSettled
    (reach : Interleaving.ReachableWith AtomicStore QueueWorker (s.handleCalls calls) store₀ σ) :
    CompletedSettled σ := by
  induction reach with
  | refl => intro k c _ _ i proceeds; simp [Interleaving.trace] at proceeds
  | tail before step settled =>
    cases step with
    | call step => exact settled.call (before.tail (.call step)) step
    | env acts => exact settled.worker before acts

theorem completed_stays_step
    (reach : Interleaving.ReachableWith AtomicStore QueueWorker (s.handleCalls calls) store₀ σ)
    {k : IdempotencyKey} {c : Command} (stored : σ.world k = some (.stored c))
    (completed : c.state = .completed) (step : Interleaving.StepWith AtomicStore QueueWorker σ σ') :
    σ'.world k = some (.stored c) := by
  cases step with
  | env acts =>
    cases acts with
    | @markAttempt k₀ c₀ now err found notDone _ =>
      have other : k ≠ k₀ := by
        rintro rfl; rw [stored] at found; cases found; exact notDone completed
      simpa [markStored, Function.update_noteq other] using stored
  | call step =>
    cases step with
    | @call j o next r w found answer =>
      rcases atomicStore_cases answer with ⟨k', -, unseen, rfl⟩ | ⟨c', saved, rfl⟩ | ⟨-, -, rfl⟩
      · have other : k ≠ k' := by rintro rfl; rw [stored] at unseen; cases unseen
        simpa [Function.update_noteq other] using stored
      · have other : k ≠ c'.idempotencyKey := by
          rintro rfl
          have writer := BotService.reachableWith_written (reach.tail (.call (.call found answer)))
            (List.mem_append_right _ (List.mem_singleton_self _)) (writtenBy_of_storedBy saved)
          rw [Interleaving.trace_snoc_self] at writer
          obtain ⟨q, current, nothing⟩ :=
            reachableWith_completedSettled reach _ c stored completed j (writer.of_snoc (by
              by_contra yes; simp [storedBy_of_freshFor (by simpa using yes)] at saved))
          rw [found, Option.some.injEq] at current
          subst current
          exact nothing.1 c' (storedBy_save saved)
        simpa [Function.update_noteq other] using stored
      · exact stored

/-- What a call that has not started while `k` holds the completed record `c` can have done:
nothing, or its `ReserveCommand`, answered with `c` or with a store error. -/
def ReservedOnly (k : IdempotencyKey) (c : Command) (calls : List (Exchange Bot)) : Prop :=
  calls = [] ∨ ∃ r, calls = [⟨.reserveCommand k, r⟩] ∧
    (r = .ok c ∨ ∃ err, r = .error err ∧ err.is ErrNotFound = false)

theorem reservedOnly_step
    (reach : Interleaving.ReachableWith AtomicStore QueueWorker (s.handleCalls calls) store₀ σ)
    {k : IdempotencyKey} {c : Command} (stored : σ.world k = some (.stored c)) {i : Nat}
    {now : Time} {input : CommandInput} (call : calls[i]? = some (now, input))
    (key : input.idempotencyKey = k) (before : ReservedOnly k c (σ.trace i))
    (step : Interleaving.StepWith AtomicStore QueueWorker σ σ') :
    ReservedOnly k c (σ'.trace i) := by
  cases step with
  | env => exact before
  | call step =>
    cases step with
    | @call j o next r w found answer =>
      by_cases same : i = j
      · subst same
        obtain ⟨q, current, trace⟩ := BotService.reachableWith_handleTrace reach call
        rw [found, Option.some.injEq] at current
        rw [Interleaving.trace_snoc_self]
        rcases before with empty | ⟨r₀, reserved, answered⟩
        · rw [empty] at trace ⊢
          subst current
          cases trace
          subst key
          refine .inr ⟨r, rfl, ?_⟩
          cases answer with
          | reserve unseen => rw [stored] at unseen; cases unseen
          | reserveFails notFound => exact .inr ⟨_, rfl, notFound⟩
          | fetchStored found' => rw [stored] at found'; cases found'; exact .inl rfl
          | fetchPending reservedSlot => rw [stored] at reservedSlot; cases reservedSlot
        · rw [reserved] at trace
          cases trace with
          | reserved =>
            rcases answered with rfl | ⟨err, rfl, notFound⟩
            · cases current
            · simp [BotService.onReserve, notFound] at current
          | fresh notFound _ tail => cases tail
      · rw [Interleaving.trace_snoc_other _ _ same]; exact before

theorem completed_run
    (reach : Interleaving.ReachableWith AtomicStore QueueWorker (s.handleCalls calls) store₀ σ)
    {k : IdempotencyKey} {c : Command} (stored : σ.world k = some (.stored c))
    (completed : c.state = .completed)
    (later : Relation.ReflTransGen (Interleaving.StepWith AtomicStore QueueWorker) σ σ') :
    σ'.world k = some (.stored c) ∧
      ∀ i now input, calls[i]? = some (now, input) → input.idempotencyKey = k →
        ReservedOnly k c (σ.trace i) → ReservedOnly k c (σ'.trace i) := by
  induction later with
  | refl => exact ⟨stored, fun _ _ _ _ _ => id⟩
  | tail steps step ih =>
    obtain ⟨stored', only⟩ := ih
    have reach' := reach.trans steps
    exact ⟨completed_stays_step reach' stored' completed step, fun i now input call key before =>
      reservedOnly_step reach' stored' call key (only i now input call key before) step⟩

end Settled

/-- With the worker running off the queue, a completed record for `k` stays as it is in every
later state, and every call with key `k` that had not started makes only its `ReserveCommand`
and, once finished, has returned `Accepted` or the store's error. -/
theorem completed_record_final (s : BotService) (calls : List (Time × CommandInput))
    (store₀ : CommandStore) {σ σ' : Interleaving Bot (Except GoError CommandResult) CommandStore}
    (reach : Interleaving.ReachableWith AtomicStore QueueWorker (s.handleCalls calls) store₀ σ)
    {k : IdempotencyKey} {c : Command} (stored : σ.world k = some (.stored c))
    (completed : c.state = .completed)
    (later : Relation.ReflTransGen (Interleaving.StepWith AtomicStore QueueWorker) σ σ') :
    σ'.world k = some (.stored c) ∧
      ∀ i now input, calls[i]? = some (now, input) → input.idempotencyKey = k → σ.trace i = [] →
        (∀ e ∈ σ'.trace i, e.1 = .reserveCommand k) ∧ (σ'.trace i).length ≤ 1 ∧
        ∀ result, σ'.threads[i]? = some (.done result) →
          result = .ok ⟨true⟩ ∨ ∃ err, result = .error err ∧ err.is ErrNotFound = false := by
  obtain ⟨stays, only⟩ := completed_run reach stored completed later
  refine ⟨stays, fun i now input call key unstarted => ?_⟩
  have shape := only i now input call key (.inl unstarted)
  subst key
  have stopped : ¬ Proceeds input.idempotencyKey (σ'.trace i) := by
    rcases shape with empty | ⟨r, reserved, answered⟩
    · simp [empty]
    · rw [reserved, proceeds_cons]
      rcases answered with rfl | ⟨err, rfl, notFound⟩ <;> simp [freshFor, *]
  obtain ⟨q, current, trace⟩ := BotService.reachableWith_handleTrace (reach.trans later) call
  obtain ⟨short, finished⟩ := BotService.handleTrace_not_proceeds trace stopped
  refine ⟨?_, short, fun result done => ?_⟩
  · rcases shape with empty | ⟨r, reserved, -⟩ <;> simp [*]
  · rw [current, Option.some.injEq] at done
    obtain ⟨r, reserved, outcome⟩ := finished result done
    rcases shape with empty | ⟨r', reserved', answered⟩
    · rw [empty] at reserved; cases reserved
    · rw [reserved'] at reserved
      cases reserved
      rcases outcome with ⟨c', rfl, rfl⟩ | ⟨err, rfl, notFound, rfl⟩
      · rcases answered with answered | ⟨err, answered, -⟩ <;> cases answered
        exact .inl (by simp [completed])
      · exact .inr ⟨err, rfl, notFound⟩

/-! ## A completed command marked again -/

def deliveredTwice : List (Time × CommandInput) :=
  [(⟨1⟩, ⟨"c1", "chat", "p1", [], "k"⟩), (⟨5⟩, ⟨"c1", "chat", "p1", [], "k"⟩)]

def deliveredCommand : Command :=
  { id := "c1", channel := "chat", payload := [], idempotencyKey := "k", state := .pending,
    attemptedAt := ⟨0⟩, completedAt := ⟨0⟩, retryCount := 0, lastError := "", createdAt := ⟨1⟩ }

def completedState : Interleaving Bot (Except GoError CommandResult) CommandStore where
  threads := [.done (.ok ⟨true⟩),
    (⟨true, false⟩ : BotService).handle ⟨5⟩ ⟨"c1", "chat", "p1", [], "k"⟩]
  world := markStored (Function.update (Function.update (fun _ => none) "k" (some .reserved)) "k"
      (some (.stored deliveredCommand))) "k" deliveredCommand ⟨2⟩ none
  log := [(0, ⟨.reserveCommand "k", .error ErrNotFound⟩), (0, ⟨.save deliveredCommand, none⟩),
    (0, ⟨.enqueue deliveredCommand, none⟩)]

theorem completedState_reachable :
    Interleaving.ReachableWith AtomicStore QueueWorker
      ((⟨true, false⟩ : BotService).handleCalls deliveredTwice) (fun _ => none) completedState :=
  .tail (.tail (.tail (.tail .refl
    (.call (.call (i := 0) rfl (@AtomicStore.reserve _ "k" ErrNotFound rfl rfl))))
    (.call (.call (i := 0) rfl .saved)))
    (.call (.call (i := 0) rfl (@AtomicStore.enqueue _ _ none))))
    (.env (@QueueWorker.markAttempt _ "k" _ ⟨2⟩ none rfl (by decide)
      ⟨0, _, List.mem_append_right _ (List.mem_singleton_self _), rfl⟩))

theorem redelivery_reserves :
    Interleaving.Step AtomicStore completedState
      ⟨completedState.threads.set 1 (.done (.ok ⟨true⟩)), completedState.world,
        completedState.log ++
          [(1, ⟨.reserveCommand "k", .ok (deliveredCommand.markAttempt ⟨2⟩ none)⟩)]⟩ :=
  @Interleaving.Step.call _ _ _ _ completedState 1 _ _ _ _ rfl
    (@AtomicStore.fetchStored _ "k" _ rfl)

theorem completed_record_final_redelivery :
    ∃ σ', Interleaving.ReachableWith AtomicStore QueueWorker
        ((⟨true, false⟩ : BotService).handleCalls deliveredTwice) (fun _ => none) completedState ∧
      completedState.world "k" = some (.stored (deliveredCommand.markAttempt ⟨2⟩ none)) ∧
      (deliveredCommand.markAttempt ⟨2⟩ none).state = .completed ∧
      Relation.ReflTransGen (Interleaving.StepWith AtomicStore QueueWorker) completedState σ' ∧
      σ'.world "k" = some (.stored (deliveredCommand.markAttempt ⟨2⟩ none)) ∧
      ∀ i now input, deliveredTwice[i]? = some (now, input) → input.idempotencyKey = "k" →
        completedState.trace i = [] →
        (∀ e ∈ σ'.trace i, e.1 = .reserveCommand "k") ∧ (σ'.trace i).length ≤ 1 ∧
        ∀ result, σ'.threads[i]? = some (.done result) →
          result = .ok ⟨true⟩ ∨ ∃ err, result = .error err ∧ err.is ErrNotFound = false :=
  ⟨_, completedState_reachable, rfl, rfl, .single (.call redelivery_reserves),
    completed_record_final _ _ _ completedState_reachable rfl rfl
      (.single (.call redelivery_reserves))⟩

/-- The worker marks the completed command again with an error; or it completes the command
before the queue has received it, and the call whose `Enqueue` then fails saves the command as
failed over it. Either way the record leaves `completed`, and the redelivery is told it is a
duplicate. -/
theorem completed_record_marked_failed :
    (deliveredCommand.markAttempt ⟨2⟩ none).state = .completed ∧
    (∃ σ', Interleaving.ReachableWith AtomicStore Worker
        ((⟨true, false⟩ : BotService).handleCalls deliveredTwice) (fun _ => none) completedState ∧
      completedState.world "k" = some (.stored (deliveredCommand.markAttempt ⟨2⟩ none)) ∧
      completedState.trace 1 = [] ∧
      Relation.ReflTransGen (Interleaving.StepWith AtomicStore Worker) completedState σ' ∧
      (∃ c, σ'.world "k" = some (.stored c) ∧ c.state = .failed) ∧
      σ'.threads[1]? = some (.done (.error ErrDuplicate))) ∧
    ∃ σ σ', Interleaving.ReachableWith AtomicStore Worker
        ((⟨true, false⟩ : BotService).handleCalls deliveredTwice) (fun _ => none) σ ∧
      σ.world "k" = some (.stored (deliveredCommand.markAttempt ⟨2⟩ none)) ∧ σ.trace 1 = [] ∧
      Relation.ReflTransGen (Interleaving.StepWith AtomicStore Worker) σ σ' ∧
      (∃ c, σ'.world "k" = some (.stored c) ∧ c.state = .failed) ∧
      σ'.threads[1]? = some (.done (.error ErrDuplicate)) :=
  ⟨rfl,
    ⟨_, completedState_reachable.mono fun _ _ step => step.mono fun _ _ acts => acts.worker,
      rfl, rfl,
      .head (.env (@Worker.markAttempt _ "k" _ ⟨3⟩ (some (.new "timeout")) rfl))
        (.single (.call (@Interleaving.Step.call _ _ _ _ _ 1 _ _ _ _ rfl
          (@AtomicStore.fetchStored _ "k" _ rfl)))),
      ⟨_, rfl, rfl⟩, rfl⟩,
    ⟨_, _,
      .tail (.tail (.tail .refl
        (.call (.call (i := 0) rfl (@AtomicStore.reserve _ "k" ErrNotFound rfl rfl))))
        (.call (.call (i := 0) rfl .saved)))
        (.env (@Worker.markAttempt _ "k" _ ⟨2⟩ none rfl)),
      rfl, rfl,
      .head (.call (@Interleaving.Step.call _ _ _ _ _ 0 _ _ _ _ rfl
          (@AtomicStore.enqueue _ _ (some (.new "queue unavailable")))))
        (.head (.call (@Interleaving.Step.call _ _ _ _ _ 0 _ _ _ _ rfl .saved))
          (.single (.call (@Interleaving.Step.call _ _ _ _ _ 1 _ _ _ _ rfl
            (@AtomicStore.fetchStored _ "k" _ rfl))))),
      ⟨_, rfl, rfl⟩, rfl⟩⟩

end Sandai
