import Sandai.Shared.Time

/-! Service methods as programs over their collaborators.

A Go service method calls repositories, providers, queues and notifiers and branches on what
they return. Its model is a `Proc`: a tree whose inner nodes are collaborator calls, branching
on every reply the call can give, and whose leaves are the method's return values. Three
readings of a `Proc` are used: the calls along one branch (`Path`), a run against a world whose
replies and state changes are a relation (`Runs`, `wp`), and an interleaving of several methods
against one shared world (`Interleaving`).
-/

set_option autoImplicit false

namespace Sandai

/-- The collaborators a service calls: the operations and the type of each operation's reply. -/
structure Signature where
  Op : Type
  Reply : Op → Type

/-- A service method as a tree of collaborator calls; a leaf is the method's return value. -/
inductive Proc (I : Signature) (A : Type) where
  | done : A → Proc I A
  | call (o : I.Op) (next : I.Reply o → Proc I A) : Proc I A

abbrev Exchange (I : Signature) := (o : I.Op) × I.Reply o

namespace Proc

variable {I : Signature} {A : Type}

/-- `Path p calls a`: given these replies in this order, `p` makes these calls and returns `a`. -/
inductive Path : Proc I A → List (Exchange I) → A → Prop where
  | done (a : A) : Path (.done a) [] a
  | call {o : I.Op} {next : I.Reply o → Proc I A} {r : I.Reply o} {calls : List (Exchange I)}
      {a : A} : Path (next r) calls a → Path (.call o next) (⟨o, r⟩ :: calls) a

@[simp] theorem path_done {a b : A} {calls : List (Exchange I)} :
    Path (.done a) calls b ↔ calls = [] ∧ a = b := by
  constructor
  · rintro ⟨⟩; exact ⟨rfl, rfl⟩
  · rintro ⟨rfl, rfl⟩; exact .done a

@[simp] theorem path_call {o : I.Op} {next : I.Reply o → Proc I A} {calls : List (Exchange I)}
    {a : A} : Path (.call o next) calls a ↔
      ∃ r rest, calls = ⟨o, r⟩ :: rest ∧ Path (next r) rest a := by
  constructor
  · rintro ⟨⟩; exact ⟨_, _, rfl, by assumption⟩
  · rintro ⟨r, rest, rfl, path⟩; exact .call path

def bind {B : Type} : Proc I A → (A → Proc I B) → Proc I B
  | .done a, f => f a
  | .call o next, f => .call o fun r => bind (next r) f

theorem path_bind {B : Type} {p : Proc I A} {f : A → Proc I B} {calls : List (Exchange I)}
    {b : B} : Path (p.bind f) calls b ↔
      ∃ first a rest, calls = first ++ rest ∧ Path p first a ∧ Path (f a) rest b := by
  induction p generalizing calls with
  | done a =>
    simp only [bind, path_done]
    constructor
    · intro path; exact ⟨[], a, calls, rfl, ⟨rfl, rfl⟩, path⟩
    · rintro ⟨_, _, rest, rfl, ⟨rfl, rfl⟩, path⟩; exact path
  | call o next ih =>
    simp only [bind, path_call, ih]
    constructor
    · rintro ⟨r, _, rfl, first, a, rest, rfl, path, continued⟩
      exact ⟨⟨o, r⟩ :: first, a, rest, rfl, ⟨r, first, rfl, path⟩, continued⟩
    · rintro ⟨_, a, rest, rfl, ⟨r, first, rfl, path⟩, continued⟩
      exact ⟨r, _, rfl, first, a, rest, rfl, path, continued⟩

/-- `After p calls q`: after making these calls with these replies, what remains of `p` is `q`. -/
inductive After : Proc I A → List (Exchange I) → Proc I A → Prop where
  | nil (p : Proc I A) : After p [] p
  | call {o : I.Op} {next : I.Reply o → Proc I A} {r : I.Reply o} {calls : List (Exchange I)}
      {q : Proc I A} : After (next r) calls q → After (.call o next) (⟨o, r⟩ :: calls) q

@[simp] theorem after_nil {p q : Proc I A} : After p [] q ↔ q = p := by
  constructor
  · rintro ⟨⟩; rfl
  · rintro rfl; exact .nil _

@[simp] theorem after_done_cons {a : A} {e : Exchange I} {rest : List (Exchange I)}
    {q : Proc I A} : ¬ After (.done a) (e :: rest) q := by
  rintro ⟨⟩

@[simp] theorem after_call_cons {o : I.Op} {next : I.Reply o → Proc I A} {e : Exchange I}
    {rest : List (Exchange I)} {q : Proc I A} :
    After (.call o next) (e :: rest) q ↔ ∃ r, e = ⟨o, r⟩ ∧ After (next r) rest q := by
  constructor
  · rintro ⟨⟩; exact ⟨_, rfl, by assumption⟩
  · rintro ⟨r, rfl, after⟩; exact .call after

theorem After.snoc {p : Proc I A} {calls : List (Exchange I)} {o : I.Op}
    {next : I.Reply o → Proc I A} (after : After p calls (.call o next)) (r : I.Reply o) :
    After p (calls ++ [⟨o, r⟩]) (next r) := by
  generalize same : Proc.call o next = q at after
  induction after with
  | nil => subst same; exact .call (.nil _)
  | call _ ih => exact .call (ih same)

theorem After.path {p : Proc I A} {calls : List (Exchange I)} {a : A}
    (after : After p calls (.done a)) : Path p calls a := by
  generalize same : Proc.done a = q at after
  induction after with
  | nil => subst same; exact .done a
  | call _ ih => exact .call (ih same)

theorem Path.after {p : Proc I A} {calls : List (Exchange I)} {a : A} (path : Path p calls a) :
    After p calls (.done a) := by
  induction path with
  | done => exact .nil _
  | call _ ih => exact .call ih

def exec (answer : (o : I.Op) → I.Reply o) : Proc I A → A
  | .done a => a
  | .call o next => exec answer (next (answer o))

/-! ## Runs against a world -/

variable {S : Type}

/-- A world: the replies it may give to an operation in a state, with the state after each. -/
abbrev World (I : Signature) (S : Type) := (o : I.Op) → S → I.Reply o → S → Prop

/-- `Runs world p s a s'`: started in `s`, `p` can return `a` and leave the world in `s'`. -/
inductive Runs (world : World I S) : Proc I A → S → A → S → Prop where
  | done (a : A) (s : S) : Runs world (.done a) s a s
  | call {o : I.Op} {next : I.Reply o → Proc I A} {s : S} {r : I.Reply o} {s₁ : S} {a : A}
      {s₂ : S} : world o s r s₁ → Runs world (next r) s₁ a s₂ → Runs world (.call o next) s a s₂

/-- The weakest precondition of `p` for `post` against `world`: every run from the state ends
in a state where `post` holds of the returned value. -/
def wp (world : World I S) : Proc I A → (A → S → Prop) → S → Prop
  | .done a, post, s => post a s
  | .call o next, post, s => ∀ r s', world o s r s' → wp world (next r) post s'

@[simp] theorem wp_done {world : World I S} {a : A} {post : A → S → Prop} {s : S} :
    wp world (.done a) post s ↔ post a s := Iff.rfl

@[simp] theorem wp_call {world : World I S} {o : I.Op} {next : I.Reply o → Proc I A}
    {post : A → S → Prop} {s : S} :
    wp world (.call o next) post s ↔ ∀ r s', world o s r s' → wp world (next r) post s' := Iff.rfl

theorem Runs.post {world : World I S} {p : Proc I A} {post : A → S → Prop} {s s' : S} {a : A}
    (run : Runs world p s a s') (pre : wp world p post s) : post a s' := by
  induction run with
  | done => exact pre
  | call step _ ih => exact ih (pre _ _ step)

theorem Runs.bind {B : Type} {world : World I S} {p : Proc I A} {f : A → Proc I B} {s s' s'' : S}
    {a : A} {b : B} (first : Runs world p s a s') (second : Runs world (f a) s' b s'') :
    Runs world (p.bind f) s b s'' := by
  induction first with
  | done => exact second
  | call step _ ih => exact .call step (ih second)

/-- `world` with proof-only ghost state of type `G`, which each exchange updates by `ghost`
and which no reply depends on. -/
def World.withGhost {G : Type} (world : World I S) (ghost : (o : I.Op) → I.Reply o → G → G) :
    World I (S × G)
  | o, (s, u), r, (s', u') => world o s r s' ∧ u' = ghost o r u

theorem Runs.forget_ghost {G : Type} {world : World I S} {ghost : (o : I.Op) → I.Reply o → G → G}
    {p : Proc I A} {g g' : S × G} {a : A} (run : Runs (world.withGhost ghost) p g a g') :
    Runs world p g.1 a g'.1 := by
  induction run with
  | done => exact .done _ _
  | @call _ _ s _ s₁ _ _ step _ ih =>
    obtain ⟨s, u⟩ := s
    obtain ⟨s₁, u₁⟩ := s₁
    exact .call step.1 ih

theorem Runs.add_ghost {G : Type} {world : World I S} (ghost : (o : I.Op) → I.Reply o → G → G)
    {p : Proc I A} {s s' : S} {a : A} (run : Runs world p s a s') (u : G) :
    ∃ u', Runs (world.withGhost ghost) p (s, u) a (s', u') := by
  induction run generalizing u with
  | done => exact ⟨u, .done _ _⟩
  | @call o _ _ r _ _ _ step _ ih =>
    obtain ⟨u', run⟩ := ih (ghost o r u)
    exact ⟨u', .call (show world.withGhost ghost o (_, u) r (_, ghost o r u) from ⟨step, rfl⟩) run⟩

/-- `Always world P p s`: in every run of `p` from `s`, each call is made in a state where `P`
holds of it. -/
def Always (world : World I S) (P : I.Op → S → Prop) : Proc I A → S → Prop
  | .done _, _ => True
  | .call o next, s => P o s ∧ ∀ r s', world o s r s' → Always world P (next r) s'

/-- Every call of `p` satisfies `P`, on every branch whose replies satisfy `R`: what `p`
guarantees of its calls, relying on what it is told. -/
inductive Respects (P : I.Op → Prop) (R : (o : I.Op) → I.Reply o → Prop) : Proc I A → Prop where
  | done (a : A) : Respects P R (.done a)
  | call {o : I.Op} {next : I.Reply o → Proc I A} :
      P o → (∀ r, R o r → Respects P R (next r)) → Respects P R (.call o next)

theorem Respects.bind {B : Type} {P : I.Op → Prop} {R : (o : I.Op) → I.Reply o → Prop}
    {p : Proc I A} {f : A → Proc I B} (first : Respects P R p) (rest : ∀ a, Respects P R (f a)) :
    Respects P R (p.bind f) := by
  induction first with
  | done a => exact rest a
  | call here _ ih => exact .call here ih

end Proc

/-! ## Interleavings -/

/-- Several method calls in flight against one shared world, with the log of every exchange
tagged by the index of the call that made it. -/
structure Interleaving (I : Signature) (A S : Type) where
  threads : List (Proc I A)
  world : S
  log : List (Nat × Exchange I)

namespace Interleaving

variable {I : Signature} {A S : Type}

def trace (σ : Interleaving I A S) (i : Nat) : List (Exchange I) :=
  (σ.log.filter fun entry => entry.1 = i).map (·.2)

/-- One scheduling step: any call in flight makes its next collaborator call, and the world
answers it atomically. -/
inductive Step (world : Proc.World I S) : Interleaving I A S → Interleaving I A S → Prop where
  | call {σ : Interleaving I A S} {i : Nat} {o : I.Op} {next : I.Reply o → Proc I A}
      {r : I.Reply o} {w : S} : σ.threads[i]? = some (.call o next) → world o σ.world r w →
      Step world σ ⟨σ.threads.set i (next r), w, σ.log ++ [(i, ⟨o, r⟩)]⟩

/-- The states reachable from `programs` started together in `world₀`, in any interleaving. -/
def Reachable (world : Proc.World I S) (programs : List (Proc I A)) (world₀ : S)
    (σ : Interleaving I A S) : Prop :=
  Relation.ReflTransGen (Step world) ⟨programs, world₀, []⟩ σ

theorem trace_snoc_self (σ : Interleaving I A S) (i : Nat) (e : Exchange I)
    (threads : List (Proc I A)) (w : S) :
    (⟨threads, w, σ.log ++ [(i, e)]⟩ : Interleaving I A S).trace i = σ.trace i ++ [e] := by
  simp [trace, List.filter_append]

theorem trace_snoc_other (σ : Interleaving I A S) {i j : Nat} (e : Exchange I) (other : j ≠ i)
    (threads : List (Proc I A)) (w : S) :
    (⟨threads, w, σ.log ++ [(i, e)]⟩ : Interleaving I A S).trace j = σ.trace j := by
  simp [trace, List.filter_append, Ne.symm other]

theorem mem_trace {σ : Interleaving I A S} {i : Nat} {e : Exchange I} :
    e ∈ σ.trace i ↔ (i, e) ∈ σ.log := by
  simp only [trace, List.mem_map, List.mem_filter, decide_eq_true_eq]
  constructor
  · rintro ⟨⟨j, e'⟩, ⟨member, rfl⟩, rfl⟩; exact member
  · intro member; exact ⟨(i, e), ⟨member, rfl⟩, rfl⟩

theorem Step.trace_prefix {world : Proc.World I S} {σ σ' : Interleaving I A S}
    (step : Step world σ σ') (i : Nat) : σ.trace i <+: σ'.trace i := by
  cases step with
  | @call j _ _ _ _ _ _ =>
    by_cases same : i = j
    · subst same; rw [trace_snoc_self]; exact List.prefix_append _ _
    · rw [trace_snoc_other _ _ same]

theorem trace_prefix_of_reflTransGen {world : Proc.World I S} {σ σ' : Interleaving I A S}
    (steps : Relation.ReflTransGen (Step world) σ σ') (i : Nat) : σ.trace i <+: σ'.trace i := by
  induction steps with
  | refl => exact List.prefix_refl _
  | tail _ step ih => exact ih.trans (step.trace_prefix i)

/-- A call in flight runs to its end with no other call scheduled in between: its exchanges are
appended to the log, and it is left returning its value. -/
theorem runs_alone {world : Proc.World I S} {σ : Interleaving I A S} {i : Nat} {p : Proc I A}
    (current : σ.threads[i]? = some p) {a : A} {w : S} (run : Proc.Runs world p σ.world a w) :
    ∃ log, Relation.ReflTransGen (Step world) σ ⟨σ.threads.set i (.done a), w, σ.log ++ log⟩ := by
  generalize start : σ.world = s at run
  induction run generalizing σ with
  | done a s =>
    refine ⟨[], ?_⟩
    have same : σ.threads.set i (.done a) = σ.threads := List.ext_getElem? fun j => by
      rw [List.getElem?_set]
      split_ifs with here bound
      · rw [← here, current]
      · rw [← here, eq_comm, List.getElem?_eq_none (not_lt.mp bound)]
      · rfl
    rw [same, List.append_nil, ← start]
  | @call o next s r s₁ a s₂ answer _ ih =>
    obtain ⟨bound, -⟩ := List.getElem?_eq_some_iff.mp current
    obtain ⟨log, steps⟩ := ih (σ := ⟨σ.threads.set i (next r), s₁, σ.log ++ [(i, ⟨o, r⟩)]⟩)
      (List.getElem?_set_self (by simpa using bound)) rfl
    refine ⟨[(i, ⟨o, r⟩)] ++ log, .head (.call current (start ▸ answer)) ?_⟩
    simpa [List.set_set] using steps

/-- A step keeps a world invariant that every call the threads guarantee keeps, while the world
answers such a call only as the threads rely on, and so leaves threads that still respect both. -/
theorem Step.respects {world : Proc.World I S} {P : I.Op → Prop}
    {R : (o : I.Op) → I.Reply o → Prop} {Inv : S → Prop}
    (keeps : ∀ o s r s', P o → Inv s → world o s r s' → R o r ∧ Inv s')
    {σ σ' : Interleaving I A S} (step : Step world σ σ') (kept : Inv σ.world)
    (threads : ∀ p ∈ σ.threads, Proc.Respects P R p) :
    Inv σ'.world ∧ ∀ p ∈ σ'.threads, Proc.Respects P R p := by
  cases step with
  | @call _ o next r _ current answer =>
    have calling : Proc.Respects P R (.call o next) := threads _ (List.getElem?_mem current)
    cases calling with
    | call here rest =>
      obtain ⟨relied, kept'⟩ := keeps _ _ _ _ here kept answer
      refine ⟨kept', fun p member => ?_⟩
      rcases List.mem_or_eq_of_mem_set member with old | rfl
      · exact threads p old
      · exact rest r relied

/-- A world invariant holds in every state that any interleaving of the programs reaches when
every call they make keeps it, relying only on replies the world gives under it. -/
theorem reachable_world_invariant {world : Proc.World I S} {P : I.Op → Prop}
    {R : (o : I.Op) → I.Reply o → Prop} {Inv : S → Prop}
    (keeps : ∀ o s r s', P o → Inv s → world o s r s' → R o r ∧ Inv s')
    {programs : List (Proc I A)} (only : ∀ p ∈ programs, Proc.Respects P R p) {world₀ : S}
    (init : Inv world₀) {σ : Interleaving I A S} (reach : Reachable world programs world₀ σ) :
    Inv σ.world := by
  suffices Inv σ.world ∧ ∀ p ∈ σ.threads, Proc.Respects P R p from this.1
  induction reach with
  | refl => exact ⟨init, only⟩
  | tail _ step ih => exact step.respects keeps ih.1 ih.2

/-- A step of the calls in flight, or a step of an environment `env` that changes the world
between their calls; `env` sees the calls' state and log, and leaves them as they are. -/
inductive StepWith (world : Proc.World I S) (env : Interleaving I A S → S → Prop) :
    Interleaving I A S → Interleaving I A S → Prop where
  | call {σ σ' : Interleaving I A S} : Step world σ σ' → StepWith world env σ σ'
  | env {σ : Interleaving I A S} {w : S} : env σ w → StepWith world env σ ⟨σ.threads, w, σ.log⟩

/-- The states reachable from `programs` started together in `world₀`, with the environment
`env` acting between their calls. -/
def ReachableWith (world : Proc.World I S) (env : Interleaving I A S → S → Prop)
    (programs : List (Proc I A)) (world₀ : S) (σ : Interleaving I A S) : Prop :=
  Relation.ReflTransGen (StepWith world env) ⟨programs, world₀, []⟩ σ

theorem Reachable.withEnv {world : Proc.World I S} (env : Interleaving I A S → S → Prop)
    {programs : List (Proc I A)} {world₀ : S} {σ : Interleaving I A S}
    (reach : Reachable world programs world₀ σ) : ReachableWith world env programs world₀ σ :=
  reach.mono fun _ _ => .call

theorem StepWith.mono {world : Proc.World I S} {env env' : Interleaving I A S → S → Prop}
    (sub : ∀ σ w, env σ w → env' σ w) {σ σ' : Interleaving I A S}
    (step : StepWith world env σ σ') : StepWith world env' σ σ' := by
  cases step with
  | call step => exact .call step
  | env acts => exact .env (sub _ _ acts)

theorem StepWith.trace_prefix {world : Proc.World I S} {env : Interleaving I A S → S → Prop}
    {σ σ' : Interleaving I A S} (step : StepWith world env σ σ') (i : Nat) :
    σ.trace i <+: σ'.trace i := by
  cases step with
  | call step => exact step.trace_prefix i
  | env => exact List.prefix_refl _

theorem reachableWith_after {world : Proc.World I S} {env : Interleaving I A S → S → Prop}
    {programs : List (Proc I A)} {world₀ : S} {σ : Interleaving I A S}
    (reach : ReachableWith world env programs world₀ σ) :
    σ.threads.length = programs.length ∧
      ∀ i (p : Proc I A), programs[i]? = some p →
        ∃ q, σ.threads[i]? = some q ∧ Proc.After p (σ.trace i) q := by
  induction reach with
  | refl => exact ⟨rfl, fun i p found => ⟨p, found, by simp [trace]⟩⟩
  | tail _ step ih =>
    obtain ⟨length, after⟩ := ih
    cases step with
    | env => exact ⟨length, after⟩
    | call step =>
    cases step with
    | @call i o next r w found _ =>
      refine ⟨by simp [length], fun j p program => ?_⟩
      obtain ⟨q, current, history⟩ := after j p program
      by_cases same : j = i
      · subst same
        rw [found, Option.some.injEq] at current
        subst current
        refine ⟨next r, ?_, by rw [trace_snoc_self]; exact history.snoc r⟩
        simp [List.getElem?_set, (List.getElem?_eq_some_iff.mp found).1]
      · refine ⟨q, by simpa [List.getElem?_set, Ne.symm same] using current, ?_⟩
        rw [trace_snoc_other _ _ same]; exact history

theorem reachableWith_log_index {world : Proc.World I S} {env : Interleaving I A S → S → Prop}
    {programs : List (Proc I A)} {world₀ : S} {σ : Interleaving I A S}
    (reach : ReachableWith world env programs world₀ σ) :
    ∀ entry ∈ σ.log, entry.1 < programs.length := by
  induction reach with
  | refl => simp
  | tail before step ih =>
    cases step with
    | env => exact ih
    | call step =>
    cases step with
    | @call i _ _ _ _ found _ =>
      simp only [List.mem_append, List.mem_singleton]
      rintro entry (old | rfl)
      · exact ih entry old
      · exact (reachableWith_after before).1 ▸ (List.getElem?_eq_some_iff.mp found).1

end Interleaving

end Sandai
