import Sandai.Shared.Time

/-! The bot command aggregate (`domain/bot`): the record behind idempotent command intake. -/

set_option autoImplicit false

namespace Sandai

/-- `bot.CommandState`; the store only ever holds the three constants. -/
inductive CommandState where
  | pending
  | completed
  | failed
  deriving DecidableEq, Repr

structure Command where
  id : BotCommandID
  channel : String
  payload : List UInt8
  idempotencyKey : IdempotencyKey
  state : CommandState
  attemptedAt : Time
  completedAt : Time
  retryCount : Int
  lastError : String
  createdAt : Time
  deriving DecidableEq, Repr

def newCommand (id : BotCommandID) (channel : String) (payload : List UInt8)
    (key : IdempotencyKey) (now : Time) : Except GoError Command := do
  id.validate
  key.validate
  return { id, channel, payload, idempotencyKey := key, state := .pending,
           attemptedAt := ⟨0⟩, completedAt := ⟨0⟩, retryCount := 0, lastError := "",
           createdAt := now }

def Command.markAttempt (c : Command) (now : Time) : Option GoError → Command
  | some err => { c with attemptedAt := now, retryCount := toInt64 (c.retryCount + 1),
                         state := .failed, lastError := err.message }
  | none => { c with attemptedAt := now, state := .completed, completedAt := now, lastError := "" }

theorem newCommand_ok {id : BotCommandID} {channel : String} {payload : List UInt8}
    {key : IdempotencyKey} {now : Time} {c : Command}
    (made : newCommand id channel payload key now = .ok c) :
    c.idempotencyKey = key ∧ c.state = .pending := by
  revert made
  unfold newCommand
  cases id.validate <;> cases key.validate <;> rintro ⟨⟩
  exact ⟨rfl, rfl⟩

@[simp] theorem markAttempt_key (c : Command) (now : Time) (err : Option GoError) :
    (c.markAttempt now err).idempotencyKey = c.idempotencyKey := by
  cases err <;> rfl

@[simp] theorem markAttempt_some_state (c : Command) (now : Time) (err : GoError) :
    (c.markAttempt now (some err)).state = .failed := rfl

end Sandai
