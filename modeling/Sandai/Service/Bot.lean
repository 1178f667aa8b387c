import Sandai.Semantics.Proc
import Sandai.Domain.Command

/-! Bot command intake (`app/bot`): `Service.Handle` over the command repository, the worker
queue and the notifier.

`Repository.MarkProcessed` is part of the interface but `Handle` never calls it, so it is not
an operation here. A nil `Producer` or `Notifier` is a flag of the service.
-/

set_option autoImplicit false

namespace Sandai

/-- The collaborators of `bot.Service`. -/
inductive BotOp where
  | reserveCommand (key : IdempotencyKey)
  | save (command : Command)
  | enqueue (command : Command)
  | notify (playerID : PlayerID) (payload : List (String × String))
  deriving DecidableEq

/-- `ReserveCommand` returns the stored command or an error; the others return an `error`. -/
def BotOp.Reply : BotOp → Type
  | .reserveCommand _ => Except GoError Command
  | .save _ => Option GoError
  | .enqueue _ => Option GoError
  | .notify _ _ => Option GoError

def Bot : Signature := ⟨BotOp, BotOp.Reply⟩

structure CommandInput where
  commandID : BotCommandID
  channel : String
  playerID : PlayerID
  payload : List UInt8
  idempotencyKey : IdempotencyKey
  deriving DecidableEq, Repr

structure CommandResult where
  accepted : Bool
  deriving DecidableEq, Repr

/-- A `bot.Service`: whether its `Producer` and `Notifier` are set. -/
structure BotService where
  hasProducer : Bool
  hasNotifier : Bool

namespace BotService

variable (s : BotService)

/-- The best-effort acknowledgement that ends an accepted command; its error is dropped. -/
def acknowledge (input : CommandInput) : Proc Bot (Except GoError CommandResult) :=
  if s.hasNotifier ∧ input.playerID ≠ "" then
    .call (.notify input.playerID [("status", "accepted")]) fun _ => .done (.ok ⟨true⟩)
  else .done (.ok ⟨true⟩)

/-- Hand the saved command to the worker queue; a failed enqueue is recorded on the command,
saved (ignoring that save's error) and returned. -/
def dispatch (now : Time) (input : CommandInput) (cmd : Command) :
    Proc Bot (Except GoError CommandResult) :=
  if s.hasProducer then
    .call (.enqueue cmd) fun
      | some err => .call (.save (cmd.markAttempt now (some err))) fun _ => .done (.error err)
      | none => s.acknowledge input
  else s.acknowledge input

/-- Persist the new command in `pending` state, then dispatch it. -/
def persist (now : Time) (input : CommandInput) (cmd : Command) :
    Proc Bot (Except GoError CommandResult) :=
  .call (.save cmd) fun
    | some err => .done (.error err)
    | none => s.dispatch now input cmd

/-- What `Handle` does with the reply of `ReserveCommand`: a stored command is the idempotent
fast path or a duplicate, `ErrNotFound` is a fresh reservation. -/
def onReserve (now : Time) (input : CommandInput) :
    Except GoError Command → Proc Bot (Except GoError CommandResult)
  | .ok existing => .done (if existing.state = .completed then .ok ⟨true⟩ else .error ErrDuplicate)
  | .error err =>
    if !err.is ErrNotFound then .done (.error err) else
      match newCommand input.commandID input.channel input.payload input.idempotencyKey now with
      | .error err => .done (.error err)
      | .ok cmd => s.persist now input cmd

/-- `Service.Handle(ctx, input)`, with `now` the value its clock returns. -/
def handle (now : Time) (input : CommandInput) : Proc Bot (Except GoError CommandResult) :=
  .call (.reserveCommand input.idempotencyKey) (s.onReserve now input)

end BotService

end Sandai
