import Mathlib.Logic.Relation
import Mathlib.Logic.Function.Basic
import Mathlib.Data.List.Nodup
import Mathlib.Tactic.NormNum
import Mathlib.Tactic.Positivity
import Mathlib.Tactic.SplitIfs
import Mathlib.Tactic.Tauto
import Mathlib.Tactic.Ring

/-! Go values shared by every bounded context: `error` values, the typed string identifiers of
`domain/shared` with their `Validate`, and the wrap of Go's 64-bit `int`.

An `errors.New` value is identified by its text. Go compares the pointers, so two calls of
`errors.New` with one text are distinct there; no statement below relies on telling them apart.
-/

set_option autoImplicit false

namespace Sandai

/-- A Go `error`: `errors.New(text)`, `fmt.Errorf(context + "%w", inner)` or `runtime.NewError`;
`panic` stands for a runtime panic, which unwinds the call instead of returning. -/
inductive GoError where
  | new (text : String)
  | wrap (context : String) (inner : GoError)
  | runtime (text : String) (code : Nat)
  | panic (text : String)
  deriving DecidableEq, Repr

namespace GoError

def message : GoError → String
  | .new text => text
  | .wrap context inner => context ++ inner.message
  | .runtime text _ => text
  | .panic text => text

/-- `errors.Is(err, target)`: the error itself or any error it wraps equals `target`. -/
def is (err target : GoError) : Bool :=
  match err with
  | .wrap _ inner => decide (err = target) || inner.is target
  | _ => decide (err = target)

end GoError

def ErrDuplicate : GoError := .new "duplicate operation"
def ErrNotFound : GoError := .new "entity not found"
def contextCanceled : GoError := .new "context canceled"

/-! ## Identifiers -/

/-- `unicode.IsSpace`: the Latin-1 spaces and the other code points of Unicode `White_Space`. -/
def isSpace (c : Char) : Bool :=
  match c.toNat with
  | 0x09 | 0x0A | 0x0B | 0x0C | 0x0D | 0x20 | 0x85 | 0xA0 => true
  | 0x1680 | 0x2028 | 0x2029 | 0x202F | 0x205F | 0x3000 => true
  | n => decide (0x2000 ≤ n ∧ n ≤ 0x200A)

/-- `strings.TrimSpace` on a well-formed UTF-8 string. -/
def trimSpace (s : String) : String :=
  ⟨((s.data.dropWhile isSpace).reverse.dropWhile isSpace).reverse⟩

/-- The shared body of the identifiers' `Validate`: a blank value is rejected with `message`. -/
def validateId (message : String) (id : String) : Except GoError Unit :=
  if trimSpace id = "" then .error (.new message) else .ok ()

theorem validateId_ok (message id : String) :
    validateId message id = .ok () ↔ trimSpace id ≠ "" := by
  unfold validateId; split <;> simp_all

theorem validateId_ne_empty {message id : String} (valid : validateId message id = .ok ()) :
    id ≠ "" := by
  rintro rfl; exact absurd ((validateId_ok _ _).mp valid) (by decide)

abbrev PlayerID := String
abbrev GroupID := String
abbrev BattleID := String
abbrev SeasonID := String
abbrev BotCommandID := String
abbrev IdempotencyKey := String

/-- Modelled from the spec: `shared.TournamentID` and its `Validate` are missing from src/; the
spec gives it the contract of the other identifiers (blank values fail). The message follows
the sibling identifiers. -/
abbrev TournamentID := String

def PlayerID.validate (id : PlayerID) := validateId "player id is required" id
def GroupID.validate (id : GroupID) := validateId "group id is required" id
def BattleID.validate (id : BattleID) := validateId "battle id is required" id
def SeasonID.validate (id : SeasonID) := validateId "season id is required" id
def BotCommandID.validate (id : BotCommandID) := validateId "bot command id is required" id
def IdempotencyKey.validate (key : IdempotencyKey) := validateId "idempotency key is required" key
def TournamentID.validate (id : TournamentID) := validateId "tournament id is required" id

/-! ## Go's 64-bit `int` -/

/-- Two's-complement wrap into Go's `int` (64 bits) and `int64`. -/
def toInt64 (x : Int) : Int := (x + 2 ^ 63) % 2 ^ 64 - 2 ^ 63

theorem toInt64_of_range {x : Int} (low : -2 ^ 63 ≤ x) (high : x < 2 ^ 63) : toInt64 x = x := by
  unfold toInt64
  rw [Int.emod_eq_of_lt (by omega) (by omega)]
  omega

theorem toInt64_add_toInt64 (x y : Int) : toInt64 (toInt64 x + y) = toInt64 (x + y) := by
  unfold toInt64
  rw [show (x + 2 ^ 63) % 2 ^ 64 - 2 ^ 63 + y + 2 ^ 63 = (x + 2 ^ 63) % 2 ^ 64 + y by ring,
    Int.add_emod, Int.emod_emod_of_dvd _ (dvd_refl _), ← Int.add_emod]
  ring_nf

/-! ## Stores as maps -/

section Stores

variable {α β : Type} [DecidableEq α] {f : α → Option β} {P : α → β → Prop}

theorem forall_update_some (all : ∀ a b, f a = some b → P a b) {a₀ : α} {b₀ : β}
    (new : P a₀ b₀) : ∀ a b, Function.update f a₀ (some b₀) a = some b → P a b := by
  intro a b found
  by_cases same : a = a₀
  · subst same
    rw [Function.update_same, Option.some.injEq] at found
    exact found ▸ new
  · exact all a b (by rwa [Function.update_noteq same] at found)

theorem forall_update_none (all : ∀ a b, f a = some b → P a b) (a₀ : α) :
    ∀ a b, Function.update f a₀ none a = some b → P a b := by
  intro a b found
  by_cases same : a = a₀
  · subst same
    rw [Function.update_same] at found
    cases found
  · exact all a b (by rwa [Function.update_noteq same] at found)

end Stores

end Sandai
