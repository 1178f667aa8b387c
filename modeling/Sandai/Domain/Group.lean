import Sandai.Shared.Time

/-! The group aggregate (`domain/group`) and the battle aggregate (`domain/battle`). -/

set_option autoImplicit false

namespace Sandai

def ErrNameRequired : GoError := .new "group name required"
def ErrMemberNotFound : GoError := .new "group member not found"

/-- `group.Role`: a Go string type whose constants are `owner`, `admin` and `member`;
`AssignRole` stores whatever value it is given. -/
abbrev Role := String

def roleOwner : Role := "owner"
def roleAdmin : Role := "admin"
def roleMember : Role := "member"

structure Membership where
  playerID : PlayerID
  role : Role
  joinedAt : Time
  deriving DecidableEq, Repr

/-- `group.Group`; `Members` is a Go map from player id to membership. -/
structure Group where
  id : GroupID
  name : String
  description : String
  members : PlayerID → Option Membership
  createdAt : Time
  updatedAt : Time

/-- `group.NewGroup`: the owner is the only member. -/
def newGroup (id : GroupID) (name : String) (owner : PlayerID) (now : Time) :
    Except GoError Group := do
  id.validate
  owner.validate
  if name = "" then throw ErrNameRequired
  return { id, name, description := "", createdAt := now, updatedAt := now,
           members := Function.update (fun _ => none) owner (some ⟨owner, roleOwner, now⟩) }

def Group.assignRole (g : Group) (playerID : PlayerID) (role : Role) (now : Time) :
    Group × Option GoError :=
  match g.members playerID with
  | none => (g, some ErrMemberNotFound)
  | some member =>
    ({ g with members := Function.update g.members playerID (some { member with role }),
              updatedAt := now }, none)

namespace Group

variable {g : Group} {playerID : PlayerID} {role : Role} {now : Time}

theorem assignRole_cases (g : Group) (playerID : PlayerID) (role : Role) (now : Time) :
    (g.members playerID = none ∧ g.assignRole playerID role now = (g, some ErrMemberNotFound)) ∨
      ∃ member, g.members playerID = some member ∧
        g.assignRole playerID role now =
          ({ g with
              members := Function.update g.members playerID (some { member with role }),
              updatedAt := now }, none) := by
  unfold assignRole
  cases found : g.members playerID with
  | none => exact .inl ⟨rfl, rfl⟩
  | some member => exact .inr ⟨member, rfl, rfl⟩

def assignRoles (g : Group) : List (PlayerID × Role × Time) → Group
  | [] => g
  | (playerID, role, now) :: rest => (g.assignRole playerID role now).1.assignRoles rest

/-- What `AssignRole` calls keep of a group: every membership under its own player's id, the
member ids of `members₀`, and roles from `roles`. -/
structure Membered (members₀ : PlayerID → Option Membership) (roles : List Role) (g : Group) :
    Prop where
  keyed : ∀ k m, g.members k = some m → m.playerID = k
  ids : ∀ k, (g.members k).isSome = (members₀ k).isSome
  roles : ∀ k m, g.members k = some m → m.role ∈ roles

theorem Membered.assignRole {members₀ : PlayerID → Option Membership} {roles : List Role}
    (inv : Membered members₀ roles g) (playerID : PlayerID) (role : Role) (now : Time) :
    Membered members₀ (role :: roles) (g.assignRole playerID role now).1 := by
  rcases g.assignRole_cases playerID role now with ⟨-, same⟩ | ⟨member, found, same⟩
  · rw [same]
    exact ⟨inv.keyed, inv.ids, fun k m held => List.mem_cons_of_mem _ (inv.roles k m held)⟩
  · rw [same]
    refine ⟨fun k m held => ?_, fun k => ?_, fun k m held => ?_⟩ <;> by_cases mine : k = playerID
    · subst mine
      simp only [Function.update_same, Option.some.injEq] at held
      rw [← held]; exact inv.keyed k member found
    · exact inv.keyed k m (by simpa [mine] using held)
    · subst mine; simpa [found] using inv.ids k
    · simpa [mine] using inv.ids k
    · subst mine
      simp only [Function.update_same, Option.some.injEq] at held
      rw [← held]; exact List.mem_cons_self _ _
    · exact List.mem_cons_of_mem _ (inv.roles k m (by simpa [mine] using held))

theorem Membered.assignRoles {members₀ : PlayerID → Option Membership} {roles : List Role}
    (inv : Membered members₀ roles g) (calls : List (PlayerID × Role × Time)) :
    Membered members₀ (calls.reverse.map (·.2.1) ++ roles) (g.assignRoles calls) := by
  induction calls generalizing g roles with
  | nil => exact inv
  | cons call rest ih =>
    obtain ⟨playerID, role, now⟩ := call
    simpa [assignRoles] using ih (inv.assignRole playerID role now)

end Group

theorem newGroup_members {id : GroupID} {name : String} {owner : PlayerID} {now : Time} {g : Group}
    (made : newGroup id name owner now = .ok g) :
    g.members = Function.update (fun _ => none) owner (some ⟨owner, roleOwner, now⟩) := by
  revert made
  unfold newGroup
  cases id.validate <;> cases owner.validate <;>
    simp only [bind, Except.bind, pure, Except.pure, reduceCtorEq, false_implies]
  split_ifs <;> rintro ⟨⟩
  rfl

theorem newGroup_membered {id : GroupID} {name : String} {owner : PlayerID} {now : Time}
    {g : Group} (made : newGroup id name owner now = .ok g) : g.Membered g.members [roleOwner] := by
  refine ⟨fun k m held => ?_, fun _ => rfl, fun k m held => ?_⟩ <;>
    rw [newGroup_members made, Function.update_apply] at held <;> split_ifs at held with mine <;>
    cases held
  · exact mine.symm
  · exact List.mem_singleton_self _

/-- For a group `NewGroup` made and any `AssignRole` calls: every membership sits under its own
player's id, the member ids stay those of `NewGroup`, every role is the owner's or one some call
was given, and a call for a player with no membership returns `ErrMemberNotFound` and leaves the
group as it is. -/
theorem assignRoles_keep_members {id : GroupID} {name : String} {owner : PlayerID} {now : Time}
    {g₀ : Group} (made : newGroup id name owner now = .ok g₀)
    (calls : List (PlayerID × Role × Time)) :
    (∀ k m, (g₀.assignRoles calls).members k = some m → m.playerID = k) ∧
      (∀ k, ((g₀.assignRoles calls).members k).isSome = (g₀.members k).isSome) ∧
      (∀ k m, (g₀.assignRoles calls).members k = some m →
        m.role = roleOwner ∨ m.role ∈ calls.map (·.2.1)) ∧
      ∀ playerID role later, (g₀.assignRoles calls).members playerID = none →
        (g₀.assignRoles calls).assignRole playerID role later =
          (g₀.assignRoles calls, some ErrMemberNotFound) := by
  have final := (newGroup_membered made).assignRoles calls
  refine ⟨final.keyed, final.ids, fun k m held => ?_, fun playerID role later absent => ?_⟩
  · have role := final.roles k m held
    rw [List.mem_append, List.mem_singleton, List.map_reverse, List.mem_reverse] at role
    exact role.symm
  · rcases (g₀.assignRoles calls).assignRole_cases playerID role later with ⟨-, same⟩ |
      ⟨member, found, -⟩
    · exact same
    · rw [absent] at found; cases found

theorem assignRoles_keep_members_guild :
    ∃ g₀, newGroup "g1" "Guild" "p1" ⟨1⟩ = .ok g₀ ∧
      (∀ k m, (g₀.assignRoles [("p1", roleAdmin, ⟨2⟩)]).members k = some m → m.playerID = k) ∧
      (∀ k, ((g₀.assignRoles [("p1", roleAdmin, ⟨2⟩)]).members k).isSome =
        (g₀.members k).isSome) ∧
      (∀ k m, (g₀.assignRoles [("p1", roleAdmin, ⟨2⟩)]).members k = some m →
        m.role = roleOwner ∨ m.role ∈ [("p1", roleAdmin, (⟨2⟩ : Time))].map (·.2.1)) ∧
      ∀ playerID role later, (g₀.assignRoles [("p1", roleAdmin, ⟨2⟩)]).members playerID = none →
        (g₀.assignRoles [("p1", roleAdmin, ⟨2⟩)]).assignRole playerID role later =
          (g₀.assignRoles [("p1", roleAdmin, ⟨2⟩)], some ErrMemberNotFound) :=
  ⟨_, rfl, assignRoles_keep_members (show newGroup "g1" "Guild" "p1" ⟨1⟩ = _ from rfl) _⟩

/-- `AssignRole` stores any role string: the owner of a new group becomes `superuser`. -/
theorem assignRole_stores_any_role :
    ∃ g₀, newGroup "g1" "Guild" "p1" ⟨1⟩ = .ok g₀ ∧
      ((g₀.assignRole "p1" "superuser" ⟨2⟩).1.members "p1").map (·.role) = some "superuser" ∧
      "superuser" ∉ [roleOwner, roleAdmin, roleMember] :=
  ⟨_, rfl, rfl, by decide⟩

/-! ## Battles -/

def ErrPlayerAlreadyJoined : GoError := .new "player already joined battle"
def ErrPlayerNotFound : GoError := .new "player not in battle"

structure MatchState where
  tick : Int
  payload : List UInt8
  updatedAt : Time
  deriving DecidableEq, Repr

structure PlayerSlot where
  playerID : PlayerID
  joinedAt : Time
  ready : Bool
  deriving DecidableEq, Repr

structure Battle where
  id : BattleID
  leader : PlayerID
  slots : List PlayerSlot
  stateSnapshot : MatchState
  createdAt : Time
  updatedAt : Time
  idempotencyKey : IdempotencyKey
  deriving DecidableEq, Repr

/-- `battle.NewBattle`: the leader holds the first slot, ready. -/
def newBattle (id : BattleID) (leader : PlayerID) (key : IdempotencyKey) (now : Time) :
    Except GoError Battle := do
  id.validate
  leader.validate
  key.validate
  return { id, leader, slots := [⟨leader, now, true⟩], stateSnapshot := ⟨0, [], ⟨0⟩⟩,
           createdAt := now, updatedAt := now, idempotencyKey := key }

namespace Battle

def addPlayer (b : Battle) (player : PlayerID) (now : Time) : Battle × Option GoError :=
  if b.slots.any (·.playerID = player) then (b, some ErrPlayerAlreadyJoined)
  else ({ b with slots := b.slots ++ [⟨player, now, false⟩], updatedAt := now }, none)

/-- The loop of `MarkReady`: the slots with the first slot of `player` given `ready`, if any. -/
def setReady (player : PlayerID) (ready : Bool) : List PlayerSlot → Option (List PlayerSlot)
  | [] => none
  | slot :: rest =>
    if slot.playerID = player then some ({ slot with ready } :: rest)
    else (setReady player ready rest).map (slot :: ·)

def markReady (b : Battle) (player : PlayerID) (ready : Bool) (now : Time) :
    Battle × Option GoError :=
  match setReady player ready b.slots with
  | none => (b, some ErrPlayerNotFound)
  | some slots => ({ b with slots, updatedAt := now }, none)

/-- `b.UpdateSnapshot(state)`; a zero `UpdatedAt` is replaced by the wall clock's reading. -/
def updateSnapshot (b : Battle) (state : MatchState) (wallClock : Time) : Battle :=
  let state := if state.updatedAt.isZero then { state with updatedAt := wallClock } else state
  { b with stateSnapshot := state, updatedAt := state.updatedAt }

end Battle

end Sandai
