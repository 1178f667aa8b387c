import Sandai.Domain.Group

/-! What the battle methods keep of a battle's slots. Each of `AddPlayer`, `MarkReady` and
`UpdateSnapshot` gets one lemma saying all it can do; the slot invariant of every run from
`NewBattle` follows from those by induction over the calls. -/

set_option autoImplicit false

namespace Sandai

namespace Battle

variable {b : Battle} {player : PlayerID} {ready : Bool} {now : Time}

def playerIDs (b : Battle) : List PlayerID := b.slots.map (·.playerID)

theorem setReady_cases (player : PlayerID) (ready : Bool) :
    ∀ slots : List PlayerSlot,
      (player ∉ slots.map (·.playerID) ∧ setReady player ready slots = none) ∨
        ∃ i slot, slots[i]? = some slot ∧ slot.playerID = player ∧
          setReady player ready slots = some (slots.set i { slot with ready })
  | [] => .inl ⟨List.not_mem_nil _, rfl⟩
  | slot :: rest => by
    by_cases mine : slot.playerID = player
    · exact .inr ⟨0, slot, List.getElem?_cons_zero, mine, by simp [setReady, mine]⟩
    · rcases setReady_cases player ready rest with ⟨absent, unset⟩ | ⟨i, found, at_i, own, set⟩
      · exact .inl ⟨by simp [absent, Ne.symm mine], by simp [setReady, mine, unset]⟩
      · exact .inr ⟨i + 1, found, List.getElem?_cons_succ.trans at_i, own,
          by simp [setReady, mine, set]⟩

theorem addPlayer_cases (b : Battle) (player : PlayerID) (now : Time) :
    (player ∈ b.playerIDs ∧ b.addPlayer player now = (b, some ErrPlayerAlreadyJoined)) ∨
      (player ∉ b.playerIDs ∧
        b.addPlayer player now =
          ({ b with slots := b.slots ++ [⟨player, now, false⟩], updatedAt := now }, none)) := by
  have found : b.slots.any (·.playerID = player) = decide (player ∈ b.playerIDs) := by
    simp [playerIDs, List.any_eq]
  by_cases joined : player ∈ b.playerIDs
  · exact .inl ⟨joined, by simp [addPlayer, found, joined]⟩
  · exact .inr ⟨joined, by simp [addPlayer, found, joined]⟩

theorem addPlayer_refused_iff (b : Battle) (player : PlayerID) (now : Time) :
    b.addPlayer player now = (b, some ErrPlayerAlreadyJoined) ↔ player ∈ b.playerIDs := by
  rcases b.addPlayer_cases player now with ⟨joined, refused⟩ | ⟨absent, added⟩
  · exact iff_of_true refused joined
  · simp [added, absent]

theorem markReady_cases (b : Battle) (player : PlayerID) (ready : Bool) (now : Time) :
    (player ∉ b.playerIDs ∧ b.markReady player ready now = (b, some ErrPlayerNotFound)) ∨
      ∃ i slot, b.slots[i]? = some slot ∧ slot.playerID = player ∧
        b.markReady player ready now =
          ({ b with slots := b.slots.set i { slot with ready }, updatedAt := now }, none) := by
  rcases setReady_cases player ready b.slots with ⟨absent, unset⟩ | ⟨i, slot, at_i, own, set⟩
  · exact .inl ⟨absent, by simp [markReady, unset]⟩
  · exact .inr ⟨i, slot, at_i, own, by simp [markReady, set]⟩

theorem playerIDs_set_ready {i : Nat} {slot : PlayerSlot} (at_i : b.slots[i]? = some slot) :
    (b.slots.set i { slot with ready }).map (·.playerID) = b.playerIDs := by
  obtain ⟨within, rfl⟩ := List.getElem?_eq_some.mp at_i
  refine List.ext_getElem? fun j => ?_
  by_cases here : i = j
  · subst here; simp [playerIDs, List.getElem?_set, within]
  · simp [playerIDs, List.getElem?_set, here]

/-- One call of the battle's methods, with the wall clock `UpdateSnapshot` may read. -/
inductive Call
  | addPlayer (player : PlayerID) (now : Time)
  | markReady (player : PlayerID) (ready : Bool) (now : Time)
  | updateSnapshot (state : MatchState) (wallClock : Time)
  deriving DecidableEq, Repr

def apply (b : Battle) : Call → Battle
  | .addPlayer player now => (b.addPlayer player now).1
  | .markReady player ready now => (b.markReady player ready now).1
  | .updateSnapshot state wallClock => b.updateSnapshot state wallClock

def run (b : Battle) : List Call → Battle
  | [] => b
  | call :: rest => (b.apply call).run rest

@[simp] theorem run_append (b : Battle) (calls more : List Call) :
    b.run (calls ++ more) = (b.run calls).run more := by
  induction calls generalizing b with
  | nil => rfl
  | cons call rest ih => exact ih _

theorem apply_playerIDs (b : Battle) (call : Call) :
    (b.apply call).playerIDs = b.playerIDs ∨
      ∃ player, player ∉ b.playerIDs ∧ (b.apply call).playerIDs = b.playerIDs ++ [player] := by
  cases call with
  | addPlayer player now =>
    rcases b.addPlayer_cases player now with ⟨-, same⟩ | ⟨absent, added⟩
    · exact .inl (by simp [apply, same])
    · exact .inr ⟨player, absent, by simp [apply, added, playerIDs]⟩
  | markReady player ready now =>
    rcases b.markReady_cases player ready now with ⟨-, same⟩ | ⟨i, slot, at_i, -, marked⟩
    · exact .inl (by simp [apply, same])
    · exact .inl (by simpa [apply, marked, playerIDs] using @playerIDs_set_ready _ ready _ _ at_i)
  | updateSnapshot state wallClock => exact .inl rfl

theorem playerIDs_prefix_apply (b : Battle) (call : Call) :
    b.playerIDs <+: (b.apply call).playerIDs := by
  rcases b.apply_playerIDs call with same | ⟨player, -, added⟩
  · rw [same]
  · rw [added]; exact List.prefix_append _ _

theorem playerIDs_prefix_run (b : Battle) (calls : List Call) :
    b.playerIDs <+: (b.run calls).playerIDs := by
  induction calls generalizing b with
  | nil => exact List.prefix_refl _
  | cons call rest ih => exact (b.playerIDs_prefix_apply call).trans (ih _)

/-- What every call keeps of the slots: one slot per player, and the leader's slot first. -/
structure SlotsValid (leader : PlayerID) (b : Battle) : Prop where
  nodup : b.playerIDs.Nodup
  leaderFirst : b.playerIDs.head? = some leader

theorem SlotsValid.apply {leader : PlayerID} (valid : SlotsValid leader b) (call : Call) :
    SlotsValid leader (b.apply call) := by
  rcases b.apply_playerIDs call with same | ⟨player, absent, added⟩
  · exact ⟨same ▸ valid.nodup, same ▸ valid.leaderFirst⟩
  · rw [← List.concat_eq_append] at added
    refine ⟨added ▸ valid.nodup.concat absent, ?_⟩
    rw [added, List.concat_eq_append, List.head?_append, valid.leaderFirst]
    rfl

theorem SlotsValid.run {leader : PlayerID} (valid : SlotsValid leader b) (calls : List Call) :
    SlotsValid leader (b.run calls) := by
  induction calls generalizing b with
  | nil => exact valid
  | cons call rest ih => exact ih (valid.apply call)

/-- In a battle with one slot per player, the slot `MarkReady` changes is the player's only one. -/
theorem markReady_single_slot {leader : PlayerID} (valid : SlotsValid leader b) (player : PlayerID)
    (ready : Bool) (now : Time) :
    (player ∉ b.playerIDs ∧ b.markReady player ready now = (b, some ErrPlayerNotFound)) ∨
      ∃ i slot, b.slots[i]? = some slot ∧ slot.playerID = player ∧
        (∀ j other, b.slots[j]? = some other → other.playerID = player → j = i) ∧
        b.markReady player ready now =
          ({ b with slots := b.slots.set i { slot with ready }, updatedAt := now }, none) := by
  rcases b.markReady_cases player ready now with refused | ⟨i, slot, at_i, own, marked⟩
  · exact .inl refused
  · refine .inr ⟨i, slot, at_i, own, fun j other at_j other_own => ?_, marked⟩
    have id_i : b.playerIDs[i]? = some player := by simp [playerIDs, at_i, own]
    have id_j : b.playerIDs[j]? = some player := by simp [playerIDs, at_j, other_own]
    exact List.getElem?_inj (List.getElem?_eq_some.mp id_j).1 valid.nodup (id_j.trans id_i.symm)

end Battle

theorem newBattle_slotsValid {id : BattleID} {leader : PlayerID} {key : IdempotencyKey}
    {now : Time} {b : Battle} (made : newBattle id leader key now = .ok b) :
    b.SlotsValid leader := by
  revert made
  unfold newBattle
  cases id.validate <;> cases leader.validate <;> cases key.validate <;> rintro ⟨⟩
  exact ⟨List.nodup_singleton _, rfl⟩

/-- For a battle `NewBattle` made and any calls of `AddPlayer`, `MarkReady` and
`UpdateSnapshot`: no two slots share a player, the leader's slot stays first, later calls only
append player ids, `AddPlayer` is refused with `ErrPlayerAlreadyJoined` and changes nothing exactly
when the player has a slot, and `MarkReady` either is refused with `ErrPlayerNotFound` and changes
nothing or sets `ready` in the player's one slot. -/
theorem newBattle_run_slots {id : BattleID} {leader : PlayerID} {key : IdempotencyKey}
    {now : Time} {b₀ : Battle} (made : newBattle id leader key now = .ok b₀)
    (calls : List Battle.Call) :
    (b₀.run calls).playerIDs.Nodup ∧ (b₀.run calls).playerIDs.head? = some leader ∧
      (∀ more, (b₀.run calls).playerIDs <+: ((b₀.run calls).run more).playerIDs) ∧
      (∀ player later, (b₀.run calls).addPlayer player later =
          (b₀.run calls, some ErrPlayerAlreadyJoined) ↔ player ∈ (b₀.run calls).playerIDs) ∧
      ∀ player ready later,
        (player ∉ (b₀.run calls).playerIDs ∧
            (b₀.run calls).markReady player ready later =
              (b₀.run calls, some ErrPlayerNotFound)) ∨
          ∃ i slot, (b₀.run calls).slots[i]? = some slot ∧ slot.playerID = player ∧
            (∀ j other, (b₀.run calls).slots[j]? = some other → other.playerID = player → j = i) ∧
            (b₀.run calls).markReady player ready later =
              ({ b₀.run calls with
                  slots := (b₀.run calls).slots.set i { slot with ready }, updatedAt := later },
                none) := by
  have valid := (newBattle_slotsValid made).run calls
  exact ⟨valid.nodup, valid.leaderFirst, (b₀.run calls).playerIDs_prefix_run,
    (b₀.run calls).addPlayer_refused_iff, Battle.markReady_single_slot valid⟩

theorem newBattle_run_slots_duel :
    ∃ b₀, newBattle "b1" "p1" "k1" ⟨1⟩ = .ok b₀ ∧
      (b₀.run [.addPlayer "p2" ⟨2⟩]).playerIDs.Nodup ∧
      (b₀.run [.addPlayer "p2" ⟨2⟩]).playerIDs.head? = some "p1" ∧
      (∀ more, (b₀.run [.addPlayer "p2" ⟨2⟩]).playerIDs <+:
        ((b₀.run [.addPlayer "p2" ⟨2⟩]).run more).playerIDs) ∧
      (∀ player later, (b₀.run [.addPlayer "p2" ⟨2⟩]).addPlayer player later =
          (b₀.run [.addPlayer "p2" ⟨2⟩], some ErrPlayerAlreadyJoined) ↔
        player ∈ (b₀.run [.addPlayer "p2" ⟨2⟩]).playerIDs) ∧
      ∀ player ready later,
        (player ∉ (b₀.run [.addPlayer "p2" ⟨2⟩]).playerIDs ∧
            (b₀.run [.addPlayer "p2" ⟨2⟩]).markReady player ready later =
              (b₀.run [.addPlayer "p2" ⟨2⟩], some ErrPlayerNotFound)) ∨
          ∃ i slot, (b₀.run [.addPlayer "p2" ⟨2⟩]).slots[i]? = some slot ∧
            slot.playerID = player ∧
            (∀ j other, (b₀.run [.addPlayer "p2" ⟨2⟩]).slots[j]? = some other →
              other.playerID = player → j = i) ∧
            (b₀.run [.addPlayer "p2" ⟨2⟩]).markReady player ready later =
              ({ b₀.run [.addPlayer "p2" ⟨2⟩] with
                  slots := (b₀.run [.addPlayer "p2" ⟨2⟩]).slots.set i { slot with ready },
                  updatedAt := later },
                none) :=
  ⟨_, rfl, newBattle_run_slots (show newBattle "b1" "p1" "k1" ⟨1⟩ = _ from rfl) _⟩

end Sandai
