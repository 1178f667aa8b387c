import Sandai.Service.Tournaments

/-! The in-memory repositories of `infra/tournament`, and `tournaments.Service` run against them.

The Go repositories store pointers, and `AddAttempt` changes the participant it got before
saving it. The memory repositories never fail, so saving the changed value, as here, leaves
the same contents as the Go program does.

`MemoryRepository` is a Go map, which `range` visits in an unspecified order, chosen anew on
each call; its model keeps the tournaments in a list and `List` visits them in that order, one
of the orders Go may use. `paginate` takes the visiting order as given, for a call that visits
them in another.
-/

set_option autoImplicit false

namespace Sandai

/-- `makeKey`: the participant map's key for a pair. -/
def makeKey (tournamentID : TournamentID) (playerID : PlayerID) : String :=
  tournamentID ++ ":" ++ playerID

private theorem prefix_eq_of_append_colon {l l' r r' : List Char} (free : ':' ∉ l)
    (free' : ':' ∉ l') (same : l ++ ':' :: r = l' ++ ':' :: r') : l = l' ∧ r = r' := by
  induction l generalizing l' with
  | nil =>
    cases l' with
    | nil => simpa using same
    | cons b l' => simp at same; simp [← same.1] at free'
  | cons a l ih =>
    cases l' with
    | nil => simp at same; simp [same.1] at free
    | cons b l' =>
      simp only [List.cons_append, List.cons.injEq] at same
      obtain ⟨rfl, rest⟩ := same
      obtain ⟨rfl, rfl⟩ :=
        ih (List.not_mem_of_not_mem_cons free) (List.not_mem_of_not_mem_cons free') rest
      exact ⟨rfl, rfl⟩

/-- Tournament ids without `:` make `makeKey` injective. -/
theorem makeKey_inj {t t' : TournamentID} {p p' : PlayerID} (free : ':' ∉ t.toList)
    (free' : ':' ∉ t'.toList) (same : makeKey t p = makeKey t' p') : t = t' ∧ p = p' := by
  have joined := congrArg String.data same
  simp only [makeKey, String.data_append, List.append_assoc] at joined
  obtain ⟨sameT, sameP⟩ := prefix_eq_of_append_colon free free' joined
  exact ⟨String.ext sameT, String.ext sameP⟩

/-- `MemoryParticipantRepository`: participants by `makeKey` of their pair. -/
structure MemoryParticipantRepository where
  participants : String → Option Participant

namespace MemoryParticipantRepository

def empty : MemoryParticipantRepository := ⟨fun _ => none⟩

/-- `Save`: stores `p` under the key of its own pair. -/
def save (r : MemoryParticipantRepository) (p : Participant) : MemoryParticipantRepository :=
  ⟨Function.update r.participants (makeKey p.tournamentID p.playerID) (some p)⟩

/-- `Get`: the participant stored under the key of the pair. -/
def get (r : MemoryParticipantRepository) (tournamentID : TournamentID) (playerID : PlayerID) :
    Except GoError Participant :=
  match r.participants (makeKey tournamentID playerID) with
  | some p => .ok p
  | none => .error ErrParticipantNotFound

theorem get_save_of_colon_free (r : MemoryParticipantRepository) (q : Participant)
    {t : TournamentID} (p : PlayerID) (free : ':' ∉ t.toList)
    (free' : ':' ∉ q.tournamentID.toList) :
    (r.save q).get t p = if (q.tournamentID, q.playerID) = (t, p) then .ok q else r.get t p := by
  unfold get save
  by_cases same : (q.tournamentID, q.playerID) = (t, p)
  · obtain ⟨rfl, rfl⟩ := Prod.mk.inj same
    simp
  · have other : makeKey t p ≠ makeKey q.tournamentID q.playerID := fun key => by
      obtain ⟨rfl, rfl⟩ := makeKey_inj free free' key
      exact same rfl
    simp only [same, if_false, Function.update_noteq other]

end MemoryParticipantRepository

/-- `MemoryRepository`: the tournaments, by id, in the order `List` visits them. -/
structure MemoryRepository where
  entries : List Tournament

namespace MemoryRepository

def empty : MemoryRepository := ⟨[]⟩

/-- `Save`: replaces the tournament with the same id, or adds it. -/
def save (r : MemoryRepository) (t : Tournament) : MemoryRepository :=
  if r.entries.any (·.id = t.id) then ⟨r.entries.map fun u => if u.id = t.id then t else u⟩
  else ⟨r.entries ++ [t]⟩

def get (r : MemoryRepository) (id : TournamentID) : Except GoError Tournament :=
  match r.entries.find? (·.id = id) with
  | some t => .ok t
  | none => .error ErrTournamentNotFound

def delete (r : MemoryRepository) (id : TournamentID) : MemoryRepository :=
  ⟨r.entries.filter (·.id ≠ id)⟩

/-- The pagination `List` applies to the tournaments in the order its `range` visited them:
`end := start + limit` is Go `int` arithmetic, and the slice expression panics when its bounds
are out of order. -/
def paginate (visited : List Tournament) (limit offset : Int) : Except GoError (List Tournament) :=
  let count : Int := visited.length
  if offset > count then .ok [] else
  let stop := min (toInt64 (offset + limit)) count
  if offset < 0 ∨ stop < offset then .error (.panic "slice bounds out of range")
  else .ok ((visited.drop offset.toNat).take (stop - offset).toNat)

theorem paginate_of_small (visited : List Tournament) {limit offset : Int} (positive : 0 < limit)
    (start : 0 ≤ offset) (small : offset + limit < 2 ^ 63) :
    paginate visited limit offset = .ok ((visited.drop offset.toNat).take limit.toNat) := by
  have fits := toInt64_of_range (by omega) small
  unfold paginate
  dsimp only
  rw [fits]
  split_ifs with past bad
  · rw [List.drop_of_length_le (by omega), List.take_nil]
  · omega
  · by_cases within : offset + limit ≤ visited.length
    · rw [min_eq_left within, add_sub_cancel_left]
    · rw [min_eq_right (by omega), List.take_of_length_le (by simp; omega),
        List.take_of_length_le (by simp; omega)]

theorem flatten_pages (visited : List Tournament) (L k : Nat) :
    ((List.range k).map fun i => (visited.drop (i * L)).take L).flatten = visited.take (k * L) := by
  induction k with
  | zero => simp
  | succ k ih =>
    rw [List.range_succ, List.map_append, List.flatten_append, ih, Nat.succ_mul, List.take_add]
    simp

/-- With one visiting order for every call and no overflow of `count + L`, the pages
`List(L, 0)`, `List(L, L)`, ..., `List(L, (k - 1) * L)` all succeed, and once `k * L` reaches the
count they concatenate to the visiting order: every tournament exactly once. -/
theorem paginate_pages_cover (visited : List Tournament) {L : Int} (positive : 0 < L)
    (small : visited.length + L < 2 ^ 63) {k : Nat} (covers : visited.length ≤ k * L.toNat) :
    ((List.range k).mapM fun i : Nat => paginate visited L ((i : Int) * L)).map List.flatten =
      .ok visited := by
  have page : ∀ i : Nat,
      paginate visited L ((i : Int) * L) = .ok ((visited.drop (i * L.toNat)).take L.toNat) := by
    intro i
    have scaled : ((i * L.toNat : Nat) : Int) = i * L := by
      rw [Nat.cast_mul, Int.toNat_of_nonneg positive.le]
    by_cases past : (visited.length : Int) < i * L
    · unfold paginate
      rw [if_pos past, List.drop_of_length_le (by omega), List.take_nil]
    · rw [paginate_of_small _ positive (by rw [← scaled]; omega) (by omega), ← scaled,
        Int.toNat_ofNat]
  have pages : ∀ l : List Nat, (l.mapM fun i : Nat => paginate visited L ((i : Int) * L)) =
      .ok (l.map fun i => (visited.drop (i * L.toNat)).take L.toNat) := by
    intro l
    induction l with
    | nil => rfl
    | cons i rest ih => rw [List.mapM_cons, page, ih]; rfl
  rw [pages]
  show Except.ok _ = _
  rw [flatten_pages, List.take_of_length_le covers]

end MemoryRepository

def otherCup : Tournament := { cupTournament with id := "t2" }

theorem paginate_pages_cover_pair :
    (0 : Int) < 1 ∧ ([cupTournament, otherCup].length : Int) + 1 < 2 ^ 63 ∧
      [cupTournament, otherCup].length ≤ 2 * (1 : Int).toNat ∧
      ((List.range 2).mapM fun i : Nat =>
          MemoryRepository.paginate [cupTournament, otherCup] 1 ((i : Int) * 1)).map List.flatten =
        .ok [cupTournament, otherCup] :=
  ⟨by decide, by decide, by decide,
    MemoryRepository.paginate_pages_cover _ (by decide) (by decide) (by decide)⟩

namespace MemoryRepository

/-- `List(limit, offset)`, visiting the tournaments in the order the model keeps them. -/
def list (r : MemoryRepository) (limit offset : Int) : Except GoError (List Tournament) :=
  paginate r.entries limit offset

def toMap (r : MemoryRepository) (id : TournamentID) : Option Tournament :=
  r.entries.find? (·.id = id)

theorem toMap_save (r : MemoryRepository) (t : Tournament) :
    (r.save t).toMap = Function.update r.toMap t.id (some t) := by
  funext id
  unfold save toMap
  split_ifs with present
  · have sameId : ∀ u : Tournament, (if u.id = t.id then t else u).id = u.id := fun u => by
      split_ifs with h <;> simp [h]
    simp only [List.find?_map, Function.comp_def, sameId]
    by_cases same : id = t.id
    · subst same
      obtain ⟨u, found⟩ : ∃ u, r.entries.find? (·.id = t.id) = some u :=
        Option.isSome_iff_exists.mp (List.find?_isSome.mpr (List.any_eq_true.mp present))
      have : u.id = t.id := by simpa using List.find?_some found
      simp [found, this]
    · simp only [Function.update_noteq same]
      cases found : r.entries.find? (·.id = id) with
      | none => rfl
      | some u =>
        have : u.id = id := by simpa using List.find?_some found
        simp [this, same]
  · by_cases same : id = t.id
    · subst same
      have : r.entries.find? (·.id = t.id) = none := by simpa using present
      simp [List.find?_append, this]
    · simp [List.find?_append, Function.update_noteq same, Ne.symm same]

theorem toMap_delete (r : MemoryRepository) (id : TournamentID) :
    (r.delete id).toMap = Function.update r.toMap id none := by
  funext id'
  unfold delete toMap
  by_cases same : id' = id
  · subst same; simp
  · rw [Function.update_noteq same, List.find?_filter]
    congr 1; funext u
    by_cases h : u.id = id' <;> simp [h, same]

theorem nodup_save (r : MemoryRepository) (t : Tournament)
    (unique : (r.entries.map (·.id)).Nodup) : ((r.save t).entries.map (·.id)).Nodup := by
  unfold save
  split_ifs with present
  · have sameIds : (r.entries.map fun u => if u.id = t.id then t else u).map (·.id) =
        r.entries.map (·.id) := by
      simp only [List.map_map]
      congr 1; funext u
      by_cases h : u.id = t.id <;> simp [h]
    rw [sameIds]; exact unique
  · simp only [List.any_eq_true, decide_eq_true_eq, not_exists, not_and] at present
    simpa [List.nodup_append, unique] using present

theorem nodup_delete (r : MemoryRepository) (id : TournamentID)
    (unique : (r.entries.map (·.id)).Nodup) : ((r.delete id).entries.map (·.id)).Nodup :=
  List.Nodup.sublist ((List.filter_sublist _).map _) unique

theorem toMap_of_mem {r : MemoryRepository} (unique : (r.entries.map (·.id)).Nodup)
    {t : Tournament} (mem : t ∈ r.entries) : r.toMap t.id = some t := by
  obtain ⟨u, found⟩ : ∃ u, r.toMap t.id = some u :=
    Option.isSome_iff_exists.mp (List.find?_isSome.mpr ⟨t, mem, by simp⟩)
  have same := List.inj_on_of_nodup_map unique (List.mem_of_find?_eq_some found) mem
    (by simpa using List.find?_some found)
  rw [found, same]

theorem mem_of_list {r : MemoryRepository} {limit offset : Int} {page : List Tournament}
    (listed : r.list limit offset = .ok page) {t : Tournament} (mem : t ∈ page) :
    t ∈ r.entries := by
  dsimp only [list, paginate] at listed
  split_ifs at listed
  · cases listed; cases mem
  · cases listed; exact List.mem_of_mem_drop (List.mem_of_mem_take mem)

end MemoryRepository

/-- The provider calls of `tournaments.Service`. -/
inductive ProviderOp where
  | createTournament (params : CreateTournamentParams)
  | deleteTournament (id : TournamentID)
  | addAttempt (tournamentID : TournamentID) (playerID : PlayerID) (count : Int)
  deriving DecidableEq

def Provider : Signature := ⟨ProviderOp, fun _ => Option GoError⟩

/-- The repositories `NewTournamentServiceAdapter` creates. -/
structure MemoryStores where
  tournaments : MemoryRepository
  participants : MemoryParticipantRepository

def MemoryStores.empty : MemoryStores := ⟨.empty, .empty⟩

namespace TournamentService

/-- A service method run with its repositories in memory: what remains are its provider calls,
and it returns the method's value with the repositories after the call. -/
def withMemory {A : Type} : Proc Tournaments A → MemoryStores → Proc Provider (A × MemoryStores)
  | .done a, m => .done (a, m)
  | .call (.save t) next, m => withMemory (next none) { m with tournaments := m.tournaments.save t }
  | .call (.get id) next, m => withMemory (next (m.tournaments.get id)) m
  | .call (.delete id) next, m => withMemory (next none) { m with tournaments := m.tournaments.delete id }
  | .call (.list limit offset) next, m => withMemory (next (m.tournaments.list limit offset)) m
  | .call (.getParticipant t p) next, m => withMemory (next (m.participants.get t p)) m
  | .call (.saveParticipant p) next, m =>
    withMemory (next none) { m with participants := m.participants.save p }
  | .call (.createTournament params) next, m =>
    .call (.createTournament params) fun r => withMemory (next r) m
  | .call (.deleteTournament id) next, m =>
    .call (.deleteTournament id) fun r => withMemory (next r) m
  | .call (.addAttempt t p count) next, m =>
    .call (.addAttempt t p count) fun r => withMemory (next r) m

/-- The repositories after `AddAttempt` commands run one after another from `stores`, the
provider accepting every call. -/
def addAttempts (now : Time) (stores : MemoryStores) : List AddAttemptCommand → MemoryStores
  | [] => stores
  | cmd :: rest =>
    addAttempts now ((withMemory (addAttempt now cmd) stores).exec fun _ => none).2 rest

end TournamentService


/-- Two stored tournaments, pages of one: the first call visits `t1` first and the second call
visits `t2` first, so `List(1, 0)` and `List(1, 1)` both return `t1`, and `List(1, 2)`, past the
end, returns nothing. -/
theorem offset_pages_repeat_t1 :
    [otherCup, cupTournament].Perm [cupTournament, otherCup] ∧
      MemoryRepository.paginate [cupTournament, otherCup] 1 0 = .ok [cupTournament] ∧
      MemoryRepository.paginate [otherCup, cupTournament] 1 1 = .ok [cupTournament] ∧
      MemoryRepository.paginate [otherCup, cupTournament] 1 2 = .ok [] :=
  ⟨.swap _ _ _, rfl, rfl, rfl⟩

/-- One stored tournament, offset 1 and limit `2^63 - 1`, which the service keeps: `offset + limit`
wraps to `-2^63`, and the slice expression panics. -/
theorem listTournaments_wrapped_end_panics :
    TournamentService.withMemory (TournamentService.listTournaments (2 ^ 63 - 1) 1)
        ⟨⟨[cupTournament]⟩, .empty⟩ =
      .done (.error (.panic "slice bounds out of range"), ⟨⟨[cupTournament]⟩, .empty⟩) :=
  rfl

/-- When the defaulted `offset + limit` does not overflow, `ListTournaments` on the in-memory
repository returns without a panic, changes no store, and returns the page of the tournaments from
`offset'` on in the visiting order: `min limit' (max 0 (n - offset'))` of them. -/
theorem listTournaments_page (m : MemoryStores) (limit offset : Int)
    (small : (if offset < 0 then 0 else offset) + (if limit ≤ 0 then 10 else limit) < 2 ^ 63) :
    TournamentService.withMemory (TournamentService.listTournaments limit offset) m =
        .done (.ok ((m.tournaments.entries.drop (if offset < 0 then 0 else offset).toNat).take
          (if limit ≤ 0 then 10 else limit).toNat), m) ∧
      (((m.tournaments.entries.drop (if offset < 0 then 0 else offset).toNat).take
          (if limit ≤ 0 then 10 else limit).toNat).length : Int) =
        min (if limit ≤ 0 then 10 else limit)
          (max 0 (m.tournaments.entries.length - (if offset < 0 then 0 else offset))) := by
  have positive : 0 < (if limit ≤ 0 then 10 else limit) := by split_ifs <;> omega
  have start : 0 ≤ (if offset < 0 then 0 else offset) := by split_ifs <;> omega
  refine ⟨?_, ?_⟩
  · simp only [TournamentService.listTournaments, TournamentService.withMemory,
      MemoryRepository.list, MemoryRepository.paginate_of_small _ positive start small]
  · simp only [List.length_take, List.length_drop]
    omega

theorem listTournaments_page_defaults :
    (0 : Int) + 10 < 2 ^ 63 ∧
      TournamentService.withMemory (TournamentService.listTournaments 0 (-1))
          ⟨⟨[cupTournament, otherCup]⟩, .empty⟩ =
        .done (.ok [cupTournament, otherCup], ⟨⟨[cupTournament, otherCup]⟩, .empty⟩) ∧
      ([cupTournament, otherCup].length : Int) = min 10 (max 0 (2 - 0)) :=
  ⟨by decide, listTournaments_page ⟨⟨[cupTournament, otherCup]⟩, .empty⟩ 0 (-1) (by decide)⟩

/-- `makeKey` joins the ids with `:`, which the ids may contain: the pairs `("a:b", "c")` and
`("a", "b:c")` share a key, so the second pair's `AddAttempt` finds and updates the first pair's
participant, and `Get` of the second pair returns it. -/
theorem addAttempts_pairs_share_key :
    (TournamentService.addAttempts ⟨1⟩ .empty
        [⟨"a:b", "c", 1⟩, ⟨"a", "b:c", 1⟩]).participants.get "a" "b:c" =
      .ok { tournamentID := "a:b", playerID := "c", attempts := 2, joinedAt := ⟨1⟩,
            updatedAt := ⟨1⟩ } := by
  rfl

end Sandai
