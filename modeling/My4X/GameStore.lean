/-
**The store of games.**

The table of saved games is a store: under each identifier, as far as its first null character, it
holds the state that was saved last and not deleted since.  Loading gives that state back, if it is
one that the format can name, or says that there is none; what is done under one identifier does not
touch the others, and a save that fails touches nothing.  The database itself is taken as a table
with one row for each identifier.

Main definitions:

* `My4X.GamePersistence.loadGame` — loading a game;
* `My4X.SavedStates`, `My4X.PersistenceOp.keep` — the states by the history of calls;
* `My4X.Holds` — the rows hold the states.

Main results:

* `My4X.Holds.apply` — one call;
* `My4X.loadGame_after_run` — **after every run of calls each game is loaded as it was saved last**.
-/

import My4X.GamePersistence
import My4X.Resaving

set_option relaxedAutoImplicit false
set_option autoImplicit false

namespace My4X

/-! ### Loading -/

/-- **Loading a game.**  The messages name the whole identifier, which is looked up as far as its
first null character. -/
def GamePersistence.loadGame (codec : Codec) (draws : ℕ → TerrainType) (db : GamePersistence)
    (gameId : String) : Except Fault GameState :=
  match db.games.lookup (cString gameId) with
  | none => .error (.runtimeError ("Game not found: " ++ gameId))
  | some row =>
      if row.stateBlob = [] then
        .error (.runtimeError ("Empty or null blob for game: " ++ gameId))
      else deserializeGameState codec draws row.stateBlob

/-! ### The store -/

/-- The states that are saved, by their identifiers. -/
abbrev SavedStates := String → Option GameState

/-- **The saved states after a call.** -/
def PersistenceOp.keep (codec : Codec) (saved : SavedStates) : PersistenceOp → SavedStates
  | .saveGame gameId _ state _ =>
      match serializeGameState codec state with
      | .ok _ => Function.update saved (cString gameId) (some state)
      | .error _ => saved
  | .deleteGame gameId => Function.update saved (cString gameId) none
  | .listGames => saved

/-- A call that saves a state which the format can name, or deletes a game.  Listing the games is
left aside: what it does depends on which of the two structures `GameSummary` the linker takes. -/
def PersistenceOp.SavesSavable : PersistenceOp → Prop
  | .saveGame _ _ state _ => Savable state
  | .deleteGame _ => True
  | .listGames => False

/-- A state is held by a row: as what it is serialized to. -/
def HeldBy (codec : Codec) (row : Option GameRow) (state : Option GameState) : Prop :=
  match state with
  | none => row = none
  | some s => Savable s ∧ ∃ r, row = some r ∧ serializeGameState codec s = .ok r.stateBlob

/-- **The rows hold the saved states.** -/
def Holds (codec : Codec) (db : GamePersistence) (saved : SavedStates) : Prop :=
  ∀ id, HeldBy codec (db.games.lookup id) (saved id)

variable {codec : Codec} {db : GamePersistence} {saved : SavedStates}

/-- **One call**: the rows go on holding the saved states. -/
theorem Holds.apply (h : Holds codec db saved) {op : PersistenceOp} (hop : op.SavesSavable) :
    Holds codec (op.apply codec db) (op.keep codec saved) := by
  cases op with
  | saveGame gameId gameName state now =>
      cases hdata : serializeGameState codec state with
      | error e =>
          rw [PersistenceOp.apply_saveGame_error hdata]
          simp only [PersistenceOp.keep, hdata]
          exact h
      | ok data =>
          rw [PersistenceOp.apply_saveGame_ok hdata]
          simp only [PersistenceOp.keep, hdata]
          intro id
          rw [Association.lookup_insert, Function.update_apply]
          split
          · exact ⟨hop, _, rfl, hdata⟩
          · exact h id
  | deleteGame gameId =>
      intro id
      rw [PersistenceOp.apply, PersistenceOp.keep, GamePersistence.deleteGame,
        Association.lookup_erase, Function.update_apply]
      split
      · rfl
      · exact h id
  | listGames => exact False.elim hop

/-- **What is loaded is what is held.** -/
theorem Holds.loadGame (hcodec : codec.Exact) (h : Holds codec db saved) (draws : ℕ → TerrainType)
    (gameId : String) :
    (saved (cString gameId) = none →
      db.loadGame codec draws gameId = .error (.runtimeError ("Game not found: " ++ gameId))) ∧
    ∀ s, saved (cString gameId) = some s → ∃ t, db.loadGame codec draws gameId = .ok t ∧
      Restored s t ∧ serializeGameState codec t = serializeGameState codec s := by
  have hrow := h (cString gameId)
  refine ⟨fun hnone => ?_, fun s hs => ?_⟩
  · rw [hnone] at hrow
    rw [GamePersistence.loadGame, show db.games.lookup (cString gameId) = none from hrow]
  · rw [hs] at hrow
    obtain ⟨hsavable, row, hlookup, hdata⟩ := hrow
    obtain ⟨t, ht, hrestored, -⟩ := hsavable.reloaded hcodec hdata draws
    refine ⟨t, ?_, hrestored, ?_⟩
    · rw [GamePersistence.loadGame, hlookup]
      dsimp only
      rw [if_neg (hsavable.serialize_ne_nil hcodec hdata)]
      exact ht
    · rw [serializeGameState, serializeGameState, toMessage_of_restored hrestored]

/-! ### Runs -/

/-- A call as a step of a run, with the saved states as its record. -/
def storeStep (codec : Codec) : GamePersistence × SavedStates → PersistenceOp →
    Option (GamePersistence × SavedStates) :=
  Runs.recorded (fun db op => some (op.apply codec db)) fun _ saved op => op.keep codec saved

/-- **After every run of calls each game is loaded as it was saved last**, and is saved again as the
same bytes; a game that was not saved, or was deleted since, is not found. -/
theorem loadGame_after_run (hcodec : codec.Exact) {ops : List PersistenceOp}
    (hops : ∀ op ∈ ops, op.SavesSavable) {x : GamePersistence × SavedStates}
    (hrun : Runs.run (storeStep codec) ({}, fun _ => none) ops = some x) (draws : ℕ → TerrainType)
    (gameId : String) :
    (x.2 (cString gameId) = none →
      x.1.loadGame codec draws gameId = .error (.runtimeError ("Game not found: " ++ gameId))) ∧
    ∀ s, x.2 (cString gameId) = some s → ∃ t, x.1.loadGame codec draws gameId = .ok t ∧
      Restored s t ∧ serializeGameState codec t = serializeGameState codec s := by
  have hheld : Holds codec x.1 x.2 := by
    have hempty : Holds codec {} fun _ => none := fun id => rfl
    refine Runs.run_invariant (P := fun _ op => PersistenceOp.SavesSavable op)
      (I := fun x : GamePersistence × SavedStates => Holds codec x.1 x.2)
      (fun y op z hy hop hstep => ?_)
      ops _ _ hempty (Runs.along_of_mem ops _ hops) hrun
    obtain ⟨hdb, hsaved⟩ := (Runs.recorded_eq_some _ _).1 hstep
    rw [← Option.some_inj.1 hdb, hsaved]
    exact hy.apply hop
  exact hheld.loadGame hcodec draws gameId

/-- The hamlet is saved under two identifiers, and one of the games is deleted. -/
def twoSaves : List PersistenceOp :=
  [.saveGame "game1" "First" hamlet "2024-05-01T10:00:00Z",
    .saveGame "game2" "Second" hamlet "2024-05-01T11:00:00Z", .deleteGame "game2"]

theorem twoSaves_loaded : ∃ x,
    Runs.run (storeStep hamletCodec) ({}, fun _ => none) twoSaves = some x ∧
    (x.2 (cString "game1") = none → x.1.loadGame hamletCodec (fun _ => .water) "game1" =
      .error (.runtimeError ("Game not found: " ++ "game1"))) ∧
    ∀ s, x.2 (cString "game1") = some s →
      ∃ t, x.1.loadGame hamletCodec (fun _ => .water) "game1" = .ok t ∧ Restored s t ∧
        serializeGameState hamletCodec t = serializeGameState hamletCodec s := by
  have hsavable : Savable hamlet := by
    refine ⟨by decide, fun c hc item hitem _ => ?_, fun c hc => ?_⟩
    · obtain rfl := List.mem_singleton.1 hc
      obtain rfl := List.mem_singleton.1 hitem
      exact ⟨makeFarm, by simp [builtinFactories], rfl, rfl⟩
    · obtain rfl := List.mem_singleton.1 hc
      decide
  have hops : ∀ op ∈ twoSaves, op.SavesSavable := by
    simp only [twoSaves, List.forall_mem_cons]
    exact ⟨hsavable, hsavable, trivial, fun op hop => by cases hop⟩
  obtain ⟨x, hx⟩ : ∃ x, Runs.run (storeStep hamletCodec) ({}, fun _ => none) twoSaves = some x :=
    ⟨_, rfl⟩
  exact ⟨x, hx, loadGame_after_run hamletCodec_exact hops hx (fun _ => .water) "game1"⟩

end My4X
