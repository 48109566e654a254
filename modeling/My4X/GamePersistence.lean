/-
**Saved games.**

Games are saved as the rows of a table, one for each identifier.  Saving under an identifier
replaces its row, and the new row has the time of the save both as the time it was created and as
the time it was updated.  Texts are bound up to their first null character.  The list of saved games
is what the history of calls says as long as no game is saved again at another time and no text has
a null character in it.

The headers of the lobby and of the saved games define two different structs under the one name
`game::GameSummary`, and both are compiled into the same library.  The linker keeps one copy of the
code of a vector of them: if it is the one for the lobby, a list with a row in it is built by code
for a struct of another size, and what comes out is not defined.

Main definitions:

* `My4X.GamePersistence`, `My4X.GamePersistence.saveGame`, `My4X.GamePersistence.deleteGame` — the
  table of saved games and its updates;
* `My4X.GamePersistence.ListsGames`, `My4X.GamePersistence.Returns` — what the query lists, and what
  listing the games may return;
* `My4X.Catalogue`, `My4X.PersistenceOp.record` — the saved games by the history of calls;
* `My4X.Catalogued` — a list of summaries is the catalogue, the latest update first;
* `My4X.PersistenceOp.Keeps` — a call that the table follows.

Main results:

* `My4X.GamePersistence.exists_listsGames` — the games can be listed;
* `My4X.catalogued_iff` — every list is the catalogue exactly when the rows are and can be listed;
* `My4X.PersistenceOp.represents_iff` — one call;
* `My4X.catalogue_kept_iff` — **after every call the list is the catalogue exactly when every call
  is one that the table follows**.
-/

import My4X.RoundTrip
import My4X.Lib.Association
import My4X.Lib.Runs
import Mathlib.Data.List.Dedup
import Mathlib.Data.List.TakeWhile
import Mathlib.Data.String.Basic
import Mathlib.Logic.Function.Basic

set_option relaxedAutoImplicit false
set_option autoImplicit false

namespace My4X

/-! ### Texts -/

/-- A text without a null character. -/
def NulFree (text : String) : Prop := ∀ c ∈ text.toList, c ≠ Char.ofNat 0

instance (text : String) : Decidable (NulFree text) :=
  List.decidableBAll (fun c => c ≠ Char.ofNat 0) text.toList

/-- A text up to its first null character: what is bound of `text.c_str()`. -/
def cString (text : String) : String :=
  String.ofList (text.toList.takeWhile (· ≠ Char.ofNat 0))

theorem nulFree_cString (text : String) : NulFree (cString text) := by
  intro c hc
  rw [cString, String.toList_ofList] at hc
  simpa using List.mem_takeWhile_imp hc

theorem cString_eq_self_iff {text : String} : cString text = text ↔ NulFree text := by
  constructor
  · intro h
    rw [← h]
    exact nulFree_cString text
  · intro h
    have htake : text.toList.takeWhile (· ≠ Char.ofNat 0) = text.toList :=
      List.takeWhile_eq_self_iff.2 fun c hc => by simpa using h c hc
    rw [cString, htake, String.ofList_toList]

/-! ### The table -/

/-- What is listed of a saved game. -/
structure GameSummary where
  id : String
  name : String
  turn : ℤ
  playerCount : ℤ
  createdAt : String
  updatedAt : String
  deriving DecidableEq

/-- A row of the table, without its identifier. -/
structure GameRow where
  name : String
  turn : ℤ
  playerCount : ℤ
  createdAt : String
  updatedAt : String
  stateBlob : List UInt8
  deriving DecidableEq

def GameRow.summary (row : GameRow) (id : String) : GameSummary where
  id := id
  name := row.name
  turn := row.turn
  playerCount := row.playerCount
  createdAt := row.createdAt
  updatedAt := row.updatedAt

/-- The table of saved games, whose primary key is the identifier. -/
structure GamePersistence where
  games : AList fun _ : String => GameRow := ∅

/-- How many factions have units or cities. -/
def countPlayers (state : GameState) : ℤ :=
  ((state.units.list.map fun p => p.unit.factionId) ++
    state.cities.map fun city => city.factionId.toUInt32).dedup.length

namespace GamePersistence

/-- **Saving a game**, `INSERT OR REPLACE` with the current time as both times.  A time has no null
character. -/
def saveGame (codec : Codec) (db : GamePersistence) (gameId gameName : String) (state : GameState)
    (now : String) : Except Fault GamePersistence := do
  let blob ← serializeGameState codec state
  let row : GameRow :=
    { name := cString gameName
      turn := state.turn
      playerCount := countPlayers state
      createdAt := now
      updatedAt := now
      stateBlob := blob }
  return { games := db.games.insert (cString gameId) row }

/-- **Deleting a game**; nothing happens if there is none. -/
def deleteGame (db : GamePersistence) (gameId : String) : GamePersistence where
  games := db.games.erase (cString gameId)

/-- The summaries of the rows. -/
def summaries (db : GamePersistence) : List GameSummary :=
  db.games.entries.map fun e => e.2.summary e.1

/-- **What the query lists**, `ORDER BY updated_at DESC`: the rows in an order in which no row was
updated before the next one. -/
structure ListsGames (db : GamePersistence) (result : List GameSummary) : Prop where
  perm : result.Perm db.summaries
  ordered : result.Pairwise fun a b => b.updatedAt ≤ a.updatedAt

/-- The struct named `game::GameSummary` for which the linked code of a vector is: that of the saved
games or that of the lobby. -/
inductive LinkedSummary
  | savedGames
  | lobby
  deriving DecidableEq

/-- **What listing the games may return**: what the query lists, but anything at all where there is
a row and the linked code is for the struct of the lobby. -/
def Returns (linked : LinkedSummary) (db : GamePersistence) (result : List GameSummary) : Prop :=
  db.ListsGames result ∨ linked = .lobby ∧ db.summaries ≠ []

/-- The games can be listed. -/
theorem exists_listsGames (db : GamePersistence) : ∃ result, db.ListsGames result := by
  let le := fun a b : GameSummary => decide (b.updatedAt ≤ a.updatedAt)
  refine ⟨db.summaries.mergeSort le, List.mergeSort_perm _ _, ?_⟩
  have hsorted : (db.summaries.mergeSort le).Pairwise fun a b => le a b = true := by
    refine List.pairwise_mergeSort (fun a b c hab hbc => ?_) (fun a b => ?_) _
    · exact decide_eq_true ((of_decide_eq_true hbc).trans (of_decide_eq_true hab))
    · rw [Bool.or_eq_true]
      exact (le_total b.updatedAt a.updatedAt).imp decide_eq_true decide_eq_true
  exact hsorted.imp fun h => of_decide_eq_true h

/-- The summary of the row of an identifier. -/
def find (db : GamePersistence) (id : String) : Option GameSummary :=
  (db.games.lookup id).map fun row => row.summary id

theorem find_id {db : GamePersistence} {id : String} {summary : GameSummary}
    (h : db.find id = some summary) : summary.id = id := by
  obtain ⟨row, -, rfl⟩ := Option.map_eq_some_iff.1 h
  rfl

theorem mem_summaries {db : GamePersistence} {summary : GameSummary} :
    summary ∈ db.summaries ↔ db.find summary.id = some summary := by
  rw [summaries, List.mem_map, find, Option.map_eq_some_iff]
  constructor
  · rintro ⟨e, he, rfl⟩
    exact ⟨e.2, AList.mem_lookup_iff.2 he, rfl⟩
  · rintro ⟨row, hrow, hsummary⟩
    exact ⟨⟨summary.id, row⟩, AList.mem_lookup_iff.1 hrow, hsummary⟩

theorem nodup_ids_summaries (db : GamePersistence) : (db.summaries.map (·.id)).Nodup := by
  have hkeys := db.games.keys_nodup
  rw [AList.keys, List.keys] at hkeys
  rw [summaries, List.map_map]
  exact hkeys

end GamePersistence

/-! ### The catalogue -/

/-- The saved games by their identifiers. -/
abbrev Catalogue := String → Option GameSummary

/-- **A list is the catalogue**: it has exactly one summary for each saved game, and the latest
updates come first. -/
structure Catalogued (saved : Catalogue) (result : List GameSummary) : Prop where
  nodup : (result.map (·.id)).Nodup
  mem_iff : ∀ summary, summary ∈ result ↔ saved summary.id = some summary
  ordered : result.Pairwise fun a b => b.updatedAt ≤ a.updatedAt

/-- The summaries of a catalogue are those of their identifiers. -/
def Catalogue.Keyed (saved : Catalogue) : Prop :=
  ∀ id summary, saved id = some summary → summary.id = id

/-- The rows are those of the catalogue. -/
def Represents (db : GamePersistence) (saved : Catalogue) : Prop := ∀ id, db.find id = saved id

/-- Every list of the rows is the catalogue exactly when the rows are. -/
theorem listsGames_catalogued_iff {db : GamePersistence} {saved : Catalogue}
    (hkeyed : saved.Keyed) :
    (∀ result, db.ListsGames result → Catalogued saved result) ↔ Represents db saved := by
  constructor
  · intro h id
    obtain ⟨result, hresult⟩ := db.exists_listsGames
    have hmem : ∀ summary, db.find summary.id = some summary ↔ saved summary.id = some summary := by
      intro summary
      rw [← GamePersistence.mem_summaries, ← hresult.perm.mem_iff]
      exact (h result hresult).mem_iff summary
    refine Option.ext fun summary => ?_
    constructor
    · intro hfind
      have hid := GamePersistence.find_id hfind
      subst hid
      exact (hmem summary).1 hfind
    · intro hsaved
      have hid := hkeyed id summary hsaved
      subst hid
      exact (hmem summary).2 hsaved
  · intro h result hresult
    refine ⟨?_, fun summary => ?_, hresult.ordered⟩
    · exact (hresult.perm.map _).nodup_iff.2 db.nodup_ids_summaries
    · rw [hresult.perm.mem_iff, GamePersistence.mem_summaries, h]

/-- **Every list of the games is the catalogue exactly when the rows are, and the linked code is for
them or there are none.** -/
theorem catalogued_iff {linked : GamePersistence.LinkedSummary} {db : GamePersistence}
    {saved : Catalogue} (hkeyed : saved.Keyed) :
    (∀ result, db.Returns linked result → Catalogued saved result) ↔
      Represents db saved ∧ (linked = .lobby → ∀ id, saved id = none) := by
  rw [← listsGames_catalogued_iff hkeyed]
  constructor
  · intro h
    have hlists := fun result hresult => h result (Or.inl hresult)
    refine ⟨hlists, fun hlobby id => ?_⟩
    have hrows := (listsGames_catalogued_iff hkeyed).1 hlists
    cases hid : saved id with
    | none => rfl
    | some summary =>
        -- a list with the summary twice is not the catalogue
        have hrow : db.find summary.id = some summary := by
          rw [hrows, hkeyed id summary hid, hid]
        have hne : db.summaries ≠ [] := List.ne_nil_of_mem (GamePersistence.mem_summaries.2 hrow)
        have htwice := (h [summary, summary] (Or.inr ⟨hlobby, hne⟩)).nodup
        exact absurd (List.mem_singleton.2 rfl) (List.nodup_cons.1 htwice).1
  · rintro ⟨hlists, hnone⟩ result (hresult | ⟨hlobby, hne⟩)
    · exact hlists result hresult
    · obtain ⟨summary, hmem⟩ := List.exists_mem_of_ne_nil _ hne
      have hrow := GamePersistence.mem_summaries.1 hmem
      rw [(listsGames_catalogued_iff hkeyed).1 hlists, hnone hlobby] at hrow
      cases hrow

/-! ### Calls -/

/-- The calls; a call that saves comes with the time it is made at. -/
inductive PersistenceOp
  | saveGame (gameId gameName : String) (state : GameState) (now : String)
  | deleteGame (gameId : String)
  | listGames

namespace PersistenceOp

/-- The table after a call; saving a state that cannot be serialized throws. -/
def apply (codec : Codec) (db : GamePersistence) : PersistenceOp → GamePersistence
  | .saveGame gameId gameName state now =>
      match db.saveGame codec gameId gameName state now with
      | .ok db' => db'
      | .error _ => db
  | .deleteGame gameId => db.deleteGame gameId
  | .listGames => db

/-- **The catalogue after a call.**  A game keeps the time it was created at until it is deleted. -/
def record (codec : Codec) (saved : Catalogue) : PersistenceOp → Catalogue
  | .saveGame gameId gameName state now =>
      match serializeGameState codec state with
      | .ok _ => Function.update saved gameId (some
          { id := gameId
            name := gameName
            turn := state.turn
            playerCount := countPlayers state
            createdAt := ((saved gameId).map (·.createdAt)).getD now
            updatedAt := now })
      | .error _ => saved
  | .deleteGame gameId => Function.update saved gameId none
  | .listGames => saved

/-- **A call that the table follows.**  What is saved has no null character in its texts, and is not
saved already or was created at the very same time; what is deleted has none, or is not saved under
the part before it. -/
def Keeps (codec : Codec) (saved : Catalogue) : PersistenceOp → Prop
  | .saveGame gameId gameName state now =>
      (∃ data, serializeGameState codec state = .ok data) →
        NulFree gameId ∧ NulFree gameName ∧
          ∀ old, saved gameId = some old → old.createdAt = now
  | .deleteGame gameId => NulFree gameId ∨ saved (cString gameId) = none
  | .listGames => True

/-- A call that saves nothing: no save, or one of a state that cannot be serialized. -/
def SavesNothing (codec : Codec) : PersistenceOp → Prop
  | .saveGame _ _ state _ => ¬ ∃ data, serializeGameState codec state = .ok data
  | .deleteGame _ => True
  | .listGames => True

end PersistenceOp

/-- The identifiers of the rows have no null character. -/
def NulFreeIds (db : GamePersistence) : Prop := ∀ id, db.find id ≠ none → NulFree id

namespace GamePersistence

theorem find_insert (games : AList fun _ : String => GameRow) (id : String) (row : GameRow)
    (id' : String) :
    find { games := games.insert id row } id' =
      if id' = id then some (row.summary id) else find { games } id' := by
  rw [find, Association.lookup_insert]
  split
  · next h => rw [h]; rfl
  · rfl

theorem find_erase (games : AList fun _ : String => GameRow) (id id' : String) :
    find { games := games.erase id } id' = if id' = id then none else find { games } id' := by
  rw [find, Association.lookup_erase]
  split
  · rfl
  · rfl

end GamePersistence

namespace PersistenceOp

variable {codec : Codec} {db : GamePersistence} {saved : Catalogue}

/-- What a save leaves. -/
theorem apply_saveGame_ok {gameId gameName now : String} {state : GameState} {data : List UInt8}
    (h : serializeGameState codec state = .ok data) :
    apply codec db (.saveGame gameId gameName state now) =
      { games := db.games.insert (cString gameId)
          { name := cString gameName, turn := state.turn, playerCount := countPlayers state
            createdAt := now, updatedAt := now, stateBlob := data } } := by
  simp only [apply, GamePersistence.saveGame, h]
  rfl

theorem apply_saveGame_error {gameId gameName now : String} {state : GameState} {e : Fault}
    (h : serializeGameState codec state = .error e) :
    apply codec db (.saveGame gameId gameName state now) = db := by
  simp only [apply, GamePersistence.saveGame, h]
  rfl

theorem nulFreeIds_apply (h : NulFreeIds db) (op : PersistenceOp) :
    NulFreeIds (op.apply codec db) := by
  cases op with
  | saveGame gameId gameName state now =>
      cases hdata : serializeGameState codec state with
      | error e => rw [apply_saveGame_error hdata]; exact h
      | ok data =>
          rw [apply_saveGame_ok hdata]
          intro id hid
          rw [GamePersistence.find_insert] at hid
          split at hid
          · next heq => rw [heq]; exact nulFree_cString gameId
          · exact h id hid
  | deleteGame gameId =>
      intro id hid
      rw [apply, GamePersistence.deleteGame, GamePersistence.find_erase] at hid
      split at hid
      · exact absurd rfl hid
      · exact h id hid
  | listGames => exact h

theorem keyed_record (h : saved.Keyed) (op : PersistenceOp) :
    Catalogue.Keyed (op.record codec saved) := by
  cases op with
  | saveGame gameId gameName state now =>
      cases hdata : serializeGameState codec state with
      | error e => simp only [record, hdata]; exact h
      | ok data =>
          simp only [record, hdata]
          intro id summary hsummary
          rw [Function.update_apply] at hsummary
          split at hsummary
          · next heq => rw [← Option.some_inj.1 hsummary, heq]
          · exact h id summary hsummary
  | deleteGame gameId =>
      intro id summary hsummary
      rw [record, Function.update_apply] at hsummary
      split at hsummary
      · cases hsummary
      · exact h id summary hsummary
  | listGames => exact h

/-- There is no row under an identifier with a null character. -/
theorem find_eq_none (h : NulFreeIds db) {id : String} (hid : ¬ NulFree id) :
    db.find id = none := by
  cases hfind : db.find id with
  | none => rfl
  | some summary => exact absurd (h id (by rw [hfind]; exact Option.some_ne_none _)) hid

/-- One save. -/
theorem represents_saveGame_iff (hids : NulFreeIds db) (h : Represents db saved)
    {gameId gameName now : String} {state : GameState} {data : List UInt8}
    (hdata : serializeGameState codec state = .ok data) :
    Represents (apply codec db (.saveGame gameId gameName state now))
        (record codec saved (.saveGame gameId gameName state now)) ↔
      NulFree gameId ∧ NulFree gameName ∧
        ∀ old, saved gameId = some old → old.createdAt = now := by
  rw [apply_saveGame_ok hdata]
  simp only [record, hdata]
  constructor
  · intro hafter
    have hrow := hafter gameId
    rw [GamePersistence.find_insert, Function.update_self] at hrow
    by_cases hid : NulFree gameId
    · rw [if_pos (cString_eq_self_iff.2 hid).symm, Option.some_inj] at hrow
      obtain ⟨-, hname, -, -, hcreated, -⟩ := GameSummary.mk.inj hrow
      refine ⟨hid, cString_eq_self_iff.1 hname, fun old hold => ?_⟩
      rw [hold] at hcreated
      exact hcreated.symm
    · rw [if_neg fun heq => hid (cString_eq_self_iff.1 heq.symm), find_eq_none hids hid] at hrow
      cases hrow
  · rintro ⟨hid, hname, hcreated⟩ id
    rw [GamePersistence.find_insert, cString_eq_self_iff.2 hid, Function.update_apply]
    split
    · rw [cString_eq_self_iff.2 hname]
      cases hold : saved gameId with
      | none => rfl
      | some old =>
          rw [Option.map_some, Option.getD_some, hcreated old hold]
          rfl
    · exact h id

/-- One deletion. -/
theorem represents_deleteGame_iff (hids : NulFreeIds db) (h : Represents db saved)
    {gameId : String} :
    Represents (apply codec db (.deleteGame gameId)) (record codec saved (.deleteGame gameId)) ↔
      NulFree gameId ∨ saved (cString gameId) = none := by
  rw [apply, record, GamePersistence.deleteGame]
  by_cases hid : NulFree gameId
  · refine ⟨fun _ => Or.inl hid, fun _ id => ?_⟩
    rw [GamePersistence.find_erase, cString_eq_self_iff.2 hid, Function.update_apply]
    split
    · rfl
    · exact h id
  · have hne : cString gameId ≠ gameId := fun heq => hid (cString_eq_self_iff.1 heq)
    constructor
    · intro hafter
      have hrow := hafter (cString gameId)
      rw [GamePersistence.find_erase, if_pos rfl, Function.update_of_ne hne] at hrow
      exact Or.inr hrow.symm
    · rintro (hid' | hnone) id
      · exact absurd hid' hid
      · rw [GamePersistence.find_erase, Function.update_apply]
        split
        · next heq =>
            rw [if_neg (heq ▸ hne), heq, hnone]
        · split
          · next heq => rw [heq]; exact find_eq_none hids hid
          · exact h id

/-- **One call**: the rows stay those of the catalogue exactly when the table follows the call. -/
theorem represents_iff (hids : NulFreeIds db) (h : Represents db saved) (op : PersistenceOp) :
    Represents (op.apply codec db) (op.record codec saved) ↔ op.Keeps codec saved := by
  cases op with
  | saveGame gameId gameName state now =>
      cases hdata : serializeGameState codec state with
      | ok data =>
          rw [represents_saveGame_iff hids h hdata, Keeps, hdata]
          exact ⟨fun hkeeps _ => hkeeps, fun hkeeps => hkeeps ⟨data, rfl⟩⟩
      | error e =>
          rw [apply_saveGame_error hdata, Keeps]
          simp only [record, hdata]
          refine ⟨fun _ hok => ?_, fun _ => h⟩
          obtain ⟨_, hok⟩ := hok
          cases hok
  | deleteGame gameId => exact represents_deleteGame_iff hids h
  | listGames => exact ⟨fun _ => trivial, fun _ => h⟩

end PersistenceOp

/-! ### Runs -/

/-- A call as a step of a run, with the catalogue as its record. -/
def persistenceStep (codec : Codec) : GamePersistence × Catalogue → PersistenceOp →
    Option (GamePersistence × Catalogue) :=
  Runs.recorded (fun db op => some (op.apply codec db)) fun _ saved op => op.record codec saved

/-- Nothing is saved after a call before which nothing was saved, exactly when it saves nothing. -/
theorem PersistenceOp.record_eq_none_iff {codec : Codec} {saved : Catalogue}
    (hnone : ∀ id, saved id = none) (op : PersistenceOp) :
    (∀ id, op.record codec saved id = none) ↔ op.SavesNothing codec := by
  cases op with
  | saveGame gameId gameName state now =>
      rw [PersistenceOp.SavesNothing]
      cases hdata : serializeGameState codec state with
      | error e =>
          simp only [PersistenceOp.record, hdata]
          refine ⟨fun _ hok => ?_, fun _ => hnone⟩
          obtain ⟨data, hok⟩ := hok
          cases hok
      | ok data =>
          simp only [PersistenceOp.record, hdata]
          refine ⟨fun h => ?_, fun h => absurd ⟨data, rfl⟩ h⟩
          have hsaved := h gameId
          rw [Function.update_self] at hsaved
          cases hsaved
  | deleteGame gameId =>
      refine ⟨fun _ => trivial, fun _ id => ?_⟩
      rw [PersistenceOp.record, Function.update_apply]
      split
      · rfl
      · exact hnone id
  | listGames => exact ⟨fun _ => trivial, fun _ => hnone⟩

/-- **After every call of a run from an empty table every list of the games is the catalogue exactly
when every call is one that the table follows**, and saves nothing if the linked code is for the
struct of the lobby. -/
theorem catalogue_kept_iff (linked : GamePersistence.LinkedSummary) (codec : Codec)
    (ops : List PersistenceOp) :
    Runs.Along (persistenceStep codec)
        (fun x op => ∀ y, persistenceStep codec x op = some y →
          ∀ result, y.1.Returns linked result → Catalogued y.2 result)
        ({}, fun _ => none) ops ↔
      Runs.Along (persistenceStep codec)
        (fun x op => op.Keeps codec x.2 ∧ (linked = .lobby → op.SavesNothing codec))
        ({}, fun _ => none) ops := by
  refine Runs.along_recorded_keeps_iff _ _
    (I := fun x => ∀ result, x.1.Returns linked result → Catalogued x.2 result)
    (J := fun x => NulFreeIds x.1 ∧ x.2.Keyed) ?_ ?_ ops _ ?_ ?_
  · rintro ⟨db, saved⟩ op ⟨db', saved'⟩ ⟨hids, hkeyed⟩ hstep
    obtain ⟨hdb, hsaved⟩ := (Runs.recorded_eq_some _ _).1 hstep
    obtain rfl := Option.some_inj.1 hdb
    rw [show saved' = op.record codec saved from hsaved]
    exact ⟨PersistenceOp.nulFreeIds_apply hids op, PersistenceOp.keyed_record hkeyed op⟩
  · rintro ⟨db, saved⟩ op ⟨hids, hkeyed⟩ hlists
    obtain ⟨hrows, hnone⟩ := (catalogued_iff hkeyed).1 hlists
    have hone : Represents (op.apply codec db) (op.record codec saved) ↔ op.Keeps codec saved :=
      PersistenceOp.represents_iff hids hrows op
    have hafter : (∀ db', some (op.apply codec db) = some db' →
        ∀ result, db'.Returns linked result → Catalogued (op.record codec saved) result) ↔
        ∀ result, (op.apply codec db).Returns linked result →
          Catalogued (op.record codec saved) result :=
      ⟨fun h => h _ rfl, fun h db' hdb => Option.some_inj.1 hdb ▸ h⟩
    refine hafter.trans ((catalogued_iff (PersistenceOp.keyed_record hkeyed op)).trans ?_)
    exact and_congr hone (forall_congr' fun hlobby =>
      PersistenceOp.record_eq_none_iff (hnone hlobby) op)
  · exact ⟨fun id hid => absurd rfl hid, fun _ _ h => by cases h⟩
  · exact (catalogued_iff fun _ _ h => by cases h).2 ⟨fun _ => rfl, fun _ _ => rfl⟩

/-- The hamlet is saved, and saved again an hour later. -/
def overwrittenSave : List PersistenceOp :=
  [.saveGame "game1" "Version 1" hamlet "2024-05-01T10:00:00Z",
    .saveGame "game1" "Version 2" hamlet "2024-05-01T11:00:00Z"]

theorem serialize_hamlet : serializeGameState hamletCodec hamlet = .ok hamletBytes := by
  have hmessage : toMessage hamlet = .ok hamletMessage := by decide
  have hbytes : hamletCodec.serialize hamletMessage = some hamletBytes := by
    simp only [hamletCodec, if_true]
  rw [serializeGameState, hmessage, Except.ok_bind, hbytes]
  rfl

/-- **The second save overwrites the time at which the game was created.** -/
theorem createdAt_overwritten :
    ∃ x, Runs.run (persistenceStep hamletCodec) ({}, fun _ => none) overwrittenSave = some x ∧
      (x.1.find "game1").map (·.createdAt) = some "2024-05-01T11:00:00Z" ∧
      (x.2 "game1").map (·.createdAt) = some "2024-05-01T10:00:00Z" ∧
      (∀ result, x.1.ListsGames result → ¬ Catalogued x.2 result) ∧
      ∀ linked, ∃ result, x.1.Returns linked result ∧ ¬ Catalogued x.2 result := by
  have hid : cString "game1" = "game1" := cString_eq_self_iff.2 (by decide)
  obtain ⟨x, hx⟩ : ∃ x, Runs.run (persistenceStep hamletCodec) ({}, fun _ => none)
      overwrittenSave = some x := ⟨_, rfl⟩
  have hrow : (x.1.find "game1").map (·.createdAt) = some "2024-05-01T11:00:00Z" := by
    obtain rfl := Option.some_inj.1 hx
    dsimp only
    rw [PersistenceOp.apply_saveGame_ok serialize_hamlet, GamePersistence.find_insert, hid,
      if_pos rfl]
    rfl
  have hsaved : (x.2 "game1").map (·.createdAt) = some "2024-05-01T10:00:00Z" := by
    obtain rfl := Option.some_inj.1 hx
    simp only [PersistenceOp.record, serialize_hamlet, Function.update_self]
    rfl
  have hlists : ∀ result, x.1.ListsGames result → ¬ Catalogued x.2 result := by
    intro result hresult hcatalogued
    obtain ⟨summary, hfind, hcreated⟩ := Option.map_eq_some_iff.1 hrow
    have hkey := GamePersistence.find_id hfind
    rw [← hkey] at hfind hsaved
    have hmem := hresult.perm.mem_iff.2 (GamePersistence.mem_summaries.2 hfind)
    rw [(hcatalogued.mem_iff summary).1 hmem, Option.map_some, hcreated, Option.some_inj] at hsaved
    exact absurd hsaved (by decide)
  obtain ⟨result, hresult⟩ := x.1.exists_listsGames
  exact ⟨x, hx, hrow, hsaved, hlists, fun _ => ⟨result, Or.inl hresult, hlists result hresult⟩⟩

end My4X
