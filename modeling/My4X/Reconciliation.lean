/-
**Reconciliation with a server state.**

Reconciliation is documented to replace the local state by the authoritative one and to carry out
the pending predictions on top of it.  What it copies is the turn and, of the units that both lists
have, the health, the movement and the position.  This module says when that is enough.

Main definitions:

* `My4X.Adopted` — the local state is the one the claim of authority asks for;
* `My4X.AdoptsServer` — a reconciliation leaves that state, and keeps the predictions that the
  server state allows;
* `My4X.RosterMatches`, `My4X.OwnersMatch`, `My4X.SameExceptCopied` — what reconciliation does not
  copy agrees beforehand.

Main results:

* `My4X.agrees_syncState` — after the copying the two states agree;
* `My4X.reconcile_adopts` — **what reconciliation needs in order to adopt the server state**;
* `My4X.reconcile_keeps_lost_unit` — a unit that the server has lost stays.
-/

import My4X.Prediction
import My4X.Agreement
import My4X.Lib.Runs

set_option relaxedAutoImplicit false
set_option autoImplicit false

namespace My4X

open PredictionManager

/-! ### Copying -/

/-- The entry after copying, from the local one and the one of the server. -/
def syncedEntry : Option OwnedUnit → Option OwnedUnit → Option OwnedUnit
  | some p, some su =>
      some ⟨p.ref, overwrite p.unit su.unit.health su.unit.movementRemaining su.unit.row
        su.unit.col⟩
  | o, _ => o

theorem get?_syncUnit (server s : GameState) (i j : ℕ) :
    (syncUnit server s i).units.get? j =
      if i = j then syncedEntry (s.units.get? j) (server.units.get? j) else s.units.get? j := by
  rw [syncUnit]
  by_cases hij : i = j
  · subst hij
    rw [if_pos rfl]
    cases hp : s.units.get? i with
    | none => simp only [hp, syncedEntry]
    | some p =>
        cases hsu : server.units.get? i with
        | none => simp only [hp, syncedEntry]
        | some su =>
            simp only [GameState.relocate, UnitVec.get?_set, if_true, hp, Option.map_some,
              syncedEntry]
  · rw [if_neg hij]
    split
    · simp only [GameState.relocate, UnitVec.get?_set, if_neg hij]
    · rfl

/-- The units after the loop, which visits every index once. -/
theorem get?_foldl_syncUnit (server : GameState) (is : List ℕ) (hnodup : is.Nodup) :
    ∀ (s : GameState) (j : ℕ), (is.foldl (syncUnit server) s).units.get? j =
      if j ∈ is then syncedEntry (s.units.get? j) (server.units.get? j) else s.units.get? j := by
  induction is with
  | nil => intro s j; simp
  | cons i is ih =>
      intro s j
      obtain ⟨hi, hnodup⟩ := List.nodup_cons.1 hnodup
      rw [List.foldl_cons, ih hnodup, get?_syncUnit]
      by_cases hij : i = j
      · subst hij
        rw [if_neg hi, if_pos rfl, if_pos List.mem_cons_self]
      · have hmem : j ∈ i :: is ↔ j ∈ is := by
          rw [List.mem_cons]
          exact or_iff_right (Ne.symm hij)
        rw [if_neg hij]
        simp only [hmem]

theorem get?_syncState (l server : GameState) (j : ℕ) :
    (syncState l server).units.get? j = syncedEntry (l.units.get? j) (server.units.get? j) := by
  rw [syncState]
  rw [get?_foldl_syncUnit server _ List.nodup_range]
  split
  · rfl
  · next hout =>
      -- beyond the shorter list there is nothing to copy, or nothing to copy to
      rw [List.mem_range, Nat.lt_min, not_and_or, not_lt, not_lt] at hout
      rcases hout with hout | hout
      · have hl : l.units.get? j = none := List.getElem?_eq_none hout
        show l.units.get? j = _
        rw [hl]
        rfl
      · have hs : server.units.get? j = none := List.getElem?_eq_none hout
        show l.units.get? j = _
        rw [hs]
        cases l.units.get? j <;> rfl

/-- The loop over the units changes nothing but the units and the registry. -/
theorem foldl_syncUnit_frame (server : GameState) (is : List ℕ) :
    ∀ s : GameState, (is.foldl (syncUnit server) s).turn = s.turn ∧
      (is.foldl (syncUnit server) s).map = s.map ∧
      (is.foldl (syncUnit server) s).diplomacy = s.diplomacy ∧
      (is.foldl (syncUnit server) s).cities = s.cities := by
  induction is with
  | nil => intro s; exact ⟨rfl, rfl, rfl, rfl⟩
  | cons i is ih =>
      intro s
      obtain ⟨hturn, hmap, hdip, hcit⟩ := ih (syncUnit server s i)
      have hframe : (syncUnit server s i).turn = s.turn ∧ (syncUnit server s i).map = s.map ∧
          (syncUnit server s i).diplomacy = s.diplomacy ∧
          (syncUnit server s i).cities = s.cities := by
        rw [syncUnit]
        split <;> exact ⟨rfl, rfl, rfl, rfl⟩
      rw [List.foldl_cons]
      exact ⟨hturn.trans hframe.1, hmap.trans hframe.2.1, hdip.trans hframe.2.2.1,
        hcit.trans hframe.2.2.2⟩

theorem syncState_frame (l server : GameState) :
    (syncState l server).turn = server.turn ∧ (syncState l server).map = l.map ∧
      (syncState l server).diplomacy = l.diplomacy ∧ (syncState l server).cities = l.cities :=
  foldl_syncUnit_frame server _ (l.setTurn server.turn)

/-! ### What has to agree beforehand -/

/-- The unit lists are equally long, and paired units agree on what is not copied; what is copied
is not negative. -/
structure RosterMatches (l server : GameState) : Prop where
  size : l.units.size = server.units.size
  recruit : ∀ i p su, l.units.get? i = some p → server.units.get? i = some su →
    p.unit.factionId = su.unit.factionId ∧ p.unit.template = su.unit.template ∧
      p.unit.experience = su.unit.experience
  nonneg : ∀ i su, server.units.get? i = some su →
    0 ≤ su.unit.health ∧ 0 ≤ su.unit.movementRemaining

/-- The cities and their owners. -/
def GameState.owners (s : GameState) : List (CityId × Int32) :=
  s.cities.map fun c => (c.id, c.factionId)

/-- The same cities have the same owners. -/
def OwnersMatch (l server : GameState) : Prop := l.owners = server.owners

/-! ### What the pending actions read -/

/-- A city on the site of another one. -/
def City.onSite (c d : City) : City :=
  { c with
    centerRow := d.centerRow
    centerCol := d.centerCol
    tiles := d.tiles
    center_mem := d.center_mem }

/-- **A state in the world of another one**: its units and its owners, but the map, the relations
and the sites of the cities of the other. -/
def GameState.inWorldOf (s l : GameState) : GameState :=
  { s with
    map := l.map
    diplomacy := l.diplomacy
    cities := s.cities.mapIdx fun i c =>
      match l.cities[i]? with
      | some d => c.onSite d
      | none => c }

/-- The cost of the terrain of a tile. -/
def Map.costAt (map : Map) (row col : ℤ) : Except Fault ℤ :=
  (map.tile row col).map fun tile => (getTerrainProperties tile.terrain).movementCost

/-- **An action reads the same in another world**: it is valid there if it is valid here, and then
it finds the same cost for its move, the same circumstances for its attack or the same city. -/
def GameAction.ReadsAlike (l s : GameState) : GameAction → Prop
  | .move a =>
      (∀ v, a.validate s = .ok v →
        ∃ v', a.validate (s.inWorldOf l) = .ok v' ∧ (v' = .valid ↔ v = .valid)) ∧
      (a.validate s = .ok .valid →
        l.map.costAt a.destRow a.destCol = s.map.costAt a.destRow a.destCol)
  | .attack a =>
      (a.validate (s.inWorldOf l) = .valid ↔ a.validate s = .valid) ∧
      (a.validate s = .valid → ∀ p q, s.units.get? a.attackerIndex = some p →
        s.units.get? a.targetIndex = some q →
        AttackAction.combatContext l.map p.unit q.unit =
          AttackAction.combatContext s.map p.unit q.unit)
  | .capture a =>
      (a.validate (s.inWorldOf l) = .valid ↔ a.validate s = .valid) ∧
      (a.validate s = .valid → ∀ p, s.units.get? a.unitIndex = some p →
        CaptureAction.findCityCenterAt (s.inWorldOf l) p.unit.row p.unit.col =
          CaptureAction.findCityCenterAt s p.unit.row p.unit.col)

/-- Carrying out a prediction as a step. -/
def predictionStep (s : GameState) (pred : PendingPrediction) : Option GameState :=
  match pred.action.execute s with
  | .ok (s', _) => some s'
  | .error _ => none

/-- **What reconciliation does not copy is the same as far as it matters**: the rosters and the
owners match, and every pending prediction reads the same in the local world when it is carried out
on the server state.  The registries are coherent. -/
structure SameAsRead (preds : List PendingPrediction) (l server : GameState) : Prop where
  localCoherent : l.Coherent
  serverCoherent : server.Coherent
  roster : RosterMatches l server
  owners : OwnersMatch l server
  reads : Runs.Along predictionStep (fun s pred => pred.action.ReadsAlike l s) server preds

theorem GameState.Coherent.inWorldOf {s : GameState} (h : s.Coherent) (l : GameState) :
    (s.inWorldOf l).Coherent := h

/-- A state in another world has the same owners. -/
theorem GameState.owners_inWorldOf (s l : GameState) : (s.inWorldOf l).owners = s.owners := by
  refine List.ext_getElem? fun i => ?_
  rw [owners, owners, inWorldOf, List.getElem?_map, List.getElem?_map, List.getElem?_mapIdx,
    Option.map_map]
  refine Option.map_congr fun c _ => ?_
  dsimp only [Function.comp_apply]
  split
  · rfl
  · rfl

/-- A change of a city is the same change in another world. -/
theorem GameState.inWorldOf_setCity {s l : GameState} {i : ℕ} {c : City}
    (hc : s.cities[i]? = some c)
    (unit : Unit) :
    ∃ c', (s.inWorldOf l).cities[i]? = some c' ∧
      (s.setCity i (CaptureAction.captured c unit)).inWorldOf l =
        (s.inWorldOf l).setCity i (CaptureAction.captured c' unit) := by
  cases hd : l.cities[i]? with
  | none =>
      refine ⟨c, ?_, ?_⟩
      · rw [inWorldOf, List.getElem?_mapIdx, hc, Option.map_some, hd]
      · refine congrArg (fun cities => { s with
          map := l.map
          diplomacy := l.diplomacy
          cities := cities }) ?_
        rw [setCity, List.mapIdx_set, hd]
        rfl
  | some d =>
      refine ⟨c.onSite d, ?_, ?_⟩
      · rw [inWorldOf, List.getElem?_mapIdx, hc, Option.map_some, hd]
      · refine congrArg (fun cities => { s with
          map := l.map
          diplomacy := l.diplomacy
          cities := cities }) ?_
        rw [setCity, List.mapIdx_set, hd]
        rfl

/-- A move that reads the same is the same move in the other world. -/
theorem MoveAction.execute_inWorldOf {l s s' : GameState} {a : MoveAction} {r : MoveResult}
    (h : (GameAction.move a).ReadsAlike l s) (hex : a.execute s = .ok (s', r)) :
    ∃ r', a.execute (s.inWorldOf l) = .ok (s'.inWorldOf l, r') ∧ r'.executed = r.executed := by
  obtain ⟨hvalid, hcost⟩ := h
  obtain ⟨hv, ⟨hf, hne, rfl⟩ | ⟨htrue, hok, p, u, t, hp, ht, hmove, rfl⟩⟩ := execute_cases hex
  · obtain ⟨v', hv', hiff⟩ := hvalid _ hv
    exact ⟨_, execute_of_refused hv' fun hv'' => hne (hiff.1 hv''), hf.symm⟩
  · rw [hok] at hv
    obtain ⟨v', hv', hiff⟩ := hvalid _ hv
    rw [hiff.2 rfl] at hv'
    obtain ⟨p', u', t', hp', ht', hmove', hex'⟩ := execute_of_valid hv'
    obtain rfl := Option.some_inj.1 (hp.symm.trans hp')
    have hsame := hcost hv
    rw [Map.costAt, Map.costAt, ht, show l.map.tile a.destRow a.destCol = .ok t' from ht'] at hsame
    have hprice : (getTerrainProperties t'.terrain).movementCost =
        (getTerrainProperties t.terrain).movementCost := Except.ok.inj hsame
    rw [hprice, hmove] at hmove'
    obtain rfl := Except.ok.inj hmove'
    exact ⟨_, hex', htrue.symm⟩

/-- An attack that reads the same is the same attack in the other world. -/
theorem AttackAction.execute_inWorldOf {l s s' : GameState} {a : AttackAction} {r : AttackResult}
    (h : (GameAction.attack a).ReadsAlike l s) (hex : a.execute s = .ok (s', r)) :
    ∃ r', a.execute (s.inWorldOf l) = .ok (s'.inWorldOf l, r') ∧ r'.executed = r.executed := by
  obtain ⟨hvalid, hcontext⟩ := h
  obtain ⟨hv, ⟨hf, hne, rfl⟩ | ⟨htrue, hok, p, q, attacker, target, hround, rfl⟩⟩ :=
    execute_cases hex
  · refine ⟨{ executed := false, validation := a.validate (s'.inWorldOf l) }, ?_, hf.symm⟩
    rw [execute]
    rw [if_pos fun hv' => hne (by rw [hv, hvalid.1 hv'])]
  · rw [hok] at hv
    have hchecked : Checked a (s.inWorldOf l) p q :=
      ⟨hround.checked.attacker, hround.checked.target,
      hround.checked.attacker_alive, hround.checked.target_alive, hround.checked.faction_ne,
      hround.checked.movement⟩
    obtain ⟨context, hc, hcombat⟩ := hround.resolved
    have hc' := hcontext hv.symm p q hround.checked.attacker hround.checked.target
    rw [hc] at hc'
    obtain ⟨attacker', target', hround', hex'⟩ :=
      execute_of_valid (hvalid.2 hv.symm) hchecked hc'
    -- the round is the same one
    have happly := hround.applied
    rw [hcombat, hround'.applied] at happly
    obtain ⟨rfl, rfl⟩ := Prod.mk.inj (Except.ok.inj happly)
    refine ⟨{ combat := resolveCombat p.unit q.unit context
              executed := true
              validation := .valid },
      ?_, htrue.symm⟩
    rw [hex']
    refine congrArg Except.ok (Prod.ext ?_ rfl)
    show a.outcome (s.inWorldOf l) p q attacker' target' =
      (a.outcome s p q attacker' target').inWorldOf l
    rw [outcome, outcome]
    split
    · rfl
    · split
      · rfl
      · rfl

/-- A capture that reads the same is the same capture in the other world. -/
theorem CaptureAction.execute_inWorldOf {l s s' : GameState} {a : CaptureAction} {r : CaptureResult}
    (h : (GameAction.capture a).ReadsAlike l s) (hex : a.execute s = .ok (s', r)) :
    ∃ r', a.execute (s.inWorldOf l) = .ok (s'.inWorldOf l, r') ∧ r'.executed = r.executed := by
  obtain ⟨hvalid, hindex⟩ := h
  obtain ⟨hv, ⟨hf, hne, rfl⟩ | ⟨htrue, hok, p, i, city, htaken, rfl⟩⟩ := execute_cases hex
  · refine ⟨{ executed := false, validation := a.validate (s'.inWorldOf l) }, ?_, hf.symm⟩
    rw [execute]
    rw [if_pos fun hv' => hne (by rw [hv, hvalid.1 hv'])]
  · rw [hok] at hv
    obtain ⟨p', j, city', r', htaken', hr', hex'⟩ := execute_of_valid (hvalid.2 hv.symm)
    obtain rfl := Option.some_inj.1 (htaken.unit.symm.trans htaken'.unit)
    have hsame := hindex hv.symm p htaken.unit
    rw [htaken.index, htaken'.index] at hsame
    obtain rfl := Option.some_inj.1 hsame
    obtain ⟨c', hc', hset⟩ := GameState.inWorldOf_setCity (l := l) htaken.get p.unit
    obtain rfl := Option.some_inj.1 (htaken'.get.symm.trans hc')
    rw [hset]
    exact ⟨r', hex', hr'.trans htrue.symm⟩

/-- **An action that reads the same is carried out alike in the other world.** -/
theorem GameAction.execute_inWorldOf {l s s' : GameState} {action : GameAction} {executed : Bool}
    (h : action.ReadsAlike l s) (hex : action.execute s = .ok (s', executed)) :
    action.execute (s.inWorldOf l) = .ok (s'.inWorldOf l, executed) := by
  cases action with
  | move a =>
      obtain ⟨r, hmove, rfl⟩ := GameAction.execute_move.1 hex
      obtain ⟨r', hmove', hr'⟩ := MoveAction.execute_inWorldOf h hmove
      exact GameAction.execute_move.2 ⟨r', hmove', hr'⟩
  | attack a =>
      obtain ⟨r, hattack, rfl⟩ := GameAction.execute_attack.1 hex
      obtain ⟨r', hattack', hr'⟩ := AttackAction.execute_inWorldOf h hattack
      exact GameAction.execute_attack.2 ⟨r', hattack', hr'⟩
  | capture a =>
      obtain ⟨r, hcapture, rfl⟩ := GameAction.execute_capture.1 hex
      obtain ⟨r', hcapture', hr'⟩ := CaptureAction.execute_inWorldOf h hcapture
      exact GameAction.execute_capture.2 ⟨r', hcapture', hr'⟩

/-- Predictions that read the same are carried out alike in the other world. -/
theorem reapply_inWorldOf {l : GameState} (preds : List PendingPrediction) :
    ∀ {s s' : GameState} {kept : List PendingPrediction},
      Runs.Along predictionStep (fun s pred => pred.action.ReadsAlike l s) s preds →
      reapply s preds = .ok (s', kept) →
      reapply (s.inWorldOf l) preds = .ok (s'.inWorldOf l, kept) := by
  induction preds with
  | nil =>
      intro s s' kept _ hre
      obtain ⟨rfl, rfl⟩ := Prod.mk.inj (Except.ok.inj hre)
      rfl
  | cons pred preds ih =>
      rintro s s' kept ⟨hreads, hrest⟩ hre
      obtain ⟨s₁, success, kept₁, hex, hre₁, rfl⟩ := reapply_cons.1 hre
      have hstep : predictionStep s pred = some s₁ := by rw [predictionStep, hex]
      exact reapply_cons.2 ⟨_, success, kept₁, GameAction.execute_inWorldOf hreads hex,
        ih (hrest s₁ hstep) hre₁, rfl⟩

/-! ### Copying what is copied -/

/-- A unit that is overwritten with the copied values of another one agrees with it when the rest
agrees. -/
theorem overwrite_agrees {u v : Unit} (hfac : u.factionId = v.factionId)
    (htmpl : u.template = v.template) (hexp : u.experience = v.experience) (hh : 0 ≤ v.health)
    (hm : 0 ≤ v.movementRemaining) :
    (overwrite u v.health v.movementRemaining v.row v.col).Agrees v where
  row := rfl
  col := rfl
  health := Unit.setHealth_self (v := u) htmpl hh
  movementRemaining :=
    Unit.setMovementRemaining_self (u := v) (v := u.setHealth v.health) htmpl hm
  factionId := hfac
  template := htmpl
  experience := hexp
  level := Unit.level_eq_of_experience_eq hexp

/-- The synchronized unit lists agree when the rosters match. -/
theorem RosterMatches.units_agree {l server : GameState} (h : RosterMatches l server) (i : ℕ) :
    Option.Rel (fun p q : OwnedUnit => p.unit.Agrees q.unit) ((syncState l server).units.get? i)
      (server.units.get? i) := by
  rw [get?_syncState]
  cases hp : l.units.get? i with
  | none =>
      have hlocal : l.units.size ≤ i := List.getElem?_eq_none_iff.1 hp
      have hserver : server.units.size ≤ i := h.size ▸ hlocal
      have hsu : server.units.get? i = none := List.getElem?_eq_none hserver
      rw [hsu]
      exact Option.Rel.none
  | some p =>
      have hlt : i < server.units.size := h.size ▸ UnitVec.get?_lt hp
      have hsu : server.units.get? i = some server.units.list[i] := List.getElem?_eq_getElem hlt
      obtain ⟨hfac, htmpl, hexp⟩ := h.recruit i p _ hp hsu
      obtain ⟨hh, hm⟩ := h.nonneg i _ hsu
      rw [hsu]
      exact Option.Rel.some (overwrite_agrees hfac htmpl hexp hh hm)

/-- **After the copying the local state agrees with the server state in the local world**, when the
rosters and the owners match. -/
theorem agrees_syncState {l server : GameState} (hroster : RosterMatches l server)
    (howners : OwnersMatch l server) : (syncState l server).Agrees (server.inWorldOf l) := by
  obtain ⟨hturn, hmap, hdip, hcit⟩ := syncState_frame l server
  refine ⟨hturn, hroster.units_agree, ?_, ?_, ?_, ?_, ?_⟩
  · rw [hmap]
    rfl
  · rw [hmap]
    rfl
  · rw [hmap]
    exact fun _ _ => rfl
  · rw [hdip]
    exact fun _ _ => rfl
  · intro i
    rw [hcit, GameState.inWorldOf, List.getElem?_mapIdx]
    -- the cities have the same identifiers and owners, and the same sites by the choice of world
    have hi : (l.cities[i]?).map (fun c => (c.id, c.factionId)) =
        (server.cities[i]?).map fun c => (c.id, c.factionId) := by
      rw [← List.getElem?_map, ← List.getElem?_map]
      exact congrArg (·[i]?) howners
    cases hd : l.cities[i]? with
    | none =>
        rw [hd, Option.map_none] at hi
        rw [Option.map_eq_none_iff.1 hi.symm]
        exact Option.Rel.none
    | some d =>
        rw [hd, Option.map_some] at hi
        obtain ⟨c, hc, hsame⟩ := Option.map_eq_some_iff.1 hi.symm
        obtain ⟨hid, howner⟩ := Prod.mk.inj hsame
        rw [hc, Option.map_some]
        exact Option.Rel.some ⟨hid.symm, rfl, rfl, rfl, howner.symm⟩

/-- Agreeing states carry out pending predictions alike and keep the same ones. -/
theorem reapply_congr (preds : List PendingPrediction) :
    ∀ {s t s' : GameState} {kept : List PendingPrediction}, s.Agrees t → s.Coherent →
      t.Coherent → reapply s preds = .ok (s', kept) →
      ∃ t', reapply t preds = .ok (t', kept) ∧ s'.Agrees t' := by
  induction preds with
  | nil =>
      intro s t s' kept h _ _ hre
      obtain ⟨rfl, rfl⟩ := Prod.mk.inj (Except.ok.inj hre)
      exact ⟨t, rfl, h⟩
  | cons pred preds ih =>
      intro s t s' kept h hs ht hre
      obtain ⟨s₁, success, kept₁, hex, hrest, rfl⟩ := reapply_cons.1 hre
      obtain ⟨t₁, hex', h₁⟩ := GameAction.execute_congr h hs ht hex
      obtain ⟨t', hre', h'⟩ := ih h₁ (hs.execute hex) (ht.execute hex') hrest
      exact ⟨t', reapply_cons.2 ⟨t₁, success, kept₁, hex', hre', rfl⟩, h'⟩

/-! ### Adopting the server state -/

/-- The local state has the turn, the units and the city owners of the target. -/
structure Adopted (l target : GameState) : Prop where
  turn : l.turn = target.turn
  units : ∀ i, Option.Rel (fun p q : OwnedUnit => p.unit.Agrees q.unit) (l.units.get? i)
    (target.units.get? i)
  owners : l.owners = target.owners

/-- **Reconciliation adopts the server state**: it leaves what carrying out the pending predictions
on the server state leaves, keeps the predictions that are executed there, and returns their
number. -/
def AdoptsServer (m : PredictionManager) (session : GameSession) (server : GameState) : Prop :=
  ∀ target kept, reapply server m.pending = .ok (target, kept) →
    ∃ m' session', m.reconcile session server = .ok (m', session', kept.length) ∧
      m'.pending = kept ∧ Adopted session'.state target

theorem GameState.Agrees.adopted {s t : GameState} (h : s.Agrees t) : Adopted s t where
  turn := h.turn
  units := h.units
  owners := by
    refine List.ext_getElem? fun i => ?_
    have hrel := h.cities i
    rw [GameState.owners, GameState.owners, List.getElem?_map, List.getElem?_map]
    cases hc : s.cities[i]? with
    | none =>
        cases hd : t.cities[i]? with
        | none => rfl
        | some d => rw [hc, hd] at hrel; cases hrel
    | some c =>
        cases hd : t.cities[i]? with
        | none => rw [hc, hd] at hrel; cases hrel
        | some d =>
            rw [hc, hd] at hrel
            cases hrel with
            | some hcd => rw [Option.map_some, Option.map_some, hcd.id, hcd.factionId]

/-- What is copied suffices when the rest is the same as far as it matters. -/
theorem adoptsServer_of_same {m : PredictionManager} {session : GameSession} {server : GameState}
    (h : SameAsRead m.pending session.state server) : AdoptsServer m session server := by
  intro target kept hre
  have hagree := agrees_syncState h.roster h.owners
  have hworld := reapply_inWorldOf m.pending h.reads hre
  obtain ⟨s', hre', h'⟩ := reapply_congr m.pending hagree.symm
    (h.serverCoherent.inWorldOf session.state) h.localCoherent.syncState hworld
  have hadopted := h'.symm.adopted
  refine ⟨{ m with pending := kept }, session.setState s', ?_, rfl, hadopted.turn,
    hadopted.units, ?_⟩
  · rw [PredictionManager.reconcile]
    rw [hre', Except.ok_bind]
    rfl
  · rw [← GameState.owners_inWorldOf target session.state]
    exact hadopted.owners

/-! ### What moves cannot repair -/

/-- What a move leaves of a unit: a unit below zero movement cannot move, and no move takes one
there. -/
structure KeptByMoves (p q : OwnedUnit) : Prop where
  factionId : p.unit.factionId = q.unit.factionId
  template : p.unit.template = q.unit.template
  experience : p.unit.experience = q.unit.experience
  health : p.unit.health = q.unit.health
  movement_neg : p.unit.movementRemaining < 0 ↔ q.unit.movementRemaining < 0

theorem KeptByMoves.refl (p : OwnedUnit) : KeptByMoves p p := ⟨rfl, rfl, rfl, rfl, Iff.rfl⟩

theorem KeptByMoves.trans {p q r : OwnedUnit} (h : KeptByMoves p q) (h' : KeptByMoves q r) :
    KeptByMoves p r :=
  ⟨h.factionId.trans h'.factionId, h.template.trans h'.template,
    h.experience.trans h'.experience, h.health.trans h'.health,
    h.movement_neg.trans h'.movement_neg⟩

/-- The unit at an index before and after: both there or neither, and kept. -/
def EntryKept (o o' : Option OwnedUnit) : Prop :=
  (o = none ∧ o' = none) ∨ ∃ p q, o = some p ∧ o' = some q ∧ KeptByMoves p q

theorem EntryKept.refl (o : Option OwnedUnit) : EntryKept o o := by
  cases o with
  | none => exact Or.inl ⟨rfl, rfl⟩
  | some p => exact Or.inr ⟨p, p, rfl, rfl, KeptByMoves.refl p⟩

theorem EntryKept.trans {o o' o'' : Option OwnedUnit} (h : EntryKept o o')
    (h' : EntryKept o' o'') : EntryKept o o'' := by
  rcases h with ⟨rfl, rfl⟩ | ⟨p, q, rfl, rfl, hpq⟩
  · exact h'
  · rcases h' with ⟨hq, -⟩ | ⟨q', r, hq, rfl, hqr⟩
    · simp at hq
    · obtain rfl := Option.some_inj.1 hq
      exact Or.inr ⟨p, r, rfl, rfl, hpq.trans hqr⟩

theorem entryKept_move {s s' : GameState} {a : MoveAction} {r : MoveResult}
    (hex : a.execute s = .ok (s', r)) :
    s'.cities = s.cities ∧ ∀ i, EntryKept (s.units.get? i) (s'.units.get? i) := by
  obtain ⟨-, ⟨-, -, rfl⟩ | ⟨-, -, p, u, t, hp, -, hmove, rfl⟩⟩ := MoveAction.execute_cases hex
  · exact ⟨rfl, fun i => EntryKept.refl _⟩
  · refine ⟨rfl, ?_⟩
    intro i
    simp only [GameState.relocate, UnitVec.get?_set]
    split
    · next hi =>
        subst hi
        obtain ⟨hpos, hcost, -, -, hmv, hh, hf, ht, hx, -, -⟩ := Unit.moveTo_eq_ok hmove
        rw [hp]
        refine Or.inr ⟨p, _, rfl, rfl, ⟨hf.symm, ht.symm, hx.symm, hh.symm, ?_⟩⟩
        show p.unit.movementRemaining < 0 ↔ u.movementRemaining < 0
        omega
    · exact EntryKept.refl _

theorem entryKept_reapply (preds : List PendingPrediction) :
    ∀ {s s' : GameState} {kept : List PendingPrediction},
      (∀ pred ∈ preds, ∃ a, pred.action = .move a) → reapply s preds = .ok (s', kept) →
      s'.cities = s.cities ∧ ∀ i, EntryKept (s.units.get? i) (s'.units.get? i) := by
  induction preds with
  | nil =>
      intro s s' kept _ hre
      obtain ⟨rfl, -⟩ := Prod.mk.inj (Except.ok.inj hre)
      exact ⟨rfl, fun i => EntryKept.refl _⟩
  | cons pred preds ih =>
      intro s s' kept hmoves hre
      obtain ⟨s₁, success, kept₁, hex, hrest, -⟩ := reapply_cons.1 hre
      obtain ⟨a, ha⟩ := hmoves pred List.mem_cons_self
      rw [ha] at hex
      obtain ⟨⟨s₂, r⟩, hmove, hr⟩ := Except.bind_eq_ok.1 hex
      obtain ⟨rfl, -⟩ := Prod.mk.inj (Except.ok.inj hr)
      obtain ⟨hcit, hunits⟩ := entryKept_move hmove
      obtain ⟨hcit', hunits'⟩ := ih (fun p hp => hmoves p (List.mem_cons_of_mem _ hp)) hrest
      exact ⟨hcit'.trans hcit, fun i => (hunits i).trans (hunits' i)⟩

/-- The entry of a unit list after copying matches the one of the server only if the local unit was
a copy already, up to what is copied. -/
theorem rosterMatches_of_synced {l server : GameState}
    (h : ∀ i, EntryKept (syncedEntry (l.units.get? i) (server.units.get? i))
    (server.units.get? i)) :
    RosterMatches l server := by
  have hboth : ∀ i, l.units.get? i = none ↔ server.units.get? i = none := by
    intro i
    have hi := h i
    cases hp : l.units.get? i with
    | none =>
        rw [hp] at hi
        rcases hi with ⟨-, hs⟩ | ⟨p, q, hnone, -⟩
        · exact ⟨fun _ => hs, fun _ => rfl⟩
        · simp [syncedEntry] at hnone
    | some p =>
        cases hs : server.units.get? i with
        | none =>
            rw [hp, hs] at hi
            rcases hi with ⟨hsome, -⟩ | ⟨p', q, -, hnone, -⟩
            · simp [syncedEntry] at hsome
            · simp at hnone
        | some su => simp
  have hpair : ∀ i p su, l.units.get? i = some p → server.units.get? i = some su →
      KeptByMoves ⟨p.ref, overwrite p.unit su.unit.health su.unit.movementRemaining su.unit.row
        su.unit.col⟩ su := by
    intro i p su hp hs
    have hi := h i
    rw [hp, hs] at hi
    rcases hi with ⟨-, hnone⟩ | ⟨p', q, hp', hq, hkept⟩
    · simp at hnone
    · obtain rfl := Option.some_inj.1 hp'
      obtain rfl := Option.some_inj.1 hq
      exact hkept
  constructor
  · -- the lists end at the same index
    have hl := (hboth server.units.size).2 (List.getElem?_eq_none (le_refl _))
    have hs := (hboth l.units.size).1 (List.getElem?_eq_none (le_refl _))
    exact le_antisymm (List.getElem?_eq_none_iff.1 hl) (List.getElem?_eq_none_iff.1 hs)
  · intro i p su hp hs
    have hkept := hpair i p su hp hs
    exact ⟨hkept.factionId, hkept.template, hkept.experience⟩
  · intro i su hs
    obtain ⟨p, hp⟩ : ∃ p, l.units.get? i = some p := by
      cases hp : l.units.get? i with
      | none => rw [(hboth i).1 hp] at hs; simp at hs
      | some p => exact ⟨p, rfl⟩
    have hkept := hpair i p su hp hs
    -- what the setters have clamped is not negative
    have hhealth := hkept.health
    have hmove := hkept.movement_neg
    simp only [overwrite, Unit.setPosition, Unit.setMovementRemaining,
      Unit.setHealth] at hhealth hmove
    omega

/-- When only moves are pending, the rosters and the owners have to match beforehand. -/
theorem matches_of_adoptsServer {m : PredictionManager} {session : GameSession}
    {server : GameState} (hmoves : ∀ pred ∈ m.pending, ∃ a, pred.action = .move a)
    (hreturns : ∃ out, reapply server m.pending = .ok out) (h : AdoptsServer m session server) :
    RosterMatches session.state server ∧ OwnersMatch session.state server := by
  obtain ⟨⟨target, kept⟩, hre⟩ := hreturns
  obtain ⟨m', session', hrec, -, hadopt⟩ := h target kept hre
  obtain ⟨⟨state, kept'⟩, hre', hrec⟩ := Except.bind_eq_ok.1 hrec
  obtain ⟨-, hout⟩ := Prod.mk.inj (Except.ok.inj hrec)
  obtain ⟨rfl, -⟩ := Prod.mk.inj hout
  obtain ⟨hcit, hunits⟩ := entryKept_reapply m.pending hmoves hre
  obtain ⟨hcit', hunits'⟩ := entryKept_reapply m.pending hmoves hre'
  constructor
  · refine rosterMatches_of_synced fun i => ?_
    -- from the copy to its end, across to the end of the server run, and back to its start
    have hend : EntryKept (state.units.get? i) (target.units.get? i) := by
      have hrel := hadopt.units i
      cases hp : state.units.get? i with
      | none =>
          cases hq : target.units.get? i with
          | none => exact Or.inl ⟨rfl, rfl⟩
          | some q =>
              have hp' : (session.setState state).state.units.get? i = none := hp
              rw [hp', hq] at hrel
              cases hrel
      | some p =>
          have hp' : (session.setState state).state.units.get? i = some p := hp
          cases hq : target.units.get? i with
          | none => rw [hp', hq] at hrel; cases hrel
          | some q =>
              rw [hp', hq] at hrel
              cases hrel with
              | some hpq =>
                  exact Or.inr ⟨p, q, rfl, rfl, hpq.factionId, hpq.template, hpq.experience,
                    hpq.health, by rw [hpq.movementRemaining]⟩
    have hback : EntryKept (target.units.get? i) (server.units.get? i) := by
      rcases hunits i with ⟨hs, ht⟩ | ⟨p, q, hs, ht, hk⟩
      · exact Or.inl ⟨ht, hs⟩
      · exact Or.inr ⟨q, p, ht, hs, hk.factionId.symm, hk.template.symm, hk.experience.symm,
          hk.health.symm, hk.movement_neg.symm⟩
    rw [← get?_syncState]
    exact ((hunits' i).trans hend).trans hback
  · have howners := hadopt.owners
    simp only [OwnersMatch, GameState.owners] at *
    have hstate : (session.setState state).state.cities = session.state.cities := by
      show state.cities = _
      rw [hcit', (syncState_frame session.state server).2.2.2]
    rw [hstate, hcit] at howners
    exact howners

/-- **What reconciliation needs in order to adopt the server state.**  It does when everything that
is not copied agrees beforehand; when only moves are pending it does not unless the rosters and the
owners match; and when nothing is pending it does exactly when they match. -/
theorem reconcile_adopts (m : PredictionManager) (session : GameSession) (server : GameState) :
    (SameAsRead m.pending session.state server → AdoptsServer m session server) ∧
    ((∀ pred ∈ m.pending, ∃ a, pred.action = .move a) →
      (∃ out, reapply server m.pending = .ok out) → AdoptsServer m session server →
      RosterMatches session.state server ∧ OwnersMatch session.state server) ∧
    (m.pending = [] → (AdoptsServer m session server ↔
      RosterMatches session.state server ∧ OwnersMatch session.state server)) := by
  refine ⟨adoptsServer_of_same, matches_of_adoptsServer, ?_⟩
  intro hnil
  constructor
  · refine matches_of_adoptsServer ?_ ⟨(server, []), by rw [hnil]; rfl⟩
    intro pred hpred
    rw [hnil] at hpred
    simp at hpred
  · intro hmatch target kept hre
    obtain ⟨hroster, howners⟩ := hmatch
    rw [hnil] at hre
    obtain ⟨rfl, rfl⟩ := Prod.mk.inj (Except.ok.inj hre)
    refine ⟨m, session.setState (syncState session.state server), ?_, hnil, ?_⟩
    · rw [PredictionManager.reconcile]
      rw [hnil]
      show Except.ok _ = _
      cases m
      simp only at hnil
      rw [hnil]
    · obtain ⟨hturn, -, -, hcit⟩ := syncState_frame session.state server
      refine ⟨hturn, hroster.units_agree, ?_⟩
      rw [OwnersMatch, GameState.owners] at *
      show (syncState session.state server).cities.map _ = _
      rw [hcit]
      exact howners

/-- A client that still has a warrior; the server state `plainField` has none. -/
def staleSession : GameSession where
  state := (plainField.addUnit (Unit.create 0 0 warriorTemplate 1)).1

/-- **A unit that the server has lost stays in the local state.** -/
theorem reconcile_keeps_lost_unit : ¬ AdoptsServer {} staleSession plainField := by
  intro h
  have hmatch := matches_of_adoptsServer (m := {}) (by simp) ⟨(plainField, []), rfl⟩ h
  exact absurd hmatch.1.size (by decide)

end My4X
