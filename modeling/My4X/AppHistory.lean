/-
**What a game of the application inherits.**

However long a game is played, saved and loaded, it comes from the game that was set up: its map and
its cities are the same but for their owners, no unit is new, the units of the other factions stand
where they stood, and those of a faction at peace with the player are as they were.

Main definitions:

* `My4X.UnitVec.census` — what is told of the units of a list, in their order;
* `My4X.GameState.Inherits` — what one game has inherited from another;
* `My4X.AppState.Inherited` — the game and all saves inherit from the game that was set up.

Main results:

* `My4X.GameState.Inherits.trans` — inheritance is transitive;
* `My4X.GameState.Inherits.execute` — what a unit of the player does keeps the inheritance;
* `My4X.AppState.every_game_inherits` — **every game that is reached inherits from the game that was
  set up**, through saves and loads too.
-/

import My4X.LoadedGames

set_option relaxedAutoImplicit false
set_option autoImplicit false

namespace My4X

open GameState

/-! ### What is told of units -/

/-- A change of one element that the reading does not see. -/
theorem filterMap_set_of_eq {α β : Type} {g : α → Option β} {l : List α} {i : ℕ} {a b : α}
    (ha : l[i]? = some a) (hg : g b = g a) : (l.set i b).filterMap g = l.filterMap g := by
  induction l generalizing i with
  | nil => cases ha
  | cons c l ih =>
      cases i with
      | zero =>
          obtain rfl := Option.some_inj.1 ha
          rw [List.set_cons_zero, List.filterMap_cons, List.filterMap_cons, hg]
      | succ i => rw [List.set_cons_succ, List.filterMap_cons, List.filterMap_cons, ih ha]

namespace UnitVec

variable {α : Type} {g : Unit → Option α}

/-- What is told of the units of a list, in their order. -/
def census (v : UnitVec) (g : Unit → Option α) : List α := v.list.filterMap fun p => g p.unit

/-- A change of one unit that the census does not see. -/
theorem census_set {v : UnitVec} {i : ℕ} {p : OwnedUnit} (hp : v.get? i = some p) {u : Unit}
    (hg : g u = g p.unit) : (v.set i u).census g = v.census g := by
  rw [census, UnitVec.set_list hp]
  exact filterMap_set_of_eq hp hg

/-- Two lists of units that agree on what the census sees. -/
theorem census_of_forall₂ {v w : UnitVec}
    (h : List.Forall₂ (fun p q : OwnedUnit => g q.unit = g p.unit) v.list w.list) :
    w.census g = v.census g := by
  have hlists : ∀ {l m : List OwnedUnit},
      List.Forall₂ (fun p q : OwnedUnit => g q.unit = g p.unit) l m →
      m.filterMap (fun p => g p.unit) = l.filterMap fun p => g p.unit := by
    intro l m h
    induction h with
    | nil => rfl
    | cons hpq _ ih => rw [List.filterMap_cons, List.filterMap_cons, hpq, ih]
  exact hlists h

end UnitVec

namespace Unit

/-- What a unit remains as long as it lives. -/
def rank (u : Unit) : Option (UnitTemplate × FactionId) := some (u.template, u.factionId)

/-- Where a unit stands that is not the player's. -/
def post (u : Unit) : Option (ℤ × ℤ × UnitTemplate × FactionId) :=
  if u.factionId = playerFactionId then none else some (u.row, u.col, u.template, u.factionId)

/-- All that is saved of a unit of a faction, but for its movement. -/
def record (f : FactionId) (u : Unit) : Option (ℤ × ℤ × UnitTemplate × ℤ × ℤ) :=
  if u.factionId = f then some (u.row, u.col, u.template, u.health, u.experience) else none

theorem rank_of_same {u u' : Unit} (h : SameSoldier u u') : u'.rank = u.rank := by
  rw [rank, rank, h.template, h.factionId]

theorem post_of_same {u u' : Unit} (h : SameSoldier u u') : u'.post = u.post := by
  rw [post, post, h.row, h.col, h.template, h.factionId]

theorem record_of_same {u u' : Unit} (h : SameSoldier u u') (hhealth : u'.health = u.health)
    (hexperience : u'.experience = u.experience) (f : FactionId) : u'.record f = u.record f := by
  rw [record, record, h.row, h.col, h.template, h.factionId, hhealth, hexperience]

theorem record_of_ne {f : FactionId} {u : Unit} (h : u.factionId ≠ f) : u.record f = none :=
  if_neg h

end Unit

/-! ### Inheritance -/

/-- A city that is where it was; the player may have taken it. -/
structure City.Held (c c' : City) : Prop where
  id : c'.id = c.id
  name : c'.name = c.name
  centerRow : c'.centerRow = c.centerRow
  centerCol : c'.centerCol = c.centerCol
  tiles : c'.tiles = c.tiles
  owner : c'.factionId = c.factionId ∨ c'.factionId = playerFactionId.toInt32

theorem City.Held.refl (c : City) : c.Held c := ⟨rfl, rfl, rfl, rfl, rfl, Or.inl rfl⟩

theorem City.Held.trans {c c' c'' : City} (h : c.Held c') (h' : c'.Held c'') : c.Held c'' where
  id := h'.id.trans h.id
  name := h'.name.trans h.name
  centerRow := h'.centerRow.trans h.centerRow
  centerCol := h'.centerCol.trans h.centerCol
  tiles := h'.tiles.trans h.tiles
  owner := by
    rcases h'.owner with hsame | htaken
    · rw [hsame]
      exact h.owner
    · exact Or.inr htaken

namespace GameState

/-- **What one game has inherited from another**: the map and the cities are the same, but for
owners; no unit is new, the units of the other factions stand where they stood, those of a faction
at peace with the player are as they were, and no war is new. -/
structure Inherits (s s' : GameState) : Prop where
  height : s'.map.height = s.map.height
  width : s'.map.width = s.map.width
  terrain : ∀ row col, (s'.map.tiles.get? row col).map (·.terrain) =
    (s.map.tiles.get? row col).map (·.terrain)
  cities : List.Forall₂ City.Held s.cities s'.cities
  ranks : (s'.units.census Unit.rank).Sublist (s.units.census Unit.rank)
  posts : (s'.units.census Unit.post).Sublist (s.units.census Unit.post)
  spared : ∀ f, f ≠ playerFactionId → s.diplomacy.areAtWar playerFactionId f = false →
    s'.units.census (Unit.record f) = s.units.census (Unit.record f)
  wars : ∀ f g, s'.diplomacy.areAtWar f g = true → s.diplomacy.areAtWar f g = true

namespace Inherits

variable {s s' s'' : GameState}

theorem refl (s : GameState) : Inherits s s :=
  ⟨rfl, rfl, fun _ _ => rfl, List.forall₂_same.2 fun c _ => City.Held.refl c,
    List.Sublist.refl _, List.Sublist.refl _, fun _ _ _ => rfl, fun _ _ h => h⟩

theorem trans (h : Inherits s s') (h' : Inherits s' s'') : Inherits s s'' where
  height := h'.height.trans h.height
  width := h'.width.trans h.width
  terrain row col := (h'.terrain row col).trans (h.terrain row col)
  cities := Fallible.forall₂_comp h.cities h'.cities fun _ _ _ _ hc hc' => hc.trans hc'
  ranks := h'.ranks.trans h.ranks
  posts := h'.posts.trans h.posts
  spared f hf hpeace := by
    have hpeace' : s'.diplomacy.areAtWar playerFactionId f = false := by
      by_contra hwar
      rw [h.wars _ _ (by simpa using hwar)] at hpeace
      cases hpeace
    exact (h'.spared f hf hpeace').trans (h.spared f hf hpeace)
  wars f g hwar := h.wars f g (h'.wars f g hwar)

/-- A change of the units and the cities. -/
theorem of_map (hmap : s'.map = s.map) (hdiplomacy : s'.diplomacy = s.diplomacy)
    (hcities : List.Forall₂ City.Held s.cities s'.cities)
    (hranks : (s'.units.census Unit.rank).Sublist (s.units.census Unit.rank))
    (hposts : (s'.units.census Unit.post).Sublist (s.units.census Unit.post))
    (hspared : ∀ f, f ≠ playerFactionId → s.diplomacy.areAtWar playerFactionId f = false →
      s'.units.census (Unit.record f) = s.units.census (Unit.record f)) : Inherits s s' where
  height := congrArg Map.height hmap
  width := congrArg Map.width hmap
  terrain row col := by rw [hmap]
  cities := hcities
  ranks := hranks
  posts := hposts
  spared := hspared
  wars f g hwar := by
    rw [← hdiplomacy]
    exact hwar

/-- The view does not matter. -/
theorem view (h : Inherits s s') (fog : FogOfWar) : Inherits s { s' with fog } :=
  ⟨h.height, h.width, h.terrain, h.cities, h.ranks, h.posts, h.spared, h.wars⟩

/-- A change of one city that stays where it is. -/
theorem setCity {k : ℕ} {city city' : City} (hcity : s.cities[k]? = some city)
    (hheld : city.Held city') : Inherits s (s.setCity k city') := by
  refine of_map rfl rfl ?_ (List.Sublist.refl _) (List.Sublist.refl _) fun _ _ _ => rfl
  have hsame : List.Forall₂ City.Held s.cities s.cities :=
    List.forall₂_same.2 fun c _ => City.Held.refl c
  exact forall₂_set hsame hcity fun c hc => hc.trans hheld

end Inherits

/-! ### Actions of the player -/

/-- A move of a unit of the player. -/
theorem Inherits.relocate {s : GameState} {i : ℕ} {p : OwnedUnit} {u : Unit}
    (hp : s.units.get? i = some p) (hplayer : p.unit.factionId = playerFactionId)
    (hfaction : u.factionId = p.unit.factionId) (htemplate : u.template = p.unit.template) :
    Inherits s (s.relocate i p u) := by
  have hrank : u.rank = p.unit.rank := by rw [Unit.rank, Unit.rank, hfaction, htemplate]
  have hpost : u.post = p.unit.post := by
    rw [Unit.post, Unit.post, hfaction, hplayer, if_pos rfl, if_pos rfl]
  refine of_map rfl rfl (List.forall₂_same.2 fun c _ => City.Held.refl c) ?_ ?_ fun f hf _ => ?_
  · exact (UnitVec.census_set hp hrank).symm ▸ List.Sublist.refl _
  · exact (UnitVec.census_set hp hpost).symm ▸ List.Sublist.refl _
  · refine UnitVec.census_set hp ?_
    rw [Unit.record_of_ne (by rw [hfaction, hplayer]; exact hf.symm),
      Unit.record_of_ne (by rw [hplayer]; exact hf.symm)]

/-- What is told of the units after a round, before the dead are removed. -/
theorem census_fought {α : Type} {g : Unit → Option α} {s : GameState} {a : AttackAction}
    {p q : OwnedUnit} {attacker target : Unit} (h : AttackAction.Checked a s p q)
    (hattacker : g attacker = g p.unit) (htarget : g target = g q.unit) :
    (a.fought s attacker target).units.census g = s.units.census g :=
  (UnitVec.census_set (h.attacker_after target) hattacker).trans
    (UnitVec.census_set h.target htarget)

/-- **An attack of the player**: at most units of the player and of an enemy fall. -/
theorem Inherits.attack {s s' : GameState} (hsound : s.Sound) {a : AttackAction} {r : AttackResult}
    (hex : a.execute s = .ok (s', r))
    (hplayer : ∃ p, s.units.get? a.attackerIndex = some p ∧ p.unit.factionId = playerFactionId) :
    Inherits s s' := by
  obtain ⟨hvalidation, ⟨-, -, rfl⟩ | ⟨-, hvalid, p, q, attacker, target, hround, rfl⟩⟩ :=
    AttackAction.execute_cases hex
  · exact Inherits.refl _
  · have hlist := AttackAction.outcome_list hround hsound.living
    have hrest := AttackAction.outcome_eq a s p q attacker target
    have hsub : ∀ {α : Type} (g : Unit → Option α),
        ((a.outcome s p q attacker target).units.census g).Sublist
          ((a.fought s attacker target).units.census g) := by
      intro α g
      rw [UnitVec.census, hlist]
      exact List.Sublist.filterMap _ List.filter_sublist
    have hwar := AttackAction.areAtWar_of_valid (hvalidation.symm.trans hvalid) hround.checked
    obtain ⟨p', hp', hplayer⟩ := hplayer
    obtain rfl := Option.some_inj.1 (hround.checked.attacker.symm.trans hp')
    refine of_map (congrArg GameState.map hrest :) (congrArg GameState.diplomacy hrest :) ?_ ?_ ?_
      fun f hf hpeace => ?_
    · rw [show (a.outcome s p q attacker target).cities = s.cities from
        (congrArg GameState.cities hrest :)]
      exact List.forall₂_same.2 fun c _ => City.Held.refl c
    · have hsame := census_fought hround.checked (Unit.rank_of_same hround.same_attacker)
        (Unit.rank_of_same hround.same_target)
      exact hsame ▸ hsub Unit.rank
    · have hsame := census_fought hround.checked (Unit.post_of_same hround.same_attacker)
        (Unit.post_of_same hround.same_target)
      exact hsame ▸ hsub Unit.post
    · -- neither of the two is of the faction at peace
      have hattacker : attacker.factionId ≠ f := by
        rw [hround.same_attacker.factionId, hplayer]
        exact hf.symm
      have htarget : target.factionId ≠ f := by
        rw [hround.same_target.factionId]
        rintro rfl
        rw [hplayer, hpeace] at hwar
        cases hwar
      have hsame := census_fought (g := Unit.record f) hround.checked
        (by rw [Unit.record_of_ne hattacker,
          Unit.record_of_ne (hround.same_attacker.factionId ▸ hattacker)])
        (by rw [Unit.record_of_ne htarget,
          Unit.record_of_ne (hround.same_target.factionId ▸ htarget)])
      rw [← hsame, UnitVec.census, UnitVec.census, hlist, List.filterMap_filter]
      refine List.filterMap_congr fun u hu => ?_
      split
      · rfl
      · next hdead =>
          obtain ⟨j, hj⟩ := List.mem_iff_getElem?.1 hu
          rw [Bool.not_eq_true] at hdead
          have hget := (AttackAction.fought_get? hround.checked j).symm.trans hj
          rcases hround.dead_cases hsound.living hj hdead with ⟨rfl, -⟩ | ⟨rfl, -⟩
          · rw [if_pos rfl] at hget
            obtain rfl := Option.some_inj.1 hget
            exact (Unit.record_of_ne hattacker).symm
          · rw [if_neg hround.checked.index_ne.symm, if_pos rfl] at hget
            obtain rfl := Option.some_inj.1 hget
            exact (Unit.record_of_ne htarget).symm

/-- **What a unit of the player does keeps the inheritance.** -/
theorem Inherits.execute {s s' : GameState} (hsound : s.Sound) {action : GameAction}
    {executed : Bool} (hex : action.execute s = .ok (s', executed))
    (hplayer : ∃ p, s.units.get? action.actorIndex = some p ∧ p.unit.factionId = playerFactionId) :
    Inherits s s' := by
  cases action with
  | move a =>
      obtain ⟨r, hex, -⟩ := GameAction.execute_move.1 hex
      obtain ⟨-, ⟨-, -, rfl⟩ | ⟨-, -, p, u, t, hp, -, hmove, rfl⟩⟩ := MoveAction.execute_cases hex
      · exact Inherits.refl _
      · obtain ⟨p', hp', hplayer⟩ := hplayer
        obtain rfl := Option.some_inj.1 (hp.symm.trans hp')
        obtain ⟨-, -, -, -, -, -, hfaction, htemplate, -⟩ := Unit.moveTo_eq_ok hmove
        exact Inherits.relocate hp hplayer hfaction htemplate
  | attack a =>
      obtain ⟨r, hex, -⟩ := GameAction.execute_attack.1 hex
      exact Inherits.attack hsound hex hplayer
  | capture a =>
      obtain ⟨r, hex, -⟩ := GameAction.execute_capture.1 hex
      obtain ⟨-, ⟨-, -, rfl⟩ | ⟨-, -, p, i, city, htaken, rfl⟩⟩ := CaptureAction.execute_cases hex
      · exact Inherits.refl _
      · obtain ⟨p', hp', hplayer⟩ := hplayer
        obtain rfl := Option.some_inj.1 (htaken.unit.symm.trans hp')
        refine Inherits.setCity htaken.get ⟨rfl, rfl, rfl, rfl, rfl, Or.inr ?_⟩
        exact congrArg UInt32.toInt32 hplayer

/-! ### Turns and saves -/

/-- **Units that are as they were**, but for their movement. -/
theorem Inherits.of_same {s s' : GameState} (hheight : s'.map.height = s.map.height)
    (hwidth : s'.map.width = s.map.width)
    (hterrain : ∀ row col, (s'.map.tiles.get? row col).map (·.terrain) =
      (s.map.tiles.get? row col).map (·.terrain))
    (hcities : List.Forall₂ City.Held s.cities s'.cities)
    (hunits : List.Forall₂ (fun p q : OwnedUnit => SameSoldier p.unit q.unit ∧
      q.unit.health = p.unit.health ∧ q.unit.experience = p.unit.experience)
      s.units.list s'.units.list)
    (hwars : ∀ f g, s'.diplomacy.areAtWar f g = true → s.diplomacy.areAtWar f g = true) :
    Inherits s s' := by
  have hranks := UnitVec.census_of_forall₂ (g := Unit.rank)
    (hunits.imp fun p q h => Unit.rank_of_same h.1)
  have hposts := UnitVec.census_of_forall₂ (g := Unit.post)
    (hunits.imp fun p q h => Unit.post_of_same h.1)
  exact ⟨hheight, hwidth, hterrain, hcities, hranks ▸ List.Sublist.refl _,
    hposts ▸ List.Sublist.refl _, fun f _ _ => UnitVec.census_of_forall₂
      (hunits.imp fun p q h => Unit.record_of_same h.1 h.2.1 h.2.2 f), hwars⟩

/-- **The end of a turn keeps the inheritance.** -/
theorem TurnEnded.inherits {s s' : GameState} (h : TurnEnded s s') : Inherits s s' := by
  refine Inherits.of_same (congrArg Map.height h.map) (congrArg Map.width h.map)
    (fun row col => by rw [h.map]) ?_ ?_ fun f g hwar => by rw [← h.diplomacy]; exact hwar
  · exact h.cities.imp fun c c' hsite =>
      ⟨hsite.id, hsite.name, hsite.centerRow, hsite.centerCol, hsite.tiles, Or.inl hsite.factionId⟩
  · rw [h.units, UnitVec.mapUnits]
    rw [List.forall₂_map_right_iff]
    refine List.forall₂_same.2 fun p _ => ?_
    dsimp only
    rw [Unit.startTurn]
    split
    · exact ⟨⟨rfl, rfl, rfl, rfl⟩, rfl, rfl⟩
    · exact ⟨SameSoldier.refl _, rfl, rfl⟩

/-- **What is loaded of a save keeps the inheritance.** -/
theorem Inherits.restored {s t : GameState} (h : Restored s t)
    (hdiplomacy : t.diplomacy = DiplomacyManager.empty) : Inherits s t := by
  refine Inherits.of_same h.height h.width h.terrain ?_ ?_ fun f g hwar => ?_
  · exact h.cities.imp fun c c' hc =>
      ⟨hc.id, hc.name, hc.centerRow, hc.centerCol, hc.tiles, Or.inl hc.factionId⟩
  · exact h.units.imp fun p q hpq => ⟨⟨hpq.row.symm, hpq.col.symm, hpq.factionId.symm,
      hpq.template.symm⟩, hpq.health.symm, hpq.experience.symm⟩
  · rw [hdiplomacy, AppState.areAtWar_empty] at hwar
    cases hwar

end GameState

/-! ### The application -/

namespace AppState

variable {codec : Codec} {queue : CostQueue} {draws : ℕ → TerrainType}

/-- **What the player does keeps the inheritance.** -/
theorem Play.inherits {i : FrameInput} {app app' : AppState} (h : Play i app app')
    (hsound : app.state.Sound) :
    Inherits app.state app'.state := by
  cases h with
  | rests state log saves entered => exact state ▸ Inherits.refl _
  | @acts action s fog events player executes view state reported quiet log saves entered =>
      have hacted := Inherits.execute hsound executes player
      rw [state]
      exact hacted.view fog
  | orders found queued state log saves entered =>
      rw [state]
      exact Inherits.setCity found ⟨rfl, rfl, rfl, rfl, rfl, Or.inl rfl⟩
  | ends completes log saves entered =>
      obtain ⟨s', hturn, -, hended⟩ := hsound.processTurn
      obtain rfl := (Prod.mk.inj (completes.symm.trans hturn)).1
      exact hended.inherits

/-- **The game and all saves inherit from the game that was set up**; until then there is the new
map and no save. -/
structure Inherited (codec : Codec) (started setUp : GameState) (app : AppState) : Prop where
  fresh : app.gameInitialized = false → app.state = started
  game : app.gameInitialized = true → Inherits setUp app.state
  saves : ∀ file ∈ app.saves.files, ∀ draws t,
    deserializeGameState codec draws file.data = .ok t → Inherits setUp t

/-- **Every change keeps the inheritance**, if no write stops midway. -/
theorem Inherited.change (hcodec : codec.Exact) {started setUp : GameState}
    (hsetup : setupDemoState started = .ok setUp) {i : FrameInput} (hfair : i.Fair codec)
    (hwhole : ∀ written, i.outcome ≠ .cut written) {app app' : AppState}
    (h : Inherited codec started setUp app) (hkept : Kept codec app)
    (hchange : Change codec i app app') : Inherited codec started setUp app' := by
  have hgame : ∀ {t : GameState} {fog : FogOfWar}, Inherits setUp t → app'.state = { t with fog } →
      app'.saves = app.saves → app'.gameInitialized = true →
      Inherited codec started setUp app' := by
    intro t fog ht hstate hsaves hentered
    refine ⟨fun hfresh => ?_, fun _ => ?_, ?_⟩
    · rw [hentered] at hfresh
      cases hfresh
    · rw [hstate]
      exact ht.view fog
    · rw [hsaves]
      exact h.saves
  cases hchange with
  | rests state log saves entered =>
      refine ⟨fun hfresh => ?_, fun hplaying => ?_, ?_⟩
      · rw [state]
        exact h.fresh (entered.symm.trans hfresh)
      · rw [state]
        exact h.game (entered.symm.trans hplaying)
      · rw [saves]
        exact h.saves
  | plays playing play =>
      have hplayed := (h.game playing).trans (play.inherits hkept.sound)
      exact hgame hplayed rfl play.rest.1 (play.rest.2.trans playing)
  | saves playing asked state log saves entered =>
      have hnow := h.game playing
      refine ⟨fun hfresh => ?_, fun _ => ?_, ?_⟩
      · rw [entered] at hfresh
        cases hfresh
      · rw [state]
        exact hnow
      · rw [saves]
        refine forall_data_saveGame (P := fun data => ∀ draws t,
          deserializeGameState codec draws data = .ok t → Inherits setUp t) h.saves _
          (fun data hdata draws t hload => ?_)
          (fun written hwritten => absurd hwritten (hwhole written))
        -- what is written is what is loaded again
        obtain ⟨t', ht', hrestored, -⟩ := exists_restored hcodec hkept.sound hdata draws
        obtain rfl := Except.ok.inj (hload.symm.trans ht')
        obtain ⟨proto, fresh, reg, -, hloaded⟩ := loaded_of_deserialize hload
        exact hnow.trans (Inherits.restored hrestored hloaded.diplomacy)
  | @loads t fog playing asked loaded view state log saves entered =>
      obtain ⟨file, hfile, hload⟩ := exists_file_of_loadLatest hkept hfair loaded
      exact hgame (h.saves file hfile i.draws t hload) state saves entered
  | begins fresh setUp' log saves entered =>
      rw [h.fresh fresh, hsetup] at setUp'
      obtain rfl := Except.ok.inj setUp'
      exact hgame (Inherits.refl _) rfl saves entered

/-- **Every game that is ever reached inherits from the game that was set up**, however often it was
saved and loaded: no unit is new, those of the others stand where they stood, those at peace with
the player are as they were, and no city but the ones the player has taken has changed hands. -/
theorem every_game_inherits (hcodec : codec.Exact) {started app : AppState}
    (hstart : start draws .empty = .ok started) {inputs : List FrameInput}
    (hfair : ∀ i ∈ inputs, i.Fair codec)
    (hwhole : ∀ i ∈ inputs, ∀ written, i.outcome ≠ .cut written)
    (hrun : Runs.run (appStep codec queue) started inputs = some app)
    (hentered : app.gameInitialized = true) :
    ∃ setUp, setupDemoState started.state = .ok setUp ∧ Inherits setUp app.state ∧
      ∀ file ∈ app.saves.files, ∀ draws t,
        deserializeGameState codec draws file.data = .ok t → Inherits setUp t := by
  have hready : Ready codec started := ready_of_start (fun file hfile => by cases hfile) hstart
  obtain ⟨setUp, hsetup, -⟩ := setupDemoState_ok hready.kept.sound hready.kept.size
  have hbegan : Inherited codec started.state setUp started := by
    obtain ⟨state, -, hstart⟩ := Except.bind_eq_ok.1 hstart
    obtain rfl := Except.ok.inj hstart
    exact ⟨fun _ => rfl, fun h => absurd h (by simp), fun file hfile => by cases hfile⟩
  have hinherited := (of_run
    (P := fun i => i.Fair codec ∧ ∀ written, i.outcome ≠ .cut written)
    (I := Inherited codec started.state setUp) hcodec
    (fun i _ _ hi hkept h hchange => h.change hcodec hsetup hi.1 hi.2 hkept hchange)
    (fun i hi => ⟨hfair i hi, hfair i hi, hwhole i hi⟩) hready hbegan hrun).2
  exact ⟨setUp, hsetup, hinherited.game hentered, hinherited.saves⟩

/-- A new game, saved, loaded, and played on. -/
theorem saveAndLoad_inherits : ∃ started app : AppState, ∃ setUp,
    setupDemoState started.state = .ok setUp ∧ Inherits setUp app.state := by
  obtain ⟨codec, started, s, app₃, app₄, t, hcodec, hsound, hstart, henter, hsaved, -⟩ :=
    saveAndLoad_run
  obtain ⟨setUp, hsetup, hinherits, -⟩ := every_game_inherits hcodec hstart
    (fun k hk => saveAndLoad_fair k (List.mem_append_left _ (List.mem_append_left _ hk)))
    (by
      simp only [enterGame, List.cons_append, List.nil_append, List.forall_mem_cons]
      exact ⟨by simp, by simp, by simp, by simp [saveFrame], fun k hk => by cases hk⟩)
    hsaved rfl
  exact ⟨started, _, setUp, hsetup, hinherits⟩

end AppState

end My4X
