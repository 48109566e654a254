/-
**The estimate in the panel of a city.**

The panel of a city shows in how many turns its front order will be done.  The estimate divides; the
game adds up production turn by turn, while the player moves and fights, orders more, saves and
looks around.  Both count with `int`s.  This module shows that the two agree: as long as what they
count with the order fits, and unless the order is cancelled or another game is loaded, the number
counts down by one with every turn, and when it has run down the building stands.

Main definitions:

* `My4X.GameState.OrderKept` — what has come of the front order of a city.

Main results:

* `My4X.AppState.shown_estimate_exact` — **the shown estimate is exact, whatever else the player
  does**.
-/

import My4X.AppRuns
import My4X.IntQueues
import My4X.Queues

set_option relaxedAutoImplicit false
set_option autoImplicit false

namespace My4X

open TurnResolver

/-- An order that is paid for is not shown to take any turns. -/
theorem unpaid_of_turnsRemaining {q : BuildQueue} {front : BuildQueueItem}
    {rest : List BuildQueueItem} (hq : q.queue = front :: rest) {p : ℤ} (hp : 0 < p)
    (hturns : 0 < q.turnsRemaining p) : q.accumulated < front.productionCost := by
  by_contra hpaid
  rw [BuildQueue.turnsRemaining, hq] at hturns
  dsimp only at hturns
  rw [if_neg (by omega)] at hturns
  have hless : (front.productionCost - q.accumulated + p - 1).tdiv p ≤ (p - 1).tdiv p :=
    Int.tdiv_le_tdiv hp (by omega)
  have hnone : (p - 1).tdiv p = 0 := Int.tdiv_eq_zero_of_lt (by omega) (by omega)
  omega

/-! ### The end of a turn -/

/-- What the cities come to at the end of a turn. -/
theorem producedAll_of_processTurn {s s' : GameState} (hend : processTurn s = (s', none)) :
    ProducedAll s (List.range s.cities.length) s' := by
  obtain ⟨-, hproduced⟩ := produceCitiesFrom_economy List.nodup_range s.startTurn
    fun i hi => List.mem_range.1 hi
  rw [GameState.processTurn_eq] at hend
  split at hend
  · cases (Prod.mk.inj hend).2
  · next s₁ hout =>
      rw [show s.startTurn.cities.length = s.cities.length from rfl, hout] at hproduced
      obtain ⟨hcities, hlength, hbuildings⟩ := hproduced rfl
      split at hend
      · cases (Prod.mk.inj hend).2
      · obtain rfl := (Prod.mk.inj hend).1
        exact ⟨hcities, hlength, hbuildings⟩

/-- What a city has made is among the new buildings. -/
theorem ProducedAll.made {s s' : GameState} (h : ProducedAll s (List.range s.cities.length) s')
    {k : ℕ} {city : City} (hcity : s.cities[k]? = some city) {b : Building} (hb : b ∈ city.made) :
    ∃ j b', s.buildings.length ≤ j ∧ s'.buildings[j]? = some b' ∧ b'.anonymous = b.anonymous := by
  have hk : k ∈ List.range s.cities.length :=
    List.mem_range.2 (List.getElem?_eq_some_iff.1 hcity).1
  have hmem : b ∈ (List.range s.cities.length).flatMap fun i => s.cities[i]?.elim [] City.made := by
    refine List.mem_flatMap.2 ⟨k, hk, ?_⟩
    rw [hcity]
    exact hb
  have hanonymous := List.mem_map_of_mem (f := Building.anonymous) hmem
  rw [← numbered_map_anonymous s.nextBuildingId] at hanonymous
  obtain ⟨b', hb', hsame⟩ := List.mem_map.1 hanonymous
  obtain ⟨i, hi⟩ := List.mem_iff_getElem?.1 hb'
  refine ⟨s.buildings.length + i, b', Nat.le_add_right _ _, ?_, hsame⟩
  rw [h.buildings, List.getElem?_append_right (Nat.le_add_right _ _), Nat.add_sub_cancel_left]
  exact hi

namespace GameState

/-! ### What comes of an order -/

/-- **What has come of the front order of a city of the player** since a state in which some
production was saved for it: as long as the production of the turns since does not pay for it, it
stays in front with this production; then its building stands among those that are new. -/
structure OrderKept (s₀ : GameState) (k : ℕ) (item : BuildQueueItem) (saved : ℤ) (s : GameState) :
    Prop where
  turn : s₀.turn ≤ s.turn
  buildings : s₀.buildings <+: s.buildings
  waits : saved + (s.turn - s₀.turn) * City.productionPerTurn < item.productionCost →
    ∃ city rest, s.cities[k]? = some city ∧ city.owner = playerFactionId ∧
      city.buildQueue.queue = item :: rest ∧
      city.buildQueue.accumulated = saved + (s.turn - s₀.turn) * City.productionPerTurn
  built : item.productionCost ≤ saved + (s.turn - s₀.turn) * City.productionPerTurn →
    ∃ j b, s₀.buildings.length ≤ j ∧ s.buildings[j]? = some b ∧
      b.anonymous ∈ (madeBuilding item).map Building.anonymous

namespace OrderKept

variable {s₀ s s' : GameState} {k : ℕ} {item : BuildQueueItem} {saved : ℤ}

/-- At the start the order waits. -/
theorem start {city : City} {rest : List BuildQueueItem} (hcity : s.cities[k]? = some city)
    (howner : city.owner = playerFactionId) (hqueue : city.buildQueue.queue = item :: rest)
    (hunpaid : city.buildQueue.accumulated < item.productionCost) :
    OrderKept s k item city.buildQueue.accumulated s := by
  have hnow : city.buildQueue.accumulated + (s.turn - s.turn) * City.productionPerTurn =
      city.buildQueue.accumulated := by
    rw [Int.sub_self, Int.zero_mul, Int.add_zero]
  refine ⟨le_rfl, List.prefix_rfl, fun _ => ⟨city, rest, hcity, howner, hqueue, hnow.symm⟩,
    fun hpaid => ?_⟩
  rw [hnow] at hpaid
  exact absurd hpaid (Int.not_le.2 hunpaid)

/-- A change that leaves the turn and the buildings as they are, and the front of the queue. -/
theorem of_front (h : OrderKept s₀ k item saved s) (hturn : s'.turn = s.turn)
    (hbuildings : s'.buildings = s.buildings)
    (hfront : ∀ city rest, s.cities[k]? = some city → city.owner = playerFactionId →
      city.buildQueue.queue = item :: rest → ∃ city' rest', s'.cities[k]? = some city' ∧
        city'.owner = playerFactionId ∧ city'.buildQueue.queue = item :: rest' ∧
        city'.buildQueue.accumulated = city.buildQueue.accumulated) :
    OrderKept s₀ k item saved s' where
  turn := hturn ▸ h.turn
  buildings := hbuildings ▸ h.buildings
  waits hunpaid := by
    rw [hturn] at hunpaid ⊢
    obtain ⟨city, rest, hcity, howner, hqueue, haccumulated⟩ := h.waits hunpaid
    obtain ⟨city', rest', hcity', howner', hqueue', hsame⟩ := hfront city rest hcity howner hqueue
    exact ⟨city', rest', hcity', howner', hqueue', hsame.trans haccumulated⟩
  built hpaid := by
    rw [hturn] at hpaid
    rw [hbuildings]
    exact h.built hpaid

theorem of_eq (h : OrderKept s₀ k item saved s) (hturn : s'.turn = s.turn)
    (hcities : s'.cities = s.cities) (hbuildings : s'.buildings = s.buildings) :
    OrderKept s₀ k item saved s' := by
  refine h.of_front hturn hbuildings fun city rest hcity howner hqueue => ?_
  rw [hcities]
  exact ⟨city, rest, hcity, howner, hqueue, rfl⟩

/-- A change of another city. -/
theorem setCity_ne (h : OrderKept s₀ k item saved s) {i : ℕ} (hne : i ≠ k) (c : City) :
    OrderKept s₀ k item saved (s.setCity i c) :=
  h.of_front rfl rfl fun city rest hcity howner hqueue =>
    ⟨city, rest, (List.getElem?_set_ne hne).trans hcity, howner, hqueue, rfl⟩

/-- **Orders come behind the front one.** -/
theorem requeued (h : OrderKept s₀ k item saved s) {i : FrameInput} (hkeeps : i.keyX = false)
    {j : ℕ} {city : City} {queue : BuildQueue} (hcity : s.cities[j]? = some city)
    (hqueued : AppState.Requeued i city.buildQueue queue) :
    OrderKept s₀ k item saved (s.setCity j (city.setBuildQueue queue)) := by
  cases hqueued with
  | cancels asked =>
      rw [hkeeps] at asked
      cases asked
  | @enqueues factory known tile hovered =>
      by_cases hj : j = k
      · subst hj
        refine h.of_front rfl rfl fun front rest hfront howner hqueue => ?_
        rw [hcity] at hfront
        obtain rfl := Option.some_inj.1 hfront
        have hfirst : ∃ rest', (city.buildQueue.enqueue factory tile.row tile.col).queue =
            item :: rest' := by
          rw [BuildQueue.enqueue, hqueue]
          exact ⟨_, List.cons_append⟩
        obtain ⟨rest', hfirst⟩ := hfirst
        exact ⟨_, rest', List.getElem?_set_self (List.getElem?_eq_some_iff.1 hcity).1, howner,
          hfirst, rfl⟩
      · exact h.setCity_ne hj _

/-- **No unit of the player takes a city of the player.** -/
theorem execute (h : OrderKept s₀ k item saved s) {action : GameAction} {executed : Bool}
    {p : OwnedUnit} (hunit : s.units.get? action.actorIndex = some p)
    (hplayer : p.unit.factionId = playerFactionId)
    (hex : action.execute s = .ok (s', executed)) : OrderKept s₀ k item saved s' := by
  have hturn : s'.turn = s.turn := (congrArg GameState.turn (execute_rest hex) :)
  obtain ⟨hbuildings, ⟨hcities, -⟩ | ⟨a, q, i, city, rfl, -, htaken, hcities⟩⟩ :=
    GameAction.execute_cities hex
  · exact h.of_eq hturn hcities hbuildings
  · refine h.of_front hturn hbuildings fun front rest hfront howner hqueue => ?_
    have hne : i ≠ k := by
      rintro rfl
      rw [htaken.get] at hfront
      obtain rfl := Option.some_inj.1 hfront
      have hsame : q = p := Option.some_inj.1 (htaken.unit.symm.trans hunit)
      exact htaken.enemy (howner.trans (hsame ▸ hplayer.symm))
    rw [hcities]
    exact ⟨front, rest, (List.getElem?_set_ne hne).trans hfront, howner, hqueue, rfl⟩

/-- **The end of a turn adds its production, or builds.** -/
theorem processTurn (h : OrderKept s₀ k item saved s) (hsound : s.Sound)
    (hend : processTurn s = (s', none)) : OrderKept s₀ k item saved s' := by
  have hproduced := producedAll_of_processTurn hend
  have hturn : s'.turn = s.turn + 1 := by
    have hspec := (processTurn_spec s).1
    rw [hend] at hspec
    exact hspec
  have hmore : s.buildings <+: s'.buildings := hproduced.buildings ▸ List.prefix_append _ _
  have hnext : saved + (s'.turn - s₀.turn) * City.productionPerTurn =
      saved + (s.turn - s₀.turn) * City.productionPerTurn + City.productionPerTurn := by
    rw [hturn]
    simp only [City.productionPerTurn]
    omega
  have hpositive : 0 < City.productionPerTurn := by decide
  refine ⟨?_, h.buildings.trans hmore, fun hunpaid => ?_, fun hpaid => ?_⟩
  · have hstarted := h.turn
    omega
  · -- the production of this turn does not pay for it either
    rw [hnext] at hunpaid
    obtain ⟨city, rest, hcity, howner, hqueue, haccumulated⟩ := h.waits (by omega)
    have hdue : city.buildQueue.due? City.productionPerTurn = none := by
      rw [BuildQueue.due?, hqueue]
      exact if_neg (by omega)
    have hk := List.mem_range.2 (List.getElem?_eq_some_iff.1 hcity).1
    refine ⟨_, rest, hproduced.cities k hk city hcity, howner, ?_, ?_⟩
    · dsimp only [City.setBuildQueue]
      rw [BuildQueue.spend_of_none hdue, BuildQueue.save_queue]
      exact hqueue
    · dsimp only [City.setBuildQueue]
      rw [BuildQueue.spend_of_none hdue, BuildQueue.save, hqueue, hnext, haccumulated]
  · by_cases hbefore : item.productionCost ≤ saved + (s.turn - s₀.turn) * City.productionPerTurn
    · obtain ⟨j, b, hj, hb, hmade⟩ := h.built hbefore
      obtain ⟨added, hadded⟩ := hmore
      refine ⟨j, b, hj, ?_, hmade⟩
      rw [← hadded, List.getElem?_append_left (List.getElem?_eq_some_iff.1 hb).1]
      exact hb
    · -- this turn pays for it
      rw [hnext] at hpaid
      obtain ⟨city, rest, hcity, howner, hqueue, haccumulated⟩ := h.waits (Int.not_le.1 hbefore)
      have hdue : city.dueAtBase = some item := by
        rw [City.dueAtBase, BuildQueue.due?, hqueue]
        exact if_pos (by omega)
      obtain ⟨htype, factory, -, hfactory, -⟩ :=
        (hsound.cities city (List.mem_of_getElem? hcity)).orders item (hqueue ▸ List.mem_cons_self)
      have hmade : madeBuilding item = [factory item.targetRow item.targetCol] := by
        rw [madeBuilding, htype, hfactory]
      obtain ⟨j, b, hj, hb, hsame⟩ := hproduced.made hcity
        (b := factory item.targetRow item.targetCol) (by
          rw [City.made, hdue, Option.elim_some, hmade]
          exact List.mem_singleton.2 rfl)
      refine ⟨j, b, h.buildings.length_le.trans hj, hb, ?_⟩
      rw [hmade, hsame]
      exact List.mem_singleton.2 rfl

end OrderKept

end GameState

namespace AppState

open GameState

variable {codec : Codec} {queue : CostQueue}

/-! ### Runs -/

/-- **Every change but a cancellation and a load keeps the order.** -/
theorem orderKept_change {i : FrameInput} (hkeeps : i.keyX = false ∧ i.f9 = false) {s₀ : GameState}
    {k : ℕ} {item : BuildQueueItem} {saved : ℤ} {app app' : AppState} (hkept : Kept codec app)
    (h : app.gameInitialized = true ∧ OrderKept s₀ k item saved app.state)
    (hchange : Change codec i app app') :
    app'.gameInitialized = true ∧ OrderKept s₀ k item saved app'.state := by
  obtain ⟨hplaying, horder⟩ := h
  cases hchange with
  | rests state log saves entered =>
      rw [state]
      exact ⟨entered.trans hplaying, horder⟩
  | plays playing play =>
      refine ⟨play.rest.2.trans hplaying, ?_⟩
      cases play with
      | rests state log saves entered =>
          rw [state]
          exact horder
      | @acts action s fog events player executes view state reported quiet log saves entered =>
          obtain ⟨p, hp, hplayer⟩ := player
          rw [state]
          exact (horder.execute hp hplayer executes).of_eq rfl rfl rfl
      | orders found queued state log saves entered =>
          rw [state]
          exact horder.requeued hkeeps.1 found queued
      | ends completes log saves entered => exact horder.processTurn hkept.sound completes
  | saves playing asked state log saves entered =>
      rw [state]
      exact ⟨entered, horder⟩
  | loads playing asked loaded view state log saves entered =>
      rw [hkeeps.2] at asked
      cases asked
  | begins fresh setUp log saves entered =>
      rw [hplaying] at fresh
      cases fresh

/-- What is left of an order fits while production is added up for it. -/
theorem estimateFits_of_saved {q q' : BuildQueue} {item : BuildQueueItem}
    {rest rest' : List BuildQueueItem} (hqueue : q.queue = item :: rest)
    (hqueue' : q'.queue = item :: rest') (hfits : q.EstimateFits City.productionPerTurn)
    (hsaved : q.accumulated ≤ q'.accumulated) (hunpaid : q'.accumulated < item.productionCost) :
    q'.EstimateFits City.productionPerTurn := by
  intro front items hfront
  obtain ⟨rfl, -⟩ := List.cons.inj (hqueue'.symm.trans hfront)
  obtain ⟨⟨-, hleft⟩, ⟨-, hsum⟩, hcost⟩ := hfits item rest hqueue
  simp only [City.productionPerTurn] at hsum ⊢
  exact ⟨⟨by omega, by omega⟩, ⟨by omega, by omega⟩, hcost⟩

/-- **The estimate that the panel shows for a city of the player is exact**, whatever else happens
in the game, unless an order is cancelled or a game is loaded: it counts down with the turns, and
when it has run down what was ordered has been built.  Until then the counter takes the production
of the next turn. -/
theorem shown_estimate_exact (hcodec : codec.Exact) {app app' : AppState} (h : Ready codec app)
    (hplaying : app.gameInitialized = true) {inputs : List FrameInput}
    (hfair : ∀ i ∈ inputs, i.Fair codec) (hkeeps : ∀ i ∈ inputs, i.keyX = false ∧ i.f9 = false)
    (hrun : Runs.run (appStep codec queue) app inputs = some app') {k : ℕ} {city : City}
    (hcity : app.state.cities[k]? = some city) (howner : city.owner = playerFactionId)
    {item : BuildQueueItem} {rest : List BuildQueueItem}
    (hqueue : city.buildQueue.queue = item :: rest) (hints : city.buildQueue.Ints)
    (hfits : city.buildQueue.EstimateFits City.productionPerTurn) {turns : ℤ}
    (hturns : Machine.BuildQueue.turnsRemaining city.buildQueue City.productionPerTurn = turns)
    (hshown : 0 < turns) :
    app.state.turn ≤ app'.state.turn ∧
      (app'.state.turn < app.state.turn + turns →
        ∃ city' rest', app'.state.cities[k]? = some city' ∧
          city'.buildQueue.queue = item :: rest' ∧
          Machine.BuildQueue.turnsRemaining city'.buildQueue City.productionPerTurn =
            turns - (app'.state.turn - app.state.turn) ∧
          IsInt (city'.buildQueue.accumulated + City.productionPerTurn)) ∧
      (app.state.turn + turns ≤ app'.state.turn →
        ∃ j b, app.state.buildings.length ≤ j ∧ app'.state.buildings[j]? = some b ∧
          b.anonymous ∈ (madeBuilding item).map Building.anonymous) := by
  have hpositive : 0 < City.productionPerTurn := by decide
  rw [Machine.BuildQueue.turnsRemaining_eq hfits] at hturns
  have hunpaid := unpaid_of_turnsRemaining hqueue hpositive (hturns ▸ hshown)
  obtain ⟨n, hn, hlt, hle⟩ := turnsRemaining_spec hqueue hunpaid hpositive
  obtain ⟨-, -, horder⟩ := of_run (P := fun i => i.keyX = false ∧ i.f9 = false)
    (I := fun x => x.gameInitialized = true ∧
      OrderKept app.state k item city.buildQueue.accumulated x.state) hcodec
    (fun i x x' hi hkept hx hchange => orderKept_change hi hkept hx hchange)
    (fun i hi => ⟨hfair i hi, hkeeps i hi⟩) h
    ⟨hplaying, OrderKept.start hcity howner hqueue hunpaid⟩ hrun
  have hstarted := horder.turn
  refine ⟨hstarted, fun hwaiting => ?_, fun hdone => horder.built ?_⟩
  · have hless : city.buildQueue.accumulated +
        (app'.state.turn - app.state.turn) * City.productionPerTurn < item.productionCost := by
      simp only [City.productionPerTurn] at hlt ⊢
      omega
    obtain ⟨city', rest', hcity', -, hqueue', haccumulated⟩ := horder.waits hless
    have hwaits : city'.buildQueue.accumulated < item.productionCost := by
      rw [haccumulated]
      exact hless
    have hsaved : city.buildQueue.accumulated ≤ city'.buildQueue.accumulated := by
      rw [haccumulated]
      simp only [City.productionPerTurn]
      omega
    have hfits' := estimateFits_of_saved hqueue hqueue' hfits hsaved hwaits
    obtain ⟨m, hm, hlt', hle'⟩ := turnsRemaining_spec hqueue' hwaits hpositive
    obtain ⟨-, -, -, hcost⟩ := hfits item rest hqueue
    obtain ⟨hlow, -⟩ := hints.accumulated
    refine ⟨city', rest', hcity', hqueue', ?_, ?_, ?_⟩
    · rw [Machine.BuildQueue.turnsRemaining_eq hfits']
      rw [haccumulated] at hlt' hle'
      simp only [City.productionPerTurn] at hn hm hlt hle hlt' hle' ⊢ hturns
      omega
    · simp only [City.productionPerTurn]
      omega
    · simp only [City.productionPerTurn] at hcost ⊢
      omega
  · simp only [City.productionPerTurn] at hn hle ⊢ hturns
    omega

/-- An order for a farm. -/
def farmOrder : BuildQueueItem :=
  { name := "Farm", productionCost := 20, targetRow := 10, targetCol := 6, orderType := .building
    factory := some makeFarm, templateKey := "" }

/-- A city of the player that builds it. -/
def farmCity : City :=
  (City.create "Roma" 10 5 1).setBuildQueue (({} : BuildQueue).enqueue makeFarm 10 6)

/-- In a game with this city the farm is shown to take four turns. -/
theorem farmCity_estimate : ∃ app app' : AppState, app.state.turn ≤ app'.state.turn ∧
    (app'.state.turn < app.state.turn + 4 →
      ∃ city' rest', app'.state.cities[0]? = some city' ∧
        city'.buildQueue.queue = farmOrder :: rest' ∧
        Machine.BuildQueue.turnsRemaining city'.buildQueue City.productionPerTurn =
          4 - (app'.state.turn - app.state.turn) ∧
        IsInt (city'.buildQueue.accumulated + City.productionPerTurn)) ∧
    (app.state.turn + 4 ≤ app'.state.turn →
      ∃ j b, app.state.buildings.length ≤ j ∧ app'.state.buildings[j]? = some b ∧
        b.anonymous ∈ (madeBuilding farmOrder).map Building.anonymous) := by
  obtain ⟨app₀, hstart, hready⟩ := @start_ready hamletCodec .empty (fun _ => .plains)
    fun file hfile => by cases hfile
  obtain ⟨state, hcreate, hstart⟩ := Except.bind_eq_ok.1 hstart
  obtain ⟨map, -, hcreate⟩ := Except.bind_eq_ok.1 hcreate
  obtain rfl := Except.ok.inj hcreate
  obtain rfl := Except.ok.inj hstart
  have horderly : farmCity.Orderly :=
    City.Orderly.enqueue (c := City.create "Roma" 10 5 1)
      ⟨by decide, fun item hitem => by cases hitem⟩ (by simp [builtinFactories]) 10 6
  have hbuilding : Ready hamletCodec
      { state := (GameState.addCity
          { map, fog := FogOfWar.create appMapRows appMapCols } farmCity).1
        currentScreen := .inGame, gameInitialized := true, saves := .empty } :=
    { kept := ⟨hready.kept.sound.addCity horderly,
        ⟨hready.kept.size.height, hready.kept.size.width⟩, hready.kept.saves⟩
      selects := Or.inl rfl
      scroll := le_rfl
      screen := iff_of_true rfl rfl
      fresh := fun h => by cases h
      fading := fun _ => ⟨rfl, rfl⟩ }
  have hfair : ∀ i ∈ [({ space := true } : FrameInput)], i.Fair hamletCodec ∧ True := by
    simp only [List.forall_mem_cons]
    exact ⟨⟨fair_of_idle rfl rfl rfl, trivial⟩, fun i hi => by cases hi⟩
  have hints : farmCity.buildQueue.Ints := ⟨by decide, by decide⟩
  have hturns :
      Machine.BuildQueue.turnsRemaining farmCity.buildQueue City.productionPerTurn = 4 := by
    decide
  have hfits : farmCity.buildQueue.EstimateFits City.productionPerTurn := by
    intro front rest hfront
    obtain ⟨rfl, -⟩ := List.cons.inj (show farmOrder :: [] = front :: rest from hfront)
    decide
  obtain ⟨app', hrun, -⟩ := run_ready (I := fun _ => True) hamletCodec_exact
    .firstLeast (fun _ _ _ _ _ _ _ => trivial) _ hfair hbuilding trivial
  refine ⟨_, app', shown_estimate_exact hamletCodec_exact hbuilding rfl
    (fun i hi => (hfair i hi).1) (fun i hi => ?_) hrun (k := 0) rfl rfl
    (show _ = farmOrder :: [] from rfl) hints hfits hturns (by decide)⟩
  rw [List.mem_singleton.1 hi]
  exact ⟨rfl, rfl⟩

end AppState

end My4X
