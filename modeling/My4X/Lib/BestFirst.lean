/-
**Best-first search with a heuristic.**

A best-first search looks for the cheapest walk from a source to a goal.  It keeps the least cost at
which each vertex was reached so far, the vertex from which it was reached, and an open set of
vertices whose edges are still to be followed, each with its cost and an estimate of what is still
to come.  A vertex of the least sum leaves the open set; the search ends when that is the goal.
When the estimate is never more than what a walk to the goal still costs, the walk that is traced
back from there is the cheapest one.

Main definitions:

* `BestFirst.State` — the open set, the costs and the vertices come from;
* `BestFirst.run` — the search, for a number of rounds;
* `BestFirst.retrace` — the vertices come from, one after the other, back to the source;
* `BestFirst.Admissible` — the estimate is never too high;
* `BestFirst.Consistent` — no edge lowers the estimate by more than it costs;
* `BestFirst.Counted` — the costs are bounded by the number of vertices that were reached.

Main results:

* `BestFirst.Consistent.admissible` — a consistent estimate is never too high;
* `BestFirst.Sound.pop` — what holds throughout a search;
* `BestFirst.Sound.exists_retrace` — **the way back leads to the source, along a walk**;
* `BestFirst.run_spec` — **the search finds a cheapest walk to the goal if there is one below the
  limit, and ends without one otherwise**.
-/

import My4X.Lib.Association
import My4X.Lib.Flood

set_option relaxedAutoImplicit false
set_option autoImplicit false

universe u

namespace BestFirst

open Flood (Node Queue Walk last cost)

/-- The state of a search: the open vertices with their costs and estimates, the least cost found so
far for each vertex that was reached, and the vertex from which it was reached. -/
structure State (V : Type u) where
  openSet : List (Node V)
  gScore : AList fun _ : V => ℤ
  cameFrom : AList fun _ : V => V

/-- How a search ends: in a state in which the goal leaves the open set, with nothing left to
follow, or not within its rounds. -/
inductive Outcome (V : Type u)
  | found (s : State V)
  | exhausted
  | outOfRounds

section Search

variable {V : Type u} [DecidableEq V] (edges : V → List (V × ℤ)) (heuristic : V → ℤ) (limit : ℤ)

/-- Follows an edge from a vertex that was reached at a cost: a vertex that is reached at a lower
cost than before is put in the open set.  A vertex that was not reached counts as one reached at the
limit. -/
def relax (current : V) (g : ℤ) (s : State V) (e : V × ℤ) : State V :=
  if g + e.2 < (s.gScore.lookup e.1).getD limit then
    { openSet := s.openSet ++ [⟨e.1, g + e.2 + heuristic e.1⟩]
      gScore := s.gScore.insert e.1 (g + e.2)
      cameFrom := s.cameFrom.insert e.1 current }
  else s

/-- Follows all edges of a vertex, from the least cost at which it was reached. -/
def expand (s : State V) (current : V) : State V :=
  (edges current).foldl (relax heuristic limit current ((s.gScore.lookup current).getD 0)) s

/-- The search, for a number of rounds: a node leaves the open set and, unless it is the goal, its
edges are followed. -/
def run (queue : Queue V) (goal : V) : ℕ → State V → Outcome V
  | 0, _ => .outOfRounds
  | rounds + 1, s =>
      match queue.pop s.openSet with
      | none => .exhausted
      | some (node, rest) =>
          if node.vertex = goal then .found s
          else
            run queue goal rounds (expand edges heuristic limit
              { s with openSet := rest } node.vertex)

/-- Only the source was reached. -/
def start (source : V) : State V :=
  ⟨[⟨source, heuristic source⟩], AList.singleton source 0, ∅⟩

/-- The vertices come from, from a vertex back to the source, for a number of steps. -/
def retrace (cameFrom : AList fun _ : V => V) (source : V) : ℕ → V → Option (List V)
  | 0, v => if v = source then some [] else none
  | steps + 1, v =>
      if v = source then some []
      else (cameFrom.lookup v).bind fun u => (retrace cameFrom source steps u).map (v :: ·)

/-- **The estimate is never too high**: no walk to the goal costs less, and it is not negative
there. -/
structure Admissible (goal : V) : Prop where
  le_cost : ∀ v es, Walk edges v es → last v es = goal → heuristic v ≤ cost es
  nonneg : 0 ≤ heuristic goal

/-- **The estimate is consistent**: no edge lowers it by more than the edge costs, and it is zero at
the goal. -/
structure Consistent (goal : V) : Prop where
  le_edge : ∀ v, ∀ e ∈ edges v, heuristic v ≤ e.2 + heuristic e.1
  goal_eq_zero : heuristic goal = 0

variable {edges heuristic limit}

omit [DecidableEq V] in
/-- **A consistent estimate is never too high.** -/
theorem Consistent.admissible {goal : V} (h : Consistent edges heuristic goal) :
    Admissible edges heuristic goal where
  le_cost v es := by
    induction es generalizing v with
    | nil =>
        intro _ hlast
        obtain rfl : v = goal := hlast
        exact h.goal_eq_zero.le
    | cons e es ih =>
        intro hwalk hlast
        have hedge := h.le_edge v e hwalk.1
        have hrest := ih e.1 hwalk.2 hlast
        rw [Flood.cost_cons]
        omega
  nonneg := h.goal_eq_zero.ge

/-! ### What a round does -/

/-- **What following edges does to the state**: costs become lower, nodes stay in the open set, and
what is new is in it. -/
structure Grows (heuristic : V → ℤ) (s s' : State V) : Prop where
  lower : ∀ v c, s.gScore.lookup v = some c → ∃ c' ≤ c, s'.gScore.lookup v = some c'
  kept : ∀ node ∈ s.openSet, node ∈ s'.openSet
  fresh : ∀ v c, s'.gScore.lookup v = some c →
    s.gScore.lookup v = some c ∨ ⟨v, c + heuristic v⟩ ∈ s'.openSet

theorem Grows.refl (s : State V) : Grows heuristic s s where
  lower _ c h := ⟨c, le_refl c, h⟩
  kept _ h := h
  fresh _ _ h := Or.inl h

theorem Grows.trans {s s' s'' : State V} (h : Grows heuristic s s') (h' : Grows heuristic s' s'') :
    Grows heuristic s s'' where
  lower v c hc := by
    obtain ⟨c', hle, hc'⟩ := h.lower v c hc
    obtain ⟨c'', hle', hc''⟩ := h'.lower v c' hc'
    exact ⟨c'', le_trans hle' hle, hc''⟩
  kept node hnode := h'.kept node (h.kept node hnode)
  fresh v c hc := by
    rcases h'.fresh v c hc with hc' | hnew
    · rcases h.fresh v c hc' with hold | hnew
      · exact Or.inl hold
      · exact Or.inr (h'.kept _ hnew)
    · exact Or.inr hnew

/-- Following an edge leaves the state as it is, or reaches a vertex at a lower cost. -/
theorem relax_cases (heuristic : V → ℤ) (limit : ℤ) (current : V) (g : ℤ) (s : State V)
    (e : V × ℤ) :
    (relax heuristic limit current g s e = s ∧
      (s.gScore.lookup e.1).getD limit ≤ g + e.2) ∨
    (relax heuristic limit current g s e =
        { openSet := s.openSet ++ [⟨e.1, g + e.2 + heuristic e.1⟩]
          gScore := s.gScore.insert e.1 (g + e.2)
          cameFrom := s.cameFrom.insert e.1 current } ∧
      g + e.2 < (s.gScore.lookup e.1).getD limit) := by
  rw [relax]
  split
  · next hlower => exact Or.inr ⟨rfl, hlower⟩
  · next hnot => exact Or.inl ⟨rfl, not_lt.1 hnot⟩

theorem relax_grows (heuristic : V → ℤ) (limit : ℤ) (current : V) (g : ℤ) (s : State V)
    (e : V × ℤ) :
    Grows heuristic s (relax heuristic limit current g s e) := by
  rcases relax_cases heuristic limit current g s e with ⟨hsame, -⟩ | ⟨hnew, hlower⟩
  · rw [hsame]
    exact Grows.refl s
  · rw [hnew]
    have hlookup := fun v => Association.lookup_insert s.gScore e.1 v (g + e.2)
    refine ⟨fun v c hc => ?_, fun node hnode => List.mem_append_left _ hnode, fun v c hc => ?_⟩
    · by_cases hv : v = e.1
      · refine ⟨g + e.2, ?_, (hlookup v).trans (if_pos hv)⟩
        rw [← hv, hc, Option.getD_some] at hlower
        exact hlower.le
      · exact ⟨c, le_refl c, ((hlookup v).trans (if_neg hv)).trans hc⟩
    · rw [hlookup] at hc
      split at hc
      · next hv =>
          obtain rfl := Option.some_inj.1 hc
          rw [hv]
          exact Or.inr (List.mem_append_right _ (List.mem_singleton_self _))
      · exact Or.inl hc

/-- An edge that is followed leads to a vertex that is reached. -/
theorem relax_covers (heuristic : V → ℤ) (current : V) (s : State V) {g : ℤ} {e : V × ℤ}
    (hlimit : g + e.2 < limit) :
    ∃ c ≤ g + e.2, (relax heuristic limit current g s e).gScore.lookup e.1 = some c := by
  rcases relax_cases heuristic limit current g s e with ⟨hsame, hnot⟩ | ⟨hnew, -⟩
  · rw [hsame]
    cases hc : s.gScore.lookup e.1 with
    | none =>
        rw [hc, Option.getD_none] at hnot
        omega
    | some c =>
        rw [hc, Option.getD_some] at hnot
        exact ⟨c, hnot, rfl⟩
  · rw [hnew]
    exact ⟨_, le_refl _, AList.lookup_insert _⟩

/-- Following a list of edges reaches all of them. -/
theorem foldl_relax (heuristic : V → ℤ) (limit : ℤ) (current : V) (g : ℤ) (es : List (V × ℤ)) :
    ∀ s : State V, Grows heuristic s (es.foldl (relax heuristic limit current g) s) ∧
      ∀ e ∈ es, g + e.2 < limit →
        ∃ c ≤ g + e.2, (es.foldl (relax heuristic limit current g) s).gScore.lookup e.1 =
          some c := by
  induction es with
  | nil => intro s; exact ⟨Grows.refl s, fun e he => absurd he List.not_mem_nil⟩
  | cons e es ih =>
      intro s
      obtain ⟨hgrows, hcovers⟩ := ih (relax heuristic limit current g s e)
      refine ⟨(relax_grows heuristic limit current g s e).trans hgrows, fun e' he' hlimit => ?_⟩
      rcases List.mem_cons.1 he' with rfl | he'
      · obtain ⟨c, hle, hc⟩ := relax_covers heuristic current s hlimit
        obtain ⟨c', hle', hc'⟩ := hgrows.lower _ c hc
        exact ⟨c', le_trans hle' hle, hc'⟩
      · exact hcovers e' he' hlimit

/-! ### What holds throughout -/

/-- **The costs fit the way back**: they are below the limit, the source is reached for nothing,
every other vertex comes from one that was reached for less, and no open node promises more than is
kept. -/
structure Linked (edges : V → List (V × ℤ)) (heuristic : V → ℤ) (limit : ℤ) (source : V)
    (s : State V) : Prop where
  bounds : ∀ v c, s.gScore.lookup v = some c → 0 ≤ c ∧ c < limit
  atSource : s.gScore.lookup source = some 0
  parent : ∀ v c, s.gScore.lookup v = some c → v ≠ source →
    ∃ u d k, s.cameFrom.lookup v = some u ∧ s.gScore.lookup u = some d ∧ (v, k) ∈ edges u ∧
    d + k ≤ c
  priority : ∀ node ∈ s.openSet, ∃ c, s.gScore.lookup node.vertex = some c ∧
    c + heuristic node.vertex ≤ node.cost

/-- **What holds throughout a search**: the costs fit the way back, the edges of a vertex that is
reached have been followed, unless it is open, and the goal is open once it is reached. -/
structure Sound (edges : V → List (V × ℤ)) (heuristic : V → ℤ) (limit : ℤ) (source goal : V)
    (s : State V) : Prop extends Linked edges heuristic limit source s where
  settled : ∀ v c, s.gScore.lookup v = some c → ⟨v, c + heuristic v⟩ ∈ s.openSet ∨
    ∀ e ∈ edges v, c + e.2 < limit → ∃ c' ≤ c + e.2, s.gScore.lookup e.1 = some c'
  waiting : ∀ c, s.gScore.lookup goal = some c → ∃ node ∈ s.openSet, node.vertex = goal

variable {source goal : V}

theorem sound_start (edges : V → List (V × ℤ)) (heuristic : V → ℤ) (hlimit : 0 < limit)
    (hne : source ≠ goal) :
    Sound edges heuristic limit source goal (start heuristic source) := by
  have honly : ∀ v c, (start heuristic source).gScore.lookup v = some c → v = source ∧ c = 0 := by
    intro v c hc
    have hmem := AList.mem_lookup_iff.1 hc
    rw [start, AList.singleton_entries, List.mem_singleton] at hmem
    cases hmem
    exact ⟨rfl, rfl⟩
  have hsource : (start heuristic source).gScore.lookup source = some 0 :=
    AList.mem_lookup_iff.2 (List.mem_singleton.2 rfl)
  refine ⟨⟨fun v c hc => ?_, hsource, fun v c hc hv => ?_, fun node hnode => ?_⟩, fun v c hc => ?_,
    fun c hc => ?_⟩
  · obtain ⟨rfl, rfl⟩ := honly v c hc
    exact ⟨le_refl 0, hlimit⟩
  · exact absurd (honly v c hc).1 hv
  · obtain rfl := List.mem_singleton.1 hnode
    exact ⟨0, hsource, by simp⟩
  · obtain ⟨rfl, rfl⟩ := honly v c hc
    rw [Int.zero_add]
    exact Or.inl (List.mem_singleton.2 rfl)
  · exact absurd (honly goal c hc).1.symm hne

/-- **Following an edge of a vertex keeps the way back**, and the cost of the vertex itself. -/
theorem Linked.relax {s : State V} (h : Linked edges heuristic limit source s) {current : V} {g : ℤ}
    (hg : s.gScore.lookup current = some g) {e : V × ℤ} (he : e ∈ edges current) (hpos : 0 < e.2) :
    Linked edges heuristic limit source (relax heuristic limit current g s e) ∧
      (relax heuristic limit current g s e).gScore.lookup current = some g := by
  rcases relax_cases heuristic limit current g s e with ⟨hsame, -⟩ | ⟨hnew, hlower⟩
  · rw [hsame]
    exact ⟨h, hg⟩
  · have hlookup := fun v => Association.lookup_insert s.gScore e.1 v (g + e.2)
    have hcame := fun v => Association.lookup_insert s.cameFrom e.1 v current
    have hg0 := (h.bounds current g hg).1
    have hcurrent : current ≠ e.1 := by
      intro heq
      rw [← heq, hg, Option.getD_some] at hlower
      omega
    have hsource : source ≠ e.1 := by
      intro heq
      rw [← heq, h.atSource, Option.getD_some] at hlower
      omega
    have hlimit : g + e.2 < limit := by
      cases hd : s.gScore.lookup e.1 with
      | none => rwa [hd, Option.getD_none] at hlower
      | some d =>
          rw [hd, Option.getD_some] at hlower
          have := (h.bounds e.1 d hd).2
          omega
    -- a cost that was kept before is at least the one that is kept now
    have hkept : ∀ u d, s.gScore.lookup u = some d →
        ∃ d' ≤ d, (s.gScore.insert e.1 (g + e.2)).lookup u = some d' := by
      have hgrows := relax_grows heuristic limit current g s e
      rw [hnew] at hgrows
      exact hgrows.lower
    rw [hnew]
    refine ⟨⟨fun v c hc => ?_, ?_, fun v c hc hv => ?_, fun node hnode => ?_⟩, ?_⟩
    · rw [hlookup] at hc
      split at hc
      · obtain rfl := Option.some_inj.1 hc
        exact ⟨by omega, hlimit⟩
      · exact h.bounds v c hc
    · exact ((hlookup source).trans (if_neg hsource)).trans h.atSource
    · rw [hlookup] at hc
      split at hc
      · next hve =>
          obtain rfl := Option.some_inj.1 hc
          refine ⟨current, g, e.2, (hcame v).trans (if_pos hve),
            ((hlookup current).trans (if_neg hcurrent)).trans hg, ?_, le_refl _⟩
          rw [hve]
          exact he
      · next hve =>
          obtain ⟨u, d, k, hu, hd, hk, hle⟩ := h.parent v c hc hv
          obtain ⟨d', hd', hlook⟩ := hkept u d hd
          exact ⟨u, d', k, ((hcame v).trans (if_neg hve)).trans hu, hlook, hk, by omega⟩
    · rcases List.mem_append.1 hnode with hnode | hnode
      · obtain ⟨c, hc, hle⟩ := h.priority node hnode
        obtain ⟨c', hc', hlook⟩ := hkept node.vertex c hc
        exact ⟨c', hlook, by omega⟩
      · obtain rfl := List.mem_singleton.1 hnode
        exact ⟨g + e.2, AList.lookup_insert _, le_refl _⟩
    · exact ((hlookup current).trans (if_neg hcurrent)).trans hg

theorem Linked.foldl {current : V} {g : ℤ} (es : List (V × ℤ)) :
    ∀ {s : State V}, Linked edges heuristic limit source s → s.gScore.lookup current = some g →
      (∀ e ∈ es, e ∈ edges current ∧ 0 < e.2) →
      Linked edges heuristic limit source (es.foldl (BestFirst.relax heuristic limit current g) s) ∧
        (es.foldl (BestFirst.relax heuristic limit current g) s).gScore.lookup current =
          some g := by
  induction es with
  | nil => intro s h hg _; exact ⟨h, hg⟩
  | cons e es ih =>
      intro s h hg hes
      obtain ⟨he, hpos⟩ := hes e List.mem_cons_self
      obtain ⟨hnext, hsame⟩ := h.relax hg he hpos
      exact ih hnext hsame fun e' he' => hes e' (List.mem_cons_of_mem _ he')

/-- **A round keeps what holds throughout**, whichever node leaves the open set, unless it is the
goal. -/
theorem Sound.pop (hpos : ∀ v, ∀ e ∈ edges v, 0 < e.2) {s : State V}
    (h : Sound edges heuristic limit source goal s) {node : Node V} {rest : List (Node V)}
    (hperm : s.openSet.Perm (node :: rest)) (hgoal : node.vertex ≠ goal) :
    Sound edges heuristic limit source goal
      (expand edges heuristic limit { s with openSet := rest } node.vertex) := by
  have hmem : ∀ node', node' ∈ s.openSet ↔ node' = node ∨ node' ∈ rest := fun node' => by
    rw [hperm.mem_iff, List.mem_cons]
  obtain ⟨g, hg, -⟩ := h.priority node ((hmem node).2 (Or.inl rfl))
  have hrest : Linked edges heuristic limit source { s with openSet := rest } :=
    ⟨h.bounds, h.atSource, h.parent,
      fun node' hnode => h.priority node' ((hmem node').2 (Or.inr hnode))⟩
  obtain ⟨hlinked, hsame⟩ := Linked.foldl (edges node.vertex) hrest hg
    fun e he => ⟨he, hpos node.vertex e he⟩
  obtain ⟨hgrows, hcovers⟩ := foldl_relax heuristic limit node.vertex g
    (edges node.vertex) { s with openSet := rest }
  have hexpand : expand edges heuristic limit { s with openSet := rest } node.vertex =
      (edges node.vertex).foldl (BestFirst.relax heuristic limit node.vertex g)
        { s with openSet := rest } := by
    rw [expand]
    dsimp only
    rw [hg, Option.getD_some]
  rw [hexpand]
  refine ⟨hlinked, fun v c hc => ?_, fun c hc => ?_⟩
  · by_cases hv : v = node.vertex
    · -- the edges of the vertex itself have just been followed
      rw [hv, hsame] at hc
      obtain rfl := Option.some_inj.1 hc
      rw [hv]
      exact Or.inr hcovers
    · rcases hgrows.fresh v c hc with hold | hnew
      · rcases h.settled v c hold with hopen | hdone
        · rcases (hmem _).1 hopen with heq | hopen
          · exact absurd (congrArg Node.vertex heq) hv
          · exact Or.inl (hgrows.kept _ hopen)
        · refine Or.inr fun e he hlimit => ?_
          obtain ⟨d, hle, hd⟩ := hdone e he hlimit
          obtain ⟨d', hle', hd'⟩ := hgrows.lower e.1 d hd
          exact ⟨d', le_trans hle' hle, hd'⟩
      · exact Or.inl hnew
  · rcases hgrows.fresh goal c hc with hold | hnew
    · obtain ⟨node', hnode', hvertex⟩ := h.waiting c hold
      rcases (hmem _).1 hnode' with rfl | hnode'
      · exact absurd hvertex hgoal
      · exact ⟨node', hgrows.kept _ hnode', hvertex⟩
    · exact ⟨_, hnew, rfl⟩

/-! ### The way back -/

/-- **The way back leads to the source**: it is a walk, read from its end, that costs no more than
is kept and does not come back to the source. -/
theorem Linked.exists_retrace (hpos : ∀ v, ∀ e ∈ edges v, 0 < e.2) {s : State V}
    (h : Linked edges heuristic limit source s) (steps : ℕ) :
    ∀ {v : V} {c : ℤ}, s.gScore.lookup v = some c → c.toNat ≤ steps →
      ∃ path es, retrace s.cameFrom source steps v = some path ∧ Walk edges source es ∧
        last source es = v ∧ es.map Prod.fst = path.reverse ∧ cost es ≤ c ∧ source ∉ path := by
  induction steps with
  | zero =>
      intro v c hc hsteps
      have hv : v = source := by
        by_contra hv
        obtain ⟨u, d, k, -, hd, hk, hle⟩ := h.parent v c hc hv
        have hd0 := (h.bounds u d hd).1
        have hk0 := hpos u (v, k) hk
        dsimp only at hk0
        omega
      subst hv
      refine ⟨[], [], if_pos rfl, trivial, rfl, rfl, ?_, List.not_mem_nil⟩
      exact (h.bounds v c hc).1
  | succ steps ih =>
      intro v c hc hsteps
      by_cases hv : v = source
      · subst hv
        refine ⟨[], [], if_pos rfl, trivial, rfl, rfl, ?_, List.not_mem_nil⟩
        exact (h.bounds v c hc).1
      · obtain ⟨u, d, k, hu, hd, hk, hle⟩ := h.parent v c hc hv
        have hk0 := hpos u (v, k) hk
        dsimp only at hk0
        obtain ⟨path, es, hpath, hwalk, hlast, hmap, hcost, hsource⟩ := ih hd (by omega)
        refine ⟨v :: path, es ++ [(v, k)], ?_, Flood.walk_append.2 ⟨hwalk, ?_, trivial⟩, ?_,
          ?_, ?_, ?_⟩
        · rw [retrace, if_neg hv, hu, Option.bind_some, hpath]
          rfl
        · rw [hlast]
          exact hk
        · rw [Flood.last_append]
          rfl
        · rw [List.map_append, hmap, List.reverse_cons]
          rfl
        · rw [Flood.cost_append, Flood.cost_cons, Flood.cost_nil]
          dsimp only
          omega
        · exact fun hmem => (List.mem_cons.1 hmem).elim (fun heq => hv heq.symm) hsource

/-! ### Cheapest walks -/

/-- **What a walk leads to is reached, or a vertex on it is open**, at a cost and an estimate that
are no higher than the walk. -/
theorem Sound.open_or_lookup (hpos : ∀ v, ∀ e ∈ edges v, 0 < e.2)
    (hadm : Admissible edges heuristic goal) {s : State V}
    (h : Sound edges heuristic limit source goal s) (es : List (V × ℤ)) :
    ∀ {v : V} {c : ℤ}, s.gScore.lookup v = some c → Walk edges v es → last v es = goal →
      c + cost es < limit →
        (∃ node ∈ s.openSet, node.cost ≤ c + cost es) ∨
          ∃ c' ≤ c + cost es, s.gScore.lookup goal = some c' := by
  induction es with
  | nil =>
      intro v c hc _ hlast _
      obtain rfl := hlast
      exact Or.inr ⟨c, by simp, hc⟩
  | cons e es ih =>
      intro v c hc hwalk hlast hlimit
      have htail := hwalk.2.cost_nonneg fun v e he => (hpos v e he).le
      rcases h.settled v c hc with hopen | hdone
      · exact Or.inl ⟨_, hopen, Int.add_le_add_left (hadm.le_cost v (e :: es) hwalk hlast) c⟩
      · rw [Flood.cost_cons] at hlimit ⊢
        obtain ⟨d, hle, hd⟩ := hdone e hwalk.1 (by omega)
        rcases ih hd hwalk.2 hlast (by omega) with ⟨node, hnode, hcost⟩ | ⟨c', hle', hc'⟩
        · exact Or.inl ⟨node, hnode, by omega⟩
        · exact Or.inr ⟨c', by omega, hc'⟩

/-- **When the goal leaves the open set, no walk to it costs less than is kept for it.** -/
theorem Sound.le_cost (hpos : ∀ v, ∀ e ∈ edges v, 0 < e.2)
    (hadm : Admissible edges heuristic goal) {s : State V}
    (h : Sound edges heuristic limit source goal s) {node : Node V} {rest : List (Node V)}
    (hperm : s.openSet.Perm (node :: rest)) (hleast : ∀ other ∈ rest, node.cost ≤ other.cost)
    (hgoal : node.vertex = goal) {c : ℤ} (hc : s.gScore.lookup goal = some c) {es : List (V × ℤ)}
    (hwalk : Walk edges source es) (hlast : last source es = goal) : c ≤ cost es := by
  obtain ⟨c', hc', hpriority⟩ := h.priority node (hperm.mem_iff.2 List.mem_cons_self)
  rw [hgoal, hc] at hc'
  obtain rfl := Option.some_inj.1 hc'
  have hbounds := h.bounds goal c hc
  by_cases hlimit : cost es < limit
  · rcases h.open_or_lookup hpos hadm es h.atSource hwalk hlast (by omega) with
      ⟨other, hother, hle⟩ | ⟨c', hle, hlook⟩
    · have hnode : node.cost ≤ other.cost := by
        rcases List.mem_cons.1 (hperm.mem_iff.1 hother) with rfl | hrest
        · exact le_refl _
        · exact hleast other hrest
      have hgoal0 := hadm.nonneg
      rw [hgoal] at hpriority
      omega
    · rw [hc] at hlook
      obtain rfl := Option.some_inj.1 hlook
      omega
  · omega

/-- When nothing is open, no walk below the limit leads to the goal. -/
theorem Sound.limit_le (hpos : ∀ v, ∀ e ∈ edges v, 0 < e.2)
    (hadm : Admissible edges heuristic goal) {s : State V}
    (h : Sound edges heuristic limit source goal s) (hopen : s.openSet = []) {es : List (V × ℤ)}
    (hwalk : Walk edges source es) (hlast : last source es = goal) : limit ≤ cost es := by
  by_contra hlimit
  rcases h.open_or_lookup hpos hadm es h.atSource hwalk hlast (by omega) with
    ⟨other, hother, -⟩ | ⟨c', -, hlook⟩
  · rw [hopen] at hother
    cases hother
  · obtain ⟨node, hnode, -⟩ := h.waiting c' hlook
    rw [hopen] at hnode
    cases hnode

/-! ### Costs and the number of vertices reached -/

/-- **The costs are bounded by the number of vertices that were reached**, when no edge costs more
than some bound. -/
structure Counted (most : ℤ) (vertices : Finset V) (scores : AList fun _ : V => ℤ) : Prop where
  inside : ∀ v c, scores.lookup v = some c → v ∈ vertices
  cost_le : ∀ v c, scores.lookup v = some c → c + most ≤ most * scores.keys.length

theorem counted_singleton (most : ℤ) {vertices : Finset V} (hsource : source ∈ vertices) :
    Counted most vertices (AList.singleton source 0) := by
  have honly : ∀ v c, (AList.singleton source 0 : AList fun _ : V => ℤ).lookup v = some c →
      v = source ∧ c = 0 := by
    intro v c hc
    have hmem := AList.mem_lookup_iff.1 hc
    rw [AList.singleton_entries, List.mem_singleton] at hmem
    cases hmem
    exact ⟨rfl, rfl⟩
  refine ⟨fun v c hc => ?_, fun v c hc => ?_⟩
  · rw [(honly v c hc).1]
    exact hsource
  · rw [(honly v c hc).2]
    show 0 + most ≤ most * 1
    omega

/-- A vertex that is reached at a lower cost than before keeps the bound. -/
theorem Counted.insert {most : ℤ} {vertices : Finset V} {scores : AList fun _ : V => ℤ}
    (h : Counted most vertices scores) (hmost : 0 ≤ most) {u v : V} {g k : ℤ}
    (hg : scores.lookup u = some g) (hk : k ≤ most) (hv : v ∈ vertices)
    (hlower : ∀ c, scores.lookup v = some c → g + k ≤ c) :
    Counted most vertices (scores.insert v (g + k)) := by
  have hlookup := fun w => Association.lookup_insert scores v w (g + k)
  have hlength : (scores.insert v (g + k)).keys.length = (scores.keys.erase v).length + 1 := by
    rw [AList.keys_insert, List.length_cons]
  refine ⟨fun w c hc => ?_, fun w c hc => ?_⟩
  · rw [hlookup] at hc
    split at hc
    · next hw => rw [hw]; exact hv
    · exact h.inside w c hc
  · have hgu := h.cost_le u g hg
    by_cases hmem : v ∈ scores.keys
    · -- the number of vertices stays the same
      have hsame : (scores.insert v (g + k)).keys.length = scores.keys.length := by
        rw [hlength, List.length_erase_of_mem hmem]
        exact Nat.sub_add_cancel (List.length_pos_of_mem hmem)
      rw [hsame]
      rw [hlookup] at hc
      split at hc
      · obtain rfl := Option.some_inj.1 hc
        obtain ⟨c, hold⟩ := Option.isSome_iff_exists.1 (AList.lookup_isSome.2 hmem)
        have hbefore := h.cost_le v c hold
        have hless := hlower c hold
        omega
      · exact h.cost_le w c hc
    · -- there is one vertex more
      have hmore : (scores.insert v (g + k)).keys.length = scores.keys.length + 1 := by
        rw [hlength, List.erase_of_not_mem hmem]
      rw [hmore, Nat.cast_succ, Int.mul_add, Int.mul_one]
      rw [hlookup] at hc
      split at hc
      · obtain rfl := Option.some_inj.1 hc
        omega
      · have hold := h.cost_le w c hc
        omega

/-- So no cost passes what all vertices together can cost. -/
theorem Counted.add_le {most : ℤ} {vertices : Finset V} {scores : AList fun _ : V => ℤ}
    (h : Counted most vertices scores) (hmost : 0 ≤ most) {v : V} {c : ℤ}
    (hc : scores.lookup v = some c) : c + most ≤ most * vertices.card := by
  have hsub : scores.keys.toFinset ⊆ vertices := by
    intro w hw
    obtain ⟨d, hd⟩ := Option.isSome_iff_exists.1 (AList.lookup_isSome.2 (List.mem_toFinset.1 hw))
    exact h.inside w d hd
  have hcard : scores.keys.length ≤ vertices.card := by
    rw [← List.toFinset_card_of_nodup scores.keys_nodup]
    exact Finset.card_le_card hsub
  exact le_trans (h.cost_le v c hc)
    (Int.mul_le_mul_of_nonneg_left (Int.ofNat_le.2 hcard) hmost)

/-! ### The end of a search -/

/-- A bound on the rounds that are left. -/
def roundsLeft (limit : ℤ) (vertices : Finset V) (s : State V) : ℕ :=
  s.openSet.length + ∑ v ∈ vertices, Flood.slack limit (s.gScore.lookup v)

/-- Following edges opens a vertex only where it saves something. -/
theorem roundsLeft_foldl {vertices : Finset V} {current : V} {g : ℤ} (hg : 0 ≤ g)
    (es : List (V × ℤ)) :
    ∀ {s : State V}, (∀ e ∈ es, e.1 ∈ vertices ∧ 0 < e.2) →
      roundsLeft limit vertices (es.foldl (relax heuristic limit current g) s) ≤
        roundsLeft limit vertices s := by
  induction es with
  | nil => intro s _; exact le_refl _
  | cons e es ih =>
      intro s hes
      obtain ⟨he, hpos⟩ := hes e List.mem_cons_self
      refine le_trans (ih fun e' he' => hes e' (List.mem_cons_of_mem _ he')) ?_
      rcases relax_cases heuristic limit current g s e with ⟨hsame, -⟩ | ⟨hnew, hlower⟩
      · rw [hsame]
      · have hsaved : Flood.slack limit (some (g + e.2)) <
            Flood.slack limit (s.gScore.lookup e.1) := by
          cases hd : s.gScore.lookup e.1 with
          | none =>
              rw [hd, Option.getD_none] at hlower
              rw [Flood.slack, Flood.slack]
              omega
          | some d =>
              rw [hd, Option.getD_some] at hlower
              rw [Flood.slack, Flood.slack]
              omega
        have hsum := Flood.sum_slack_insert_lt he hsaved
        rw [hnew, roundsLeft, roundsLeft, List.length_append, List.length_singleton]
        dsimp only
        omega

/-- The rounds that a search from one source needs. -/
theorem roundsLeft_start (vertices : Finset V) :
    roundsLeft limit vertices (start heuristic source) ≤ vertices.card * (limit.toNat + 1) + 1 :=
  Flood.roundsLeft_start limit vertices source

/-- **After enough rounds the search has ended**: the goal leaves the open set, or nothing is
open. -/
theorem run_ends (queue : Queue V) {vertices : Finset V}
    (hedges : ∀ v, ∀ e ∈ edges v, e.1 ∈ vertices ∧ 0 < e.2) (rounds : ℕ) :
    ∀ {s : State V}, Sound edges heuristic limit source goal s →
      roundsLeft limit vertices s < rounds →
      (∃ s' node rest, run edges heuristic limit queue goal rounds s = .found s' ∧
        Sound edges heuristic limit source goal s' ∧
        queue.pop s'.openSet = some (node, rest) ∧ node.vertex = goal) ∨
      ∃ s', run edges heuristic limit queue goal rounds s = .exhausted ∧
        Sound edges heuristic limit source goal s' ∧ s'.openSet = [] := by
  induction rounds with
  | zero => intro s _ hle; omega
  | succ rounds ih =>
      intro s h hle
      rw [run]
      cases hpop : queue.pop s.openSet with
      | none => exact Or.inr ⟨s, rfl, h, queue.pop_none _ hpop⟩
      | some out =>
          obtain ⟨node, rest⟩ := out
          dsimp only
          split
          · next hgoal => exact Or.inl ⟨s, node, rest, rfl, h, hpop, hgoal⟩
          · next hgoal =>
              have hperm := queue.pop_some _ _ _ hpop
              have hlength := hperm.length_eq
              have hnext := h.pop (fun v e he => (hedges v e he).2) hperm hgoal
              obtain ⟨g, hg, -⟩ := h.priority node (hperm.mem_iff.2 List.mem_cons_self)
              refine ih hnext ?_
              have hfewer : roundsLeft limit vertices { s with openSet := rest } < rounds := by
                rw [roundsLeft] at hle ⊢
                rw [List.length_cons] at hlength
                dsimp only
                omega
              refine lt_of_le_of_lt (roundsLeft_foldl ?_ _ (hedges node.vertex)) hfewer
              dsimp only
              rw [hg, Option.getD_some]
              exact (h.bounds node.vertex g hg).1

/-- **A search with an estimate that is never too high finds a cheapest walk** to the goal if there
is one below the limit, and traces it back; otherwise it ends without one. -/
theorem run_spec (queue : Queue V)
    (hleast : ∀ nodes node rest, queue.pop nodes = some (node, rest) → ∀ other ∈ rest,
      node.cost ≤ other.cost)
    {vertices : Finset V} (hedges : ∀ v, ∀ e ∈ edges v, e.1 ∈ vertices ∧ 0 < e.2)
    (hadm : Admissible edges heuristic goal) (hlimit : 0 < limit) (hne : source ≠ goal) {rounds : ℕ}
    (hrounds : vertices.card * (limit.toNat + 1) + 1 < rounds) {steps : ℕ}
    (hsteps : limit.toNat ≤ steps) :
    (∃ s path es, run edges heuristic limit queue goal rounds (start heuristic source) = .found s ∧
      retrace s.cameFrom source steps goal = some path ∧ Walk edges source es ∧
      last source es = goal ∧ es.map Prod.fst = path.reverse ∧ source ∉ path ∧ cost es < limit ∧
      ∀ es', Walk edges source es' → last source es' = goal → cost es ≤ cost es') ∨
    (run edges heuristic limit queue goal rounds (start heuristic source) = .exhausted ∧
      ∀ es, Walk edges source es → last source es = goal → limit ≤ cost es) := by
  have hpos : ∀ v, ∀ e ∈ edges v, 0 < e.2 := fun v e he => (hedges v e he).2
  rcases run_ends queue hedges rounds (sound_start edges heuristic hlimit hne)
    (lt_of_le_of_lt (roundsLeft_start vertices) hrounds) with
    ⟨s, node, rest, hrun, hsound, hpop, hgoal⟩ | ⟨s, hrun, hsound, hopen⟩
  · have hperm := queue.pop_some _ _ _ hpop
    obtain ⟨c, hc, -⟩ := hsound.priority node (hperm.mem_iff.2 List.mem_cons_self)
    rw [hgoal] at hc
    have hbounds := hsound.bounds goal c hc
    obtain ⟨path, es, hpath, hwalk, hlast, hmap, hcost, hsource⟩ :=
      hsound.toLinked.exists_retrace hpos steps hc (by omega)
    refine Or.inl ⟨s, path, es, hrun, hpath, hwalk, hlast, hmap, hsource, by omega,
      fun es' hwalk' hlast' => le_trans hcost ?_⟩
    exact hsound.le_cost hpos hadm hperm (hleast _ _ _ hpop) hgoal hc hwalk' hlast'
  · exact Or.inr ⟨hrun, fun es hwalk hlast => hsound.limit_le hpos hadm hopen hwalk hlast⟩

end Search

end BestFirst
