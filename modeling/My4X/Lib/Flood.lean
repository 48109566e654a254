/-
**Flooding a graph from a source.**

A flood keeps for every vertex the least cost at which it was reached so far, and a frontier of
vertices whose edges are still to be followed.  It stops at a budget.  Nodes leave the frontier in
an order that is left open: whichever it is, the flood comes to an end, and then a vertex is reached
exactly when a walk within the budget leads to it, at the least cost of such a walk.

Main definitions:

* `Flood.Walk` — a walk along the edges of a graph, with `Flood.last` and `Flood.cost`;
* `Flood.Leads` — a path along the steps of a relation;
* `Flood.Queue` — the order in which nodes leave the frontier;
* `Flood.run` — the flood, for a number of rounds.

Main results:

* `Flood.run_frontier` — **after enough rounds the frontier is empty**;
* `Flood.exists_walk_of_lookup` — what is reached is reached by a walk within the budget;
* `Flood.exists_lookup_of_walk` — **what a walk within the budget leads to is reached, at no higher
  cost**.
-/

import Mathlib.Algebra.BigOperators.Group.Finset.Basic
import Mathlib.Algebra.BigOperators.Group.List.Basic
import Mathlib.Algebra.Order.BigOperators.Group.Finset
import Mathlib.Algebra.Order.Group.Int
import Mathlib.Algebra.Ring.Int.Defs
import Mathlib.Data.List.AList

set_option relaxedAutoImplicit false
set_option autoImplicit false

universe u

namespace Flood

/-! ### Walks -/

section Walks

variable {V : Type u} (edges : V → List (V × ℤ))

/-- A walk: each entry is an edge from the vertex before it, the vertex it leads to and its cost. -/
def Walk : V → List (V × ℤ) → Prop
  | _, [] => True
  | v, e :: es => e ∈ edges v ∧ Walk e.1 es

/-- The vertex a walk leads to. -/
def last : V → List (V × ℤ) → V
  | v, [] => v
  | _, e :: es => last e.1 es

/-- What a walk costs. -/
def cost : List (V × ℤ) → ℤ
  | [] => 0
  | e :: es => e.2 + cost es

variable {edges}

@[simp] theorem cost_nil : cost ([] : List (V × ℤ)) = 0 := rfl

@[simp] theorem cost_cons (e : V × ℤ) (es : List (V × ℤ)) : cost (e :: es) = e.2 + cost es := rfl

theorem cost_append (es es' : List (V × ℤ)) : cost (es ++ es') = cost es + cost es' := by
  induction es with
  | nil => exact (Int.zero_add _).symm
  | cons e es ih => rw [List.cons_append, cost_cons, cost_cons, ih, Int.add_assoc]

theorem last_append (es es' : List (V × ℤ)) :
    ∀ v : V, last v (es ++ es') = last (last v es) es' := by
  induction es with
  | nil => intro v; rfl
  | cons e es ih => intro v; exact ih e.1

theorem walk_append {es es' : List (V × ℤ)} :
    ∀ {v : V}, Walk edges v (es ++ es') ↔ Walk edges v es ∧ Walk edges (last v es) es' := by
  induction es with
  | nil => intro v; exact (and_iff_right trivial).symm
  | cons e es ih =>
      intro v
      rw [List.cons_append, Walk, Walk, ih, and_assoc]
      rfl

/-- A walk along edges that another graph has as well. -/
theorem Walk.mono {edges' : V → List (V × ℤ)} {es : List (V × ℤ)} :
    ∀ {v : V}, Walk edges v es → (∀ v, ∀ e ∈ edges v, e ∈ es → e ∈ edges' v) →
      Walk edges' v es := by
  induction es with
  | nil => intro v _ _; trivial
  | cons e es ih =>
      intro v h hsub
      refine ⟨hsub v e h.1 List.mem_cons_self, ih h.2 fun v e' he' hes => ?_⟩
      exact hsub v e' he' (List.mem_cons_of_mem _ hes)

/-- A walk to another vertex ends with an edge to it. -/
theorem Walk.exists_last {es : List (V × ℤ)} :
    ∀ {v : V}, Walk edges v es → last v es ≠ v → ∃ w, ∃ e ∈ edges w, e.1 = last v es := by
  induction es with
  | nil => intro v _ hlast; exact absurd rfl hlast
  | cons e es ih =>
      intro v h _
      by_cases hlast : last e.1 es = e.1
      · exact ⟨v, e, h.1, hlast.symm⟩
      · exact ih h.2 hlast

/-- Where no edge has a negative cost, no walk has. -/
theorem Walk.cost_nonneg (hedges : ∀ v, ∀ e ∈ edges v, 0 ≤ e.2) {es : List (V × ℤ)} :
    ∀ {v : V}, Walk edges v es → 0 ≤ cost es := by
  induction es with
  | nil => intro v _; exact le_refl 0
  | cons e es ih =>
      intro v h
      have hhead := hedges v e h.1
      have htail := ih h.2
      rw [cost_cons]
      omega

/-- The path leads from a vertex to another along the steps of a relation.  The vertex from which it
leads is not part of the path. -/
def Leads (Step : V → V → Prop) : V → List V → V → Prop
  | v, [], w => v = w
  | v, n :: path, w => Step v n ∧ Leads Step n path w

theorem Leads.mono {Step Step' : V → V → Prop} (hsub : ∀ v n, Step v n → Step' v n)
    {path : List V} :
    ∀ {v w : V}, Leads Step v path w → Leads Step' v path w := by
  induction path with
  | nil => intro v w h; exact h
  | cons n path ih => intro v w h; exact ⟨hsub v n h.1, ih h.2⟩

/-- A path to another vertex ends with a step there. -/
theorem Leads.exists_last {Step : V → V → Prop} {path : List V} :
    ∀ {v w : V}, Leads Step v path w → v ≠ w → ∃ u, Step u w := by
  induction path with
  | nil => intro v w h hne; exact absurd h hne
  | cons n path ih =>
      intro v w h _
      by_cases hn : n = w
      · exact ⟨v, hn ▸ h.1⟩
      · exact ih h.2 hn

/-- From a vertex of a path that is not its end the path goes on. -/
theorem Leads.exists_step {Step : V → V → Prop} {path : List V} :
    ∀ {v w : V}, Leads Step v path w → ∀ u ∈ path, u ≠ w → ∃ n, Step u n := by
  induction path with
  | nil => intro v w _ u hu; exact absurd hu List.not_mem_nil
  | cons n path ih =>
      intro v w h u hu hne
      rcases List.mem_cons.1 hu with rfl | hu
      · cases path with
        | nil => exact absurd h.2 hne
        | cons m path => exact ⟨m, h.2.1⟩
      · exact ih h.2 u hu hne

/-- What a step always enters holds of every vertex of a path. -/
theorem Leads.forall_mem {Step : V → V → Prop} {P : V → Prop} (hstep : ∀ v n, Step v n → P n)
    {path : List V} : ∀ {v w : V}, Leads Step v path w → ∀ u ∈ path, P u := by
  induction path with
  | nil => intro v w _ u hu; exact absurd hu List.not_mem_nil
  | cons n path ih =>
      intro v w h u hu
      rcases List.mem_cons.1 hu with rfl | hu
      · exact hstep v u h.1
      · exact ih h.2 u hu

/-- **A path may stop where it first comes to its end**: all vertices it leaves are then vertices
other than the end. -/
theorem Leads.exists_prefix {Step : V → V → Prop} {P : V → Prop} {path : List V} :
    ∀ {v w : V}, Leads Step v path w → v ≠ w → P v → (∀ u ∈ path, u ≠ w → P u) →
      ∃ path', path' <+: path ∧ Leads (fun u n => P u ∧ Step u n) v path' w := by
  induction path with
  | nil => intro v w h hne; exact absurd h hne
  | cons n path ih =>
      intro v w h _ hv hpath
      by_cases hn : n = w
      · exact ⟨[n], List.prefix_append [n] path, ⟨hv, h.1⟩, hn⟩
      · obtain ⟨path', hprefix, hleads⟩ := ih h.2 hn (hpath n List.mem_cons_self hn)
          fun u hu => hpath u (List.mem_cons_of_mem _ hu)
        exact ⟨n :: path', List.cons_prefix_cons.2 ⟨rfl, hprefix⟩, ⟨hv, h.1⟩, hleads⟩

/-- The last part of a path leads on from where it starts. -/
theorem Leads.of_append_cons {Step : V → V → Prop} {n : V} {after : List V} (before : List V) :
    ∀ {v w : V}, Leads Step v (before ++ n :: after) w → Leads Step n after w := by
  induction before with
  | nil => intro v w h; exact h.2
  | cons m before ih => intro v w h; exact ih h.2

/-- **A path can be shortened to one that enters no vertex twice.** -/
theorem Leads.exists_nodup {Step : V → V → Prop} {path : List V} :
    ∀ {v w : V}, Leads Step v path w →
      ∃ path', path'.Sublist path ∧ path'.Nodup ∧ Leads Step v path' w := by
  induction path with
  | nil => intro v w h; exact ⟨[], List.Sublist.refl [], List.nodup_nil, h⟩
  | cons n path ih =>
      intro v w h
      obtain ⟨path', hsub, hnodup, hleads⟩ := ih h.2
      by_cases hn : n ∈ path'
      · -- the way from the vertex back to itself is left out
        obtain ⟨before, after, rfl⟩ := List.append_of_mem hn
        have hafter : (n :: after).Sublist path := (List.sublist_append_right before _).trans hsub
        exact ⟨n :: after, hafter.cons n, hnodup.of_append_right, h.1,
          hleads.of_append_cons before⟩
      · exact ⟨n :: path', hsub.cons_cons n, List.nodup_cons.2 ⟨hn, hnodup⟩, h.1, hleads⟩

/-- **The edges are the steps of a relation**, each with what it costs to enter the vertex it leads
to. -/
structure Weighs (edges : V → List (V × ℤ)) (Step : V → V → Prop) (weight : V → ℤ) : Prop where
  mem_iff : ∀ v e, e ∈ edges v ↔ Step v e.1 ∧ e.2 = weight e.1

variable {Step : V → V → Prop} {weight : V → ℤ}

/-- A path along the steps is a walk along the edges. -/
theorem Weighs.walk_of_leads (h : Weighs edges Step weight) {path : List V} :
    ∀ {v w : V}, Leads Step v path w → ∃ es, Walk edges v es ∧ last v es = w ∧
      es.map Prod.fst = path ∧ cost es = (path.map weight).sum := by
  induction path with
  | nil => intro v w hpath; exact ⟨[], trivial, hpath, rfl, rfl⟩
  | cons n path ih =>
      intro v w hpath
      obtain ⟨es, hwalk, hlast, hmap, hcost⟩ := ih hpath.2
      refine ⟨(n, weight n) :: es, ⟨(h.mem_iff v _).2 ⟨hpath.1, rfl⟩, hwalk⟩, hlast, ?_, ?_⟩
      · rw [List.map_cons, hmap]
      · rw [cost_cons, hcost, List.map_cons, List.sum_cons]

/-- A walk along the edges goes along the steps. -/
theorem Weighs.leads_of_walk (h : Weighs edges Step weight) {es : List (V × ℤ)} :
    ∀ {v : V}, Walk edges v es → Leads Step v (es.map Prod.fst) (last v es) ∧
      cost es = ((es.map Prod.fst).map weight).sum := by
  induction es with
  | nil => intro v _; exact ⟨rfl, rfl⟩
  | cons e es ih =>
      intro v hwalk
      obtain ⟨hstep, hweight⟩ := (h.mem_iff v e).1 hwalk.1
      obtain ⟨hleads, hcost⟩ := ih hwalk.2
      refine ⟨⟨hstep, hleads⟩, ?_⟩
      rw [cost_cons, hcost, List.map_cons, List.map_cons, List.sum_cons, hweight]

end Walks

/-! ### The flood -/

/-- A vertex and the cost at which it was reached. -/
structure Node (V : Type u) where
  vertex : V
  cost : ℤ
  deriving DecidableEq, Repr

/-- **The order in which nodes leave the frontier**: any order will do. -/
structure Queue (V : Type u) where
  pop : List (Node V) → Option (Node V × List (Node V))
  pop_none : ∀ nodes, pop nodes = none → nodes = []
  pop_some : ∀ nodes node rest, pop nodes = some (node, rest) → nodes.Perm (node :: rest)

/-- The state of a flood: the nodes whose edges are still to be followed, and the least cost found
so far for each vertex that was reached. -/
structure State (V : Type u) where
  frontier : List (Node V)
  best : AList fun _ : V => ℤ

section Search

variable {V : Type u} [DecidableEq V] (edges : V → List (V × ℤ)) (budget limit : ℤ)

/-- Follows an edge from a vertex that was reached at a cost: a vertex that is reached within the
budget at a lower cost than before is put on the frontier.  A vertex that was not reached counts as
one reached at the limit. -/
def relax (cost : ℤ) (s : State V) (e : V × ℤ) : State V :=
  if budget < cost + e.2 then s
  else if cost + e.2 < (s.best.lookup e.1).getD limit then
    { frontier := s.frontier ++ [⟨e.1, cost + e.2⟩], best := s.best.insert e.1 (cost + e.2) }
  else s

/-- Follows all edges of a node. -/
def expand (s : State V) (node : Node V) : State V :=
  (edges node.vertex).foldl (relax budget limit node.cost) s

/-- Whether a vertex was reached at a lower cost after a node was put on the frontier. -/
def stale (s : State V) (node : Node V) : Bool :=
  match s.best.lookup node.vertex with
  | none => false
  | some c => c < node.cost

/-- The flood, for a number of rounds: a node leaves the frontier and, unless it is stale, its edges
are followed. -/
def run (queue : Queue V) : ℕ → State V → State V
  | 0, s => s
  | rounds + 1, s =>
      match queue.pop s.frontier with
      | none => s
      | some (node, rest) =>
          if stale s node then run queue rounds { s with frontier := rest }
          else run queue rounds (expand edges budget limit { s with frontier := rest } node)

/-- Only the source was reached. -/
def start (source : V) : State V := ⟨[⟨source, 0⟩], AList.singleton source 0⟩

variable {edges budget limit}

/-! ### What a round does -/

/-- **What following edges does to the state**: costs become lower, nodes stay on the frontier, and
what is new is on the frontier. -/
structure Grows (s s' : State V) : Prop where
  lower : ∀ v c, s.best.lookup v = some c → ∃ c' ≤ c, s'.best.lookup v = some c'
  kept : ∀ node ∈ s.frontier, node ∈ s'.frontier
  fresh : ∀ v c, s'.best.lookup v = some c → s.best.lookup v = some c ∨ ⟨v, c⟩ ∈ s'.frontier

theorem Grows.refl (s : State V) : Grows s s where
  lower _ c h := ⟨c, le_refl c, h⟩
  kept _ h := h
  fresh _ _ h := Or.inl h

theorem Grows.trans {s s' s'' : State V} (h : Grows s s') (h' : Grows s' s'') : Grows s s'' where
  lower v c hc := by
    obtain ⟨c', hle, hc'⟩ := h.lower v c hc
    obtain ⟨c'', hle', hc''⟩ := h'.lower v c' hc'
    exact ⟨c'', le_trans hle' hle, hc''⟩
  kept node hnode := h'.kept node (h.kept node hnode)
  fresh v c hc := by
    rcases h'.fresh v c hc with hc' | hnew
    · rcases h.fresh v c hc' with hold | hnew
      · exact Or.inl hold
      · exact Or.inr (h'.kept _ hnew)
    · exact Or.inr hnew

/-- Following an edge leaves the state as it is, or reaches a vertex at a lower cost. -/
theorem relax_cases (budget limit cost : ℤ) (s : State V) (e : V × ℤ) :
    (relax budget limit cost s e = s ∧
      (budget < cost + e.2 ∨ (s.best.lookup e.1).getD limit ≤ cost + e.2)) ∨
    (relax budget limit cost s e =
        { frontier := s.frontier ++ [⟨e.1, cost + e.2⟩], best := s.best.insert e.1 (cost + e.2) } ∧
      cost + e.2 ≤ budget ∧ cost + e.2 < (s.best.lookup e.1).getD limit) := by
  rw [relax]
  split
  · next hover => exact Or.inl ⟨rfl, Or.inl hover⟩
  · next hwithin =>
      split
      · next hlower => exact Or.inr ⟨rfl, not_lt.1 hwithin, hlower⟩
      · next hnot => exact Or.inl ⟨rfl, Or.inr (not_lt.1 hnot)⟩

theorem relax_grows (budget limit cost : ℤ) (s : State V) (e : V × ℤ) :
    Grows s (relax budget limit cost s e) := by
  rcases relax_cases budget limit cost s e with ⟨hsame, -⟩ | ⟨hnew, -, hlower⟩
  · rw [hsame]
    exact Grows.refl s
  · rw [hnew]
    refine ⟨fun v c hc => ?_, fun node hnode => List.mem_append_left _ hnode, fun v c hc => ?_⟩
    · by_cases hv : v = e.1
      · subst hv
        rw [hc] at hlower
        exact ⟨_, le_of_lt hlower, AList.lookup_insert _⟩
      · exact ⟨c, le_refl c, by rw [AList.lookup_insert_ne hv]; exact hc⟩
    · by_cases hv : v = e.1
      · subst hv
        rw [AList.lookup_insert] at hc
        obtain rfl := Option.some_inj.1 hc
        exact Or.inr (List.mem_append_right _ (List.mem_singleton.2 rfl))
      · rw [AList.lookup_insert_ne hv] at hc
        exact Or.inl hc

/-- An edge that is followed leads to a vertex that is reached at no higher cost. -/
theorem relax_covers {cost : ℤ} {s : State V} {e : V × ℤ} (hbudget : cost + e.2 ≤ budget)
    (hlimit : cost + e.2 < limit) :
    ∃ c ≤ cost + e.2, (relax budget limit cost s e).best.lookup e.1 = some c := by
  rcases relax_cases budget limit cost s e with ⟨hsame, hover | hnot⟩ | ⟨hnew, -, -⟩
  · omega
  · rw [hsame]
    cases hc : s.best.lookup e.1 with
    | none =>
        rw [hc, Option.getD_none] at hnot
        omega
    | some c =>
        rw [hc, Option.getD_some] at hnot
        exact ⟨c, hnot, rfl⟩
  · rw [hnew]
    exact ⟨_, le_refl _, AList.lookup_insert _⟩

/-- Following a list of edges reaches all of them. -/
theorem foldl_relax (budget limit cost : ℤ) (es : List (V × ℤ)) :
    ∀ s : State V, Grows s (es.foldl (relax budget limit cost) s) ∧
      ∀ e ∈ es, cost + e.2 ≤ budget → cost + e.2 < limit →
        ∃ c ≤ cost + e.2, (es.foldl (relax budget limit cost) s).best.lookup e.1 = some c := by
  induction es with
  | nil => intro s; exact ⟨Grows.refl s, fun e he => absurd he List.not_mem_nil⟩
  | cons e es ih =>
      intro s
      obtain ⟨hgrows, hcovers⟩ := ih (relax budget limit cost s e)
      refine ⟨(relax_grows budget limit cost s e).trans hgrows, fun e' he' hbudget hlimit => ?_⟩
      rcases List.mem_cons.1 he' with rfl | he'
      · obtain ⟨c, hle, hc⟩ := relax_covers hbudget hlimit (s := s)
        obtain ⟨c', hle', hc'⟩ := hgrows.lower _ c hc
        exact ⟨c', le_trans hle' hle, hc'⟩
      · exact hcovers e' he' hbudget hlimit

/-! ### What holds throughout -/

/-- A vertex is led to by a walk of this cost within the budget and below the limit. -/
def Reached (edges : V → List (V × ℤ)) (budget limit : ℤ) (source v : V) (c : ℤ) : Prop :=
  ∃ es, Walk edges source es ∧ last source es = v ∧ cost es = c ∧ c < limit ∧
    (es = [] ∨ c ≤ budget)

/-- What a flood has reached is led to by walks. -/
structure AllReached (edges : V → List (V × ℤ)) (budget limit : ℤ) (source : V) (s : State V) :
    Prop where
  best : ∀ v c, s.best.lookup v = some c → Reached edges budget limit source v c
  frontier : ∀ node ∈ s.frontier, Reached edges budget limit source node.vertex node.cost

/-- **What holds throughout a flood**: what is reached is led to by a walk, the source is reached
for nothing, and the edges of a vertex that is reached have been followed, unless it is on the
frontier. -/
structure Sound (edges : V → List (V × ℤ)) (budget limit : ℤ) (source : V) (s : State V) :
    Prop where
  reached : AllReached edges budget limit source s
  source : ∃ c ≤ 0, s.best.lookup source = some c
  settled : ∀ v c, s.best.lookup v = some c → ⟨v, c⟩ ∈ s.frontier ∨
    ∀ e ∈ edges v, c + e.2 ≤ budget → c + e.2 < limit →
      ∃ c' ≤ c + e.2, s.best.lookup e.1 = some c'

variable {source : V}

theorem sound_start (hlimit : 0 < limit) : Sound edges budget limit source (start source) := by
  have hsource : Reached edges budget limit source source 0 :=
    ⟨[], trivial, rfl, rfl, hlimit, Or.inl rfl⟩
  have honly : ∀ v c, (start source).best.lookup v = some c → v = source ∧ c = 0 := by
    intro v c hc
    have hmem := AList.mem_lookup_iff.1 hc
    rw [start, AList.singleton_entries, List.mem_singleton] at hmem
    cases hmem
    exact ⟨rfl, rfl⟩
  refine ⟨⟨fun v c hc => ?_, fun node hnode => ?_⟩, ⟨0, le_refl 0, ?_⟩, fun v c hc => ?_⟩
  · obtain ⟨rfl, rfl⟩ := honly v c hc
    exact hsource
  · obtain rfl := List.mem_singleton.1 hnode
    exact hsource
  · exact AList.mem_lookup_iff.2 (List.mem_singleton.2 rfl)
  · obtain ⟨rfl, rfl⟩ := honly v c hc
    exact Or.inl (List.mem_singleton.2 rfl)

omit [DecidableEq V] in
/-- An edge more. -/
theorem Reached.step {v : V} {c : ℤ} (h : Reached edges budget limit source v c) {e : V × ℤ}
    (he : e ∈ edges v) (hbudget : c + e.2 ≤ budget) (hlimit : c + e.2 < limit) :
    Reached edges budget limit source e.1 (c + e.2) := by
  obtain ⟨es, hwalk, rfl, rfl, -, -⟩ := h
  refine ⟨es ++ [e], walk_append.2 ⟨hwalk, he, trivial⟩, last_append es [e] source, ?_, hlimit,
    Or.inr hbudget⟩
  rw [cost_append, cost_cons, cost_nil, add_zero]

/-- Following an edge reaches what walks lead to. -/
theorem AllReached.relax {s : State V} (h : AllReached edges budget limit source s) {v : V} {c : ℤ}
    (hv : Reached edges budget limit source v c) {e : V × ℤ} (he : e ∈ edges v) :
    AllReached edges budget limit source (relax budget limit c s e) := by
  rcases relax_cases budget limit c s e with ⟨hsame, -⟩ | ⟨hnew, hbudget, hlower⟩
  · rwa [hsame]
  · have hstep : Reached edges budget limit source e.1 (c + e.2) := by
      refine hv.step he hbudget ?_
      cases hd : s.best.lookup e.1 with
      | none => rwa [hd, Option.getD_none] at hlower
      | some d =>
          rw [hd, Option.getD_some] at hlower
          obtain ⟨-, -, -, -, hd', -⟩ := h.best e.1 d hd
          omega
    rw [hnew]
    refine ⟨fun w d hd => ?_, fun node hnode => ?_⟩
    · by_cases hw : w = e.1
      · subst hw
        rw [AList.lookup_insert] at hd
        obtain rfl := Option.some_inj.1 hd
        exact hstep
      · rw [AList.lookup_insert_ne hw] at hd
        exact h.best w d hd
    · rcases List.mem_append.1 hnode with hnode | hnode
      · exact h.frontier node hnode
      · obtain rfl := List.mem_singleton.1 hnode
        exact hstep

theorem AllReached.foldl {v : V} {c : ℤ} (hv : Reached edges budget limit source v c)
    (es : List (V × ℤ)) :
    ∀ {s : State V}, AllReached edges budget limit source s → (∀ e ∈ es, e ∈ edges v) →
      AllReached edges budget limit source (es.foldl (Flood.relax budget limit c) s) := by
  induction es with
  | nil => intro s h _; exact h
  | cons e es ih =>
      intro s h hes
      exact ih (h.relax hv (hes e List.mem_cons_self)) fun e' he' =>
        hes e' (List.mem_cons_of_mem _ he')

/-- **A round keeps what holds throughout**, whichever node leaves the frontier. -/
theorem Sound.pop {s : State V} (h : Sound edges budget limit source s) {node : Node V}
    {rest : List (Node V)} (hperm : s.frontier.Perm (node :: rest)) :
    Sound edges budget limit source
      (if stale s node then { s with frontier := rest }
        else expand edges budget limit { s with frontier := rest } node) := by
  have hmem : ∀ node', node' ∈ s.frontier ↔ node' = node ∨ node' ∈ rest := fun node' => by
    rw [hperm.mem_iff, List.mem_cons]
  have hrest : AllReached edges budget limit source { s with frontier := rest } :=
    ⟨h.reached.best, fun node' hnode => h.reached.frontier node' ((hmem node').2 (Or.inr hnode))⟩
  split
  · next hstale =>
      refine ⟨hrest, h.source, fun v c hc => ?_⟩
      rcases h.settled v c hc with hfrontier | hdone
      · rcases (hmem _).1 hfrontier with rfl | hfrontier
        · -- a stale node does not carry the best cost of its vertex
          rw [stale, hc] at hstale
          exact absurd hstale (by simp)
        · exact Or.inl hfrontier
      · exact Or.inr hdone
  · obtain ⟨hgrows, hcovers⟩ := foldl_relax budget limit node.cost (edges node.vertex)
      { s with frontier := rest }
    refine ⟨AllReached.foldl (h.reached.frontier node ((hmem node).2 (Or.inl rfl))) _ hrest
      fun _ he => he, ?_, fun v c hc => ?_⟩
    · obtain ⟨c, hle, hc⟩ := h.source
      obtain ⟨c', hle', hc'⟩ := hgrows.lower source c hc
      exact ⟨c', le_trans hle' hle, hc'⟩
    · rcases hgrows.fresh v c hc with hold | hnew
      · rcases h.settled v c hold with hfrontier | hdone
        · rcases (hmem _).1 hfrontier with rfl | hfrontier
          · exact Or.inr hcovers
          · exact Or.inl (hgrows.kept _ hfrontier)
        · refine Or.inr fun e he hbudget hlimit => ?_
          obtain ⟨d, hle, hd⟩ := hdone e he hbudget hlimit
          obtain ⟨d', hle', hd'⟩ := hgrows.lower e.1 d hd
          exact ⟨d', le_trans hle' hle, hd'⟩
      · exact Or.inl hnew

theorem Sound.run (queue : Queue V) (rounds : ℕ) :
    ∀ {s : State V}, Sound edges budget limit source s →
      Sound edges budget limit source (run edges budget limit queue rounds s) := by
  induction rounds with
  | zero => intro s h; exact h
  | succ rounds ih =>
      intro s h
      rw [Flood.run]
      cases hpop : queue.pop s.frontier with
      | none => exact h
      | some out =>
          obtain ⟨node, rest⟩ := out
          have hnext := h.pop (queue.pop_some _ _ _ hpop)
          dsimp only
          split
          · next hstale => rw [if_pos hstale] at hnext; exact ih hnext
          · next hstale => rw [if_neg hstale] at hnext; exact ih hnext

/-! ### The end of a flood -/

/-- What reaching a vertex at a lower cost can still save. -/
def slack (budget : ℤ) : Option ℤ → ℕ
  | none => budget.toNat + 1
  | some c => c.toNat

/-- A bound on the rounds that are left. -/
def roundsLeft (budget : ℤ) (vertices : Finset V) (s : State V) : ℕ :=
  s.frontier.length + ∑ v ∈ vertices, slack budget (s.best.lookup v)

/-- Reaching one of some vertices at a lower cost saves something in all. -/
theorem sum_slack_insert_lt {budget : ℤ} {vertices : Finset V} {best : AList fun _ : V => ℤ} {v : V}
    {c : ℤ} (hv : v ∈ vertices) (hsaved : slack budget (some c) < slack budget (best.lookup v)) :
    ∑ w ∈ vertices, slack budget ((best.insert v c).lookup w) <
      ∑ w ∈ vertices, slack budget (best.lookup w) := by
  refine Finset.sum_lt_sum (fun w _ => ?_) ⟨v, hv, ?_⟩
  · by_cases hw : w = v
    · subst hw
      rw [AList.lookup_insert]
      exact hsaved.le
    · rw [AList.lookup_insert_ne hw]
  · rw [AList.lookup_insert]
    exact hsaved

/-- Following an edge puts a node on the frontier only where it saves something. -/
theorem roundsLeft_relax {vertices : Finset V} {cost : ℤ} {s : State V} {e : V × ℤ}
    (he : e.1 ∈ vertices) (hcost : 0 ≤ cost + e.2) :
    roundsLeft budget vertices (relax budget limit cost s e) ≤ roundsLeft budget vertices s := by
  rcases relax_cases budget limit cost s e with ⟨hsame, -⟩ | ⟨hnew, hbudget, hlower⟩
  · rw [hsame]
  · have hsaved : slack budget (some (cost + e.2)) < slack budget (s.best.lookup e.1) := by
      cases hd : s.best.lookup e.1 with
      | none =>
          rw [slack, slack]
          omega
      | some d =>
          rw [hd, Option.getD_some] at hlower
          rw [slack, slack]
          omega
    have hsum := sum_slack_insert_lt he hsaved
    rw [hnew, roundsLeft, roundsLeft, List.length_append, List.length_singleton]
    dsimp only
    omega

theorem roundsLeft_foldl {vertices : Finset V} {cost : ℤ} (hcost : 0 ≤ cost) (es : List (V × ℤ)) :
    ∀ {s : State V}, (∀ e ∈ es, e.1 ∈ vertices ∧ 0 ≤ e.2) →
      roundsLeft budget vertices (es.foldl (relax budget limit cost) s) ≤
        roundsLeft budget vertices s := by
  induction es with
  | nil => intro s _; exact le_refl _
  | cons e es ih =>
      intro s hes
      obtain ⟨he, hnonneg⟩ := hes e List.mem_cons_self
      refine le_trans (ih fun e' he' => hes e' (List.mem_cons_of_mem _ he')) ?_
      exact roundsLeft_relax he (by omega)

/-- **After enough rounds the frontier is empty.** -/
theorem run_frontier (queue : Queue V) {vertices : Finset V}
    (hedges : ∀ v, ∀ e ∈ edges v, e.1 ∈ vertices ∧ 0 ≤ e.2) (rounds : ℕ) :
    ∀ {s : State V}, Sound edges budget limit source s → roundsLeft budget vertices s ≤ rounds →
      (run edges budget limit queue rounds s).frontier = [] := by
  induction rounds with
  | zero =>
      intro s _ hle
      rw [roundsLeft] at hle
      have hlength : s.frontier.length = 0 := by omega
      exact List.eq_nil_of_length_eq_zero hlength
  | succ rounds ih =>
      intro s h hle
      rw [run]
      cases hpop : queue.pop s.frontier with
      | none => exact queue.pop_none _ hpop
      | some out =>
          obtain ⟨node, rest⟩ := out
          have hperm := queue.pop_some _ _ _ hpop
          have hnext := h.pop hperm
          have hlength := hperm.length_eq
          have hfewer : roundsLeft budget vertices { s with frontier := rest } ≤ rounds := by
            rw [roundsLeft] at hle ⊢
            rw [List.length_cons] at hlength
            dsimp only
            omega
          dsimp only
          split
          · next hstale => rw [if_pos hstale] at hnext; exact ih hnext hfewer
          · next hstale =>
              rw [if_neg hstale] at hnext
              refine ih hnext (le_trans (roundsLeft_foldl ?_ _ (hedges node.vertex)) hfewer)
              obtain ⟨es, hwalk, -, hcost, -, -⟩ :=
                h.reached.frontier node (hperm.mem_iff.2 List.mem_cons_self)
              rw [← hcost]
              exact hwalk.cost_nonneg fun v e he => (hedges v e he).2

/-- The rounds that a flood from one source needs. -/
theorem roundsLeft_start (budget : ℤ) (vertices : Finset V) (source : V) :
    roundsLeft budget vertices (start source) ≤ vertices.card * (budget.toNat + 1) + 1 := by
  have hsum : ∑ v ∈ vertices, slack budget ((start source).best.lookup v) ≤
      vertices.card * (budget.toNat + 1) := by
    refine Finset.sum_le_card_nsmul vertices _ _ fun v _ => ?_
    by_cases hv : v = source
    · subst hv
      rw [show (start v).best.lookup v = some 0 from AList.mem_lookup_iff.2
        (List.mem_singleton.2 rfl)]
      exact Nat.zero_le _
    · rw [show (start source).best.lookup v = none from AList.lookup_eq_none.2 fun h => hv
        (List.mem_singleton.1 h)]
      exact le_refl _
  rw [roundsLeft]
  show 1 + _ ≤ _
  omega

/-! ### What a flood reaches -/

/-- What is reached is reached by a walk within the budget. -/
theorem exists_walk_of_lookup (queue : Queue V) (rounds : ℕ) (hlimit : 0 < limit) {v : V} {c : ℤ}
    (h : (run edges budget limit queue rounds (start source)).best.lookup v = some c) :
    Reached edges budget limit source v c :=
  ((sound_start hlimit).run queue rounds).reached.best v c h

/-- A walk from a vertex that is reached, when the frontier is empty. -/
theorem Sound.lookup_last {s : State V} (h : Sound edges budget limit source s)
    (hfrontier : s.frontier = []) (hedges : ∀ v, ∀ e ∈ edges v, 0 ≤ e.2) (es : List (V × ℤ)) :
    ∀ {v : V} {c : ℤ}, s.best.lookup v = some c → Walk edges v es → c + cost es ≤ budget →
      c + cost es < limit → ∃ c' ≤ c + cost es, s.best.lookup (last v es) = some c' := by
  induction es with
  | nil => intro v c hc _ _ _; exact ⟨c, by simp, hc⟩
  | cons e es ih =>
      intro v c hc hwalk hbudget hlimit
      have htail := hwalk.2.cost_nonneg hedges
      rw [cost_cons] at hbudget hlimit ⊢
      rcases h.settled v c hc with hmem | hdone
      · rw [hfrontier] at hmem
        cases hmem
      · obtain ⟨d, hle, hd⟩ := hdone e hwalk.1 (by omega) (by omega)
        obtain ⟨c', hle', hc'⟩ := ih hd hwalk.2 (by omega) (by omega)
        exact ⟨c', by omega, hc'⟩

/-- **What a walk within the budget leads to is reached, at no higher cost.** -/
theorem exists_lookup_of_walk (queue : Queue V) {vertices : Finset V} {rounds : ℕ}
    (hedges : ∀ v, ∀ e ∈ edges v, e.1 ∈ vertices ∧ 0 ≤ e.2)
    (hrounds : vertices.card * (budget.toNat + 1) + 1 ≤ rounds) {es : List (V × ℤ)}
    (hwalk : Walk edges source es) (hbudget : cost es ≤ budget) (hlimit : cost es < limit) :
    ∃ c ≤ cost es,
      (run edges budget limit queue rounds (start source)).best.lookup (last source es) =
        some c := by
  have hcost := hwalk.cost_nonneg fun v e he => (hedges v e he).2
  have hstart : Sound edges budget limit source (start source) := sound_start (by omega)
  have hend := run_frontier queue hedges rounds hstart
    (le_trans (roundsLeft_start budget vertices source) hrounds)
  have hsound := hstart.run queue rounds
  obtain ⟨c, hle, hc⟩ := hsound.source
  obtain ⟨c', hle', hc'⟩ := hsound.lookup_last hend (fun v e he => (hedges v e he).2) es hc hwalk
    (by omega) (by omega)
  exact ⟨c', by omega, hc'⟩

end Search

end Flood
