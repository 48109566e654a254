/-
**Diplomacy as a symmetric map.**

Relations are stored by pair of factions, the smaller identifier first, and default relations are
written for all pairs of registered factions in two nested loops.  What is read for two different
factions is therefore what was last written for the pair of them, in whichever order they are named,
and a default depends on the types of the two factions alone.

Main definitions:

* `My4X.DiplomacyOp` — what is done to the relations;
* `My4X.DiplomacyOp.writes` — what an operation writes for two factions;
* `My4X.lastWritten` — what was last written for them;
* `My4X.DiplomacyManager.SameRelations` — the same relations are stored.

Main results:

* `My4X.DiplomacyManager.lookup_initializeDefaults` — the default relations;
* `My4X.DiplomacyManager.lastWrite` — **the relations are a symmetric map of last writes**, and the
  default ones depend neither on the order nor on the number of times they are set.
-/

import My4X.Faction
import My4X.Lib.Association
import Mathlib.Data.List.Induction

set_option relaxedAutoImplicit false
set_option autoImplicit false

namespace My4X

namespace DiplomacyManager

/-! ### Single relations -/

/-- The key of a pair tells which two factions it is about. -/
theorem makeKey_eq_iff {a b x y : FactionId} :
    makeKey a b = makeKey x y ↔ (a = x ∧ b = y) ∨ (a = y ∧ b = x) := by
  constructor
  · intro h
    rw [makeKey, makeKey] at h
    split at h <;> split at h <;> obtain ⟨rfl, rfl⟩ := Prod.mk.inj h
    · exact Or.inl ⟨rfl, rfl⟩
    · exact Or.inr ⟨rfl, rfl⟩
    · exact Or.inr ⟨rfl, rfl⟩
    · exact Or.inl ⟨rfl, rfl⟩
  · rintro (⟨rfl, rfl⟩ | ⟨rfl, rfl⟩)
    · rfl
    · exact makeKey_comm a b

theorem lookup_setRelation (d : DiplomacyManager) (x y : FactionId) (state : DiplomacyState)
    (k : FactionId × FactionId) :
    (d.setRelation x y state).relations.lookup k =
      if x ≠ y ∧ k = makeKey x y then some state else d.relations.lookup k := by
  rw [setRelation]
  by_cases hxy : x = y
  · rw [if_pos hxy, if_neg fun h => h.1 hxy]
  · rw [if_neg hxy, Association.lookup_insert]
    by_cases hk : k = makeKey x y
    · rw [if_pos hk, if_pos ⟨hxy, hk⟩]
    · rw [if_neg hk, if_neg fun h => hk h.2]

/-- What is read for two different factions. -/
theorem getRelation_of_ne (d : DiplomacyManager) {a b : FactionId} (h : a ≠ b) :
    d.getRelation a b = (d.relations.lookup (makeKey a b)).getD .peace := by
  rw [getRelation, if_neg h]

/-! ### Default relations -/

theorem defaultRelation_comm (t u : FactionType) : defaultRelation t u = defaultRelation u t := by
  cases t <;> cases u <;> rfl

/-- The inner loop: the relations of a faction to others. -/
theorem lookup_foldl_setRelation (f : Faction) (k : FactionId × FactionId) (gs : List Faction) :
    ∀ d : DiplomacyManager,
      (gs.map (·.id)).Nodup → f.id ∉ gs.map (·.id) →
      (∀ g ∈ gs, k = makeKey f.id g.id →
        (gs.foldl (fun d g => d.setRelation f.id g.id (defaultRelation f.type g.type))
          d).relations.lookup
          k = some (defaultRelation f.type g.type)) ∧
      ((∀ g ∈ gs, k ≠ makeKey f.id g.id) →
        (gs.foldl (fun d g => d.setRelation f.id g.id (defaultRelation f.type g.type))
          d).relations.lookup
          k = d.relations.lookup k) := by
  induction gs with
  | nil =>
      intro d _ _
      exact ⟨fun g hg => absurd hg List.not_mem_nil, fun _ => rfl⟩
  | cons g gs ih =>
      intro d hnodup hf
      rw [List.map_cons, List.nodup_cons] at hnodup
      rw [List.map_cons, List.mem_cons, not_or] at hf
      obtain ⟨hwritten, hkept⟩ :=
        ih (d.setRelation f.id g.id (defaultRelation f.type g.type)) hnodup.2 hf.2
      refine ⟨fun g' hg' hk => ?_, fun hnone => ?_⟩
      · rcases List.mem_cons.1 hg' with rfl | hg'
        · -- no later faction has the same identifier
          refine (hkept fun g'' hg'' hk' => ?_).trans ?_
          · rw [hk, makeKey_eq_iff] at hk'
            rcases hk' with ⟨-, hid⟩ | ⟨hid, -⟩
            · exact hnodup.1 (hid ▸ List.mem_map_of_mem hg'')
            · exact hf.2 (hid ▸ List.mem_map_of_mem hg'')
          · rw [lookup_setRelation, if_pos ⟨hf.1, hk⟩]
        · exact hwritten g' hg' hk
      · refine (hkept fun g' hg' => hnone g' (List.mem_cons_of_mem g hg')).trans ?_
        rw [lookup_setRelation, if_neg fun h => hnone g List.mem_cons_self h.2]

/-- Two registered factions have the key of a pair. -/
def KeyOf (fs : List Faction) (k : FactionId × FactionId) (f g : Faction) : Prop :=
  f ∈ fs ∧ g ∈ fs ∧ f.id ≠ g.id ∧ k = makeKey f.id g.id

theorem KeyOf.symm {fs : List Faction} {k : FactionId × FactionId} {f g : Faction}
    (h : KeyOf fs k f g) : KeyOf fs k g f :=
  ⟨h.2.1, h.1, Ne.symm h.2.2.1, h.2.2.2.trans (makeKey_comm _ _)⟩

/-- **The default relations**: for every pair of registered factions that of their types, and for
every other pair what there was. -/
theorem lookup_initializeFrom (k : FactionId × FactionId) (fs : List Faction) :
    ∀ d : DiplomacyManager, (fs.map (·.id)).Nodup →
      (∀ f g, KeyOf fs k f g →
        (d.initializeFrom fs).relations.lookup k = some (defaultRelation f.type g.type)) ∧
      ((∀ f g, ¬ KeyOf fs k f g) →
        (d.initializeFrom fs).relations.lookup k = d.relations.lookup k) := by
  induction fs with
  | nil =>
      intro d _
      exact ⟨fun f g h => absurd h.1 List.not_mem_nil, fun _ => rfl⟩
  | cons f₀ fs ih =>
      intro d hnodup
      rw [List.map_cons, List.nodup_cons] at hnodup
      rw [initializeFrom]
      obtain ⟨hwritten, hkept⟩ := lookup_foldl_setRelation f₀ k fs d hnodup.2 hnodup.1
      obtain ⟨hlater, hrest⟩ := ih
        (fs.foldl (fun d g => d.setRelation f₀.id g.id (defaultRelation f₀.type g.type)) d) hnodup.2
      -- a pair of the first faction with another one is not written again
      have hfirst : ∀ g, KeyOf (f₀ :: fs) k f₀ g →
          (initializeFrom (fs.foldl
            (fun d g => d.setRelation f₀.id g.id (defaultRelation f₀.type g.type)) d)
            fs).relations.lookup k = some (defaultRelation f₀.type g.type) := by
        rintro g ⟨-, hg, hne, hk⟩
        have hmem : g ∈ fs := by
          rcases List.mem_cons.1 hg with rfl | hg
          · exact absurd rfl hne
          · exact hg
        refine (hrest ?_).trans (hwritten g hmem hk)
        rintro f' g' ⟨hf', hg', -, hk'⟩
        rw [hk, makeKey_eq_iff] at hk'
        rcases hk' with ⟨hid, -⟩ | ⟨hid, -⟩
        · exact hnodup.1 (hid ▸ List.mem_map_of_mem hf')
        · exact hnodup.1 (hid ▸ List.mem_map_of_mem hg')
      refine ⟨fun f g h => ?_, fun hnone => ?_⟩
      · rcases List.mem_cons.1 h.1 with rfl | hf
        · exact hfirst g h
        · rcases List.mem_cons.1 h.2.1 with rfl | hg
          · rw [defaultRelation_comm]
            exact hfirst f h.symm
          · exact hlater f g ⟨hf, hg, h.2.2⟩
      · refine (hrest fun f g h => hnone f g ?_).trans (hkept fun g hg hk => hnone f₀ g ?_)
        · exact ⟨List.mem_cons_of_mem _ h.1, List.mem_cons_of_mem _ h.2.1, h.2.2⟩
        · refine ⟨List.mem_cons_self, List.mem_cons_of_mem _ hg, fun hid => ?_, hk⟩
          exact hnodup.1 (hid ▸ List.mem_map_of_mem hg)

/-- The same relations are stored. -/
def SameRelations (d d' : DiplomacyManager) : Prop :=
  ∀ k, d'.relations.lookup k = d.relations.lookup k

/-- **The order of the factions does not matter.** -/
theorem initializeFrom_perm (d : DiplomacyManager) {fs fs' : List Faction} (hperm : fs.Perm fs')
    (hnodup : (fs.map (·.id)).Nodup) :
    (d.initializeFrom fs).SameRelations (d.initializeFrom fs') := by
  intro k
  obtain ⟨hwritten, hkept⟩ := lookup_initializeFrom k fs d hnodup
  obtain ⟨hwritten', hkept'⟩ :=
    lookup_initializeFrom k fs' d ((hperm.map (·.id)).nodup_iff.1 hnodup)
  have hkey : ∀ f g, KeyOf fs k f g ↔ KeyOf fs' k f g := fun f g => by
    rw [KeyOf, KeyOf, hperm.mem_iff, hperm.mem_iff]
  by_cases hpair : ∃ f g, KeyOf fs k f g
  · obtain ⟨f, g, h⟩ := hpair
    rw [hwritten f g h, hwritten' f g ((hkey f g).1 h)]
  · have hnone : ∀ f g, ¬ KeyOf fs k f g := fun f g h => hpair ⟨f, g, h⟩
    rw [hkept hnone, hkept' fun f g h => hnone f g ((hkey f g).2 h)]

/-- **Setting the defaults again changes nothing.** -/
theorem initializeFrom_idem (d : DiplomacyManager) {fs : List Faction}
    (hnodup : (fs.map (·.id)).Nodup) :
    (d.initializeFrom fs).SameRelations ((d.initializeFrom fs).initializeFrom fs) := by
  intro k
  obtain ⟨hwritten, hkept⟩ := lookup_initializeFrom k fs d hnodup
  obtain ⟨hwritten', hkept'⟩ := lookup_initializeFrom k fs (d.initializeFrom fs) hnodup
  by_cases hpair : ∃ f g, KeyOf fs k f g
  · obtain ⟨f, g, h⟩ := hpair
    rw [hwritten f g h, hwritten' f g h]
  · exact hkept' fun f g h => hpair ⟨f, g, h⟩

end DiplomacyManager

/-! ### Histories -/

/-- What is done to the relations. -/
inductive DiplomacyOp
  | setRelation (factionA factionB : FactionId) (state : DiplomacyState)
  | initializeDefaults (registry : FactionRegistry)
  | clear

namespace DiplomacyManager

/-- Forgets all relations. -/
def clear (_ : DiplomacyManager) : DiplomacyManager := ⟨∅⟩

/-- The relations after an operation. -/
def apply (d : DiplomacyManager) : DiplomacyOp → DiplomacyManager
  | .setRelation factionA factionB state => d.setRelation factionA factionB state
  | .initializeDefaults registry => d.initializeDefaults registry
  | .clear => d.clear

end DiplomacyManager

/-- **What an operation writes for two different factions**: the state that is set for them, or the
default of their types if both are registered. -/
def DiplomacyOp.writes (a b : FactionId) : DiplomacyOp → Option DiplomacyState
  | .setRelation factionA factionB state =>
      if (a = factionA ∧ b = factionB) ∨ (a = factionB ∧ b = factionA) then some state else none
  | .initializeDefaults registry =>
      match registry.findFaction a, registry.findFaction b with
      | some f, some g => some (DiplomacyManager.defaultRelation f.type g.type)
      | _, _ => none
  | .clear => none

/-- The operation forgets all that was written before. -/
def DiplomacyOp.forgets : DiplomacyOp → Bool
  | .setRelation _ _ _ => false
  | .initializeDefaults _ => false
  | .clear => true

/-- **What was last written for two different factions**, in a history whose latest operation comes
first, unless everything was forgotten since. -/
def lastWritten (a b : FactionId) : List DiplomacyOp → Option DiplomacyState
  | [] => none
  | op :: earlier => if op.forgets then none else (op.writes a b).or (lastWritten a b earlier)

namespace DiplomacyManager

/-- A faction is found under its own identifier. -/
theorem mem_of_findFaction {registry : FactionRegistry} {x : FactionId} {f : Faction}
    (h : registry.findFaction x = some f) : f ∈ registry.factions ∧ f.id = x :=
  ⟨List.mem_of_find?_eq_some h, by simpa using List.find?_some h⟩

/-- An identifier that is not found is nobody's. -/
theorem id_ne_of_findFaction {registry : FactionRegistry} {x : FactionId}
    (h : registry.findFaction x = none) : ∀ f ∈ registry.factions, f.id ≠ x := by
  intro f hf
  simpa using List.find?_eq_none.1 h f hf

/-- What is stored for two different factions once the defaults are set. -/
theorem lookup_initializeDefaults (d : DiplomacyManager) {a b : FactionId} (hab : a ≠ b)
    (registry : FactionRegistry) (hnodup : (registry.factions.map (·.id)).Nodup) :
    (d.initializeDefaults registry).relations.lookup (makeKey a b) =
      ((DiplomacyOp.initializeDefaults registry).writes a b).or
        (d.relations.lookup (makeKey a b)) := by
  obtain ⟨hwritten, hkept⟩ := lookup_initializeFrom (makeKey a b) registry.factions d hnodup
  rw [DiplomacyOp.writes, initializeDefaults]
  cases ha : registry.findFaction a with
  | none =>
      have hmissing := id_ne_of_findFaction ha
      refine hkept ?_
      rintro f g ⟨hf, hg, -, hk⟩
      rcases makeKey_eq_iff.1 hk with ⟨rfl, -⟩ | ⟨rfl, -⟩
      · exact hmissing f hf rfl
      · exact hmissing g hg rfl
  | some f =>
      obtain ⟨hf, rfl⟩ := mem_of_findFaction ha
      cases hb : registry.findFaction b with
      | none =>
          have hmissing := id_ne_of_findFaction hb
          refine hkept ?_
          rintro f' g ⟨hf', hg, -, hk⟩
          rcases makeKey_eq_iff.1 hk with ⟨-, rfl⟩ | ⟨-, rfl⟩
          · exact hmissing g hg rfl
          · exact hmissing f' hf' rfl
      | some g =>
          obtain ⟨hg, rfl⟩ := mem_of_findFaction hb
          exact hwritten f g ⟨hf, hg, hab, rfl⟩

/-- What is stored for two different factions after an operation. -/
theorem lookup_apply (d : DiplomacyManager) {a b : FactionId} (hab : a ≠ b) (op : DiplomacyOp)
    (hids : ∀ registry, op = .initializeDefaults registry →
      (registry.factions.map (·.id)).Nodup) :
    (d.apply op).relations.lookup (makeKey a b) =
      if op.forgets then none else (op.writes a b).or (d.relations.lookup (makeKey a b)) := by
  cases op with
  | setRelation x y state =>
      rw [apply, DiplomacyOp.forgets, if_neg Bool.false_ne_true, DiplomacyOp.writes,
        lookup_setRelation]
      by_cases hpair : (a = x ∧ b = y) ∨ (a = y ∧ b = x)
      · rw [if_pos hpair, Option.some_or, if_pos]
        refine ⟨?_, makeKey_eq_iff.2 hpair⟩
        rcases hpair with ⟨rfl, rfl⟩ | ⟨rfl, rfl⟩
        · exact hab
        · exact Ne.symm hab
      · rw [if_neg hpair, Option.none_or, if_neg fun h => hpair (makeKey_eq_iff.1 h.2)]
  | clear => rfl
  | initializeDefaults registry =>
      rw [apply, DiplomacyOp.forgets, if_neg Bool.false_ne_true]
      exact lookup_initializeDefaults d hab registry (hids registry rfl)

/-- **Relations are a symmetric map of last writes.**  After any history in which default relations
are set for registries without repeated identifiers: relations are symmetric, every faction is at
peace with itself, and the relation of two different ones is what was last written for them, or
peace.  Setting the default relations again changes nothing, and the order of the registered
factions does not matter. -/
theorem lastWrite (ops : List DiplomacyOp)
    (hids : ∀ registry, .initializeDefaults registry ∈ ops →
      (registry.factions.map (·.id)).Nodup) :
    (∀ a b, (ops.foldl apply empty).getRelation a b = (ops.foldl apply empty).getRelation b a) ∧
      (∀ a, (ops.foldl apply empty).getRelation a a = .peace) ∧
      (∀ a b, a ≠ b → (ops.foldl apply empty).getRelation a b =
        (lastWritten a b ops.reverse).getD .peace) ∧
      ∀ (registry registry' : FactionRegistry), registry.factions.Perm registry'.factions →
        (registry.factions.map (·.id)).Nodup →
        SameRelations ((ops.foldl apply empty).initializeDefaults registry)
            ((ops.foldl apply empty).initializeDefaults registry') ∧
          SameRelations ((ops.foldl apply empty).initializeDefaults registry)
            (((ops.foldl apply empty).initializeDefaults registry).initializeDefaults
              registry) := by
  refine ⟨getRelation_comm _, getRelation_self _, fun a b hab => ?_,
    fun registry registry' hperm hnodup =>
      ⟨initializeFrom_perm _ hperm hnodup, initializeFrom_idem _ hnodup⟩⟩
  rw [getRelation_of_ne _ hab]
  congr 1
  -- from the last operation back
  induction ops using List.reverseRecOn with
  | nil => rfl
  | append_singleton ops op ih =>
      rw [List.foldl_append, List.foldl_cons, List.foldl_nil, List.reverse_append,
        List.reverse_singleton, List.singleton_append, lastWritten,
        lookup_apply _ hab op fun registry hop => hids registry (by rw [hop]; simp),
        ih fun registry hmem => hids registry (List.mem_append_left _ hmem)]

/-- Two players and barbarians. -/
def threeFactions : FactionRegistry :=
  (((({} : FactionRegistry).addFaction "Romans" .player 0).1.addFaction "Greeks" .player
    1).1.addFaction
    "Barbarians" .neutralHostile 6).1

/-- The players make peace, are at war by default again, and make an alliance. -/
def changeable : List DiplomacyOp :=
  [.setRelation 1 2 .peace, .initializeDefaults threeFactions, .setRelation 2 1 .alliance]

/-- The alliance and the war with the barbarians are what was last written. -/
theorem changeable_lastWrite :
    (changeable.foldl apply empty).getRelation 1 2 = .alliance ∧
      (changeable.foldl apply empty).getRelation 1 3 = .war := by
  have hids : ∀ registry, DiplomacyOp.initializeDefaults registry ∈ changeable →
      (registry.factions.map (·.id)).Nodup := by
    intro registry hmem
    simp only [changeable, List.mem_cons, reduceCtorEq, List.not_mem_nil, or_false, false_or,
      DiplomacyOp.initializeDefaults.injEq] at hmem
    rw [hmem]
    decide
  obtain ⟨-, -, hlast, -⟩ := lastWrite changeable hids
  exact ⟨hlast 1 2 (by decide), hlast 1 3 (by decide)⟩

end DiplomacyManager

end My4X
