/-
**Association lists: what an update does to a lookup.**

A program that keeps its records in a map changes them one key at a time, or walks over all keys and
changes every record in place.  This module says what the lookups give afterwards, and turns a
property of all entries into one of all lookups.

Main results:

* `Association.lookup_insert`, `Association.lookup_erase`, `Association.lookup_replace` — lookups
  after a change of one record;
* `Association.entries_replace`, `Association.replace_replace`, `Association.replace_self` — records
  that are replaced;
* `Association.lookup_eraseAll`, `Association.eraseAll_perm` — several records erased;
* `Association.forall_insert`, `Association.forall_replace_iff` — what holds of all records;
* `Association.look_foldl`, `Association.look_foldl_keys` — **lookups after a walk**;
* `Association.forall_entries_iff` — a property of all entries.
-/

import Mathlib.Data.List.AList

set_option relaxedAutoImplicit false
set_option autoImplicit false

universe u v

namespace Association

variable {κ : Type u} {β : Type v} [DecidableEq κ]

/-! ### One record -/

theorem lookup_insert (m : AList fun _ : κ => β) (k k' : κ) (b : β) :
    (m.insert k b).lookup k' = if k' = k then some b else m.lookup k' := by
  split
  · next h => rw [h, AList.lookup_insert]
  · next h => exact AList.lookup_insert_ne h

theorem lookup_erase (m : AList fun _ : κ => β) (k k' : κ) :
    (m.erase k).lookup k' = if k' = k then none else m.lookup k' := by
  split
  · next h => rw [h, AList.lookup_erase]
  · next h => exact AList.lookup_erase_ne h

theorem dlookup_kreplace (l : List (Sigma fun _ : κ => β)) (k k' : κ) (b : β) :
    (l.kreplace k b).dlookup k' =
      if k' = k then (l.dlookup k').map fun _ => b else l.dlookup k' := by
  induction l with
  | nil => simp [List.kreplace]
  | cons e l ih =>
      obtain ⟨k₀, b₀⟩ := e
      by_cases hk : k = k₀
      · subst hk
        have hhead : List.kreplace k b (⟨k, b₀⟩ :: l) = ⟨k, b⟩ :: l := by
          simp [List.kreplace, List.lookmap_cons_some]
        rw [hhead]
        by_cases hk' : k' = k
        · subst hk'
          rw [if_pos rfl, List.dlookup_cons_eq, List.dlookup_cons_eq]
          rfl
        · rw [if_neg hk', List.dlookup_cons_ne _ _ hk', List.dlookup_cons_ne _ _ hk']
      · have hhead : List.kreplace k b (⟨k₀, b₀⟩ :: l) = ⟨k₀, b₀⟩ :: List.kreplace k b l := by
          simp [List.kreplace, List.lookmap_cons_none, hk]
        rw [hhead]
        by_cases hk' : k' = k₀
        · subst hk'
          rw [List.dlookup_cons_eq, List.dlookup_cons_eq, if_neg (Ne.symm hk)]
        · rw [List.dlookup_cons_ne _ _ hk', List.dlookup_cons_ne _ _ hk', ih]

/-- A record is replaced only where there is one. -/
theorem lookup_replace (m : AList fun _ : κ => β) (k k' : κ) (b : β) :
    (m.replace k b).lookup k' = if k' = k then (m.lookup k').map fun _ => b else m.lookup k' :=
  dlookup_kreplace m.entries k k' b

/-- The records after a replacement, one by one. -/
theorem kreplace_eq_map : ∀ (l : List (Sigma fun _ : κ => β)) (k : κ) (b : β), l.NodupKeys →
    l.kreplace k b = l.map fun e => if e.1 = k then ⟨k, b⟩ else e := by
  intro l k b
  induction l with
  | nil => intro _; rfl
  | cons e l ih =>
      intro hnodup
      obtain ⟨k₀, b₀⟩ := e
      obtain ⟨hfirst, hrest⟩ := List.nodupKeys_cons.1 hnodup
      by_cases hk : k₀ = k
      · subst hk
        have hothers : l.map (fun e => if e.1 = k₀ then (⟨k₀, b⟩ : Sigma fun _ : κ => β) else e) =
            l := by
          refine (List.map_congr_left fun e he => if_neg fun hsame => hfirst ?_).trans
            (List.map_id' l)
          have hkey := List.mem_keys_of_mem he
          rw [hsame] at hkey
          exact hkey
        rw [List.map_cons, if_pos rfl, hothers]
        simp [List.kreplace, List.lookmap_cons_some]
      · rw [List.map_cons, if_neg hk, ← ih hrest]
        simp [List.kreplace, List.lookmap_cons_none, Ne.symm hk]

theorem entries_replace (m : AList fun _ : κ => β) (k : κ) (b : β) :
    (m.replace k b).entries = m.entries.map fun e => if e.1 = k then ⟨k, b⟩ else e :=
  kreplace_eq_map m.entries k b m.nodupKeys

/-- The last replacement of a record counts. -/
theorem replace_replace (m : AList fun _ : κ => β) (k : κ) (b b' : β) :
    (m.replace k b).replace k b' = m.replace k b' := by
  refine AList.ext ?_
  rw [entries_replace, entries_replace, entries_replace, List.map_map]
  refine List.map_congr_left fun e _ => ?_
  by_cases hk : e.1 = k <;> simp [hk]

/-- A record that is replaced by itself. -/
theorem replace_self {m : AList fun _ : κ => β} {k : κ} {b : β} (h : m.lookup k = some b) :
    m.replace k b = m := by
  refine AList.ext ?_
  rw [entries_replace]
  refine (List.map_congr_left fun e he => ?_).trans (List.map_id' m.entries)
  split
  · next hk =>
      have hsame := AList.mem_lookup_iff.2 he
      rw [hk, h] at hsame
      obtain rfl := Option.some_inj.1 hsame
      exact Sigma.ext hk.symm HEq.rfl
  · rfl

/-! ### Several records -/

/-- Erases records one after the other. -/
def eraseAll (m : AList fun _ : κ => β) (ks : List κ) : AList fun _ : κ => β :=
  ks.foldl (fun m k => m.erase k) m

theorem eraseAll_append (m : AList fun _ : κ => β) (ks ks' : List κ) :
    eraseAll m (ks ++ ks') = eraseAll (eraseAll m ks) ks' := List.foldl_append

/-- It does not matter in which order records are erased. -/
theorem eraseAll_perm (m : AList fun _ : κ => β) {ks ks' : List κ} (h : ks.Perm ks') :
    eraseAll m ks = eraseAll m ks' :=
  h.foldl_eq' (fun k _ k' _ m => AList.erase_erase k k' m) m

theorem lookup_eraseAll (k : κ) :
    ∀ (ks : List κ) (m : AList fun _ : κ => β),
      (eraseAll m ks).lookup k = if k ∈ ks then none else m.lookup k := by
  intro ks
  induction ks with
  | nil => intro m; rw [if_neg List.not_mem_nil]; rfl
  | cons k' ks ih =>
      intro m
      rw [show eraseAll m (k' :: ks) = eraseAll (m.erase k') ks from rfl, ih, lookup_erase]
      by_cases hk : k = k'
      · rw [if_pos hk, ite_self, if_pos (hk ▸ List.mem_cons_self)]
      · rw [if_neg hk]
        simp only [List.mem_cons, hk, false_or]

/-! ### All records -/

section Forall

variable {P : κ → β → Prop} {m : AList fun _ : κ => β} {k : κ} {b : β}

/-- What holds of all records and of a new one holds of all records afterwards. -/
theorem forall_insert (h : ∀ k b, m.lookup k = some b → P k b) (hb : P k b) :
    ∀ k' b', (m.insert k b).lookup k' = some b' → P k' b' := by
  intro k' b' hlookup
  rw [lookup_insert] at hlookup
  split at hlookup
  · next hk =>
      obtain rfl := Option.some_inj.1 hlookup
      rwa [hk]
  · exact h k' b' hlookup

theorem forall_erase (h : ∀ k b, m.lookup k = some b → P k b) (k : κ) :
    ∀ k' b', (m.erase k).lookup k' = some b' → P k' b' := by
  intro k' b' hlookup
  rw [lookup_erase] at hlookup
  split at hlookup
  · cases hlookup
  · exact h k' b' hlookup

/-- Replacing a record matters for that record alone. -/
theorem forall_replace_iff {old : β} (h : ∀ k b, m.lookup k = some b → P k b)
    (hk : m.lookup k = some old) :
    (∀ k' b', (m.replace k b).lookup k' = some b' → P k' b') ↔ P k b := by
  constructor
  · intro hall
    refine hall k b ?_
    rw [lookup_replace, if_pos rfl, hk]
    rfl
  · intro hb k' b' hlookup
    rw [lookup_replace] at hlookup
    split at hlookup
    · next hk' =>
        rw [hk', hk] at hlookup
        obtain rfl := Option.some_inj.1 hlookup
        rwa [hk']
    · exact h k' b' hlookup

end Forall

/-- **Lookups after a walk over different keys**, each step of which changes the record of its key
alone, in whatever state the records are kept. -/
theorem look_foldl {σ : Type*} (look : σ → κ → Option β) {step : σ → κ → σ} {f : β → β}
    (hstep : ∀ s k k', look (step s k) k' =
      if k' = k then (look s k').map f else look s k') (k' : κ) :
    ∀ (ks : List κ) (s : σ), ks.Nodup →
      look (ks.foldl step s) k' = if k' ∈ ks then (look s k').map f else look s k' := by
  intro ks
  induction ks with
  | nil => intro s _; simp
  | cons k ks ih =>
      intro s hnodup
      obtain ⟨hk, hks⟩ := List.nodup_cons.1 hnodup
      rw [List.foldl_cons, ih _ hks, hstep]
      by_cases hk' : k' = k
      · subst hk'
        rw [if_neg hk, if_pos rfl, if_pos List.mem_cons_self]
      · rw [if_neg hk']
        simp only [List.mem_cons, hk', false_or]

/-- A walk over all keys changes every record. -/
theorem look_foldl_keys {σ : Type*} (look : σ → κ → Option β) {step : σ → κ → σ} {f : β → β}
    (hstep : ∀ s k k', look (step s k) k' =
      if k' = k then (look s k').map f else look s k')
    {s : σ} {m : AList fun _ : κ => β} (hm : ∀ k, look s k = m.lookup k) (k : κ) :
    look (m.keys.foldl step s) k = (look s k).map f := by
  rw [look_foldl look hstep k m.keys s m.keys_nodup]
  split
  · rfl
  · next h =>
      rw [hm, AList.lookup_eq_none.2 fun hk => h (AList.mem_keys.1 hk)]
      rfl

/-- A property of all entries is one of all lookups. -/
theorem forall_entries_iff {m : AList fun _ : κ => β} {P : κ → β → Prop} :
    (∀ e ∈ m.entries, P e.1 e.2) ↔ ∀ k b, m.lookup k = some b → P k b := by
  constructor
  · intro h k b hlookup
    exact h ⟨k, b⟩ (AList.mem_lookup_iff.1 hlookup)
  · intro h e he
    exact h e.1 e.2 (AList.mem_lookup_iff.2 he)

theorem entries_ne_nil_iff {m : AList fun _ : κ => β} :
    m.entries ≠ [] ↔ ∃ k b, m.lookup k = some b := by
  constructor
  · intro h
    obtain ⟨e, he⟩ := List.exists_mem_of_ne_nil _ h
    exact ⟨e.1, e.2, AList.mem_lookup_iff.2 he⟩
  · rintro ⟨k, b, hlookup⟩ hnil
    have hmem := AList.mem_lookup_iff.1 hlookup
    rw [hnil] at hmem
    cases hmem

end Association
