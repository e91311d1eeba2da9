import Mathlib.Data.List.Nodup
import ConsumerRelay.Types

/-!
Accumulation of validator updates across VSC packets. `ccv.AccumulateChanges` is not under
src/, so it is modelled from the spec (section 4.2, step 3): last write wins per validator,
and the accumulated updates keep the order in which validators first appear.
-/

set_option autoImplicit false

namespace ConsumerRelay

def insertUpdate (updates : List ValidatorUpdate) (u : ValidatorUpdate) : List ValidatorUpdate :=
  if u.pubKey ∈ updates.map (·.pubKey) then
    updates.map fun v => if v.pubKey = u.pubKey then u else v
  else updates ++ [u]

/-- Modelled from the spec: `ccv.AccumulateChanges` merges the new updates, in order, into the
current ones with last-write-wins per validator, preserving the order of first appearance. -/
def accumulateChanges (currentChanges newChanges : List ValidatorUpdate) : List ValidatorUpdate :=
  newChanges.foldl insertUpdate currentChanges

def lastPower (k : PublicKey) (updates : List ValidatorUpdate) : Option Int :=
  (updates.reverse.find? (·.pubKey = k)).map (·.power)

theorem lastPower_append (k : PublicKey) (us vs : List ValidatorUpdate) :
    lastPower k (us ++ vs) = (lastPower k vs).or (lastPower k us) := by
  simp only [lastPower, List.reverse_append, List.find?_append]
  cases (vs.reverse.find? (·.pubKey = k)) <;> rfl

theorem lastPower_of_mem {us : List ValidatorUpdate} (hn : (us.map (·.pubKey)).Nodup)
    {u : ValidatorUpdate} (hu : u ∈ us) : lastPower u.pubKey us = some u.power := by
  obtain ⟨v, hv⟩ : ∃ v, us.reverse.find? (·.pubKey = u.pubKey) = some v := by
    refine Option.ne_none_iff_exists'.1 fun h => ?_
    simp only [List.find?_eq_none, List.mem_reverse, decide_eq_true_eq] at h
    exact h u hu rfl
  have hk : v.pubKey = u.pubKey := by simpa using List.find?_some hv
  have hvu : v = u :=
    List.inj_on_of_nodup_map hn (List.mem_reverse.1 (List.mem_of_find?_eq_some hv)) hu hk
  simp [lastPower, hv, hvu]

theorem keys_insertUpdate (us : List ValidatorUpdate) (u : ValidatorUpdate) :
    (insertUpdate us u).map (·.pubKey) =
      if u.pubKey ∈ us.map (·.pubKey) then us.map (·.pubKey)
      else us.map (·.pubKey) ++ [u.pubKey] := by
  unfold insertUpdate
  split
  · simp only [List.map_map]
    exact List.map_congr_left fun v _ => by by_cases h : v.pubKey = u.pubKey <;> simp [h]
  · simp

theorem mem_keys_insertUpdate {k : PublicKey} {us : List ValidatorUpdate} {u : ValidatorUpdate} :
    k ∈ (insertUpdate us u).map (·.pubKey) ↔ k = u.pubKey ∨ k ∈ us.map (·.pubKey) := by
  rw [keys_insertUpdate]
  split
  · exact ⟨Or.inr, by rintro (rfl | h) <;> assumption⟩
  · simp [or_comm]

theorem lastPower_insertUpdate (k : PublicKey) (us : List ValidatorUpdate) (u : ValidatorUpdate) :
    lastPower k (insertUpdate us u) = lastPower k (us ++ [u]) := by
  unfold insertUpdate
  split
  · rename_i hu
    have hp : (fun v : ValidatorUpdate => decide (v.pubKey = k)) ∘
        (fun v => if v.pubKey = u.pubKey then u else v) = fun v => decide (v.pubKey = k) := by
      funext v; by_cases h : v.pubKey = u.pubKey <;> simp [h]
    simp only [lastPower, ← List.map_reverse, List.find?_map, hp, Option.map_map,
      List.reverse_append, List.find?_append]
    cases hv : us.reverse.find? (·.pubKey = k) with
    | none =>
      have hk : u.pubKey ≠ k := by
        rintro rfl
        obtain ⟨w, hw, he⟩ := List.mem_map.1 hu
        exact (List.find?_eq_none.1 hv) w (List.mem_reverse.2 hw) (by simpa using he)
      simp [hk]
    | some v =>
      have hvk : v.pubKey = k := by simpa using List.find?_some hv
      by_cases hk : u.pubKey = k <;> simp [hk, hvk, Ne.symm]
  · rfl

/-- The three facts about accumulated updates: distinct keys, exactly the keys seen, and the
power of each key's last update. -/
theorem accumulateChanges_spec (currentChanges newChanges : List ValidatorUpdate)
    (hn : (currentChanges.map (·.pubKey)).Nodup) :
    ((accumulateChanges currentChanges newChanges).map (·.pubKey)).Nodup ∧
      (∀ k, k ∈ (accumulateChanges currentChanges newChanges).map (·.pubKey) ↔
        k ∈ (currentChanges ++ newChanges).map (·.pubKey)) ∧
      ∀ k, lastPower k (accumulateChanges currentChanges newChanges) =
        lastPower k (currentChanges ++ newChanges) := by
  induction newChanges generalizing currentChanges with
  | nil => simpa [accumulateChanges] using hn
  | cons u us ih =>
    have hn' : ((insertUpdate currentChanges u).map (·.pubKey)).Nodup := by
      rw [keys_insertUpdate]
      split
      · exact hn
      · exact hn.append (List.nodup_singleton _) (List.disjoint_singleton.2 ‹_›)
    obtain ⟨h₁, h₂, h₃⟩ := ih (insertUpdate currentChanges u) hn'
    refine ⟨h₁, fun k => ?_, fun k => ?_⟩
    · simp only [accumulateChanges, List.foldl_cons] at h₂ ⊢
      simp only [h₂, List.map_append, List.mem_append, List.map_cons, List.mem_cons,
        mem_keys_insertUpdate]
      tauto
    · rw [accumulateChanges, List.foldl_cons, ← accumulateChanges, h₃, lastPower_append,
        lastPower_insertUpdate, ← lastPower_append, List.append_assoc, List.singleton_append]

end ConsumerRelay
