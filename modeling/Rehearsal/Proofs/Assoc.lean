import Mathlib.Data.List.Dedup
import Mathlib.Data.List.Nodup

namespace Rehearsal.Assoc

-- Pairs of keys and values.
variable {κ α : Type}

def keys (pairs : List (κ × α)) : List κ := pairs.map Prod.fst

theorem mem_keys_reverse {pairs : List (κ × α)} {key : κ} :
    key ∈ keys pairs.reverse ↔ key ∈ keys pairs := by
  rw [keys, List.map_reverse, List.mem_reverse, keys]

section Lookup

variable [BEq κ] [LawfulBEq κ]

theorem lookup_cons_of_ne {key first : κ} (h : key ≠ first) (value : α) (rest : List (κ × α)) :
    ((first, value) :: rest).lookup key = rest.lookup key := by
  have hbeq : (key == first) = false := beq_eq_false_iff_ne.mpr h
  rw [List.lookup_cons, hbeq]

theorem lookup_eq_none_iff {pairs : List (κ × α)} {key : κ} :
    pairs.lookup key = none ↔ key ∉ keys pairs := by
  rw [List.lookup_eq_none_iff, keys, List.mem_map]
  constructor
  · rintro h ⟨pair, hpair, rfl⟩
    simpa using h pair hpair
  · intro h pair hpair
    have hne : key ≠ pair.1 := fun hkey => h ⟨pair, hpair, hkey.symm⟩
    simpa using hne

theorem mem_of_lookup {pairs : List (κ × α)} {key : κ} {value : α}
    (h : pairs.lookup key = some value) : (key, value) ∈ pairs := by
  obtain ⟨front, back, rfl, -⟩ := List.lookup_eq_some_iff.mp h
  simp

theorem mem_iff_lookup {pairs : List (κ × α)} (h : (keys pairs).Nodup)
    {key : κ} {value : α} : (key, value) ∈ pairs ↔ pairs.lookup key = some value := by
  refine ⟨fun hmem => ?_, mem_of_lookup⟩
  induction pairs with
  | nil => cases hmem
  | cons pair rest ih =>
      have hnodup : pair.1 ∉ keys rest ∧ (keys rest).Nodup := List.nodup_cons.mp h
      rcases List.mem_cons.mp hmem with rfl | hrest
      · exact List.lookup_cons_self
      · have hne : key ≠ pair.1 := fun heq =>
          hnodup.1 (heq ▸ List.mem_map.mpr ⟨_, hrest, rfl⟩)
        rw [lookup_cons_of_ne hne]
        exact ih hnodup.2 hrest

end Lookup

variable [DecidableEq κ]

-- A key that is there already keeps its place.
def put (key : κ) (value : α) : List (κ × α) → List (κ × α)
  | [] => [(key, value)]
  | (first, old) :: rest =>
      if first = key then (first, value) :: rest else (first, old) :: put key value rest

-- Only the value of that key changes.
theorem lookup_put [BEq κ] [LawfulBEq κ] (key other : κ) (value : α) (pairs : List (κ × α)) :
    (put key value pairs).lookup other =
      if other = key then some value else pairs.lookup other := by
  induction pairs with
  | nil =>
      by_cases h : other = key
      · simp [put, h]
      · rw [put, lookup_cons_of_ne h, if_neg h]
  | cons pair rest ih =>
      obtain ⟨first, old⟩ := pair
      by_cases hfirst : first = key
      · subst hfirst
        by_cases h : other = first
        · simp [put, h]
        · rw [put, if_pos rfl, lookup_cons_of_ne h, lookup_cons_of_ne h, if_neg h]
      · rw [put, if_neg hfirst]
        by_cases h : other = first
        · rw [h, List.lookup_cons_self, List.lookup_cons_self, if_neg hfirst]
        · rw [lookup_cons_of_ne h, lookup_cons_of_ne h, ih]

theorem put_of_not_mem {key : κ} {value : α} {pairs : List (κ × α)} (h : key ∉ keys pairs) :
    put key value pairs = pairs ++ [(key, value)] := by
  induction pairs with
  | nil => rfl
  | cons pair rest ih =>
      obtain ⟨first, old⟩ := pair
      have hfirst : first ≠ key := fun heq => h (heq ▸ List.mem_cons_self)
      have hrest : key ∉ keys rest := fun hmem => h (List.mem_cons_of_mem _ hmem)
      rw [put, if_neg hfirst, ih hrest, List.cons_append]

theorem keys_put (key : κ) (value : α) (pairs : List (κ × α)) :
    keys (put key value pairs) = if key ∈ keys pairs then keys pairs else keys pairs ++ [key] := by
  induction pairs with
  | nil => rfl
  | cons pair rest ih =>
      obtain ⟨first, old⟩ := pair
      have hcons : ∀ (value : α) (rest : List (κ × α)),
          keys ((first, value) :: rest) = first :: keys rest := fun _ _ => rfl
      by_cases hfirst : first = key
      · rw [put, if_pos hfirst, hcons, hcons, hfirst, if_pos List.mem_cons_self]
      · have hmem : key ∈ first :: keys rest ↔ key ∈ keys rest :=
          List.mem_cons.trans (or_iff_right fun h => hfirst h.symm)
        rw [put, if_neg hfirst, hcons, hcons, ih]
        by_cases hkey : key ∈ keys rest
        · rw [if_pos hkey, if_pos (hmem.mpr hkey)]
        · rw [if_neg hkey, if_neg (mt hmem.mp hkey), List.cons_append]

theorem nodup_keys_put {key : κ} {value : α} {pairs : List (κ × α)} (h : (keys pairs).Nodup) :
    (keys (put key value pairs)).Nodup := by
  rw [keys_put]
  by_cases hkey : key ∈ keys pairs
  · rwa [if_pos hkey]
  · rw [if_neg hkey]
    exact h.append (List.nodup_singleton key) (by simpa using hkey)

-- Pair by pair, from the first to the last.
def putAll (base pairs : List (κ × α)) : List (κ × α) :=
  pairs.foldl (fun known pair => put pair.1 pair.2 known) base

theorem nodup_keys_putAll {base : List (κ × α)} (h : (keys base).Nodup) (pairs : List (κ × α)) :
    (keys (putAll base pairs)).Nodup := by
  induction pairs generalizing base with
  | nil => exact h
  | cons pair rest ih => exact ih (nodup_keys_put h)

theorem nodup_keys_putAll_nil (pairs : List (κ × α)) : (keys (putAll [] pairs)).Nodup := by
  have hnil : (keys ([] : List (κ × α))).Nodup := List.nodup_nil
  exact nodup_keys_putAll hnil pairs

-- Of several values for a key the last one counts.
theorem lookup_putAll [BEq κ] [LawfulBEq κ] (base pairs : List (κ × α)) (key : κ) :
    (putAll base pairs).lookup key = (pairs.reverse.lookup key).or (base.lookup key) := by
  induction pairs generalizing base with
  | nil => rfl
  | cons pair rest ih =>
      have hcons : putAll base (pair :: rest) = putAll (put pair.1 pair.2 base) rest := rfl
      rw [hcons, ih, List.reverse_cons, List.lookup_append, lookup_put, Option.or_assoc]
      congr 1
      by_cases hkey : key = pair.1
      · rw [if_pos hkey, hkey, List.lookup_cons_self, Option.some_or]
      · rw [if_neg hkey, lookup_cons_of_ne hkey, List.lookup_nil, Option.none_or]

theorem mem_putAll {pairs : List (κ × α)} {key : κ} {value : α} :
    (key, value) ∈ putAll [] pairs ↔
      ∃ front back, pairs = front ++ (key, value) :: back ∧ key ∉ keys back := by
  rw [mem_iff_lookup (nodup_keys_putAll_nil pairs), lookup_putAll, List.lookup_nil, Option.or_none,
    List.lookup_eq_some_iff]
  constructor
  · rintro ⟨back, front, heq, hback⟩
    refine ⟨front.reverse, back.reverse, ?_, ?_⟩
    · have hreverse := congrArg List.reverse heq
      simpa using hreverse
    · rw [mem_keys_reverse]
      exact lookup_eq_none_iff.mp (List.lookup_eq_none_iff.mpr hback)
  · rintro ⟨front, back, rfl, hback⟩
    refine ⟨back.reverse, front.reverse, by simp, ?_⟩
    rw [← mem_keys_reverse] at hback
    exact List.lookup_eq_none_iff.mp (lookup_eq_none_iff.mpr hback)

theorem mem_keys_putAll {pairs : List (κ × α)} {key : κ} :
    key ∈ keys (putAll [] pairs) ↔ key ∈ keys pairs := by
  rw [← not_iff_not, ← lookup_eq_none_iff, lookup_putAll, List.lookup_nil, Option.or_none,
    lookup_eq_none_iff, mem_keys_reverse]

-- There is one pair for each key.
theorem length_putAll (pairs : List (κ × α)) :
    (putAll [] pairs).length = (keys pairs).dedup.length := by
  have hperm : (keys (putAll [] pairs)).Perm (keys pairs).dedup := by
    rw [List.perm_ext_iff_of_nodup (nodup_keys_putAll_nil pairs) (List.nodup_dedup _)]
    intro key
    rw [mem_keys_putAll, List.mem_dedup]
  have hlength := hperm.length_eq
  rwa [keys, List.length_map] at hlength

end Rehearsal.Assoc
