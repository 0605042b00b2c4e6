/-
Finite maps with insertion order. MODEL ONLY: the behaviour of a key-value store, not its representation.

A `Dict K V` is a list of entries with pairwise distinct keys, carried as a field. Writing an existing key replaces the
value in place; writing a new key appends the entry; erasing a key removes its entry. Iteration (`keys`, `values`, `sum`)
follows the order of insertion.

Results:
- `get?_set`, `get?_erase`: read after write and read after erase, at the written key and at every other key;
- `sum_set`, `sum_erase`: a sum over all entries changes by the entry that is written or erased and by nothing else, in
  any commutative monoid (amounts, multisets of encodings, counts);
- `le_maxKey`, `maxKey_le`: the largest key of a dict with integer keys, zero if none is positive.
-/
import Mathlib.Tactic
import Mathlib.Algebra.BigOperators.Group.Multiset.Basic

namespace Gatecoin.Core

/-- a finite map, in insertion order -/
structure Dict (K V : Type) where
  entries : List (K × V)
  nodup : (entries.map Prod.fst).Nodup
deriving DecidableEq, Repr

namespace Dict

variable {K V M : Type} [DecidableEq K] {k : K} {d : Dict K V} {l : List (K × V)}

/-! ## Operations -/

def empty : Dict K V := ⟨[], List.nodup_nil⟩

def keys (d : Dict K V) : List K := d.entries.map Prod.fst

def values (d : Dict K V) : List V := d.entries.map Prod.snd

/-- the value at a key, in a raw list of entries -/
def lookup (k : K) : List (K × V) → Option V
  | [] => none
  | e :: l => if e.1 = k then some e.2 else lookup k l

/-- write in place, or append -/
def assign (k : K) (v : V) : List (K × V) → List (K × V)
  | [] => [(k, v)]
  | e :: l => if e.1 = k then (k, v) :: l else e :: assign k v l

/-- drop the entry of a key -/
def remove (k : K) : List (K × V) → List (K × V)
  | [] => []
  | e :: l => if e.1 = k then l else e :: remove k l

theorem mem_keys_assign (k : K) (v : V) (l : List (K × V)) (x : K) :
    x ∈ (assign k v l).map Prod.fst ↔ x = k ∨ x ∈ l.map Prod.fst := by
  induction l with
  | nil => simp [assign]
  | cons e l ih =>
    simp only [assign]
    split_ifs with h
    · simp [← h]
    · simp only [List.map_cons, List.mem_cons, ih]
      tauto

theorem nodup_assign (k : K) (v : V) (l : List (K × V)) (h : (l.map Prod.fst).Nodup) :
    ((assign k v l).map Prod.fst).Nodup := by
  induction l with
  | nil => simp [assign]
  | cons e l ih =>
    rw [List.map_cons, List.nodup_cons] at h
    simp only [assign]
    split_ifs with he
    · rw [List.map_cons, List.nodup_cons]; exact ⟨he ▸ h.1, h.2⟩
    · rw [List.map_cons, List.nodup_cons]
      refine ⟨fun hm => ?_, ih h.2⟩
      rcases (mem_keys_assign k v l e.1).1 hm with hk | hk
      · exact he hk
      · exact h.1 hk

theorem remove_sublist (k : K) (l : List (K × V)) : (remove k l).Sublist l := by
  induction l with
  | nil => exact List.Sublist.refl _
  | cons e l ih =>
    simp only [remove]
    split_ifs
    · exact List.sublist_cons_self _ _
    · exact ih.cons_cons e

def get? (d : Dict K V) (k : K) : Option V := lookup k d.entries

def set (d : Dict K V) (k : K) (v : V) : Dict K V := ⟨assign k v d.entries, nodup_assign k v _ d.nodup⟩

def erase (d : Dict K V) (k : K) : Dict K V :=
  ⟨remove k d.entries, d.nodup.sublist ((remove_sublist k d.entries).map Prod.fst)⟩

def contains (d : Dict K V) (k : K) : Bool := (d.get? k).isSome

/-- the sum of `f` over all entries -/
def sum [AddCommMonoid M] (d : Dict K V) (f : K → V → M) : M := (d.entries.map fun e => f e.1 e.2).sum

/-! ## Reading -/

theorem lookup_eq_some {v : V} (hn : (l.map Prod.fst).Nodup) : lookup k l = some v ↔ (k, v) ∈ l := by
  induction l with
  | nil => simp [lookup]
  | cons e l ih =>
    rw [List.map_cons, List.nodup_cons] at hn
    obtain ⟨ek, ev⟩ := e
    simp only [lookup]
    split_ifs with h
    · subst h
      simp only [Option.some.injEq, List.mem_cons, Prod.mk.injEq, true_and]
      refine ⟨fun hv => Or.inl hv.symm, fun hv => ?_⟩
      rcases hv with hv | hv
      · exact hv.symm
      · exact absurd (List.mem_map_of_mem hv) hn.1
    · simp only [ih hn.2, List.mem_cons, Prod.mk.injEq]
      refine ⟨Or.inr, fun hv => ?_⟩
      rcases hv with hv | hv
      · exact absurd hv.1.symm h
      · exact hv

theorem get?_eq_some {v : V} : d.get? k = some v ↔ (k, v) ∈ d.entries := lookup_eq_some d.nodup

theorem lookup_isSome (k : K) (l : List (K × V)) : (lookup k l).isSome = true ↔ k ∈ l.map Prod.fst := by
  induction l with
  | nil => simp [lookup]
  | cons e l ih =>
    simp only [lookup, List.map_cons, List.mem_cons]
    split_ifs with h
    · simp [h]
    · simp [ih, Ne.symm h]

theorem contains_iff : d.contains k = true ↔ k ∈ d.keys := lookup_isSome k d.entries

theorem mem_keys_of_get? {v : V} (h : d.get? k = some v) : k ∈ d.keys := by
  rw [← contains_iff, contains, h]; rfl

theorem exists_of_mem_keys (h : k ∈ d.keys) : ∃ v, d.get? k = some v := by
  rw [← contains_iff, contains] at h
  exact Option.isSome_iff_exists.1 h

theorem get?_eq_none : d.get? k = none ↔ k ∉ d.keys := by
  rw [← contains_iff, contains]
  cases d.get? k <;> simp

@[simp] theorem get?_empty (k : K) : (empty : Dict K V).get? k = none := rfl

omit [DecidableEq K] in
@[simp] theorem keys_empty : (empty : Dict K V).keys = [] := rfl

/-! ## Writing -/

theorem lookup_assign (k k' : K) (v : V) (l : List (K × V)) :
    lookup k' (assign k v l) = if k' = k then some v else lookup k' l := by
  induction l with
  | nil => simp [assign, lookup, eq_comm]
  | cons e l ih =>
    by_cases he : e.1 = k
    · by_cases hk : k' = k
      · simp [assign, lookup, he, hk]
      · simp [assign, lookup, he, hk, Ne.symm hk]
    · by_cases hk : e.1 = k'
      · have : k' ≠ k := hk ▸ he
        simp [assign, lookup, hk, this]
      · simp [assign, lookup, he, hk, ih]

theorem get?_set (d : Dict K V) (k k' : K) (v : V) : (d.set k v).get? k' = if k' = k then some v else d.get? k' :=
  lookup_assign k k' v d.entries

@[simp] theorem get?_set_self (d : Dict K V) (k : K) (v : V) : (d.set k v).get? k = some v := by simp [get?_set]

theorem get?_set_ne (d : Dict K V) {k' : K} (v : V) (h : k' ≠ k) : (d.set k v).get? k' = d.get? k' := by
  simp [get?_set, h]

/-- the entries are written in order -/
def ofList (l : List (K × V)) : Dict K V := l.foldl (fun d e => d.set e.1 e.2) empty

theorem get?_foldl_set (hn : (l.map Prod.fst).Nodup) (d : Dict K V) (k : K) :
    (l.foldl (fun d e => d.set e.1 e.2) d).get? k = (lookup k l).or (d.get? k) := by
  induction l generalizing d with
  | nil => rfl
  | cons e l ih =>
    rw [List.map_cons, List.nodup_cons] at hn
    rw [List.foldl_cons, ih hn.2, get?_set, lookup]
    by_cases h : e.1 = k
    · have habsent : lookup k l = none := by
        rw [← Option.not_isSome_iff_eq_none, lookup_isSome, ← h]
        exact hn.1
      rw [if_pos h, if_pos h.symm, habsent]
      rfl
    · rw [if_neg h, if_neg (Ne.symm h)]

theorem get?_ofList (hn : (l.map Prod.fst).Nodup) {v : V} : (ofList l).get? k = some v ↔ (k, v) ∈ l := by
  rw [ofList, get?_foldl_set hn, get?_empty, Option.or_none, lookup_eq_some hn]

theorem assign_assign (k : K) (v v' : V) (l : List (K × V)) : assign k v' (assign k v l) = assign k v' l := by
  induction l with
  | nil => simp [assign]
  | cons e l ih =>
    by_cases h : e.1 = k
    · simp [assign, h]
    · simp [assign, h, ih]

@[simp] theorem set_set (d : Dict K V) (k : K) (v v' : V) : (d.set k v).set k v' = d.set k v' := by
  simp only [set, assign_assign]

theorem assign_lookup {v : V} (h : lookup k l = some v) : assign k v l = l := by
  induction l with
  | nil => cases h
  | cons e l ih =>
    simp only [lookup] at h
    split_ifs at h with he
    · rw [assign, if_pos he, ← Option.some.inj h, ← he]
    · rw [assign, if_neg he, ih h]

/-- writing what is there -/
theorem set_self {v : V} (h : d.get? k = some v) : d.set k v = d := by
  cases d
  simp only [set, mk.injEq]
  exact assign_lookup h

theorem mem_keys_set {k' : K} {v : V} : k' ∈ (d.set k v).keys ↔ k' = k ∨ k' ∈ d.keys :=
  mem_keys_assign k v d.entries k'

theorem assign_of_mem (v : V) (h : k ∈ l.map Prod.fst) : (assign k v l).map Prod.fst = l.map Prod.fst := by
  induction l with
  | nil => cases h
  | cons e l ih =>
    by_cases he : e.1 = k
    · simp [assign, he]
    · have hl : k ∈ l.map Prod.fst := (List.mem_cons.1 h).resolve_left (Ne.symm he)
      simp [assign, he, ih hl]

theorem assign_of_not_mem (v : V) (h : k ∉ l.map Prod.fst) : assign k v l = l ++ [(k, v)] := by
  induction l with
  | nil => rfl
  | cons e l ih =>
    rw [List.map_cons, List.mem_cons, not_or] at h
    simp [assign, Ne.symm h.1, ih h.2]

/-- writing a key keeps the order of the keys, and a new one comes last -/
theorem keys_set (d : Dict K V) (k : K) (v : V) : (d.set k v).keys = if k ∈ d.keys then d.keys else d.keys ++ [k] := by
  split_ifs with h
  · exact assign_of_mem v h
  · change (assign k v d.entries).map Prod.fst = _
    rw [assign_of_not_mem v h, List.map_append]
    rfl

theorem keys_erase_sublist (d : Dict K V) (k : K) : (d.erase k).keys.Sublist d.keys :=
  (remove_sublist k d.entries).map Prod.fst

theorem lookup_remove (k k' : K) (l : List (K × V)) (hn : (l.map Prod.fst).Nodup) :
    lookup k' (remove k l) = if k' = k then none else lookup k' l := by
  induction l with
  | nil => simp [remove, lookup]
  | cons e l ih =>
    rw [List.map_cons, List.nodup_cons] at hn
    by_cases he : e.1 = k
    · by_cases hk : k' = k
      · have hnone : lookup k' l = none := by
          rw [← Option.not_isSome_iff_eq_none, lookup_isSome, hk, ← he]; exact hn.1
        simp [remove, he, hk, hk ▸ hnone]
      · have : e.1 ≠ k' := fun h => hk (h.symm.trans he)
        simp [remove, lookup, he, hk, Ne.symm hk]
    · by_cases hk : e.1 = k'
      · have : k' ≠ k := hk ▸ he
        simp [remove, lookup, hk, this]
      · simp [remove, lookup, he, hk, ih hn.2]

theorem get?_erase (d : Dict K V) (k k' : K) : (d.erase k).get? k' = if k' = k then none else d.get? k' :=
  lookup_remove k k' d.entries d.nodup

@[simp] theorem get?_erase_self (d : Dict K V) (k : K) : (d.erase k).get? k = none := by simp [get?_erase]

theorem get?_erase_ne (d : Dict K V) {k' : K} (h : k' ≠ k) : (d.erase k).get? k' = d.get? k' := by
  simp [get?_erase, h]

theorem mem_keys_erase {k' : K} : k' ∈ (d.erase k).keys ↔ k' ≠ k ∧ k' ∈ d.keys := by
  simp only [← contains_iff, contains, get?_erase]
  by_cases h : k' = k <;> simp [h]

/-! ## Sums -/

section Sum

variable [AddCommMonoid M]

omit [DecidableEq K] in
@[simp] theorem sum_empty (f : K → V → M) : (empty : Dict K V).sum f = 0 := rfl

theorem sum_assign (f : K → V → M) (k : K) (v : V) (l : List (K × V)) :
    ((assign k v l).map fun e => f e.1 e.2).sum + (lookup k l).elim 0 (f k) =
      (l.map fun e => f e.1 e.2).sum + f k v := by
  induction l with
  | nil => simp [assign, lookup]
  | cons e l ih =>
    obtain ⟨ek, ev⟩ := e
    by_cases h : ek = k
    · subst h
      simp only [assign, lookup, if_true, List.map_cons, List.sum_cons, Option.elim_some]
      abel
    · simp only [assign, lookup, h, if_false, List.map_cons, List.sum_cons, add_assoc, ih]

/-- **Write.** The sum changes by the entry that is replaced and the entry that is written. -/
theorem sum_set (d : Dict K V) (f : K → V → M) (k : K) (v : V) :
    (d.set k v).sum f + (d.get? k).elim 0 (f k) = d.sum f + f k v := sum_assign f k v d.entries

theorem sum_set_new (d : Dict K V) (f : K → V → M) (k : K) (v : V) (h : d.get? k = none) :
    (d.set k v).sum f = d.sum f + f k v := by
  simpa [h] using sum_set d f k v

theorem sum_remove (f : K → V → M) (k : K) (l : List (K × V)) :
    ((remove k l).map fun e => f e.1 e.2).sum + (lookup k l).elim 0 (f k) = (l.map fun e => f e.1 e.2).sum := by
  induction l with
  | nil => simp [remove, lookup]
  | cons e l ih =>
    obtain ⟨ek, ev⟩ := e
    by_cases h : ek = k
    · subst h
      simp only [remove, lookup, if_true, List.map_cons, List.sum_cons, Option.elim_some]
      abel
    · simp only [remove, lookup, h, if_false, List.map_cons, List.sum_cons, add_assoc, ih]

/-- **Erase.** The sum loses the entry of the key, if there is one. -/
theorem sum_erase (d : Dict K V) (f : K → V → M) (k : K) :
    (d.erase k).sum f + (d.get? k).elim 0 (f k) = d.sum f := sum_remove f k d.entries

theorem sum_congr (d : Dict K V) (f g : K → V → M) (h : ∀ k v, d.get? k = some v → f k v = g k v) : d.sum f = d.sum g := by
  refine congrArg List.sum (List.map_congr_left fun e he => ?_)
  exact h e.1 e.2 (get?_eq_some.2 he)

theorem sum_nonneg [PartialOrder M] [IsOrderedAddMonoid M] (d : Dict K V) (f : K → V → M)
    (h : ∀ k v, d.get? k = some v → 0 ≤ f k v) : 0 ≤ d.sum f := by
  refine List.sum_nonneg fun x hx => ?_
  obtain ⟨e, he, rfl⟩ := List.mem_map.1 hx
  exact h e.1 e.2 (get?_eq_some.2 he)

/-- one entry is at most the sum of all -/
theorem elim_le_sum [PartialOrder M] [IsOrderedAddMonoid M] (d : Dict K V) (f : K → V → M) (k : K)
    (h : ∀ k v, d.get? k = some v → 0 ≤ f k v) : (d.get? k).elim 0 (f k) ≤ d.sum f := by
  rw [← sum_erase d f k]
  refine le_add_of_nonneg_left (sum_nonneg _ _ fun k' v hg => ?_)
  rw [get?_erase] at hg
  split_ifs at hg
  exact h k' v hg

omit [DecidableEq K] in
theorem sum_of_keys_nil (d : Dict K V) (f : K → V → M) (h : d.keys = []) : d.sum f = 0 := by
  rw [sum, List.map_eq_nil_iff.1 h]
  rfl

/-- a dict whose keys are among two is summed at these two -/
theorem sum_eq_pair (d : Dict K V) (f : K → V → M) {a b : K} (hab : a ≠ b) (h : ∀ k ∈ d.keys, k = a ∨ k = b) :
    d.sum f = (d.get? a).elim 0 (f a) + (d.get? b).elim 0 (f b) := by
  have hnil : ((d.erase a).erase b).keys = [] := by
    refine List.eq_nil_iff_forall_not_mem.2 fun k hk => ?_
    obtain ⟨hkb, hk⟩ := mem_keys_erase.1 hk
    obtain ⟨hka, hk⟩ := mem_keys_erase.1 hk
    rcases h k hk with rfl | rfl
    · exact hka rfl
    · exact hkb rfl
  have hb := sum_erase (d.erase a) f b
  rw [sum_of_keys_nil _ f hnil, zero_add, get?_erase_ne d hab.symm] at hb
  rw [← sum_erase d f a, ← hb, add_comm]

end Sum

/-! ## The largest key -/

/-- the largest key, zero when no key is positive -/
def maxKey (d : Dict ℤ V) : ℤ := d.keys.foldr max 0

theorem le_foldr_max {l : List ℤ} {k : ℤ} (h : k ∈ l) : k ≤ l.foldr max 0 := by
  induction l with
  | nil => simp at h
  | cons a l ih =>
    rcases List.mem_cons.1 h with rfl | h
    · exact le_max_left _ _
    · exact le_trans (ih h) (le_max_right _ _)

theorem foldr_max_le {l : List ℤ} {b : ℤ} (hb : 0 ≤ b) (h : ∀ k ∈ l, k ≤ b) : l.foldr max 0 ≤ b := by
  induction l with
  | nil => exact hb
  | cons a l ih => exact max_le (h a List.mem_cons_self) (ih fun k hk => h k (List.mem_cons_of_mem a hk))

theorem maxKey_nonneg (d : Dict ℤ V) : 0 ≤ d.maxKey := by
  unfold maxKey
  induction d.keys with
  | nil => exact le_refl _
  | cons a l ih => exact le_trans ih (le_max_right _ _)

theorem le_maxKey {d : Dict ℤ V} {k : ℤ} (h : k ∈ d.keys) : k ≤ d.maxKey := le_foldr_max h

theorem maxKey_le {d : Dict ℤ V} {b : ℤ} (hb : 0 ≤ b) (h : ∀ k ∈ d.keys, k ≤ b) : d.maxKey ≤ b := foldr_max_le hb h

theorem foldr_max_mem {l : List ℤ} (h : 0 < l.foldr max 0) : l.foldr max 0 ∈ l := by
  induction l with
  | nil => exact absurd h (lt_irrefl 0)
  | cons a l ih =>
    rw [List.foldr_cons] at h ⊢
    rcases max_choice a (l.foldr max 0) with hmax | hmax
    · rw [hmax]
      exact List.mem_cons_self
    · rw [hmax] at h ⊢
      exact List.mem_cons_of_mem a (ih h)

theorem maxKey_mem {d : Dict ℤ V} (h : 0 < d.maxKey) : d.maxKey ∈ d.keys := foldr_max_mem h

theorem maxKey_set_le (d : Dict ℤ V) (k : ℤ) (v : V) : (d.set k v).maxKey ≤ max d.maxKey k := by
  refine maxKey_le (le_max_of_le_left d.maxKey_nonneg) fun k' hk' => ?_
  rcases mem_keys_set.1 hk' with rfl | hk'
  · exact le_max_right _ _
  · exact le_max_of_le_left (le_maxKey hk')

theorem maxKey_le_of_subset {d d' : Dict ℤ V} (h : ∀ k ∈ d'.keys, k ∈ d.keys) : d'.maxKey ≤ d.maxKey :=
  maxKey_le d.maxKey_nonneg fun k hk => le_maxKey (h k hk)

end Dict

end Gatecoin.Core
