/-!
# Ordered maps — finite maps that remember the order of their keys

An `OrderedMap` lists its entries in the order in which their keys were first inserted.  Inserting
under a key that is present replaces the value and leaves the key where it is.

* `keys_insert`: the keys after an insertion.
* `find?_insert`: what is found after an insertion.
* `mem_of_find?_ofList`: what is found in a map made of a list.
* `entries_ofList`: a list without repeated keys is the map made of it.
* `find?_eq_some_iff`: what is found is an entry.
-/

namespace AxisMixer

/-- Entries with pairwise distinct keys. -/
structure OrderedMap (κ α : Type) where
  entries : List (κ × α)
  nodup : (entries.map Prod.fst).Nodup

namespace OrderedMap

variable {κ α β : Type}

def empty : OrderedMap κ α := ⟨[], .nil⟩

instance : Inhabited (OrderedMap κ α) := ⟨empty⟩

def keys (m : OrderedMap κ α) : List κ := m.entries.map Prod.fst

def values (m : OrderedMap κ α) : List α := m.entries.map Prod.snd

def size (m : OrderedMap κ α) : Nat := m.entries.length

def isEmpty (m : OrderedMap κ α) : Bool := m.entries.isEmpty

variable [DecidableEq κ]

/-! ### Looking up -/

/-- The value stored under `k` in a list of entries, the first one if several are. -/
def lookup (k : κ) : List (κ × α) → Option α
  | [] => none
  | (k', a) :: rest => if k' = k then some a else lookup k rest

def find? (m : OrderedMap κ α) (k : κ) : Option α := lookup k m.entries

def contains (m : OrderedMap κ α) (k : κ) : Bool := (m.find? k).isSome

theorem lookup_eq_some_iff {k : κ} {a : α} :
    ∀ {l : List (κ × α)}, (l.map Prod.fst).Nodup → (lookup k l = some a ↔ (k, a) ∈ l)
  | [], _ => by simp [lookup]
  | (k', a') :: rest, h => by
      obtain ⟨hk', h⟩ := List.nodup_cons.mp h
      rw [lookup, List.mem_cons, Prod.mk.injEq]
      by_cases e : k' = k
      · -- there is no other entry under `k`
        subst e
        have hrest : (k', a) ∉ rest := fun hm => hk' (List.mem_map.mpr ⟨_, hm, rfl⟩)
        simp [hrest, eq_comm]
      · simp [e, Ne.symm e, lookup_eq_some_iff h]

theorem mem_of_lookup {k : κ} {a : α} : ∀ {l : List (κ × α)}, lookup k l = some a → (k, a) ∈ l
  | (k', a') :: rest, h => by
      rw [lookup] at h
      split at h
      · next hk =>
        cases h
        exact hk ▸ List.mem_cons_self
      · exact List.mem_cons_of_mem _ (mem_of_lookup h)

theorem find?_eq_some_iff (m : OrderedMap κ α) {k : κ} {a : α} :
    m.find? k = some a ↔ (k, a) ∈ m.entries :=
  lookup_eq_some_iff m.nodup

theorem contains_iff (m : OrderedMap κ α) {k : κ} : m.contains k = true ↔ k ∈ m.keys := by
  rw [contains, Option.isSome_iff_exists, keys, List.mem_map]
  constructor
  · rintro ⟨a, h⟩
    exact ⟨(k, a), m.find?_eq_some_iff.mp h, rfl⟩
  · rintro ⟨⟨_, a⟩, h, rfl⟩
    exact ⟨a, m.find?_eq_some_iff.mpr h⟩

/-! ### Inserting -/

/-- Replaces the value under `k`, or appends an entry for it. -/
def put (k : κ) (a : α) : List (κ × α) → List (κ × α)
  | [] => [(k, a)]
  | (k', a') :: rest => if k' = k then (k', a) :: rest else (k', a') :: put k a rest

theorem map_fst_put (k : κ) (a : α) (l : List (κ × α)) :
    (put k a l).map Prod.fst =
      if k ∈ l.map Prod.fst then l.map Prod.fst else l.map Prod.fst ++ [k] := by
  induction l with
  | nil => rfl
  | cons e rest ih =>
    obtain ⟨k', a'⟩ := e
    by_cases h : k' = k
    · simp [put, h]
    · have h' : ¬ k = k' := fun e => h e.symm
      simp only [put, if_neg h, List.map_cons, ih, List.mem_cons, h', false_or]
      split <;> simp

theorem nodup_put (k : κ) (a : α) {l : List (κ × α)} (h : (l.map Prod.fst).Nodup) :
    ((put k a l).map Prod.fst).Nodup := by
  rw [map_fst_put]
  split
  · exact h
  · next hk =>
    rw [List.nodup_append]
    refine ⟨h, by simp, ?_⟩
    intro x hx y hy e
    simp only [List.mem_singleton] at hy
    exact hk (hy ▸ e ▸ hx)

def insert (m : OrderedMap κ α) (k : κ) (a : α) : OrderedMap κ α :=
  ⟨put k a m.entries, nodup_put k a m.nodup⟩

/-- Inserts the entries one after another: of several values for a key the last one stays, at the
place of the first. -/
def ofList (entries : List (κ × α)) : OrderedMap κ α :=
  entries.foldl (fun m e => m.insert e.1 e.2) empty

theorem keys_insert (m : OrderedMap κ α) (k : κ) (a : α) :
    (m.insert k a).keys = if k ∈ m.keys then m.keys else m.keys ++ [k] :=
  map_fst_put k a m.entries

theorem lookup_put (k k' : κ) (a : α) (l : List (κ × α)) :
    lookup k' (put k a l) = if k = k' then some a else lookup k' l := by
  induction l with
  | nil => rfl
  | cons e rest ih =>
    obtain ⟨j, b⟩ := e
    by_cases h : j = k
    · subst h
      by_cases h' : j = k' <;> simp [put, lookup, h']
    · by_cases h' : j = k'
      · subst h'
        have h' : ¬ k = j := fun e => h e.symm
        simp [put, lookup, h, h']
      · simp [put, lookup, h, h', ih]

theorem find?_insert (m : OrderedMap κ α) (k k' : κ) (a : α) :
    (m.insert k a).find? k' = if k = k' then some a else m.find? k' :=
  lookup_put k k' a m.entries

/-- What is found after insertions was there before or is one of them. -/
theorem mem_of_find?_foldl {k : κ} {a : α} (l : List (κ × α)) (m : OrderedMap κ α)
    (h : (l.foldl (fun m e => m.insert e.1 e.2) m).find? k = some a) :
    m.find? k = some a ∨ (k, a) ∈ l := by
  induction l generalizing m with
  | nil => exact .inl h
  | cons e rest ih =>
    rcases ih _ h with h | h
    · rw [find?_insert] at h
      split at h
      · next hk =>
        cases h
        exact .inr (hk ▸ List.mem_cons_self)
      · exact .inl h
    · exact .inr (List.mem_cons_of_mem _ h)

theorem mem_of_find?_ofList {entries : List (κ × α)} {k : κ} {a : α}
    (h : (ofList entries).find? k = some a) : (k, a) ∈ entries := by
  rcases mem_of_find?_foldl entries empty h with h | h
  · cases h
  · exact h

theorem put_of_notMem {k : κ} {a : α} :
    ∀ {l : List (κ × α)}, k ∉ l.map Prod.fst → put k a l = l ++ [(k, a)]
  | [], _ => rfl
  | (k', a') :: rest, h => by
      rw [List.map_cons, List.mem_cons, not_or] at h
      rw [put, if_neg (Ne.symm h.1), put_of_notMem h.2, List.cons_append]

theorem entries_foldl (l : List (κ × α)) (m : OrderedMap κ α)
    (h : ((m.entries ++ l).map Prod.fst).Nodup) :
    (l.foldl (fun m e => m.insert e.1 e.2) m).entries = m.entries ++ l := by
  induction l generalizing m with
  | nil => exact (List.append_nil _).symm
  | cons e rest ih =>
    have hm : (m.insert e.1 e.2).entries = m.entries ++ [e] := by
      refine put_of_notMem fun he => ?_
      rw [List.map_append, List.nodup_append] at h
      exact h.2.2 _ he _ List.mem_cons_self rfl
    rw [List.foldl_cons, ih _ (by simpa [hm] using h), hm, List.append_assoc, List.cons_append,
      List.nil_append]

theorem entries_ofList {entries : List (κ × α)} (h : (entries.map Prod.fst).Nodup) :
    (ofList entries).entries = entries :=
  entries_foldl entries empty h

/-! ### Changing every value -/

/-- The same keys, each with a new value computed from its entry. -/
def mapEntries (m : OrderedMap κ α) (f : κ → α → β) : OrderedMap κ β :=
  ⟨m.entries.map fun e => (e.1, f e.1 e.2), by
    simpa only [List.map_map, Function.comp_def] using m.nodup⟩

end OrderedMap

end AxisMixer
