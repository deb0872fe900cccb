import AxisMixer.Graph
import Mathlib.Data.List.Induction

/-!
# Downstream entries — the first of those that match stays

A physical axis takes in virtual axes one after another, and leaves out those whose identity is
there already.  Two entries have the same identity if they compute the same axis at the same place
by the same expression (`VirtAxis.Matches`); the name of the device and the range do not matter, and
expressions that only have the same value differ.

What is downstream is told by looking back over the entries that were added: an entry stays if none
in front of it matches (`VirtAxis.firsts`).  The axis itself compares a new entry only with those
that stayed.  This comes to the same, since each entry that was left out is matched by one that
stayed (`isNew_firsts`).

* `RealAxis.addAll_firsts`: what is downstream after any number of additions, and which of them
  were new.
-/

namespace AxisMixer

namespace VirtAxis

/-! ### Matching entries -/

/-- The entries compute the same axis of one device, by the same expression. -/
structure Matches (v w : VirtAxis) : Prop where
  deviceId : v.deviceId = w.deviceId
  axis : v.key.axis = w.key.axis
  expr : v.expr = w.expr

theorem identity_eq_iff {v w : VirtAxis} : v.identity = w.identity ↔ v.Matches w := by
  rw [identity, identity, Prod.mk.injEq, Prod.mk.injEq]
  exact ⟨fun ⟨h₁, h₂, h₃⟩ => ⟨h₁, h₂, h₃⟩, fun h => ⟨h.deviceId, h.axis, h.expr⟩⟩

instance (v w : VirtAxis) : Decidable (v.Matches w) := decidable_of_iff _ identity_eq_iff

theorem Matches.refl (v : VirtAxis) : v.Matches v := ⟨rfl, rfl, rfl⟩

theorem Matches.trans {u v w : VirtAxis} (h : u.Matches v) (h' : v.Matches w) : u.Matches w :=
  ⟨h.deviceId.trans h'.deviceId, h.axis.trans h'.axis, h.expr.trans h'.expr⟩

/-- None of these entries matches `v`. -/
def IsNew (before : List VirtAxis) (v : VirtAxis) : Prop := ∀ w ∈ before, ¬ w.Matches v

instance (before : List VirtAxis) (v : VirtAxis) : Decidable (IsNew before v) :=
  inferInstanceAs (Decidable (∀ w ∈ before, ¬ w.Matches v))

/-- No two of the entries match. -/
def Apart (vs : List VirtAxis) : Prop := vs.Pairwise fun v w => ¬ v.Matches w

instance (vs : List VirtAxis) : Decidable (Apart vs) :=
  inferInstanceAs (Decidable (vs.Pairwise fun v w => ¬ v.Matches w))

/-- The entries that no entry in front of them matches. -/
def firsts (vs : List VirtAxis) : List VirtAxis :=
  (vs.zipIdx.filter fun e => IsNew (vs.take e.2) e.1).map Prod.fst

variable {us vs : List VirtAxis} {v w : VirtAxis}

theorem firsts_concat (us : List VirtAxis) (v : VirtAxis) :
    firsts (us ++ [v]) = firsts us ++ if IsNew us v then [v] else [] := by
  -- what stands in front of an entry of `us` does not change
  have hus : (us.zipIdx.filter fun e => IsNew ((us ++ [v]).take e.2) e.1) =
      us.zipIdx.filter fun e => IsNew (us.take e.2) e.1 := by
    refine List.filter_congr fun e he => ?_
    obtain ⟨hlt, -⟩ := List.getElem?_eq_some_iff.mp (List.mem_zipIdx_iff_getElem?.mp he)
    rw [List.take_append_of_le_length (Nat.le_of_lt hlt)]
  have hv : ([v].zipIdx us.length).filter (fun e => IsNew ((us ++ [v]).take e.2) e.1) =
      if IsNew us v then [(v, us.length)] else [] := by
    rw [List.zipIdx_singleton, List.filter_cons, List.take_left, List.filter_nil]
    simp only [decide_eq_true_eq]
  rw [firsts, List.zipIdx_append, List.filter_append, List.map_append, hus, Nat.zero_add, hv,
    firsts]
  split <;> rfl

theorem firsts_sublist (us : List VirtAxis) : (firsts us).Sublist us := by
  have h := (List.filter_sublist (p := fun e => IsNew (us.take e.2) e.1) (l := us.zipIdx)).map
    Prod.fst
  rwa [List.zipIdx_map_fst] at h

/-- An entry that was left out is matched by one that stayed. -/
theorem exists_mem_firsts (hv : v ∈ us) : ∃ w ∈ firsts us, w.Matches v := by
  induction us using List.reverseRecOn generalizing v with
  | nil => cases hv
  | append_singleton us u ih =>
      rw [firsts_concat]
      rcases List.mem_append.mp hv with hv | hv
      · obtain ⟨w, hw, hm⟩ := ih hv
        exact ⟨w, List.mem_append_left _ hw, hm⟩
      · obtain rfl := List.mem_singleton.mp hv
        by_cases hnew : IsNew us v
        · rw [if_pos hnew]
          exact ⟨v, List.mem_append_right _ (List.mem_singleton.mpr rfl), .refl v⟩
        · rw [if_neg hnew, List.append_nil]
          obtain ⟨w, hw, hm⟩ : ∃ w ∈ us, w.Matches v := by simpa [IsNew] using hnew
          obtain ⟨w', hw', hm'⟩ := ih hw
          exact ⟨w', hw', hm'.trans hm⟩

/-- It is enough to look at the entries that stayed. -/
theorem isNew_firsts : IsNew (firsts us) v ↔ IsNew us v := by
  constructor
  · intro h w hw hm
    obtain ⟨w', hw', hm'⟩ := exists_mem_firsts hw
    exact h w' hw' (hm'.trans hm)
  · exact fun h w hw => h w ((firsts_sublist us).mem hw)

theorem apart_firsts (us : List VirtAxis) : Apart (firsts us) := by
  induction us using List.reverseRecOn with
  | nil => exact .nil
  | append_singleton us u ih =>
      rw [firsts_concat]
      by_cases hnew : IsNew us u
      · rw [if_pos hnew]
        refine List.pairwise_append.mpr ⟨ih, List.pairwise_singleton _ _, fun w hw u' hu => ?_⟩
        obtain rfl := List.mem_singleton.mp hu
        exact isNew_firsts.mpr hnew w hw
      · rw [if_neg hnew, List.append_nil]
        exact ih

theorem firsts_of_apart (h : Apart us) : firsts us = us := by
  induction us using List.reverseRecOn with
  | nil => rfl
  | append_singleton us u ih =>
      obtain ⟨hus, -, hu⟩ := List.pairwise_append.mp h
      have hnew : IsNew us u := fun w hw => hu w hw u (List.mem_singleton.mpr rfl)
      rw [firsts_concat, ih hus, if_pos hnew]

end VirtAxis

namespace RealAxis

open VirtAxis (IsNew Apart firsts)

variable {S : Type} {r : RealAxis S} {us : List VirtAxis}

/-! ### Adding entries -/

/-- Adds the entries one after another. -/
def addAll (r : RealAxis S) (vs : List VirtAxis) : RealAxis S := vs.foldl addDownstream r

/-- What adding the entries one after another answers: whether each of them was new. -/
def additions (r : RealAxis S) : List VirtAxis → List Bool
  | [] => []
  | v :: vs => (!r.covers v) :: (r.addDownstream v).additions vs

theorem not_covers_eq (h : r.downstream = firsts us) (v : VirtAxis) :
    (!r.covers v) = decide (IsNew us v) := by
  rw [Bool.eq_iff_iff, Bool.not_eq_true', decide_eq_true_iff, covers, List.any_eq_false, h,
    ← VirtAxis.isNew_firsts]
  simp only [beq_iff_eq, VirtAxis.identity_eq_iff, IsNew]

/-- One addition keeps the first of those that match. -/
theorem addDownstream_eq (h : r.downstream = firsts us) (v : VirtAxis) :
    r.addDownstream v = { r with downstream := firsts (us ++ [v]) } := by
  have hnew := not_covers_eq h v
  rw [addDownstream, VirtAxis.firsts_concat, ← h]
  by_cases hv : IsNew us v
  · have hc : r.covers v = false := by simpa [hv] using hnew
    rw [hc, if_neg Bool.false_ne_true, if_pos hv]
  · have hc : r.covers v = true := by simpa [hv] using hnew
    rw [if_pos hc, if_neg hv, List.append_nil]

theorem downstream_addDownstream (h : r.downstream = firsts us) (v : VirtAxis) :
    (r.addDownstream v).downstream = firsts (us ++ [v]) := by
  rw [addDownstream_eq h]

theorem addAll_eq (vs : List VirtAxis) :
    ∀ {r : RealAxis S} {us : List VirtAxis}, r.downstream = firsts us →
      r.addAll vs = { r with downstream := firsts (us ++ vs) } := by
  induction vs with
  | nil =>
      intro r us h
      rw [List.append_nil, ← h]
      rfl
  | cons v vs ih =>
      intro r us h
      have hrest := ih (downstream_addDownstream h v)
      rw [List.append_assoc, addDownstream_eq h] at hrest
      rw [addAll, List.foldl_cons, addDownstream_eq h]
      exact hrest

theorem additions_eq (vs : List VirtAxis) :
    ∀ {r : RealAxis S} {us : List VirtAxis}, r.downstream = firsts us →
      r.additions vs = vs.zipIdx.map fun e => decide (IsNew (us ++ vs.take e.2) e.1) := by
  induction vs with
  | nil => exact fun _ => rfl
  | cons v vs ih =>
      intro r us h
      rw [additions, ih (downstream_addDownstream h v), not_covers_eq h, List.zipIdx_cons,
        List.map_cons, List.take_zero, List.append_nil, List.zipIdx_succ, List.map_map]
      simp only [Function.comp_def, List.take_succ_cons, List.append_assoc, List.singleton_append]
      rfl

/-- **The first of those that match stays.**  When entries are added to a physical axis with none,
those stay, as they are and in their order, that none added before matches, and just these are said
to be new.  So no two of those that stay match, each that was left out is matched by one of them,
and if no two match, all of them stay. -/
theorem addAll_firsts (source : S) (axis : Axis) (vs : List VirtAxis) :
    addAll { source, axis } vs = { source, axis, downstream := firsts vs } ∧
      additions { source, axis } vs =
        vs.zipIdx.map (fun e => decide (IsNew (vs.take e.2) e.1)) ∧
      Apart (firsts vs) ∧
      (∀ v ∈ vs, ∃ w ∈ firsts vs, w.Matches v) ∧
      (Apart vs → firsts vs = vs) := by
  have hnone : ({ source, axis } : RealAxis S).downstream = firsts [] := rfl
  exact ⟨addAll_eq vs hnone, additions_eq vs hnone, VirtAxis.apart_firsts vs,
    fun v hv => VirtAxis.exists_mem_firsts hv, VirtAxis.firsts_of_apart⟩

/-- An axis, then with another range under another name, with the parentheses at another place, at
another place itself, and another axis. -/
def variants : List VirtAxis :=
  let inner : Expr := .binary .add (.lit 1) (.binary .add (.lit 2) (.ref ⟨"stick", .x⟩))
  let outer : Expr := .binary .add (.binary .add (.lit 1) (.lit 2)) (.ref ⟨"stick", .x⟩)
  [⟨0, ⟨"out", .x⟩, ⟨-120, 130, inner, by decide⟩⟩,
    ⟨0, ⟨"renamed", .x⟩, ⟨10, 50, inner, by decide⟩⟩,
    ⟨0, ⟨"out", .x⟩, ⟨-120, 130, outer, by decide⟩⟩,
    ⟨1, ⟨"out", .x⟩, ⟨-120, 130, inner, by decide⟩⟩,
    ⟨0, ⟨"out", .y⟩, ⟨-120, 130, inner, by decide⟩⟩]

/-- The second one is left out, however often all are added, and without it nothing is. -/
theorem addAll_firsts_variants :
    addAll { source := "stick", axis := .x } (variants ++ variants) =
        { source := "stick", axis := .x, downstream := variants.eraseIdx 1 } ∧
      additions { source := "stick", axis := .x } (variants ++ variants) =
        [true, false, true, true, true, false, false, false, false, false] ∧
      (∀ v ∈ variants, ∃ w ∈ variants.eraseIdx 1, w.Matches v) ∧
      firsts (variants.eraseIdx 1) = variants.eraseIdx 1 := by
  obtain ⟨hall, hnew, -, hmatched, -⟩ := addAll_firsts "stick" .x (variants ++ variants)
  obtain ⟨-, -, -, -, hkept⟩ := addAll_firsts "stick" .x (variants.eraseIdx 1)
  have hfirsts : firsts (variants ++ variants) = variants.eraseIdx 1 := by decide +kernel
  rw [hfirsts] at hall hmatched
  exact ⟨hall, hnew.trans (by decide +kernel),
    fun v hv => hmatched v (List.mem_append_left _ hv), hkept (by decide +kernel)⟩

end RealAxis

end AxisMixer
