import AxisMixer.Expr.Value
import Mathlib.Data.List.Induction
import Mathlib.Data.List.Perm.Basic

/-!
# Expressions — the value depends on the dependencies alone

`Expr.dependencies` lists the axes of an expression without repetition (`nodup_dependencies`), and
two bindings that agree on them give the expression the same value or the same error
(`evaluate_congr`).  If they bind all of them, only a division can fail (`evaluate_error`); if they
leave one of them open, there is no value (`evaluate_ne_ok`).

The dependencies are the references with later repetitions left out (`dependencies_eq`).  That is a
matter of members and of order (`KeepsFirsts`), and no other list has both (`keepsFirsts_iff`).

* `Expr.evaluate_dependencies`: all of this together.
-/

namespace AxisMixer

/-! ### Lists without later repetitions -/

/-- `firsts` has the members of `l`, in the order in which they first appear there. -/
structure KeepsFirsts {α : Type} [DecidableEq α] (l firsts : List α) : Prop where
  mem : ∀ a, a ∈ firsts ↔ a ∈ l
  ordered : firsts.Pairwise fun a b => l.idxOf a < l.idxOf b

section KeepsFirsts

variable {α : Type} [DecidableEq α]

theorem KeepsFirsts.nodup {l firsts : List α} (h : KeepsFirsts l firsts) : firsts.Nodup := by
  refine h.ordered.imp fun hlt heq => ?_
  rw [heq] at hlt
  exact Nat.lt_irrefl _ hlt

theorem KeepsFirsts.unique {l firsts firsts' : List α} (h : KeepsFirsts l firsts)
    (h' : KeepsFirsts l firsts') : firsts = firsts' := by
  have same : ∀ a, a ∈ firsts ↔ a ∈ firsts' := fun a => (h.mem a).trans (h'.mem a).symm
  exact List.Perm.eq_of_pairwise (fun a b _ _ hlt hgt => absurd hgt (Nat.lt_asymm hlt))
    h.ordered h'.ordered
    ((List.perm_ext_iff_of_nodup h.nodup h'.nodup).mpr same)

/-- One more entry at the end is left out if it is there already. -/
theorem KeepsFirsts.concat {l firsts : List α} (h : KeepsFirsts l firsts) (a : α) :
    KeepsFirsts (l ++ [a]) (if a ∈ l then firsts else firsts ++ [a]) := by
  -- the entries that were there stay where they are
  have hordered : firsts.Pairwise fun b c => (l ++ [a]).idxOf b < (l ++ [a]).idxOf c := by
    refine h.ordered.imp_of_mem fun hb hc hlt => ?_
    rwa [List.idxOf_append_of_mem ((h.mem _).mp hb), List.idxOf_append_of_mem ((h.mem _).mp hc)]
  by_cases ha : a ∈ l
  · rw [if_pos ha]
    refine ⟨fun b => ?_, hordered⟩
    rw [h.mem, List.mem_append, List.mem_singleton]
    exact ⟨.inl, fun hb => hb.elim id fun e => e ▸ ha⟩
  · rw [if_neg ha]
    refine ⟨fun b => by simp only [List.mem_append, h.mem], ?_⟩
    refine List.pairwise_append.mpr ⟨hordered, List.pairwise_singleton _ _, fun b hb c hc => ?_⟩
    obtain rfl := List.mem_singleton.mp hc
    have hb' : b ∈ l := (h.mem b).mp hb
    rw [List.idxOf_append_of_mem hb', List.idxOf_append_of_notMem ha]
    exact Nat.lt_of_lt_of_le (List.idxOf_lt_length_of_mem hb') (Nat.le_add_right _ _)

theorem eraseDups_concat (l : List α) (a : α) :
    (l ++ [a]).eraseDups = if a ∈ l then l.eraseDups else l.eraseDups ++ [a] := by
  rw [List.eraseDups_append]
  by_cases ha : a ∈ l <;> simp [ha, List.removeAll, List.eraseDups_cons]

theorem keepsFirsts_eraseDups (l : List α) : KeepsFirsts l l.eraseDups := by
  induction l using List.reverseRecOn with
  | nil => exact ⟨fun _ => Iff.rfl, .nil⟩
  | append_singleton l a ih =>
      rw [eraseDups_concat]
      exact ih.concat a

theorem keepsFirsts_iff {l firsts : List α} : KeepsFirsts l firsts ↔ firsts = l.eraseDups :=
  ⟨fun h => h.unique (keepsFirsts_eraseDups l), fun h => h ▸ keepsFirsts_eraseDups l⟩

end KeepsFirsts

end AxisMixer

namespace AxisMixer.Expr

/-- Keeping the first of equal entries leaves none twice. -/
theorem nodup_eraseDups {α : Type} [DecidableEq α] (l : List α) : l.eraseDups.Nodup :=
  (keepsFirsts_eraseDups l).nodup

/-- What the left operand mentions is seen when the right one is looked through. -/
theorem collect_eraseDups (e : Expr) (l : List AxisKey) :
    e.collect l.eraseDups = (l ++ e.references).eraseDups := by
  induction e generalizing l with
  | ref key => simp only [collect, references, eraseDups_concat, List.mem_eraseDups]
  | lit _ => rw [collect, references, List.append_nil]
  | binary _ left right ihl ihr => rw [collect, references, ihl, ihr, List.append_assoc]

theorem dependencies_eq (e : Expr) : e.dependencies = e.references.eraseDups :=
  e.collect_eraseDups []

theorem nodup_dependencies (e : Expr) : e.dependencies.Nodup := by
  rw [dependencies_eq]
  exact nodup_eraseDups _

theorem mem_dependencies {e : Expr} {k : AxisKey} : k ∈ e.dependencies ↔ k ∈ e.references := by
  rw [dependencies_eq, List.mem_eraseDups]

theorem value_congr {b b' : Bindings} :
    ∀ {e : Expr}, (∀ k ∈ e.references, b k = b' k) → e.value b = e.value b'
  | .ref k, h => by
      simp only [value, h k (List.mem_singleton.mpr rfl)]
  | .lit _, _ => rfl
  | .binary _ left right, h => by
      have hl : left.value b = left.value b' :=
        value_congr fun k hk => h k (List.mem_append_left _ hk)
      have hr : right.value b = right.value b' :=
        value_congr fun k hk => h k (List.mem_append_right _ hk)
      simp only [value, hl, hr]

/-- **Agreement on the dependencies.**  Bindings that agree on the dependencies of `e` give it the
same value or the same error. -/
theorem evaluate_congr {b b' : Bindings} {e : Expr} (h : ∀ k ∈ e.dependencies, b k = b' k) :
    e.evaluate b = e.evaluate b' :=
  congrArg (Except.map saturate) (value_congr fun k hk => h k (mem_dependencies.mpr hk))

theorem value_error {b : Bindings} {e' : EvalError} :
    ∀ {e : Expr}, e.value b = .error e' → (∀ k ∈ e.references, b k ≠ none) →
      ∃ division, e' = .divisionByZero division
  | .ref k, h, hb => by
      rw [value] at h
      split at h
      · cases h
      · next hk => exact absurd hk (hb k (List.mem_singleton.mpr rfl))
  | .lit _, h, _ => by cases h
  | .binary op left right, h, hb => by
      rw [value] at h
      cases hl : left.value b with
      | error e =>
          rw [hl] at h
          cases h
          exact value_error hl fun k hk => hb k (List.mem_append_left _ hk)
      | ok l =>
          cases hr : right.value b with
          | error e =>
              rw [hl, hr] at h
              cases h
              exact value_error hr fun k hk => hb k (List.mem_append_right _ hk)
          | ok r =>
              simp only [hl, hr, bind, Except.bind] at h
              split at h
              · cases h
              · cases h
                exact ⟨_, rfl⟩

/-- **Bound dependencies.**  An expression whose dependencies are bound fails only where it divides
by zero. -/
theorem evaluate_error {b : Bindings} {e : Expr} {e' : EvalError} (h : e.evaluate b = .error e')
    (hb : ∀ k ∈ e.dependencies, b k ≠ none) : ∃ division, e' = .divisionByZero division := by
  cases hv : e.value b with
  | ok n => rw [evaluate, hv] at h; cases h
  | error e₁ =>
      rw [evaluate, hv] at h
      cases h
      exact value_error hv fun k hk => hb k (mem_dependencies.mpr hk)

/-- Every operand is evaluated, so none that has no value can be done without. -/
theorem value_ne_ok {b : Bindings} {k : AxisKey} (hk : b k = none) :
    ∀ {e : Expr}, k ∈ e.references → ∀ n, e.value b ≠ .ok n
  | .ref k', h, n => by
      obtain rfl := List.mem_singleton.mp h
      simp only [value, hk]
      exact nofun
  | .lit _, h, _ => absurd h List.not_mem_nil
  | .binary op left right, h, n => by
      intro hn
      rw [value] at hn
      rcases hl : left.value b with err | l
      · rw [hl] at hn
        cases hn
      · rcases hr : right.value b with err | r
        · rw [hl, hr] at hn
          cases hn
        · rcases List.mem_append.mp h with h | h
          · exact value_ne_ok hk h l hl
          · exact value_ne_ok hk h r hr

/-- **Open dependencies.**  An expression with a dependency that is not bound has no value. -/
theorem evaluate_ne_ok {b : Bindings} {e : Expr} {k : AxisKey} (h : k ∈ e.dependencies)
    (hk : b k = none) (n : Int) : e.evaluate b ≠ .ok n := by
  intro hn
  rw [evaluate] at hn
  cases hv : e.value b with
  | error err =>
      rw [hv] at hn
      cases hn
  | ok m => exact value_ne_ok hk (mem_dependencies.mp h) m hv

/-- **The dependencies are what evaluation needs.**  They are the references of an expression, each
kept where it comes first.  If all of them are bound, no binding is missing; if one is not, there
is no value; and nothing but their bindings matters. -/
theorem evaluate_dependencies (e : Expr) :
    e.dependencies.Nodup ∧
      (∀ l, KeepsFirsts e.references l ↔ l = e.dependencies) ∧
      (∀ b : Bindings, (∀ k ∈ e.dependencies, b k ≠ none) →
        ∀ k, e.evaluate b ≠ .error (.unbound k)) ∧
      (∀ b : Bindings, (∃ k ∈ e.dependencies, b k = none) → ∀ n, e.evaluate b ≠ .ok n) ∧
      ∀ b b' : Bindings, (∀ k ∈ e.dependencies, b k = b' k) → e.evaluate b = e.evaluate b' := by
  have hfirsts (l : List AxisKey) : KeepsFirsts e.references l ↔ l = e.dependencies := by
    rw [keepsFirsts_iff, dependencies_eq]
  refine ⟨e.nodup_dependencies, hfirsts, fun b hb k h => ?_, ?_, ?_⟩
  · obtain ⟨division, hd⟩ := evaluate_error h hb
    cases hd
  · rintro b ⟨k, hk, hnone⟩
    exact evaluate_ne_ok hk hnone
  · intro b b' h
    exact evaluate_congr h

/-- `A:X / (B:Y - A:X)`, in which one axis is mentioned twice. -/
def recurring : Expr :=
  .binary .div (.ref ⟨"A", .x⟩) (.binary .sub (.ref ⟨"B", .y⟩) (.ref ⟨"A", .x⟩))

/-- With both axes at the same value the division fails, but no binding is missing; with one of them
there is no value; and it does not matter what stands in front of them. -/
theorem evaluate_dependencies_recurring :
    KeepsFirsts recurring.references [⟨"A", .x⟩, ⟨"B", .y⟩] ∧
      (∀ k, recurring.evaluate (.ofList [(⟨"A", .x⟩, 2), (⟨"B", .y⟩, 2)]) ≠ .error (.unbound k)) ∧
      (∀ n, recurring.evaluate (.ofList [(⟨"A", .x⟩, 2)]) ≠ .ok n) ∧
      recurring.evaluate (.ofList [(⟨"A", .x⟩, 2), (⟨"B", .y⟩, 2)]) =
        recurring.evaluate (.ofList [(⟨"C", .z⟩, 9), (⟨"B", .y⟩, 2), (⟨"A", .x⟩, 2)]) := by
  obtain ⟨-, hfirsts, hbound, hopen, hcongr⟩ := evaluate_dependencies recurring
  exact ⟨(hfirsts _).mpr (by decide), hbound _ (by decide), hopen _ (by decide),
    hcongr _ _ (by decide)⟩

end AxisMixer.Expr

namespace AxisMixer

/-- An axis that is listed is bound. -/
theorem Bindings.ofList_ne_none {entries : List (AxisKey × Int)} {k : AxisKey}
    (h : k ∈ entries.map Prod.fst) : Bindings.ofList entries k ≠ none := by
  obtain ⟨e, he, rfl⟩ := List.mem_map.mp h
  rw [ofList, Ne, Option.map_eq_none_iff, List.find?_eq_none]
  exact fun hnone => hnone e (List.mem_reverse.mpr he) (beq_self_eq_true _)

end AxisMixer
