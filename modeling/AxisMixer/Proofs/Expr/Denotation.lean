import AxisMixer.Expr.Value
import Mathlib.Algebra.Order.Ring.Abs

/-!
# Expressions — what they denote, and which node is to blame

An expression denotes an integer (`Expr.Denotes`): what its axes stand at, combined by the four
operations without any bound.  A quotient is described by its magnitude and its sign, and not by
the way it is computed (`IsQuotient`); there is exactly one (`existsUnique_isQuotient`).

A node of an expression is at fault if it is an axis that is not bound, or a division whose divisor
denotes zero (`Expr.AtFault`).  The nodes are looked at operands first, the left one before the
right one (`Expr.nodes`).  If none of them is at fault, the expression denotes an integer and this
is its value; otherwise it denotes nothing, and the error is that of the first one that is
(`value_cases`).

Saturation comes once, behind all of this (`evaluate_denotes`).
-/

namespace AxisMixer

/-! ### Quotients -/

/-- `q` is the quotient of `l` and `r`, rounded toward zero. -/
structure IsQuotient (l r q : Int) : Prop where
  le : |q| * |r| ≤ |l|
  lt : |l| < (|q| + 1) * |r|
  sign : 0 ≤ q * l * r

/-- Nothing is divided by zero. -/
theorem IsQuotient.ne_zero {l r q : Int} (h : IsQuotient l r q) : r ≠ 0 := by
  rintro rfl
  have hlt := h.lt
  rw [abs_zero, mul_zero] at hlt
  exact absurd hlt (not_lt.mpr (abs_nonneg l))

theorem IsQuotient.abs_le {l r q q' : Int} (h : IsQuotient l r q) (h' : IsQuotient l r q') :
    |q| ≤ |q'| :=
  Int.lt_add_one_iff.mp (lt_of_mul_lt_mul_right (lt_of_le_of_lt h.le h'.lt) (abs_nonneg r))

theorem IsQuotient.unique {l r q q' : Int} (h : IsQuotient l r q) (h' : IsQuotient l r q') :
    q = q' := by
  rcases abs_eq_abs.mp (le_antisymm (h.abs_le h') (h'.abs_le h)) with hq | hq
  · exact hq
  · -- quotients of opposite signs: both are zero
    have hzero : q' * l * r = 0 := by
      have hneg : q * l * r = -(q' * l * r) := by rw [hq, neg_mul, neg_mul]
      exact le_antisymm (neg_nonneg.mp (hneg ▸ h.sign)) h'.sign
    have hq' : q' = 0 := by
      rcases mul_eq_zero.mp hzero with hql | hr
      · rcases mul_eq_zero.mp hql with hq' | hl
        · exact hq'
        · have hle := h'.le
          rw [hl, abs_zero] at hle
          have hr : 0 < |r| := abs_pos.mpr h.ne_zero
          exact abs_eq_zero.mp (le_antisymm (nonpos_of_mul_nonpos_left hle hr) (abs_nonneg q'))
      · exact absurd hr h.ne_zero
    rw [hq, hq', neg_zero]

theorem abs_tdiv (l r : Int) : |l.tdiv r| = |l| / |r| := by
  rw [Int.abs_eq_natAbs, Int.natAbs_tdiv, Int.abs_eq_natAbs, Int.abs_eq_natAbs]
  exact Int.natCast_ediv _ _

theorem isQuotient_tdiv {l r : Int} (hr : r ≠ 0) : IsQuotient l r (l.tdiv r) where
  le := by
    rw [abs_tdiv]
    exact Int.ediv_mul_le _ (abs_ne_zero.mpr hr)
  lt := by
    rw [abs_tdiv]
    exact Int.lt_ediv_add_one_mul_self _ (abs_pos.mpr hr)
  sign := by
    rw [← Int.sign_nonneg_iff, Int.sign_mul, Int.sign_mul, Int.sign_tdiv]
    split
    · simp
    · rw [mul_assoc]
      exact mul_self_nonneg _

theorem existsUnique_isQuotient {l r : Int} (hr : r ≠ 0) : ∃! q, IsQuotient l r q :=
  ⟨l.tdiv r, isQuotient_tdiv hr, fun _ h => h.unique (isQuotient_tdiv hr)⟩

/-! ### Operations -/

namespace Operator

theorem quotient_eq (l r : Int) : quotient l r = l.tdiv r := by
  have hof (n : Nat) : ¬ Int.ofNat n < 0 := Int.not_lt.mpr (Int.natCast_nonneg n)
  have hneg (n : Nat) : Int.negSucc n < 0 := Int.negSucc_lt_zero n
  simp only [quotient]
  match l, r with
  | .ofNat m, .ofNat n => rw [if_pos (iff_of_false (hof m) (hof n))]; rfl
  | .ofNat m, .negSucc n => rw [if_neg fun h => hof m (h.mpr (hneg n))]; rfl
  | .negSucc m, .ofNat n => rw [if_neg fun h => hof n (h.mp (hneg m))]; rfl
  | .negSucc m, .negSucc n => rw [if_pos (iff_of_true (hneg m) (hneg n))]; rfl

theorem isQuotient_quotient {l r : Int} (hr : r ≠ 0) : IsQuotient l r (quotient l r) := by
  rw [quotient_eq]
  exact isQuotient_tdiv hr

/-- What an operation gives on unbounded integers. -/
inductive Gives : Operator → Int → Int → Int → Prop where
  | add (l r : Int) : Gives .add l r (l + r)
  | sub (l r : Int) : Gives .sub l r (l - r)
  | mul (l r : Int) : Gives .mul l r (l * r)
  | div {l r q : Int} (h : IsQuotient l r q) : Gives .div l r q

theorem gives_of_result? {op : Operator} {l r n : Int} (h : op.result? l r = some n) :
    op.Gives l r n := by
  cases op with
  | add => cases h; exact .add l r
  | sub => cases h; exact .sub l r
  | mul => cases h; exact .mul l r
  | div =>
      simp only [result?] at h
      split at h
      · cases h
      · next hr =>
          cases h
          exact .div (isQuotient_quotient hr)

theorem Gives.result? {op : Operator} {l r n : Int} (h : op.Gives l r n) :
    op.result? l r = some n := by
  cases h with
  | add | sub | mul => rfl
  | div h =>
      rw [Operator.result?, if_neg h.ne_zero]
      exact congrArg some ((isQuotient_quotient h.ne_zero).unique h)

theorem of_result?_eq_none {op : Operator} {l r : Int} (h : op.result? l r = none) :
    op = .div ∧ r = 0 := by
  cases op with
  | add | sub | mul => cases h
  | div =>
      simp only [result?] at h
      split at h
      · next hr => exact ⟨rfl, hr⟩
      · cases h

end Operator

namespace Expr

variable {b : Bindings}

/-! ### Denotation -/

/-- The expression denotes the integer, where the axes stand at `b`. -/
inductive Denotes (b : Bindings) : Expr → Int → Prop where
  | ref {key : AxisKey} {n : Int} (h : b key = some n) : Denotes b (.ref key) n
  | lit (n : Int) : Denotes b (.lit n) n
  | binary {op : Operator} {left right : Expr} {l r n : Int} (hl : Denotes b left l)
      (hr : Denotes b right r) (h : op.Gives l r n) : Denotes b (.binary op left right) n

/-- What an expression denotes is its value. -/
theorem Denotes.value {e : Expr} {n : Int} (h : e.Denotes b n) : e.value b = .ok n := by
  induction h with
  | ref h => simp only [Expr.value, h]
  | lit => rfl
  | binary _ _ h ihl ihr => simp only [Expr.value, ihl, ihr, h.result?, bind, Except.bind]

theorem Denotes.unique {e : Expr} {n n' : Int} (h : e.Denotes b n) (h' : e.Denotes b n') :
    n = n' :=
  Except.ok.inj (h.value.symm.trans h'.value)

/-! ### Faults -/

/-- All nodes of an expression, the operands in front of the operation. -/
def nodes : Expr → List Expr
  | ref key => [.ref key]
  | lit n => [.lit n]
  | binary op left right => left.nodes ++ right.nodes ++ [.binary op left right]

/-- The node itself cannot be evaluated, whatever its operands denote. -/
inductive AtFault (b : Bindings) : Expr → EvalError → Prop where
  | unbound {key : AxisKey} (h : b key = none) : AtFault b (.ref key) (.unbound key)
  | divisor {left right : Expr} (h : right.Denotes b 0) :
      AtFault b (.binary .div left right) (.divisionByZero (.binary .div left right))

def Faultless (b : Bindings) (node : Expr) : Prop := ∀ err, ¬ AtFault b node err

/-- The first of the nodes that is at fault makes this error. -/
inductive FirstFault (b : Bindings) : List Expr → EvalError → Prop where
  | here {node : Expr} {rest : List Expr} {err : EvalError} (h : AtFault b node err) :
      FirstFault b (node :: rest) err
  | later {node : Expr} {rest : List Expr} {err : EvalError} (h : Faultless b node)
      (t : FirstFault b rest err) : FirstFault b (node :: rest) err

theorem AtFault.unique {node : Expr} {err err' : EvalError} (h : AtFault b node err)
    (h' : AtFault b node err') : err = err' := by
  cases h <;> cases h' <;> rfl

theorem FirstFault.unique {l : List Expr} {err err' : EvalError} (h : FirstFault b l err)
    (h' : FirstFault b l err') : err = err' := by
  induction h with
  | here h =>
      cases h' with
      | here h' => exact h.unique h'
      | later h' => exact absurd h (h' _)
  | later h _ ih =>
      cases h' with
      | here h' => exact absurd h' (h _)
      | later _ t' => exact ih t'

theorem FirstFault.exists_mem {l : List Expr} {err : EvalError} (h : FirstFault b l err) :
    ∃ node ∈ l, AtFault b node err := by
  induction h with
  | here h => exact ⟨_, List.mem_cons_self, h⟩
  | later _ _ ih =>
      obtain ⟨node, hmem, h⟩ := ih
      exact ⟨node, List.mem_cons_of_mem _ hmem, h⟩

theorem exists_firstFault_iff :
    ∀ {l : List Expr},
      (∃ err, FirstFault b l err) ↔ ∃ node ∈ l, ∃ err, AtFault b node err
  | [] => by
      constructor
      · rintro ⟨_, h⟩
        cases h
      · rintro ⟨_, h, _⟩
        cases h
  | node :: rest => by
      constructor
      · rintro ⟨err, h⟩
        obtain ⟨node', hmem, h'⟩ := h.exists_mem
        exact ⟨node', hmem, err, h'⟩
      · rintro ⟨node', hmem, err, h⟩
        by_cases hnode : Faultless b node
        · rcases List.mem_cons.mp hmem with rfl | hmem
          · exact absurd h (hnode err)
          · obtain ⟨err', t⟩ := exists_firstFault_iff.mpr ⟨node', hmem, err, h⟩
            exact ⟨err', .later hnode t⟩
        · simp only [Faultless, not_forall, not_not] at hnode
          obtain ⟨err', h'⟩ := hnode
          exact ⟨err', .here h'⟩

theorem FirstFault.append {l : List Expr} {err : EvalError} (h : FirstFault b l err)
    (l' : List Expr) : FirstFault b (l ++ l') err := by
  induction h with
  | here h => exact .here h
  | later h _ ih => exact .later h ih

theorem FirstFault.behind {l' : List Expr} {err : EvalError} (h : FirstFault b l' err) :
    ∀ {l : List Expr}, (∀ node ∈ l, Faultless b node) → FirstFault b (l ++ l') err
  | [], _ => h
  | _ :: _, hl => .later (hl _ List.mem_cons_self)
      (h.behind fun node hn => hl node (List.mem_cons_of_mem _ hn))

/-- **The value and the nodes.**  Either no node is at fault, and the value is what the expression
denotes; or the value is the error of the first node that is. -/
theorem value_cases :
    ∀ e : Expr,
      (∃ n, e.value b = .ok n ∧ e.Denotes b n ∧ ∀ node ∈ e.nodes, Faultless b node) ∨
        ∃ err, e.value b = .error err ∧ FirstFault b e.nodes err
  | .ref key => by
      cases hk : b key with
      | none => exact .inr ⟨_, by simp only [value, hk], .here (.unbound hk)⟩
      | some n =>
          refine .inl ⟨n, by simp only [value, hk], .ref hk, ?_⟩
          refine List.forall_mem_singleton.mpr fun err h => ?_
          cases h with
          | unbound h => rw [hk] at h; cases h
  | .lit n => .inl ⟨n, rfl, .lit n, List.forall_mem_singleton.mpr fun _ h => by cases h⟩
  | .binary op left right => by
      rcases value_cases left with ⟨l, hl, hleft, fleft⟩ | ⟨err, hl, hfault⟩
      · rcases value_cases right with ⟨r, hr, hright, fright⟩ | ⟨err, hr, hfault⟩
        · -- the operands denote something, so it is up to the operation
          have foperands : ∀ node ∈ left.nodes ++ right.nodes, Faultless b node :=
            List.forall_mem_append.mpr ⟨fleft, fright⟩
          cases hn : op.result? l r with
          | none =>
              obtain ⟨rfl, rfl⟩ := Operator.of_result?_eq_none hn
              refine .inr ⟨.divisionByZero (.binary .div left right),
                by simp only [value, hl, hr, hn, bind, Except.bind], ?_⟩
              exact FirstFault.behind (.here (.divisor hright)) foperands
          | some n =>
              refine .inl ⟨n, by simp only [value, hl, hr, hn, bind, Except.bind],
                .binary hleft hright (Operator.gives_of_result? hn), ?_⟩
              refine List.forall_mem_append.mpr ⟨foperands, ?_⟩
              refine List.forall_mem_singleton.mpr fun err h => ?_
              cases h with
              | divisor h =>
                  obtain rfl := hright.unique h
                  cases hn
        · refine .inr ⟨err, by simp only [value, hl, hr, bind, Except.bind], ?_⟩
          exact (hfault.behind fleft).append _
      · refine .inr ⟨err, by simp only [value, hl, bind, Except.bind], ?_⟩
        exact (hfault.append _).append _

theorem value_eq_ok_iff {e : Expr} {n : Int} : e.value b = .ok n ↔ e.Denotes b n := by
  constructor
  · intro h
    rcases value_cases e with ⟨n', hn, hdenotes, -⟩ | ⟨err, herr, -⟩
    · cases h.symm.trans hn
      exact hdenotes
    · cases h.symm.trans herr
  · exact Denotes.value

theorem value_eq_error_iff {e : Expr} {err : EvalError} :
    e.value b = .error err ↔ FirstFault b e.nodes err := by
  constructor
  · intro h
    rcases value_cases e with ⟨n, hn, -⟩ | ⟨err', herr, hfault⟩
    · cases h.symm.trans hn
    · cases h.symm.trans herr
      exact hfault
  · intro h
    rcases value_cases e with ⟨n, -, -, faultless⟩ | ⟨err', herr, hfault⟩
    · obtain ⟨node, hmem, hnode⟩ := h.exists_mem
      exact absurd hnode (faultless node hmem err)
    · rw [herr, h.unique hfault]

/-! ### Evaluation -/

theorem saturate_eq (n : Int) :
    saturate n = if n < -2 ^ 31 then -2 ^ 31 else if 2 ^ 31 - 1 < n then 2 ^ 31 - 1 else n := by
  rw [saturate, minValue, maxValue]
  split
  · omega
  · split <;> omega

theorem evaluate_eq_ok_iff {e : Expr} {m : Int} :
    e.evaluate b = .ok m ↔ ∃ n, e.Denotes b n ∧ m = saturate n := by
  rw [evaluate]
  constructor
  · intro h
    cases hv : e.value b with
    | error err => rw [hv] at h; cases h
    | ok n =>
        rw [hv] at h
        cases h
        exact ⟨n, value_eq_ok_iff.mp hv, rfl⟩
  · rintro ⟨n, h, rfl⟩
    rw [h.value]
    rfl

theorem evaluate_eq_error_iff {e : Expr} {err : EvalError} :
    e.evaluate b = .error err ↔ FirstFault b e.nodes err := by
  rw [evaluate, ← value_eq_error_iff]
  cases e.value b with
  | error err' => exact Iff.rfl
  | ok n => exact iff_of_false nofun nofun

/-- **Evaluation.**  An expression evaluates to what it denotes, brought into the range of an event
value once, at the very end.  It denotes one integer at most.  It fails to evaluate exactly if a
node of it is at fault, and with the error of the first one that is. -/
theorem evaluate_denotes (b : Bindings) (e : Expr) :
    (∀ m, e.evaluate b = .ok m ↔ ∃ n, e.Denotes b n ∧
      m = if n < -2 ^ 31 then -2 ^ 31 else if 2 ^ 31 - 1 < n then 2 ^ 31 - 1 else n) ∧
    (∀ n n', e.Denotes b n → e.Denotes b n' → n = n') ∧
    ((∃ err, e.evaluate b = .error err) ↔ ∃ node ∈ e.nodes, ∃ err, AtFault b node err) ∧
    ∀ err, e.evaluate b = .error err ↔ FirstFault b e.nodes err := by
  refine ⟨fun m => ?_, fun n n' h h' => h.unique h', ?_, fun err => evaluate_eq_error_iff⟩
  · simp only [evaluate_eq_ok_iff, saturate_eq]
  · simp only [evaluate_eq_error_iff, exists_firstFault_iff]

/-- The axis `A:X` stands at 3, and nothing is known of any other. -/
def atThree : Bindings := .ofList [(⟨"A", .x⟩, 3)]

/-- `2147483647 * -4 / A:X`, where the product, the quotient and its rounding matter. -/
def steep : Expr :=
  .binary .div (.binary .mul (.lit maxValue) (.lit (-4))) (.ref ⟨"A", .x⟩)

/-- `B:Y` is not bound, but the division by zero comes before it. -/
def broken : Expr :=
  .binary .add (.binary .div (.lit 1) (.binary .sub (.ref ⟨"A", .x⟩) (.lit 3))) (.ref ⟨"B", .y⟩)

theorem evaluate_denotes_steep :
    steep.Denotes atThree (-2863311529) ∧ steep.evaluate atThree = .ok (-2 ^ 31) ∧
      FirstFault atThree broken.nodes
        (.divisionByZero (.binary .div (.lit 1) (.binary .sub (.ref ⟨"A", .x⟩) (.lit 3)))) := by
  have hdenotes : steep.Denotes atThree (-2863311529) := value_eq_ok_iff.mp (by decide)
  exact ⟨hdenotes, ((evaluate_denotes _ _).1 _).mpr ⟨_, hdenotes, by decide⟩,
    ((evaluate_denotes _ _).2.2.2 _).mp (by decide)⟩

end Expr

end AxisMixer
