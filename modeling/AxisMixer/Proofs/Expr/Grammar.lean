import AxisMixer.Expr.OfTokens

/-!
# Expressions — the grammar

    expr   := term (("+" | "-") term)*
    term   := factor (("*" | "/") factor)*
    factor := ["+" | "-"] number | reference | "(" expr ")"

`Derives s w e` says that the nonterminal `s` derives the words `w`, and that `e` is the tree of
this derivation.  The tree of a chain takes the operators from left to right (`leftmost`), and a
literal with its sign lies between `minValue` and `maxValue`.

The relation knows nothing of how text is read: it mentions no precedence, and says nothing of
where a derivation ends in a longer list of words.
-/

namespace AxisMixer.Expr

open Token (Kind)

inductive Nonterminal where
  | expr | term | factor
  deriving DecidableEq

/-- An operator and the operand behind it: the words of the operand, and its tree. -/
structure Link where
  op : Operator
  words : List Kind
  tree : Expr

/-- The words of a chain but for its first operand. -/
def chained (links : List Link) : List Kind := links.flatMap fun l => .operator l.op :: l.words

theorem chained_cons (l : Link) (links : List Link) :
    chained (l :: links) = .operator l.op :: (l.words ++ chained links) := by
  rw [chained, List.flatMap_cons, List.cons_append, chained]

/-- The tree of a chain that starts with `first`. -/
def leftmost (first : Expr) (links : List Link) : Expr :=
  links.foldl (fun left l => .binary l.op left l.tree) first

/-- The values that a literal may have. -/
def InRange (n : Int) : Prop := minValue ≤ n ∧ n ≤ maxValue

instance (n : Int) : Decidable (InRange n) := inferInstanceAs (Decidable (_ ∧ _))

/-- The words that a nonterminal derives, and their trees. -/
inductive Derives : Nonterminal → List Kind → Expr → Prop where
  | expr {w : List Kind} {e : Expr} {links : List Link} (first : Derives .term w e)
      (ops : ∀ l ∈ links, l.op ∈ [.add, .sub])
      (operands : ∀ l ∈ links, Derives .term l.words l.tree) :
      Derives .expr (w ++ chained links) (leftmost e links)
  | term {w : List Kind} {e : Expr} {links : List Link} (first : Derives .factor w e)
      (ops : ∀ l ∈ links, l.op ∈ [.mul, .div])
      (operands : ∀ l ∈ links, Derives .factor l.words l.tree) :
      Derives .term (w ++ chained links) (leftmost e links)
  | number {n : Nat} (h : InRange n) : Derives .factor [.number n] (.lit n)
  | plus {n : Nat} (h : InRange n) : Derives .factor [.operator .add, .number n] (.lit n)
  | minus {n : Nat} (h : InRange (-n)) : Derives .factor [.operator .sub, .number n] (.lit (-n))
  | reference (key : AxisKey) : Derives .factor [.reference key] (.ref key)
  | parens {w : List Kind} {e : Expr} (h : Derives .expr w e) :
      Derives .factor (.lparen :: w ++ [.rparen]) e

/-! ### Short chains -/

/-- A chain of one operand. -/
theorem Derives.of_factor {w : List Kind} {e : Expr} (h : Derives .factor w e) :
    Derives .term w e := by
  have h' := @Derives.term w e [] h (List.forall_mem_nil _) (List.forall_mem_nil _)
  rwa [chained, List.flatMap_nil, List.append_nil] at h'

theorem Derives.of_term {w : List Kind} {e : Expr} (h : Derives .term w e) :
    Derives .expr w e := by
  have h' := @Derives.expr w e [] h (List.forall_mem_nil _) (List.forall_mem_nil _)
  rwa [chained, List.flatMap_nil, List.append_nil] at h'

/-- A chain of two, of terms or of factors. -/
theorem Derives.pair (op : Operator) {w w' : List Kind} {l r : Expr} (hl : Derives .factor w l)
    (hr : Derives .factor w' r) : Derives .expr (w ++ .operator op :: w') (.binary op l r) := by
  have hchained : chained [⟨op, w', r⟩] = .operator op :: w' := by
    rw [chained_cons, chained, List.flatMap_nil, List.append_nil]
  rw [← hchained]
  cases op with
  | add | sub =>
      exact .expr hl.of_factor (by simp) (List.forall_mem_singleton.mpr hr.of_factor)
  | mul | div => exact .of_term (.term hl (by simp) (List.forall_mem_singleton.mpr hr))

/-- One more term behind a chain of terms. -/
theorem Derives.link {op : Operator} (hop : op ∈ [.add, .sub]) {w w' : List Kind} {l r : Expr}
    (hl : Derives .expr w l) (hr : Derives .term w' r) :
    Derives .expr (w ++ .operator op :: w') (.binary op l r) := by
  cases hl with
  | @expr w e links first ops operands =>
      have hchained : chained (links ++ [⟨op, w', r⟩]) = chained links ++ .operator op :: w' := by
        rw [chained, chained, List.flatMap_append, List.flatMap_singleton]
      have htree : leftmost e (links ++ [⟨op, w', r⟩]) = .binary op (leftmost e links) r := by
        rw [leftmost, List.foldl_append]
        rfl
      rw [List.append_assoc, ← hchained, ← htree]
      exact .expr first (List.forall_mem_append.mpr ⟨ops, List.forall_mem_singleton.mpr hop⟩)
        (List.forall_mem_append.mpr ⟨operands, List.forall_mem_singleton.mpr hr⟩)

/-! ### The end of the text is no word -/

theorem finish_notMem_chained {links : List Link} (h : ∀ l ∈ links, Kind.finish ∉ l.words) :
    Kind.finish ∉ chained links := by
  intro hm
  obtain ⟨l, hl, hm⟩ := List.mem_flatMap.mp hm
  rcases List.mem_cons.mp hm with e | hm
  · cases e
  · exact h l hl hm

theorem Derives.finish_notMem {s : Nonterminal} {w : List Kind} {e : Expr} (h : Derives s w e) :
    Kind.finish ∉ w := by
  induction h with
  | expr _ _ _ ih ihs | term _ _ _ ih ihs =>
      intro hm
      rcases List.mem_append.mp hm with hm | hm
      · exact ih hm
      · exact finish_notMem_chained ihs hm
  | number | plus | minus | reference => simp
  | parens _ ih => simpa using ih

end AxisMixer.Expr
