import AxisMixer.Proofs.Expr.Cutting
import AxisMixer.Proofs.Expr.Grammar

/-!
# Expressions — reading by precedence follows the grammar

The grammar has one nonterminal for each precedence; the functions that read an expression have
one loop, `chain`, for all of them.  What ties them together is that the loop can be taken in two
turns: reading a chain at one level is reading it at the next level first, where only the tighter
operators are taken, and then what follows at this level (`readChain_succ`).  So an expression at
level 1 is a chain of expressions at level 2, and these are chains of factors, which are what is
read at level 3.

The functions return the tokens they leave with a proof that these are fewer.  The lemmas are
about the same functions without the proof (`readFactor`, `readExpression`, `readChain`).

* `reads`: what is read at the level of a nonterminal is derived from it, and no operator that
  could have been taken is left.
* `Derives.readable`: what is derived is read, and nothing behind it.
* `ofTokens_of_scan`: a text has the tree that the grammar gives it, or no tree.
-/

namespace AxisMixer.Expr

open Token (Kind)

/-! ### Reading without proofs -/

/-- What was read and the tokens left, without the proof about their number. -/
def bare {p : List Token → Prop} (result : Except SyntaxError (Expr × { r : List Token // p r })) :
    Except SyntaxError (Expr × List Token) :=
  result.map fun x => (x.1, x.2.1)

def readFactor (source : String) (ts : List Token) : Except SyntaxError (Expr × List Token) :=
  bare (factor source ts)

def readExpression (source : String) (level : Nat) (ts : List Token) :
    Except SyntaxError (Expr × List Token) :=
  bare (expression source level ts)

def readChain (source : String) (level : Nat) (left : Expr) (ts : List Token) :
    Except SyntaxError (Expr × List Token) :=
  bare (chain source level left ts)

/-- The level at which the nonterminal is read. -/
def Nonterminal.level : Nonterminal → Nat
  | expr => 1
  | term => 2
  | factor => 3

theorem precedence_eq_one {op : Operator} : op.precedence = 1 ↔ op ∈ [.add, .sub] := by
  cases op <;> decide

theorem precedence_eq_two {op : Operator} : op.precedence = 2 ↔ op ∈ [.mul, .div] := by
  cases op <;> decide

variable {source : String} {level : Nat} {left e : Expr} {t : Token} {ts rest r : List Token}

theorem length_readExpression (h : readExpression source level ts = .ok (e, r)) :
    r.length < ts.length := by
  rw [readExpression] at h
  rcases he : expression source level ts with err | ⟨e', r', hr⟩
  · rw [he] at h
    cases h
  · rw [he] at h
    cases h
    exact hr

theorem readExpression_eq (source : String) (level : Nat) (ts : List Token) :
    readExpression source level ts =
      (readFactor source ts).bind fun x => readChain source level x.1 x.2 := by
  rw [readExpression, expression, readFactor]
  rcases factor source ts with err | ⟨left, r, hr⟩
  · rfl
  · simp only [bare, Except.map, Except.bind, readChain]
    rcases chain source level left r with err | ⟨e, r', hr'⟩ <;> rfl

theorem readChain_cons (op : Operator) (text : String) (pos : Nat) :
    readChain source level left (⟨.operator op, text, pos⟩ :: rest) =
      if level ≤ op.precedence then
        (readExpression source (op.precedence + 1) rest).bind fun x =>
          readChain source level (.binary op left x.1) x.2
      else .ok (left, ⟨.operator op, text, pos⟩ :: rest) := by
  rw [readChain, chain]
  split
  · rw [readExpression]
    rcases expression source (op.precedence + 1) rest with err | ⟨right, r, hr⟩
    · rfl
    · simp only [bare, Except.map, Except.bind, readChain]
      rcases chain source level (.binary op left right) r with err | ⟨e, r', hr'⟩ <;> rfl
  · rfl

theorem literal_of_inRange {n : Int} (h : InRange n) : literal source t n = .ok (.lit n) := if_pos h

theorem literal_of_not {n : Int} (h : ¬ InRange n) :
    literal source t n = .error (.atToken source t (.literalOutOfRange n)) := if_neg h

theorem readFactor_cons (t : Token) (rest : List Token) :
    readFactor source (t :: rest) =
      match t.kind with
      | .number n => (literal source t n).map (·, rest)
      | .operator .add => bare (signed source t false rest)
      | .operator .sub => bare (signed source t true rest)
      | .reference key => .ok (.ref key, rest)
      | .lparen =>
        (readExpression source 1 rest).bind fun x =>
          (closing source t x.2).map fun r => (x.1, r.1)
      | _ => .error (.atToken source t (.unexpected t)) := by
  rw [readFactor, factor]
  obtain ⟨kind, text, pos⟩ := t
  cases kind with
  | number n =>
      dsimp only
      cases literal source ⟨.number n, text, pos⟩ n <;> rfl
  | reference | rparen | finish => rfl
  | operator op => cases op <;> rfl
  | lparen =>
      rw [readExpression]
      dsimp only
      rcases expression source 1 rest with err | ⟨e, r, hr⟩
      · rfl
      · simp only [bare, Except.map, Except.bind]
        cases closing source ⟨.lparen, text, pos⟩ r <;> rfl

theorem signed_cons (t : Token) (negative : Bool) (n : Nat) (text : String) (pos : Nat)
    (rest : List Token) :
    bare (signed source t negative (⟨.number n, text, pos⟩ :: rest)) =
      (literal source t (if negative then -n else n)).map (·, rest) := by
  rw [signed]
  cases literal source t (if negative then -n else n) <;> rfl

/-! ### Where a chain stops -/

/-- The next token is no operator of precedence `level` or more. -/
def Stops (level : Nat) (ts : List Token) : Prop :=
  ∀ t ∈ ts.head?, ∀ op, t.kind = .operator op → op.precedence < level

theorem Stops.mono (h : Stops level ts) {level' : Nat} (hl : level ≤ level') : Stops level' ts :=
  fun t ht op hop => Nat.lt_of_lt_of_le (h t ht op hop) hl

/-- No operator has a precedence above 2. -/
theorem stops_three (ts : List Token) : Stops 3 ts := fun _ _ op _ => by
  cases op <;> decide

theorem stops_or (level : Nat) (ts : List Token) :
    Stops level ts ∨ ∃ op text pos rest,
      ts = ⟨.operator op, text, pos⟩ :: rest ∧ level ≤ op.precedence := by
  rcases ts with _ | ⟨⟨kind, text, pos⟩, rest⟩
  · exact .inl fun t ht => by cases ht
  · cases kind with
    | operator op =>
        rcases Nat.lt_or_ge op.precedence level with h | h
        · left
          rintro t ⟨⟩ op' ⟨⟩
          exact h
        · exact .inr ⟨op, text, pos, rest, rfl, h⟩
    | number | reference | lparen | rparen | finish =>
        left
        rintro t ⟨⟩ op ⟨⟩

theorem readChain_of_stops (h : Stops level ts) :
    readChain source level left ts = .ok (left, ts) := by
  rcases ts with _ | ⟨⟨kind, text, pos⟩, rest⟩
  · rw [readChain, chain]
    · rfl
    · intro _ _ _ _ h
      cases h
  · cases kind with
    | operator op =>
        rw [readChain_cons, if_neg (Nat.not_le_of_lt (h _ rfl op rfl))]
    | number | reference | lparen | rparen | finish =>
        rw [readChain, chain]
        · rfl
        · intro _ _ _ _ h
          cases h

/-- A chain is read up to where it stops. -/
theorem stops_of_readChain :
    ∀ (left : Expr) (ts : List Token), readChain source level left ts = .ok (e, r) → Stops level r
  | left, ts, h => by
      rcases stops_or level ts with hs | ⟨op, text, pos, rest, rfl, hop⟩
      · rw [readChain_of_stops hs] at h
        cases h
        exact hs
      · rw [readChain_cons, if_pos hop] at h
        rcases he : readExpression source (op.precedence + 1) rest with err | ⟨right, r'⟩
        · rw [he] at h
          cases h
        · have hr := length_readExpression he
          rw [he] at h
          exact stops_of_readChain (.binary op left right) r' h
termination_by _ ts => ts.length
decreasing_by
  subst_vars
  exact Nat.lt_succ_of_lt hr

theorem stops_of_readExpression (h : readExpression source level ts = .ok (e, r)) :
    Stops level r := by
  rw [readExpression_eq] at h
  rcases hf : readFactor source ts with err | ⟨left, r'⟩
  · rw [hf] at h
    cases h
  · rw [hf] at h
    exact stops_of_readChain left r' h

/-- **Tight operators first.**  Reading a chain at one level is reading it at the next level, and
what follows then at this one. -/
theorem readChain_succ (source : String) (level : Nat) :
    ∀ (left : Expr) (ts : List Token), readChain source level left ts =
      (readChain source (level + 1) left ts).bind fun x => readChain source level x.1 x.2
  | left, ts => by
      rcases stops_or (level + 1) ts with hs | ⟨op, text, pos, rest, rfl, hop⟩
      · rw [readChain_of_stops hs]
        rfl
      · -- both levels take the operator, with the same right operand
        rw [readChain_cons, readChain_cons, if_pos hop, if_pos (Nat.le_of_succ_le hop)]
        rcases he : readExpression source (op.precedence + 1) rest with err | ⟨right, r⟩
        · rfl
        · have hr := length_readExpression he
          exact readChain_succ source level (.binary op left right) r
termination_by _ ts => ts.length
decreasing_by
  subst_vars
  exact Nat.lt_succ_of_lt hr

theorem readExpression_succ (source : String) (level : Nat) (ts : List Token) :
    readExpression source level ts =
      (readExpression source (level + 1) ts).bind fun x => readChain source level x.1 x.2 := by
  rw [readExpression_eq, readExpression_eq]
  rcases readFactor source ts with err | ⟨left, r⟩
  · rfl
  · exact readChain_succ source level left r

/-- An expression read at the highest level is a factor. -/
theorem readExpression_three (source : String) (ts : List Token) :
    readExpression source 3 ts = readFactor source ts := by
  rw [readExpression_eq]
  rcases readFactor source ts with err | ⟨left, r⟩
  · rfl
  · exact readChain_of_stops (stops_three r)

/-! ### What is read -/

/-- What may come of reading `s` from `ts`: a tree that `s` derives from the first tokens, as many
as can be taken, or an error that is not about the name of an axis. -/
inductive Reads (s : Nonterminal) (ts : List Token) :
    Except SyntaxError (Expr × List Token) → Prop where
  | ok {ws r : List Token} {e : Expr} (split : ts = ws ++ r)
      (derives : Derives s (ws.map Token.kind) e) (stops : Stops s.level r) :
      Reads s ts (.ok (e, r))
  | error {err : SyntaxError} (cause : ∀ name, err.cause ≠ .unknownAxis name) :
      Reads s ts (.error err)

/-- What may come of reading a chain at `level` with operands `s`. -/
inductive ReadsChain (s : Nonterminal) (level : Nat) (left : Expr) (ts : List Token) :
    Except SyntaxError (Expr × List Token) → Prop where
  | ok {ws r : List Token} {links : List Link} (split : ts = ws ++ r)
      (words : ws.map Token.kind = chained links) (ops : ∀ l ∈ links, l.op.precedence = level)
      (operands : ∀ l ∈ links, Derives s l.words l.tree) (stops : Stops level r) :
      ReadsChain s level left ts (.ok (leftmost left links, r))
  | error {err : SyntaxError} (cause : ∀ name, err.cause ≠ .unknownAxis name) :
      ReadsChain s level left ts (.error err)

/-- What holds of a continuation after every tree that may be read, and of every error that may be
met, holds of reading and going on. -/
theorem Reads.bind {s : Nonterminal} {β : Type} {P : Except SyntaxError β → Prop}
    {f : Expr × List Token → Except SyntaxError β} {result : Except SyntaxError (Expr × List Token)}
    (h : Reads s ts result)
    (ok : ∀ ws r e, ts = ws ++ r → Derives s (ws.map Token.kind) e → Stops s.level r → P (f (e, r)))
    (error : ∀ err : SyntaxError, (∀ name, err.cause ≠ .unknownAxis name) → P (.error err)) :
    P (result.bind f) := by
  cases h with
  | ok split derives stops => exact ok _ _ _ split derives stops
  | error cause => exact error _ cause

/-- One more link in front of a chain. -/
theorem ReadsChain.cons {s : Nonterminal} {op : Operator} {text : String} {pos : Nat}
    {ws : List Token} {right : Expr} {result : Except SyntaxError (Expr × List Token)}
    (hop : op.precedence = level) (derives : Derives s (ws.map Token.kind) right)
    (h : ReadsChain s level (.binary op left right) r result) :
    ReadsChain s level left (⟨.operator op, text, pos⟩ :: (ws ++ r)) result := by
  cases h with
  | error cause => exact .error cause
  | @ok ws' r' links split words ops operands stops =>
      refine @ReadsChain.ok s level left _ (⟨.operator op, text, pos⟩ :: ws ++ ws') r'
        (⟨op, ws.map Token.kind, right⟩ :: links) ?_ ?_ ?_ ?_ stops
      · rw [split, List.cons_append, List.cons_append, List.append_assoc]
      · rw [List.cons_append, List.map_cons, List.map_append, words, chained_cons]
      · exact List.forall_mem_cons.mpr ⟨hop, ops⟩
      · exact List.forall_mem_cons.mpr ⟨derives, operands⟩

/-- A chain is read link by link.  No operator in front binds tighter than `level`, so all links
have this precedence. -/
theorem readsChain_of_operands {s : Nonterminal} (hlevel : s.level = level + 1) :
    ∀ (left : Expr) (ts : List Token),
      (∀ ts', ts'.length < ts.length → Reads s ts' (readExpression source (level + 1) ts')) →
      Stops (level + 1) ts → ReadsChain s level left ts (readChain source level left ts)
  | left, ts, hread, hs => by
      rcases stops_or level ts with hstop | ⟨op, text, pos, rest, rfl, hop⟩
      · rw [readChain_of_stops hstop]
        exact @ReadsChain.ok s level left ts [] ts [] rfl rfl (List.forall_mem_nil _)
          (List.forall_mem_nil _) hstop
      · -- one link, and a chain behind it
        have hprec : op.precedence = level :=
          Nat.le_antisymm (Nat.le_of_lt_succ (hs _ rfl op rfl)) hop
        rw [readChain_cons, if_pos hop, hprec]
        refine (hread rest (Nat.lt_succ_self _)).bind ?_ fun err cause => .error cause
        intro ws r right split derives stops
        subst split
        have hr : r.length ≤ (ws ++ r).length := (List.sublist_append_right ws r).length_le
        have ih := readsChain_of_operands hlevel (.binary op left right) r
          (fun ts' h => hread ts' (Nat.lt_of_lt_of_le h (Nat.le_succ_of_le hr))) (hlevel ▸ stops)
        exact ih.cons hprec derives
termination_by _ ts => ts.length
decreasing_by
  subst_vars
  exact Nat.lt_succ_of_le hr

theorem reads_literal {n : Int} (ws : List Token)
    (h : InRange n → Derives .factor (ws.map Token.kind) (.lit n)) :
    Reads .factor (ws ++ rest) ((literal source t n).map (·, rest)) := by
  by_cases hn : InRange n
  · rw [literal_of_inRange hn]
    exact .ok rfl (h hn) (stops_three rest)
  · rw [literal_of_not hn]
    exact .error (by rintro _ ⟨⟩)

theorem reads_signed {op : Operator} {text : String} {pos : Nat} {negative : Bool}
    (h : ∀ n : Nat, InRange (if negative then -n else n) →
      Derives .factor [.operator op, .number n] (.lit (if negative then -n else n))) :
    Reads .factor (⟨.operator op, text, pos⟩ :: ts)
      (bare (signed source ⟨.operator op, text, pos⟩ negative ts)) := by
  rcases ts with _ | ⟨⟨kind, text', pos'⟩, rest⟩
  · exact .error (by rintro _ ⟨⟩)
  · cases kind with
    | number n =>
        rw [signed_cons]
        exact reads_literal [⟨.operator op, text, pos⟩, ⟨.number n, text', pos'⟩] (h n)
    | operator | reference | lparen | rparen | finish => exact .error (by rintro _ ⟨⟩)

theorem reads_factor
    (hread : ∀ ts', ts'.length < ts.length → Reads .expr ts' (readExpression source 1 ts')) :
    Reads .factor ts (readFactor source ts) := by
  rcases ts with _ | ⟨⟨kind, text, pos⟩, rest⟩
  · rw [readFactor, factor]
    exact .error (by rintro _ ⟨⟩)
  · rw [readFactor_cons]
    cases kind with
    | number n => exact reads_literal [⟨.number n, text, pos⟩] .number
    | reference key =>
        exact @Reads.ok .factor _ [⟨.reference key, text, pos⟩] rest _ rfl (.reference key)
          (stops_three rest)
    | operator op =>
        cases op with
        | add => exact reads_signed fun n => .plus
        | sub => exact reads_signed fun n => .minus
        | mul | div => exact .error (by rintro _ ⟨⟩)
    | rparen | finish => exact .error (by rintro _ ⟨⟩)
    | lparen =>
        refine (hread rest (Nat.lt_succ_self _)).bind ?_ fun err cause => .error cause
        intro ws r e split derives _
        rcases r with _ | ⟨⟨kind', text', pos'⟩, r⟩
        · exact .error (by rintro _ ⟨⟩)
        · cases kind' with
          | rparen =>
              refine @Reads.ok .factor _ (⟨.lparen, text, pos⟩ :: ws ++ [⟨.rparen, text', pos'⟩]) r
                e ?_ ?_ (stops_three r)
              · rw [split, List.cons_append, List.cons_append, List.append_assoc]
                rfl
              · rw [List.cons_append, List.map_cons, List.map_append]
                exact derives.parens
          | number | operator | reference | lparen | finish => exact .error (by rintro _ ⟨⟩)

/-- The order in which nonterminals are read from the same tokens. -/
def Nonterminal.rank : Nonterminal → Nat
  | factor => 0
  | term => 1
  | expr => 2

/-- Reading a chain, given how its operands are read. -/
theorem reads_of_operands {s s' : Nonterminal} (hlevel : s'.level = s.level + 1)
    (hderives : ∀ {w : List Kind} {e : Expr} {links : List Link}, Derives s' w e →
      (∀ l ∈ links, l.op.precedence = s.level) → (∀ l ∈ links, Derives s' l.words l.tree) →
      Derives s (w ++ chained links) (leftmost e links))
    (hfirst : Reads s' ts (readExpression source s'.level ts))
    (hrest : ∀ ts', ts'.length < ts.length → Reads s' ts' (readExpression source s'.level ts')) :
    Reads s ts (readExpression source s.level ts) := by
  rw [readExpression_succ, ← hlevel]
  -- the first operand, and the links behind it
  refine hfirst.bind ?_ fun err cause => .error cause
  intro ws r e split derives stops
  have hr : r.length ≤ ts.length := split ▸ (List.sublist_append_right ws r).length_le
  have hchain := @readsChain_of_operands source s.level s' hlevel e r
    (fun ts' h => hlevel ▸ hrest ts' (Nat.lt_of_lt_of_le h hr)) (hlevel ▸ stops)
  generalize readChain source s.level e r = result at hchain
  cases hchain with
  | error cause => exact .error cause
  | @ok ws' r' links split' words ops operands stops' =>
      refine @Reads.ok s _ (ws ++ ws') r' _ ?_ ?_ stops'
      · rw [split, split', List.append_assoc]
      · rw [List.map_append, words]
        exact hderives derives ops operands

/-- **Reading.**  At the level of a nonterminal, what is read is what it derives. -/
theorem reads (source : String) :
    ∀ (s : Nonterminal) (ts : List Token), Reads s ts (readExpression source s.level ts)
  | .factor, ts => by
      rw [Nonterminal.level, readExpression_three]
      exact reads_factor fun ts' h => reads source .expr ts'
  | .term, ts =>
      reads_of_operands rfl
        (fun first ops operands =>
          .term first (fun l hl => precedence_eq_two.mp (ops l hl)) operands)
        (reads source .factor ts) fun ts' h => reads source .factor ts'
  | .expr, ts =>
      reads_of_operands rfl
        (fun first ops operands =>
          .expr first (fun l hl => precedence_eq_one.mp (ops l hl)) operands)
        (reads source .term ts) fun ts' h => reads source .term ts'
termination_by s ts => (ts.length, s.rank)
decreasing_by
  · exact Prod.Lex.left _ _ h
  · exact Prod.Lex.right _ (by decide)
  · exact Prod.Lex.left _ _ h
  · exact Prod.Lex.right _ (by decide)
  · exact Prod.Lex.left _ _ h

/-! ### Whatever is derived is read -/

/-- Tokens of these kinds are read as `e`, wherever a chain at `level` stops behind them. -/
def Readable (source : String) (level : Nat) (w : List Kind) (e : Expr) : Prop :=
  ∀ ws rest : List Token, ws.map Token.kind = w → Stops level rest →
    readExpression source level (ws ++ rest) = .ok (e, rest)

theorem stops_chained {links : List Link} (ops : ∀ l ∈ links, l.op.precedence = level)
    {ws : List Token} (hws : ws.map Token.kind = chained links) (hs : Stops level rest) :
    Stops (level + 1) (ws ++ rest) := by
  rcases links with _ | ⟨l, links⟩
  · obtain rfl := List.map_eq_nil_iff.mp hws
    exact hs.mono (Nat.le_succ level)
  · obtain ⟨t, ws', rfl, ht, -⟩ := List.map_eq_cons_iff.mp hws
    rintro _ ⟨⟩ op hop
    rw [ht] at hop
    cases hop
    exact Nat.lt_succ_of_le (Nat.le_of_eq (ops l List.mem_cons_self))

theorem readChain_chained :
    ∀ {links : List Link}, (∀ l ∈ links, l.op.precedence = level) →
      (∀ l ∈ links, Readable source (level + 1) l.words l.tree) →
      ∀ (left : Expr) {ws : List Token}, ws.map Token.kind = chained links → Stops level rest →
        readChain source level left (ws ++ rest) = .ok (leftmost left links, rest)
  | [], _, _, left, ws, hws, hs => by
      obtain rfl := List.map_eq_nil_iff.mp hws
      exact readChain_of_stops hs
  | l :: links, ops, operands, left, ws, hws, hs => by
      obtain ⟨hop, ops⟩ := List.forall_mem_cons.mp ops
      obtain ⟨hoperand, operands⟩ := List.forall_mem_cons.mp operands
      rw [chained_cons] at hws
      obtain ⟨⟨_, text, pos⟩, ws', rfl, rfl, hws'⟩ := List.map_eq_cons_iff.mp hws
      obtain ⟨a, b, rfl, ha, hb⟩ := List.map_eq_append_iff.mp hws'
      rw [List.cons_append, readChain_cons, if_pos (Nat.le_of_eq hop.symm), hop, List.append_assoc,
        hoperand a (b ++ rest) ha (stops_chained ops hb hs)]
      exact readChain_chained ops operands (.binary l.op left l.tree) hb hs

theorem readable_chain {w : List Kind} {links : List Link}
    (first : Readable source (level + 1) w e) (ops : ∀ l ∈ links, l.op.precedence = level)
    (operands : ∀ l ∈ links, Readable source (level + 1) l.words l.tree) :
    Readable source level (w ++ chained links) (leftmost e links) := by
  intro ws rest hws hs
  obtain ⟨a, b, rfl, ha, hb⟩ := List.map_eq_append_iff.mp hws
  rw [readExpression_succ, List.append_assoc,
    first a (b ++ rest) ha (stops_chained ops hb hs)]
  exact readChain_chained ops operands e hb hs

/-- **Derivations are read.**  Tokens that `s` derives are read as the tree of the derivation. -/
theorem Derives.readable {s : Nonterminal} {w : List Kind} {e : Expr} (h : Derives s w e)
    (source : String) : Readable source s.level w e := by
  induction h with
  | expr _ ops _ ih ihs =>
      exact readable_chain ih (fun l hl => precedence_eq_one.mpr (ops l hl)) ihs
  | term _ ops _ ih ihs =>
      exact readable_chain ih (fun l hl => precedence_eq_two.mpr (ops l hl)) ihs
  | number h =>
      intro ws rest hws _
      obtain ⟨⟨_, text, pos⟩, rfl, rfl⟩ := List.map_eq_singleton_iff.mp hws
      rw [Nonterminal.level, readExpression_three, List.singleton_append, readFactor_cons]
      simp only [literal_of_inRange h, Except.map]
  | plus h | minus h =>
      intro ws rest hws _
      obtain ⟨⟨_, text, pos⟩, ws', rfl, rfl, hws'⟩ := List.map_eq_cons_iff.mp hws
      obtain ⟨⟨_, text', pos'⟩, rfl, rfl⟩ := List.map_eq_singleton_iff.mp hws'
      rw [Nonterminal.level, readExpression_three, List.cons_append, List.singleton_append,
        readFactor_cons]
      dsimp only
      rw [signed_cons]
      exact congrArg (Except.map (·, rest)) (literal_of_inRange h)
  | reference key =>
      intro ws rest hws _
      obtain ⟨⟨_, text, pos⟩, rfl, rfl⟩ := List.map_eq_singleton_iff.mp hws
      rw [Nonterminal.level, readExpression_three, List.singleton_append, readFactor_cons]
  | parens h ih =>
      intro ws rest hws _
      rw [List.cons_append] at hws
      obtain ⟨⟨_, text, pos⟩, ws', rfl, rfl, hws'⟩ := List.map_eq_cons_iff.mp hws
      obtain ⟨a, b, rfl, ha, hb⟩ := List.map_eq_append_iff.mp hws'
      obtain ⟨⟨_, text', pos'⟩, rfl, rfl⟩ := List.map_eq_singleton_iff.mp hb
      have hstop : Stops 1 (⟨.rparen, text', pos'⟩ :: rest) := by
        rintro _ ⟨⟩ op ⟨⟩
      rw [Nonterminal.level, readExpression_three, List.cons_append, List.append_assoc,
        readFactor_cons]
      dsimp only
      -- the parenthesis closes what was read at the lowest level
      have hr : readExpression source 1 (a ++ ⟨.rparen, text', pos'⟩ :: rest) = _ :=
        ih a _ ha hstop
      rw [List.singleton_append, hr]
      rfl

/-- **One tree.**  A nonterminal derives words with one tree at most. -/
theorem Derives.unique {s : Nonterminal} {w : List Kind} {e e' : Expr} (h : Derives s w e)
    (h' : Derives s w e') : e = e' := by
  -- any tokens of these kinds will do: reading is a function
  have hws : (w.map fun k => (⟨k, "", 0⟩ : Token)).map Token.kind = w := by
    rw [List.map_map]
    exact List.map_id w
  have hs : Stops s.level [] := by
    rintro _ ⟨⟩
  have hr := h.readable "" _ [] hws hs
  rw [h'.readable "" _ [] hws hs] at hr
  cases hr
  rfl

/-! ### Whole token lists -/

theorem ofTokens_eq (source : String) (ts : List Token) :
    ofTokens source ts = (readExpression source 1 ts).bind fun x =>
      match (next source x.2).kind with
      | .finish => .ok x.1
      | _ => .error (.atToken source (next source x.2) (.unexpected (next source x.2))) := by
  rw [ofTokens, readExpression]
  rcases expression source 1 ts with err | ⟨e, r, hr⟩ <;> rfl

/-- If the end of the text comes next, all that is before it was taken. -/
theorem taken_eq_body {body ws : List Token} {pos : Nat} (hbody : ∀ t ∈ body, t.kind.IsLexeme)
    (hws : Kind.finish ∉ ws.map Token.kind) (split : body ++ [Token.finish pos] = ws ++ r)
    (hnext : (next source r).kind = .finish) : ws = body := by
  rcases List.append_eq_append_iff.mp split with ⟨a, rfl, ha⟩ | ⟨a, rfl, rfl⟩
  · rcases a with _ | ⟨t, a⟩
    · exact List.append_nil body
    · -- the end would have been taken
      obtain rfl : Token.finish pos = t := (List.cons.inj ha).1
      exact absurd (List.mem_map.mpr ⟨_, List.mem_append_right _ List.mem_cons_self, rfl⟩) hws
  · rcases a with _ | ⟨t, a⟩
    · exact (List.append_nil ws).symm
    · have ht := hbody t (List.mem_append_right _ List.mem_cons_self)
      rw [show t.kind = .finish from hnext] at ht
      exact ht.elim

/-- What is derived from the tokens before the end is what they denote, and nothing else is. -/
theorem ofTokens_iff (hts : Token.Ends ts) :
    ofTokens source ts = .ok e ↔ Derives .expr (ts.dropLast.map Token.kind) e := by
  obtain ⟨body, pos, rfl, hbody⟩ := hts
  rw [List.dropLast_concat, ofTokens_eq]
  constructor
  · intro h
    have hr := reads source .expr (body ++ [Token.finish pos])
    rw [Nonterminal.level] at hr
    generalize readExpression source 1 (body ++ [Token.finish pos]) = result at h hr
    cases hr with
    | error cause => cases h
    | @ok ws r e' split derives stops =>
        simp only [Except.bind] at h
        split at h
        · next hnext =>
            cases h
            rw [← taken_eq_body hbody derives.finish_notMem split hnext]
            exact derives
        · cases h
  · intro h
    have hs : Stops 1 [Token.finish pos] := by
      rintro _ ⟨⟩ op ⟨⟩
    have hr : readExpression source 1 (body ++ [Token.finish pos]) = _ :=
      h.readable source body _ rfl hs
    rw [hr]
    rfl

/-- No error is about the name of an axis. -/
theorem cause_of_ofTokens {err : SyntaxError} (h : ofTokens source ts = .error err)
    (name : String) : err.cause ≠ .unknownAxis name := by
  rw [ofTokens_eq] at h
  have hr := reads source .expr ts
  rw [Nonterminal.level] at hr
  generalize readExpression source 1 ts = result at h hr
  cases hr with
  | error cause =>
      cases h
      exact cause name
  | ok split derives stops =>
      simp only [Except.bind] at h
      split at h
      · cases h
      · cases h
        rintro ⟨⟩

/-- **Reading follows the grammar.**  The tokens of a text are those before its end, and the end.
They denote exactly the trees that the grammar derives from those before the end, which is one at
most; if there is none, reading fails with an error that is not about the name of an axis. -/
theorem ofTokens_of_scan {source : String} {ts : List Token} (h : Token.scan source = .ok ts) :
    ∃ body pos, ts = body ++ [Token.finish pos] ∧
      (∀ e, ofTokens source ts = .ok e ↔ Derives .expr (body.map Token.kind) e) ∧
      (∀ e e', Derives .expr (body.map Token.kind) e → Derives .expr (body.map Token.kind) e' →
        e = e') ∧
      ((∀ e, ¬ Derives .expr (body.map Token.kind) e) →
        ∃ err, ofTokens source ts = .error err ∧ ∀ name, err.cause ≠ .unknownAxis name) := by
  have hts := Token.ends_of_scan h
  have hiff (e : Expr) : ofTokens source ts = .ok e ↔ _ := ofTokens_iff hts
  obtain ⟨body, pos, rfl, -⟩ := hts
  rw [List.dropLast_concat] at hiff
  refine ⟨body, pos, rfl, hiff, fun e e' => Derives.unique, fun hnone => ?_⟩
  cases hr : ofTokens source (body ++ [Token.finish pos]) with
  | ok e => exact absurd ((hiff e).mp hr) (hnone e)
  | error err => exact ⟨err, rfl, cause_of_ofTokens hr⟩

theorem eq_ok_of_toOption {E α : Type} {x : Except E α} {a : α} (h : x.toOption = some a) :
    x = .ok a := by
  cases x with
  | error => cases h
  | ok => exact congrArg Except.ok (Option.some.inj h)

/-- A sign, two precedences, and two operators of the same precedence. -/
theorem ofTokens_of_scan_difference :
    ∃ ts, Token.scan "2 - 3 * -4 - A:X" = .ok ts ∧
      ofTokens "2 - 3 * -4 - A:X" ts = .ok (.binary .sub
        (.binary .sub (.lit 2) (.binary .mul (.lit 3) (.lit (-4)))) (.ref ⟨"A", .x⟩)) := by
  have h : Token.scan "2 - 3 * -4 - A:X" = .ok
      [⟨.number 2, "2", 0⟩, ⟨.operator .sub, "-", 2⟩, ⟨.number 3, "3", 4⟩,
        ⟨.operator .mul, "*", 6⟩, ⟨.operator .sub, "-", 8⟩, ⟨.number 4, "4", 9⟩,
        ⟨.operator .sub, "-", 11⟩, ⟨.reference ⟨"A", .x⟩, "A:X", 13⟩, ⟨.finish, "", 16⟩] :=
    eq_ok_of_toOption (by decide +kernel)
  obtain ⟨body, pos, hts, hiff, -, -⟩ := ofTokens_of_scan h
  have hbody := congrArg List.dropLast hts
  rw [List.dropLast_concat] at hbody
  subst hbody
  have hfour : Derives .factor [.operator .sub, .number 4] (.lit (-4)) := .minus (by decide)
  have hproduct := @Derives.term _ _ [⟨.mul, _, _⟩] (.number (n := 3) (by decide)) (by decide)
    (List.forall_mem_singleton.mpr hfour)
  have hdifference := @Derives.expr _ _ [⟨.sub, _, _⟩, ⟨.sub, _, _⟩]
    (.of_factor (.number (n := 2) (by decide))) (by decide)
    (List.forall_mem_cons.mpr ⟨hproduct,
      List.forall_mem_singleton.mpr (.of_factor (.reference ⟨"A", .x⟩))⟩)
  exact ⟨_, h, (hiff _).mpr hdifference⟩

end AxisMixer.Expr
