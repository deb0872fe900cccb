import AxisMixer.Proofs.Expr.Climbing

/-!
# Expressions — reading with an index into the tokens

`Expr.expression` is given the tokens that are left and returns those that it leaves.  The same can
be read with an index that moves over a list of tokens, the whole list being at hand all the time.
Such a reader (`Cursor`) could go wrong in two more ways: it could look for a token where there is
none, and it could go on forever.  Here both are outcomes of their own (`Halt`), so that it can be
said that they do not occur.

The tokens of a text close with its end, and the index moves on from any token but this one
(`succ_lt_length`), so it always stands at a token.  An expression reads its first factor from where
it starts itself; every other call comes behind a token that was taken.  So calls are nested at most
twice for each token that is left, and once more.

* `Follows`: the index reads what is read from the tokens at it, and stands at a token.
* `Cursor.follows_of_scan`: it does so from every token of a text, at every level.
-/

namespace AxisMixer.Expr

open Token (Kind)

/-! ### Reading with an index -/

/-- Why reading stops without a tree. -/
inductive Halt where
  | malformed (e : SyntaxError)
  /-- A token was looked for where there is none. -/
  | outOfRange
  /-- Calls were nested more deeply than they may be. -/
  | tooDeep
  deriving DecidableEq

/-- Something that is read from where the index stands. -/
abbrev Cursor := ExceptT Halt (StateM Nat)

namespace Cursor

/-- The token at the index. -/
def current (ts : List Token) : Cursor Token := do
  match ts[← get]? with
  | some t => return t
  | none => throw .outOfRange

/-- Moves on from the token at the index, unless this is the end of the text. -/
def advance (ts : List Token) : Cursor Token := do
  let t ← current ts
  unless t.kind = .finish do set ((← get) + 1)
  return t

/-- Stops with an error at the token `t`. -/
def refuse (source : String) (t : Token) (cause : SyntaxError.Cause) : Cursor Expr :=
  throw (.malformed (.atToken source t cause))

/-- The literal `n`, which starts at the token `t`. -/
def literalAt (source : String) (t : Token) (n : Int) : Cursor Expr :=
  if InRange n then return .lit n else refuse source t (.literalOutOfRange n)

/-- The literal behind the sign `t`. -/
def signedAt (source : String) (ts : List Token) (t : Token) (negative : Bool) : Cursor Expr := do
  let found ← current ts
  match found.kind with
  | .number n => do
    let _ ← advance ts
    literalAt source t (if negative then -n else n)
  | _ => refuse source found (.missingNumber t found)

/-- What stands behind the expression `e`, which has to be the parenthesis that closes `t`. -/
def closingAt (source : String) (ts : List Token) (t : Token) (e : Expr) : Cursor Expr := do
  let found ← current ts
  match found.kind with
  | .rparen => do
    let _ ← advance ts
    return e
  | _ => refuse source found (.unclosed t.position found)

mutual

/-- A factor.  Calls are nested `depth` deep at most. -/
def factorAt (source : String) (ts : List Token) : (depth : Nat) → Cursor Expr
  | 0 => throw .tooDeep
  | depth + 1 => do
    let t ← current ts
    match t.kind with
    | .number n => do
      let _ ← advance ts
      literalAt source t n
    | .operator .add => do
      let _ ← advance ts
      signedAt source ts t false
    | .operator .sub => do
      let _ ← advance ts
      signedAt source ts t true
    | .reference key => do
      let _ ← advance ts
      return .ref key
    | .lparen => do
      let _ ← advance ts
      let e ← expressionAt source ts depth 1
      closingAt source ts t e
    | _ => refuse source t (.unexpected t)

/-- A factor and the operators of precedence at least `level` that follow it. -/
def expressionAt (source : String) (ts : List Token) : (depth : Nat) → (level : Int) → Cursor Expr
  | 0, _ => throw .tooDeep
  | depth + 1, level => do
    let left ← factorAt source ts depth
    chainAt source ts depth level left

/-- The operators of precedence at least `level` that follow the operand `left`. -/
def chainAt (source : String) (ts : List Token) :
    (depth : Nat) → (level : Int) → (left : Expr) → Cursor Expr
  | 0, _, _ => throw .tooDeep
  | depth + 1, level, left => do
    let t ← current ts
    match t.kind with
    | .operator op =>
      if level ≤ op.precedence then do
        let _ ← advance ts
        let right ← expressionAt source ts depth (op.precedence + 1 : Nat)
        chainAt source ts depth level (.binary op left right)
      else return left
    | _ => return left

end

/-! ### What reading comes to -/

/-- What reading from the index `i` comes to, and where the index stands then. -/
def outcome {α : Type} (c : Cursor α) (i : Nat) : Except Halt α × Nat := c.run i

section Outcome

variable {α β : Type} {ts : List Token} {t : Token} {i : Nat}

theorem outcome_bind (c : Cursor α) (f : α → Cursor β) :
    outcome (c >>= f) i =
      match outcome c i with
      | (.ok a, k) => outcome (f a) k
      | (.error h, k) => (.error h, k) := by
  unfold outcome
  simp only [bind, ExceptT.run, ExceptT.bind, ExceptT.mk, StateT.bind]
  rcases c i with ⟨h | a, k⟩ <;> rfl

theorem outcome_current (ht : ts[i]? = some t) : outcome (current ts) i = (.ok t, i) := by
  rw [current, outcome_bind]
  change outcome (match ts[i]? with | some t => pure t | none => throw Halt.outOfRange) i = _
  rw [ht]
  rfl

theorem outcome_advance (ht : ts[i]? = some t) (hkind : t.kind ≠ .finish) :
    outcome (advance ts) i = (.ok t, i + 1) := by
  rw [advance, outcome_bind, outcome_current ht]
  dsimp only
  rw [if_neg hkind]
  rfl

/-- Looking at the token at the index leaves the index where it is. -/
theorem outcome_current_bind (ht : ts[i]? = some t) (f : Token → Cursor α) :
    outcome (current ts >>= f) i = outcome (f t) i := by
  rw [outcome_bind, outcome_current ht]

theorem outcome_advance_bind (ht : ts[i]? = some t) (hkind : t.kind ≠ .finish)
    (f : Token → Cursor α) : outcome (advance ts >>= f) i = outcome (f t) (i + 1) := by
  rw [outcome_bind, outcome_advance ht hkind]

end Outcome

/-! ### One token -/

variable {source : String} {ts : List Token} {t : Token} {i start start' depth : Nat}
  {level : Int}

/-- The end of the text is the last token, so there is one behind every other. -/
theorem succ_lt_length (hts : Token.Ends ts) (ht : ts[i]? = some t) (hkind : t.kind ≠ .finish) :
    i + 1 < ts.length := by
  obtain ⟨body, pos, rfl, -⟩ := hts
  obtain ⟨hi, rfl⟩ := List.getElem?_eq_some_iff.mp ht
  rw [List.length_append, List.length_singleton] at hi ⊢
  rcases Nat.lt_or_ge i body.length with h | h
  · omega
  · rw [List.getElem_append_right h] at hkind
    simp [Token.finish] at hkind

theorem exists_getElem? (hi : i < ts.length) :
    ∃ t, ts[i]? = some t ∧ ts.drop i = t :: ts.drop (i + 1) :=
  ⟨ts[i], List.getElem?_eq_getElem hi, List.drop_eq_getElem_cons hi⟩

/-- The index comes to what the list of tokens comes to.  Behind a tree it stands at the tokens that
are left, at `start` or further on, and in any case at a token. -/
inductive Follows (ts : List Token) (start : Nat) :
    Except SyntaxError (Expr × List Token) → Except Halt Expr × Nat → Prop where
  | ok {e : Expr} {k : Nat} (le : start ≤ k) (lt : k < ts.length) :
      Follows ts start (.ok (e, ts.drop k)) (.ok e, k)
  | error {err : SyntaxError} {k : Nat} (lt : k < ts.length) :
      Follows ts start (.error err) (.error (.malformed err), k)

theorem Follows.mono {result : Except SyntaxError (Expr × List Token)}
    {o : Except Halt Expr × Nat} (h : Follows ts start' result o) (hstart : start ≤ start') :
    Follows ts start result o := by
  cases h with
  | ok le lt => exact .ok (Nat.le_trans hstart le) lt
  | error lt => exact .error lt

theorem Follows.bind {result : Except SyntaxError (Expr × List Token)} {c : Cursor Expr}
    {f : Expr × List Token → Except SyntaxError (Expr × List Token)} {g : Expr → Cursor Expr}
    (h : Follows ts start result (outcome c i))
    (hnext : ∀ e k, start ≤ k → k < ts.length →
      Follows ts start' (f (e, ts.drop k)) (outcome (g e) k)) :
    Follows ts start' (result.bind f) (outcome (c >>= g) i) := by
  rw [outcome_bind]
  generalize outcome c i = o at h ⊢
  cases h with
  | ok le lt => exact hnext _ _ le lt
  | error lt => exact .error lt

theorem follows_refuse (hi : i < ts.length) (cause : SyntaxError.Cause) :
    Follows ts start (.error (.atToken source t cause)) (outcome (refuse source t cause) i) :=
  .error hi

theorem follows_literalAt (hi : i < ts.length) (hstart : start ≤ i) (n : Int) :
    Follows ts start ((literal source t n).map (·, ts.drop i))
      (outcome (literalAt source t n) i) := by
  rw [literalAt]
  by_cases hn : InRange n
  · rw [literal_of_inRange hn, if_pos hn]
    exact .ok hstart hi
  · rw [literal_of_not hn, if_neg hn]
    exact follows_refuse hi _

theorem follows_signedAt (source : String) (hts : Token.Ends ts) (hi : i < ts.length) (t : Token)
    (negative : Bool) :
    Follows ts (i + 1) (bare (signed source t negative (ts.drop i)))
      (outcome (signedAt source ts t negative) i) := by
  obtain ⟨⟨kind, text, pos⟩, ht, hdrop⟩ := exists_getElem? hi
  rw [signedAt, outcome_current_bind ht, hdrop]
  cases kind with
  | number n =>
      rw [signed_cons, outcome_advance_bind ht (by nofun)]
      exact follows_literalAt (succ_lt_length hts ht (by nofun)) (Nat.le_refl _) _
  | operator | reference | lparen | rparen | finish => exact follows_refuse hi _

theorem follows_closingAt (hts : Token.Ends ts) (hi : i < ts.length) (t : Token) (e : Expr) :
    Follows ts (i + 1) ((closing source t (ts.drop i)).map fun r => (e, r.1))
      (outcome (closingAt source ts t e) i) := by
  obtain ⟨⟨kind, text, pos⟩, ht, hdrop⟩ := exists_getElem? hi
  rw [closingAt, outcome_current_bind ht, hdrop]
  cases kind with
  | rparen =>
      rw [outcome_advance_bind ht (by nofun)]
      exact .ok (Nat.le_refl _) (succ_lt_length hts ht (by nofun))
  | number | operator | reference | lparen | finish => exact follows_refuse hi _

/-! ### Expressions -/

theorem follows_factorAt (hts : Token.Ends ts) (hi : i < ts.length)
    (hread : ∀ k, i < k → k < ts.length → Follows ts (k + 1) (readExpression source 1 (ts.drop k))
      (outcome (expressionAt source ts depth 1) k)) :
    Follows ts (i + 1) (readFactor source (ts.drop i))
      (outcome (factorAt source ts (depth + 1)) i) := by
  obtain ⟨⟨kind, text, pos⟩, ht, hdrop⟩ := exists_getElem? hi
  rw [factorAt, outcome_current_bind ht, hdrop, readFactor_cons]
  cases kind with
  | number n =>
      rw [outcome_advance_bind ht (by nofun)]
      exact follows_literalAt (succ_lt_length hts ht (by nofun)) (Nat.le_refl _) _
  | reference key =>
      rw [outcome_advance_bind ht (by nofun)]
      exact .ok (Nat.le_refl _) (succ_lt_length hts ht (by nofun))
  | operator op =>
      have hsigned (negative : Bool) := (follows_signedAt source hts
        (succ_lt_length hts ht (by nofun)) ⟨.operator op, text, pos⟩ negative).mono (Nat.le_succ _)
      cases op with
      | add | sub =>
          dsimp only
          rw [outcome_advance_bind ht (by nofun)]
          exact hsigned _
      | mul | div => exact follows_refuse hi _
  | lparen =>
      rw [outcome_advance_bind ht (by nofun)]
      have hnext := succ_lt_length hts ht (by nofun)
      refine (hread (i + 1) (Nat.lt_succ_self i) hnext).bind fun e k hk hlt => ?_
      exact (follows_closingAt hts hlt _ e).mono (by omega)
  | rparen | finish => exact follows_refuse hi _

theorem follows_chainAt (hts : Token.Ends ts) (hi : i < ts.length) (left : Expr)
    (hread : ∀ k, i < k → k < ts.length → ∀ level : Int,
      Follows ts (k + 1) (readExpression source level.toNat (ts.drop k))
        (outcome (expressionAt source ts depth level) k))
    (hchain : ∀ k, i < k → k < ts.length → ∀ left,
      Follows ts k (readChain source level.toNat left (ts.drop k))
        (outcome (chainAt source ts depth level left) k)) :
    Follows ts i (readChain source level.toNat left (ts.drop i))
      (outcome (chainAt source ts (depth + 1) level left) i) := by
  obtain ⟨⟨kind, text, pos⟩, ht, hdrop⟩ := exists_getElem? hi
  rw [chainAt, outcome_current_bind ht]
  cases kind with
  | operator op =>
      dsimp only
      rw [hdrop, readChain_cons]
      by_cases hop : level ≤ op.precedence
      · rw [if_pos hop, if_pos (Int.toNat_le.mpr hop), outcome_advance_bind ht (by nofun)]
        have hright := hread (i + 1) (Nat.lt_succ_self i) (succ_lt_length hts ht (by nofun))
          (op.precedence + 1 : Nat)
        refine hright.bind fun right k hk hlt => ?_
        exact (hchain k (by omega) hlt (.binary op left right)).mono (by omega)
      · rw [if_neg hop, if_neg fun h => hop (Int.toNat_le.mp h), ← hdrop]
        exact .ok (Nat.le_refl _) hi
  | number | reference | lparen | rparen | finish =>
      have hstop : Stops level.toNat (ts.drop i) := by
        rw [hdrop]
        rintro _ ⟨⟩ op ⟨⟩
      rw [readChain_of_stops hstop]
      exact .ok (Nat.le_refl _) hi

/-- From every token, with calls nested as deeply as the tokens that are left require. -/
theorem follows (source : String) (hts : Token.Ends ts) (depth : Nat) :
    ∀ i, i < ts.length →
      (2 * (ts.length - i) ≤ depth → Follows ts (i + 1) (readFactor source (ts.drop i))
        (outcome (factorAt source ts depth) i)) ∧
      (2 * (ts.length - i) + 1 ≤ depth → ∀ level : Int,
        Follows ts (i + 1) (readExpression source level.toNat (ts.drop i))
          (outcome (expressionAt source ts depth level) i)) ∧
      (2 * (ts.length - i) ≤ depth → ∀ (level : Int) (left : Expr),
        Follows ts i (readChain source level.toNat left (ts.drop i))
          (outcome (chainAt source ts depth level left) i)) := by
  induction depth with
  | zero =>
      intro i hi
      refine ⟨fun h => ?_, fun h => ?_, fun h => ?_⟩ <;> omega
  | succ depth ih =>
      intro i hi
      refine ⟨fun h => ?_, fun h level => ?_, fun h level left => ?_⟩
      -- behind a parenthesis or an operator there is one token less, and so two calls less
      · exact follows_factorAt hts hi fun k hk hlt => (ih k hlt).2.1 (by omega) 1
      · -- the factor is read from the same token, which is the one call more
        rw [expressionAt, readExpression_eq]
        refine ((ih i hi).1 (by omega)).bind fun left k hk hlt => ?_
        exact ((ih k hlt).2.2 (by omega) level left).mono hk
      · exact follows_chainAt hts hi left (fun k hk hlt => (ih k hlt).2.1 (by omega))
          fun k hk hlt => (ih k hlt).2.2 (by omega) level

/-- **Reading stays inside its tokens.**  From any token of a text, and at any level, the index
reads what is read from the tokens there: calls are nested no more deeply than twice for each token
that is left and once more, the index never gets behind the last token, and behind a tree it has
moved on.  Behind an expression there is no operator that could have been taken. -/
theorem follows_of_scan (h : Token.scan source = .ok ts) (hi : i < ts.length) (level : Int)
    (hdepth : 2 * (ts.length - i) + 1 ≤ depth) :
    Follows ts (i + 1) (readFactor source (ts.drop i)) (outcome (factorAt source ts depth) i) ∧
      Follows ts (i + 1) (readExpression source level.toNat (ts.drop i))
        (outcome (expressionAt source ts depth level) i) ∧
      ∀ e k, outcome (expressionAt source ts depth level) i = (.ok e, k) →
        ∃ t, ts[k]? = some t ∧ ∀ op, t.kind = .operator op → op.precedence < level := by
  obtain ⟨hfactor, hexpression, -⟩ := follows source (Token.ends_of_scan h) depth i hi
  refine ⟨hfactor (Nat.le_of_succ_le hdepth), hexpression hdepth level, fun e k hk => ?_⟩
  have hread := hexpression hdepth level
  rw [hk] at hread
  generalize hresult : readExpression source level.toNat (ts.drop i) = result at hread
  cases hread with
  | ok le lt =>
      obtain ⟨t, ht, hdrop⟩ := exists_getElem? lt
      refine ⟨t, ht, fun op hop => ?_⟩
      have hstop := stops_of_readExpression hresult t (by rw [hdrop]; rfl) op hop
      omega

/-- The tokens of `1 - 2 * 3 - A:X`. -/
def differences : List Token :=
  [⟨.number 1, "1", 0⟩, ⟨.operator .sub, "-", 2⟩, ⟨.number 2, "2", 4⟩, ⟨.operator .mul, "*", 6⟩,
    ⟨.number 3, "3", 8⟩, ⟨.operator .sub, "-", 10⟩, ⟨.reference ⟨"A", .x⟩, "A:X", 12⟩,
    ⟨.finish, "", 15⟩]

/-- From the `2` on, only the product is read at level 2, and the index stands at the second
minus. -/
theorem follows_of_scan_product :
    Token.scan "1 - 2 * 3 - A:X" = .ok differences ∧ 2 < differences.length ∧
      2 * (differences.length - 2) + 1 ≤ 13 ∧
      outcome (expressionAt "1 - 2 * 3 - A:X" differences 13 2) 2 =
        (.ok (.binary .mul (.lit 2) (.lit 3)), 5) ∧
      Follows differences 3 (readExpression "1 - 2 * 3 - A:X" 2 (differences.drop 2))
        (.ok (.binary .mul (.lit 2) (.lit 3)), 5) ∧
      ∃ t, differences[5]? = some t ∧ ∀ op, t.kind = .operator op → (op.precedence : Int) < 2 := by
  have hscan : Token.scan "1 - 2 * 3 - A:X" = .ok differences :=
    eq_ok_of_toOption (by decide +kernel)
  have hi : 2 < differences.length := by decide
  have hdepth : 2 * (differences.length - 2) + 1 ≤ 13 := by decide
  obtain ⟨-, hread, hstops⟩ := follows_of_scan hscan hi 2 hdepth
  have hproduct : outcome (expressionAt "1 - 2 * 3 - A:X" differences 13 2) 2 =
      (.ok (.binary .mul (.lit 2) (.lit 3)), 5) := rfl
  obtain ⟨t, ht, hop⟩ := hstops _ _ hproduct
  rw [hproduct] at hread
  exact ⟨hscan, hi, hdepth, hproduct, hread, t, ht, hop⟩

end Cursor

end AxisMixer.Expr
