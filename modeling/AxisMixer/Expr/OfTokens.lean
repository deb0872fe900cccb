import AxisMixer.Expr.Lexeme
import AxisMixer.Expr.Value

/-!
# From tokens to expressions

    expr   := term (("+" | "-") term)*
    term   := factor (("*" | "/") factor)*
    factor := ["+" | "-"] number | reference | "(" expr ")"

Operators associate to the left, and a literal, its sign included, lies between `minValue` and
`maxValue`.  Chains are read by precedence: `Expr.expression` at level `p` takes the operators
of precedence at least `p`, and the right operand of an operator is read one level higher, so that
it absorbs only operators that bind tighter.

Each function returns the tokens it leaves, with the proof that they are fewer.

* `Expr.ofTokens`: the expression that a whole list of tokens denotes.
* `Expr.parse`: the expression that a text denotes.
-/

namespace AxisMixer.Expr

/-- The token that stands next; the end of the source if there is none. -/
def next (source : String) (ts : List Token) : Token :=
  ts.head?.getD (Token.finish source.toList.length)

/-- The literal `value`, which starts at the token `t`. -/
def literal (source : String) (t : Token) (value : Int) : Except SyntaxError Expr :=
  if minValue ≤ value ∧ value ≤ maxValue then .ok (.lit value)
  else .error (.atToken source t (.literalOutOfRange value))

/-- The literal behind the sign `t`. -/
def signed (source : String) (t : Token) (negative : Bool) (ts : List Token) :
    Except SyntaxError (Expr × { r : List Token // r.length < ts.length + 1 }) :=
  match ts with
  | ⟨.number n, _, _⟩ :: rest =>
    match literal source t (if negative then -n else n) with
    | .error e => .error e
    | .ok e => .ok (e, ⟨rest, by simp only [List.length_cons]; omega⟩)
  | _ => .error (.atToken source (next source ts) (.missingNumber t (next source ts)))

/-- What follows the parenthesis that closes the parenthesis `t`. -/
def closing (source : String) (t : Token) (ts : List Token) :
    Except SyntaxError { r : List Token // r.length < ts.length } :=
  match ts with
  | ⟨.rparen, _, _⟩ :: rest => .ok ⟨rest, by simp⟩
  | _ => .error (.atToken source (next source ts) (.unclosed t.position (next source ts)))

mutual

/-- A literal, a reference, or an expression in parentheses. -/
def factor (source : String) (ts : List Token) :
    Except SyntaxError (Expr × { r : List Token // r.length < ts.length }) :=
  match ts with
  | [] => .error (.atToken source (next source []) (.unexpected (next source [])))
  | t :: rest =>
    match t.kind with
    | .number n =>
      match literal source t n with
      | .error e => .error e
      | .ok e => .ok (e, ⟨rest, by simp⟩)
    | .operator .add => signed source t false rest
    | .operator .sub => signed source t true rest
    | .reference key => .ok (.ref key, ⟨rest, by simp⟩)
    | .lparen =>
      match expression source 1 rest with
      | .error e => .error e
      | .ok (e, ⟨r, h⟩) =>
        match closing source t r with
        | .error e => .error e
        | .ok ⟨r', h'⟩ => .ok (e, ⟨r', by simp only [List.length_cons]; omega⟩)
    | _ => .error (.atToken source t (.unexpected t))
termination_by (ts.length, 0)

/-- A factor and the operators of precedence at least `level` that follow it. -/
def expression (source : String) (level : Nat) (ts : List Token) :
    Except SyntaxError (Expr × { r : List Token // r.length < ts.length }) :=
  match factor source ts with
  | .error e => .error e
  | .ok (left, ⟨r, h⟩) =>
    match chain source level left r with
    | .error e => .error e
    | .ok (e, ⟨r', h'⟩) => .ok (e, ⟨r', by omega⟩)
termination_by (ts.length, 1)

/-- The operators of precedence at least `level` that follow the operand `left`. -/
def chain (source : String) (level : Nat) (left : Expr) (ts : List Token) :
    Except SyntaxError (Expr × { r : List Token // r.length ≤ ts.length }) :=
  match ts with
  | ⟨.operator op, _, _⟩ :: rest =>
    if level ≤ op.precedence then
      match expression source (op.precedence + 1) rest with
      | .error e => .error e
      | .ok (right, ⟨r, h⟩) =>
        match chain source level (.binary op left right) r with
        | .error e => .error e
        | .ok (e, ⟨r', h'⟩) => .ok (e, ⟨r', by simp only [List.length_cons]; omega⟩)
    else .ok (left, ⟨_, Nat.le_refl _⟩)
  | ts => .ok (left, ⟨ts, Nat.le_refl _⟩)
termination_by (ts.length, 0)

end

/-- The expression that the tokens denote; only the end of the source may follow it. -/
def ofTokens (source : String) (ts : List Token) : Except SyntaxError Expr :=
  match expression source 1 ts with
  | .error e => .error e
  | .ok (e, ⟨r, _⟩) =>
    match (next source r).kind with
    | .finish => .ok e
    | _ => .error (.atToken source (next source r) (.unexpected (next source r)))

/-- The expression that the text denotes. -/
def parse (source : String) : Except ReadError Expr := do
  let ts ← Token.scan source
  (ofTokens source ts).mapError .malformed

end AxisMixer.Expr
