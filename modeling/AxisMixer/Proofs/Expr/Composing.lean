import AxisMixer.Proofs.Expr.Spacing

/-!
# Expressions — texts put together are parsed as trees put together

A text that is parsed keeps its tree in parentheses.  An operator between two of them, each in
parentheses, is the root of a tree with theirs as its operands; and behind a sum no parentheses are
needed in front of a plus or minus sign, since such a sign takes all that is to its left
(`Expr.parse_composed`).

A parenthesis or an operator ends every token in front of it and joins nothing, so a text that
stands in front of one is scanned as if it stood alone (`Token.Cut.scans`).
-/

namespace AxisMixer.Token

/-- A symbol ends every token in front of it. -/
theorem replaces_symbol {c : Char} {kind : Kind} (h : Kind.ofChar? c = some kind)
    (rest : List Char) : Replaces [] (c :: rest) := by
  obtain ⟨hblank, hname, hword⟩ := of_ofChar h
  constructor
  · rintro _ ⟨⟩
    exact .inr ⟨by rw [hname]; decide, by rw [hword]; decide⟩
  · rw [List.dropWhile_cons_of_neg (by rw [hblank]; decide)]
    rintro ⟨⟩
    cases h

/-- A text is scanned as it is cut, wherever it stands and whatever takes the place of what is
behind it. -/
theorem Cut.scans {pos : Nat} {cs rest rest' : List Char} {ts : List Token}
    (h : Cut pos cs ts rest) (hrest : Replaces rest rest') :
    Scans cs (ts.map Token.kind) rest' := by
  intro source pos'
  have hnone : ∀ o : Nat, ([] : List Char) ≠ [] → Gap ts o := fun _ hne => absurd rfl hne
  obtain ⟨ts', hcut, hkinds⟩ := h.spread (fun _ => List.forall_mem_nil _) hnone hrest pos'
  rw [spread_eq_self fun _ _ _ => rfl] at hcut
  exact ⟨ts', hkinds, hcut.scanFrom_eq source⟩

/-- A piece of text in parentheses. -/
theorem Scans.parens {w : List Char} {kinds : List Kind}
    (h : ∀ rest, Scans w kinds (')' :: rest)) (rest : List Char) :
    Scans (['('] ++ (w ++ [')'])) (.lparen :: kinds ++ [.rparen]) rest :=
  (scans_of_ofChar rfl _).append ((h rest).append (scans_of_ofChar rfl rest))

end AxisMixer.Token

namespace AxisMixer.Expr

open Token (Kind Scans Replaces)

/-- The words of a text that is parsed, scanned in front of whatever ends a token. -/
theorem exists_scans_of_parse {source : String} {e : Expr} (h : parse source = .ok e) :
    ∃ w, Derives .expr w e ∧ ∀ rest, Replaces [] rest → Scans source.toList w rest := by
  obtain ⟨ts, hs, ht⟩ := parse_eq_ok.mp h
  have hd := (ofTokens_iff (Token.ends_of_scan hs)).mp ht
  obtain ⟨body, rfl, hcut⟩ := Token.cut_of_scan hs
  rw [List.dropLast_concat] at hd
  exact ⟨_, hd, fun rest hrest => hcut.scans hrest⟩

/-- **Parsing is compositional.**  A text that is parsed has the same tree in parentheses; with an
operator between two such texts the tree has this operator at its root; and the first text needs no
parentheses if the operator is a plus or minus sign. -/
theorem parse_composed {a b : String} {l r : Expr} (ha : parse a = .ok l) (hb : parse b = .ok r) :
    parse ("(" ++ a ++ ")") = .ok l ∧
      (∀ op : Operator, parse ("(" ++ a ++ ")" ++ op.symbol.toString ++ "(" ++ b ++ ")") =
        .ok (.binary op l r)) ∧
      ∀ op ∈ [Operator.add, .sub], parse (a ++ op.symbol.toString ++ "(" ++ b ++ ")") =
        .ok (.binary op l r) := by
  obtain ⟨w, hl, hw⟩ := exists_scans_of_parse ha
  obtain ⟨w', hr, hw'⟩ := exists_scans_of_parse hb
  have hfirst := Scans.parens fun rest => hw _ (Token.replaces_symbol rfl rest)
  have hsecond := Scans.parens fun rest => hw' _ (Token.replaces_symbol rfl rest)
  have hop (op : Operator) := (Token.scans_operator op _).append (hsecond [])
  have hsymbol (op : Operator) : Kind.ofChar? op.symbol = some (.operator op) := by
    cases op <;> rfl
  refine ⟨parse_of_scans ?_ hl.parens.of_factor.of_term, fun op => ?_, fun op hmem => ?_⟩
  · have htext : ("(" ++ a ++ ")").toList = ['('] ++ (a.toList ++ [')']) := by
      simp
    rw [htext]
    exact hfirst []
  · have htext : ("(" ++ a ++ ")" ++ op.symbol.toString ++ "(" ++ b ++ ")").toList =
        (['('] ++ (a.toList ++ [')'])) ++ ([op.symbol] ++ (['('] ++ (b.toList ++ [')']))) := by
      simp
    refine parse_of_scans ?_ (.pair op hl.parens hr.parens)
    rw [htext]
    exact (hfirst _).append (hop op)
  · have htext : (a ++ op.symbol.toString ++ "(" ++ b ++ ")").toList =
        a.toList ++ ([op.symbol] ++ (['('] ++ (b.toList ++ [')']))) := by
      simp
    refine parse_of_scans ?_ (.link hmem hl hr.parens.of_factor)
    rw [htext]
    exact (hw _ (Token.replaces_symbol (hsymbol op) _)).append (hop op)

/-- A difference in front of a minus sign is its left operand. -/
theorem parse_composed_difference :
    parse "1 - 2" = .ok (.binary .sub (.lit 1) (.lit 2)) ∧ parse "A:X" = .ok (.ref ⟨"A", .x⟩) ∧
      parse "1 - 2-(A:X)" =
        .ok (.binary .sub (.binary .sub (.lit 1) (.lit 2)) (.ref ⟨"A", .x⟩)) := by
  have hscan : Token.scan "1 - 2" = .ok [⟨.number 1, "1", 0⟩, ⟨.operator .sub, "-", 2⟩,
      ⟨.number 2, "2", 4⟩, ⟨.finish, "", 5⟩] := eq_ok_of_toOption (by decide +kernel)
  have hdifference :=
    Derives.pair .sub (.number (n := 1) (by decide)) (.number (n := 2) (by decide))
  have ha : parse "1 - 2" = .ok (.binary .sub (.lit 1) (.lit 2)) :=
    (parse_eq_ok_iff hscan _).mpr hdifference
  have hb : parse "A:X" = .ok (.ref ⟨"A", .x⟩) := parse_text (e := .ref ⟨"A", .x⟩) (by decide)
  obtain ⟨-, -, hsum⟩ := parse_composed ha hb
  exact ⟨ha, hb, hsum .sub (by decide)⟩

end AxisMixer.Expr
