import AxisMixer.Proofs.Expr.Climbing

/-!
# Expressions — parsing undoes printing

The text of an expression says which tree it is: scanned and parsed it gives the tree again.  This
holds of the trees that can be written at all (`Expr.WellFormed`), which are the trees that parsing
gives.

The words of a text are joined in one direction only, by a run of name characters or by a colon
that follows one, be it behind blanks.  What stands behind a leaf in printed text, an operator with
a blank in front of it or a closing parenthesis (`Token.Boundary`), neither goes on with a name nor
starts with a colon.  So the text is scanned piece by piece (`Token.Scans`).

* `Expr.scans_text`: the text of an expression is scanned as its words.
* `Expr.derives_kinds`: the words of an expression are derived with it as their tree.
* `Expr.wellFormed_of_parse`: what parsing gives can be written.
* `Expr.parse_print`: parsing and printing undo one another.
-/

namespace AxisMixer.Token

open Text (isBlank isWord isWordStart)

/-! ### Where a word ends -/

/-- What may stand behind a leaf of a printed expression. -/
inductive Boundary : List Char → Prop where
  | nil : Boundary []
  | rparen (rest : List Char) : Boundary (')' :: rest)
  | operator (op : Operator) (rest : List Char) : Boundary (' ' :: op.symbol :: rest)

theorem Boundary.takeWhile_isNameChar {rest : List Char} (h : Boundary rest) :
    rest.takeWhile isNameChar = [] := by
  cases h <;> rfl

theorem Boundary.takeWhile_isWord {rest : List Char} (h : Boundary rest) :
    rest.takeWhile isWord = [] := by
  cases h <;> rfl

/-- No colon follows, not even behind blanks. -/
theorem Boundary.no_colon {rest : List Char} (h : Boundary rest) (beyond : List Char) :
    rest.dropWhile isBlank ≠ ':' :: beyond := by
  cases h with
  | nil => rintro ⟨⟩
  | rparen => rintro ⟨⟩
  | operator op => cases op <;> rintro ⟨⟩

theorem Boundary.endsNumber {rest : List Char} (h : Boundary rest) : EndsNumber rest :=
  ⟨h.takeWhile_isNameChar, h.no_colon⟩

/-! ### Words in front of a text -/

/-- In front of `rest`, the text `w` is scanned as tokens of these kinds. -/
def Scans (w : List Char) (kinds : List Kind) (rest : List Char) : Prop :=
  ∀ source pos, ∃ ts : List Token, ts.map Token.kind = kinds ∧
    scanFrom source pos (w ++ rest) = (scanFrom source (pos + w.length) rest).map (ts ++ ·)

theorem Scans.append {w w' : List Char} {kinds kinds' : List Kind} {rest : List Char}
    (h : Scans w kinds (w' ++ rest)) (h' : Scans w' kinds' rest) :
    Scans (w ++ w') (kinds ++ kinds') rest := by
  intro source pos
  obtain ⟨ts, hts, hs⟩ := h source pos
  obtain ⟨ts', hts', hs'⟩ := h' source (pos + w.length)
  refine ⟨ts ++ ts', by rw [List.map_append, hts, hts'], ?_⟩
  rw [List.append_assoc, hs, hs', List.length_append, Nat.add_assoc]
  cases scanFrom source (pos + (w.length + w'.length)) rest with
  | error e => rfl
  | ok us => simp only [Except.map, List.append_assoc]

theorem scans_blank {c : Char} (hc : isBlank c) (rest : List Char) : Scans [c] [] rest := by
  intro source pos
  refine ⟨[], rfl, ?_⟩
  rw [List.singleton_append, scanFrom_blank hc]
  cases scanFrom source (pos + 1) rest <;> rfl

theorem scans_space (rest : List Char) : Scans [' '] [] rest := scans_blank (by decide) rest

/-- A word that is a token of its own. -/
theorem Spells.scans {kind : Kind} {w rest : List Char} (h : Spells kind w)
    (hrest : kind.Ends rest) : Scans w [kind] rest := by
  intro source pos
  refine ⟨[⟨kind, String.ofList w, pos⟩], rfl, ?_⟩
  rw [h.scanFrom_eq hrest]
  rfl

theorem scans_of_ofChar {c : Char} {kind : Kind} (h : Kind.ofChar? c = some kind)
    (rest : List Char) : Scans [c] [kind] rest :=
  (Spells.symbol h).scans (ends_of_ofChar h rest)

theorem scans_operator (op : Operator) (rest : List Char) :
    Scans [op.symbol] [.operator op] rest :=
  scans_of_ofChar (by cases op <;> rfl) rest

theorem scans_number {n : Nat} (hn : (Nat.toDigits 10 n).length ≤ Decimal.maxDigits)
    {rest : List Char} (hrest : Boundary rest) : Scans (Nat.toDigits 10 n) [.number n] rest := by
  have hspells : Spells (.number n) (Nat.toDigits 10 n) :=
    .number Nat.toDigits_ne_nil
      (fun _ hc => Nat.isDigit_of_mem_toDigits (by decide) (by decide) hc)
      (Decimal.numeral?_toDigits hn)
  exact hspells.scans hrest.endsNumber

theorem scans_reference {key : AxisKey} (hkey : isDeviceName key.device) {rest : List Char}
    (hrest : Boundary rest) : Scans key.text.toList [.reference key] rest := by
  obtain ⟨device, axis⟩ := key
  obtain ⟨hne, hall⟩ := isDeviceName_iff_forall.mp hkey
  have htext : (AxisKey.mk device axis).text.toList =
      device.toList ++ ([] ++ ':' :: ([] ++ axis.name.toList)) := by
    simp [AxisKey.text]
  have hspells : Spells (.reference ⟨String.ofList device.toList, axis⟩) _ :=
    .reference axis hne hall (List.forall_mem_nil _) (List.forall_mem_nil _)
  rw [← htext, String.ofList_toList] at hspells
  exact hspells.scans hrest.takeWhile_isWord

end AxisMixer.Token

namespace AxisMixer.Expr

open Token (Kind Scans Boundary)

/-! ### Printed expressions -/

/-- Every literal is in range and every device has a proper name. -/
def WellFormed : Expr → Prop
  | ref key => isDeviceName key.device
  | lit n => InRange n
  | binary _ left right => left.WellFormed ∧ right.WellFormed

instance decidableWellFormed : ∀ e : Expr, Decidable e.WellFormed
  | ref key => inferInstanceAs (Decidable (isDeviceName key.device))
  | lit n => inferInstanceAs (Decidable (InRange n))
  | binary _ left right =>
    have := decidableWellFormed left
    have := decidableWellFormed right
    inferInstanceAs (Decidable (left.WellFormed ∧ right.WellFormed))

/-- The words of the text of an expression. -/
def kinds : Expr → List Kind
  | ref key => [.reference key]
  | lit (.ofNat n) => [.number n]
  | lit (.negSucc n) => [.operator .sub, .number (n + 1)]
  | binary op left right =>
    .lparen :: (left.kinds ++ .operator op :: right.kinds) ++ [.rparen]

/-- The magnitude of a literal has ten digits at most. -/
theorem length_toDigits_le {n : Nat} (h : n ≤ 2147483648) :
    (Nat.toDigits 10 n).length ≤ Decimal.maxDigits := by
  have hlen : (Nat.toDigits 10 n).length ≤ 10 :=
    (Nat.length_toDigits_le_iff (by decide) (by decide)).mpr
      (Nat.lt_of_le_of_lt h (by decide))
  exact Nat.le_trans hlen (by decide)

theorem toList_text_ofNat (n : Nat) : (lit (.ofNat n)).text.toList = Nat.toDigits 10 n := by
  rw [text]
  exact Nat.toList_repr

theorem toList_text_negSucc (n : Nat) :
    (lit (.negSucc n)).text.toList = Operator.sub.symbol :: Nat.toDigits 10 (n + 1) := by
  have h : (lit (.negSucc n)).text = "-" ++ (n + 1).repr := rfl
  rw [h, String.toList_append, Nat.toList_repr]
  rfl

/-- **Scanning printed text.**  In front of a boundary the text of an expression is scanned as its
words, and no piece of it joins a neighbour. -/
theorem scans_text :
    ∀ {e : Expr}, e.WellFormed → ∀ {rest : List Char}, Boundary rest →
      Scans e.text.toList e.kinds rest
  | ref key, he, rest, hrest => Token.scans_reference he hrest
  | lit (.ofNat n), ⟨_, hn⟩, rest, hrest => by
      rw [toList_text_ofNat]
      change (n : Int) ≤ 2147483647 at hn
      exact Token.scans_number (length_toDigits_le (by omega)) hrest
  | lit (.negSucc n), ⟨hn, _⟩, rest, hrest => by
      rw [toList_text_negSucc]
      have hlen : (Nat.toDigits 10 (n + 1)).length ≤ Decimal.maxDigits :=
        length_toDigits_le (by rw [minValue] at hn; omega)
      exact (Token.scans_operator .sub _).append (Token.scans_number hlen hrest)
  | binary op left right, ⟨hl, hr⟩, rest, hrest => by
      -- the pieces of the text, and the words of each
      have htext : (binary op left right).text.toList =
          ['('] ++ (left.text.toList ++ ([' '] ++ ([op.symbol] ++ ([' '] ++
            (right.text.toList ++ [')']))))) := by
        simp [text]
      have hkinds : (binary op left right).kinds =
          [.lparen] ++ (left.kinds ++ ([] ++ ([.operator op] ++ ([] ++
            (right.kinds ++ [.rparen]))))) := by
        simp [kinds]
      rw [htext, hkinds]
      -- from the right, since every piece is scanned in front of the next
      have hclose : Scans (right.text.toList ++ [')']) (right.kinds ++ [.rparen]) rest :=
        (scans_text hr (.rparen rest)).append (Token.scans_of_ofChar rfl rest)
      have hright := (Token.scans_operator op _).append ((Token.scans_space _).append hclose)
      have hleft := (scans_text hl (.operator op _)).append ((Token.scans_space _).append hright)
      exact (Token.scans_of_ofChar rfl _).append hleft

/-- The words of an expression derive it, as a factor. -/
theorem derives_kinds : ∀ {e : Expr}, e.WellFormed → Derives .factor e.kinds e
  | ref key, _ => .reference key
  | lit (.ofNat _), he => .number he
  | lit (.negSucc _), he => .minus he
  | binary op _ _, ⟨hl, hr⟩ => .parens (.pair op (derives_kinds hl) (derives_kinds hr))

/-! ### Parsed expressions -/

theorem wellFormed_leftmost :
    ∀ {links : List Link} {first : Expr}, first.WellFormed → (∀ l ∈ links, l.tree.WellFormed) →
      (leftmost first links).WellFormed
  | [], _, hfirst, _ => hfirst
  | l :: links, first, hfirst, hlinks => by
      obtain ⟨hl, hlinks⟩ := List.forall_mem_cons.mp hlinks
      have hbinary : (binary l.op first l.tree).WellFormed := ⟨hfirst, hl⟩
      show (leftmost (binary l.op first l.tree) links).WellFormed
      exact wellFormed_leftmost hbinary hlinks

/-- A tree derived from lexemes is well formed. -/
theorem Derives.wellFormed {s : Nonterminal} {w : List Kind} {e : Expr} (h : Derives s w e)
    (hw : ∀ k ∈ w, k.IsLexeme) : e.WellFormed := by
  induction h with
  | expr _ _ _ ih ihs | term _ _ _ ih ihs =>
      refine wellFormed_leftmost (ih fun k hk => hw k (List.mem_append_left _ hk)) ?_
      intro l hl
      refine ihs l hl fun k hk => hw k (List.mem_append_right _ ?_)
      exact List.mem_flatMap.mpr ⟨l, hl, List.mem_cons_of_mem _ hk⟩
  | number h | plus h | minus h => exact h
  | reference key => exact hw _ (List.mem_singleton.mpr rfl)
  | parens _ ih =>
      exact ih fun k hk => hw k (List.mem_append_left _ (List.mem_cons_of_mem _ hk))

section

variable {source : String} {ts : List Token} {e : Expr}

theorem parse_of_scan (h : Token.scan source = .ok ts) :
    parse source = (ofTokens source ts).mapError .malformed := by
  rw [parse, h]
  rfl

theorem parse_of_scan_error {err : ReadError} (h : Token.scan source = .error err) :
    parse source = .error err := by
  rw [parse, h]
  rfl

theorem parse_eq_ok :
    parse source = .ok e ↔ ∃ ts, Token.scan source = .ok ts ∧ ofTokens source ts = .ok e := by
  constructor
  · intro h
    cases hs : Token.scan source with
    | error err => cases (parse_of_scan_error hs).symm.trans h
    | ok ts =>
        rw [parse_of_scan hs] at h
        cases ht : ofTokens source ts with
        | error err =>
            rw [ht] at h
            cases h
        | ok e' =>
            rw [ht] at h
            cases h
            exact ⟨ts, rfl, ht⟩
  · rintro ⟨ts, hs, ht⟩
    rw [parse_of_scan hs, ht]
    rfl

theorem parse_eq_malformed {err : SyntaxError} :
    parse source = .error (.malformed err) ↔ Token.scan source = .error (.malformed err) ∨
      ∃ ts, Token.scan source = .ok ts ∧ ofTokens source ts = .error err := by
  constructor
  · intro h
    cases hs : Token.scan source with
    | error err' =>
        cases (parse_of_scan_error hs).symm.trans h
        exact .inl rfl
    | ok ts =>
        rw [parse_of_scan hs] at h
        cases ht : ofTokens source ts with
        | error err' =>
            rw [ht] at h
            cases h
            exact .inr ⟨ts, rfl, ht⟩
        | ok e =>
            rw [ht] at h
            cases h
  · rintro (hs | ⟨ts, hs, ht⟩)
    · exact parse_of_scan_error hs
    · rw [parse_of_scan hs, ht]
      rfl

end

theorem wellFormed_of_parse {source : String} {e : Expr} (h : parse source = .ok e) :
    e.WellFormed := by
  obtain ⟨ts, hs, ht⟩ := parse_eq_ok.mp h
  have hends := Token.ends_of_scan hs
  have hd := (ofTokens_iff hends).mp ht
  obtain ⟨body, pos, rfl, hbody⟩ := hends
  rw [List.dropLast_concat] at hd
  refine hd.wellFormed fun k hk => ?_
  obtain ⟨t, ht, rfl⟩ := List.mem_map.mp hk
  exact hbody t ht

/-- A text that is scanned as words with a tree is parsed as this tree. -/
theorem parse_of_scans {source : String} {w : List Kind} (h : Scans source.toList w []) {e : Expr}
    (he : Derives .expr w e) : parse source = .ok e := by
  obtain ⟨ts, hts, hs⟩ := h source 0
  rw [List.append_nil, Token.scanFrom.eq_def source (0 + _)] at hs
  have hscan : Token.scan source = .ok (ts ++ [Token.finish (0 + source.toList.length)]) := hs
  refine parse_eq_ok.mpr ⟨_, hscan, (ofTokens_iff (Token.ends_of_scan hscan)).mpr ?_⟩
  rwa [List.dropLast_concat, hts]

theorem parse_text {e : Expr} (he : e.WellFormed) : parse e.text = .ok e :=
  parse_of_scans (scans_text he .nil) (derives_kinds he).of_factor.of_term

/-- **Parsing undoes printing.**  Every tree that can be written is parsed back from its text, and
all that is parsed can be written.  Hence the text of what is parsed is parsed again as the same
tree, and trees with the same text are the same. -/
theorem parse_print :
    (∀ e : Expr, e.WellFormed → parse e.text = .ok e) ∧
      (∀ source e, parse source = .ok e → e.WellFormed) ∧
      (∀ source e, parse source = .ok e → parse e.text = .ok e) ∧
      ∀ e e' : Expr, e.WellFormed → e'.WellFormed → e.text = e'.text → e = e' := by
  refine ⟨fun e => parse_text, fun source e => wellFormed_of_parse, ?_, ?_⟩
  · intro source e h
    exact parse_text (wellFormed_of_parse h)
  · intro e e' he he' htext
    have h := parse_text he
    rw [htext, parse_text he'] at h
    cases h
    rfl

/-- A device called like a number, and the least literal, whose magnitude is out of range. -/
theorem parse_print_least :
    parse "(7:X - -2147483648)" = .ok (.binary .sub (.ref ⟨"7", .x⟩) (.lit minValue)) :=
  parse_print.1 (.binary .sub (.ref ⟨"7", .x⟩) (.lit minValue)) (by decide)

end AxisMixer.Expr
