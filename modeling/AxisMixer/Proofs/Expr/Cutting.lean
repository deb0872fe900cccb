import AxisMixer.Proofs.Expr.Spelling

/-!
# Tokens — where a text is cut

A text is cut into tokens if their spellings stand in it one behind the other and the rest of it is
blank (`Cut`).  Scanning is a recursion over the text that is left; `scanFrom_blank` and
`scanFrom_lexeme` are its steps.

* `Cut.scanFrom_eq`, `scanFrom_cases`: a text is scanned as it is cut, to its end or up to the first
  lexeme that is no token.
* `ends_of_scan`: the tokens of a text are a run of lexemes and the end of the text, which stands
  nowhere else.
-/

namespace AxisMixer.Token

open Text (isBlank)

/-! ### Steps of scanning -/

theorem scanFrom_blank {source : String} {pos : Nat} {c : Char} {rest : List Char}
    (h : isBlank c) : scanFrom source pos (c :: rest) = scanFrom source (pos + 1) rest := by
  rw [scanFrom.eq_def]
  exact if_pos h

theorem scanFrom_lexeme {source : String} {pos : Nat} {c : Char} {rest : List Char}
    (h : ¬ isBlank c) :
    scanFrom source pos (c :: rest) =
      (lexeme source pos c rest).bind fun x =>
        (scanFrom source (pos + x.1.text.length) x.2).map (x.1 :: ·) := by
  rw [scanFrom.eq_def]
  refine (if_neg h).trans ?_
  split
  · next e he =>
      rw [he]
      rfl
  · next t r he =>
      simp only [he, Except.bind]
      cases scanFrom source (pos + t.text.length) r <;> rfl

theorem Spells.scanFrom_eq {kind : Kind} {w rest : List Char} (h : Spells kind w)
    (hrest : kind.Ends rest) (source : String) (pos : Nat) :
    scanFrom source pos (w ++ rest) =
      (scanFrom source (pos + w.length) rest).map (⟨kind, String.ofList w, pos⟩ :: ·) := by
  obtain ⟨c, cs, hw, hc, hlexeme⟩ := h.lexeme_eq hrest
  have hscan : scanFrom source pos (c :: (cs ++ rest)) = _ := scanFrom_lexeme hc
  rw [hw, List.cons_append, hscan, hlexeme, ← hw]
  simp only [Except.bind, String.length_ofList]

/-! ### Texts cut into tokens -/

/-- From offset `pos` on and in front of `rest`, the text is made of these tokens and of blanks. -/
inductive Cut : Nat → List Char → List Token → List Char → Prop where
  | nil (pos : Nat) (rest : List Char) : Cut pos [] [] rest
  | blank {pos : Nat} {c : Char} {cs rest : List Char} {ts : List Token} (hc : isBlank c)
      (h : Cut (pos + 1) cs ts rest) : Cut pos (c :: cs) ts rest
  | token {pos : Nat} {kind : Kind} {w cs rest : List Char} {ts : List Token}
      (hw : Spells kind w) (ends : kind.Ends (cs ++ rest)) (h : Cut (pos + w.length) cs ts rest) :
      Cut pos (w ++ cs) (⟨kind, String.ofList w, pos⟩ :: ts) rest

theorem Cut.append {pos : Nat} {cs cs' rest : List Char} {ts ts' : List Token}
    (h : Cut pos cs ts (cs' ++ rest)) (h' : Cut (pos + cs.length) cs' ts' rest) :
    Cut pos (cs ++ cs') (ts ++ ts') rest := by
  generalize hbehind : cs' ++ rest = behind at h
  induction h with
  | nil => exact h'
  | blank hc _ ih =>
      refine .blank hc (ih ?_ hbehind)
      rwa [List.length_cons, Nat.add_comm _ 1, ← Nat.add_assoc] at h'
  | token hw ends _ ih =>
      rw [List.append_assoc, List.cons_append]
      refine .token hw ?_ (ih ?_ hbehind)
      · rwa [List.append_assoc, hbehind]
      · rwa [List.length_append, ← Nat.add_assoc] at h'

theorem Cut.blanks {bs : List Char} (h : ∀ c ∈ bs, isBlank c) (pos : Nat) (rest : List Char) :
    Cut pos bs [] rest := by
  induction bs generalizing pos with
  | nil => exact .nil pos rest
  | cons b bs ih =>
      obtain ⟨hb, hbs⟩ := List.forall_mem_cons.mp h
      exact .blank hb (ih hbs _)

/-- A text is scanned as it is cut. -/
theorem Cut.scanFrom_eq {pos : Nat} {cs rest : List Char} {ts : List Token}
    (h : Cut pos cs ts rest) (source : String) :
    scanFrom source pos (cs ++ rest) =
      (scanFrom source (pos + cs.length) rest).map (ts ++ ·) := by
  induction h with
  | nil pos rest =>
      rw [List.nil_append]
      cases scanFrom source (pos + ([] : List Char).length) rest <;> rfl
  | @blank pos c cs rest ts hc _ ih =>
      rw [List.cons_append, scanFrom_blank hc, ih, List.length_cons, Nat.add_assoc,
        Nat.add_comm 1]
  | @token pos kind w cs rest ts hw ends _ ih =>
      rw [List.append_assoc, hw.scanFrom_eq ends, ih, List.length_append, Nat.add_assoc]
      cases scanFrom source (pos + (w.length + cs.length)) rest <;> rfl

theorem Cut.scan_eq {source : String} {ts : List Token} (h : Cut 0 source.toList ts []) :
    scan source = .ok (ts ++ [finish source.length]) := by
  have hscan := h.scanFrom_eq source
  rw [List.append_nil, scanFrom.eq_def source (0 + _), Nat.zero_add, String.length_toList] at hscan
  exact hscan

/-- **Scanning cuts.**  It comes to the end of the text, which is then cut into the tokens that it
gives; or it stops in front of something that is no token, and the text is cut up to there. -/
theorem scanFrom_cases (source : String) : ∀ (pos : Nat) (cs : List Char),
    (∃ body, scanFrom source pos cs = .ok (body ++ [finish (pos + cs.length)]) ∧
      Cut pos cs body []) ∨
    ∃ before body c rest err, scanFrom source pos cs = .error err ∧ cs = before ++ c :: rest ∧
      Cut pos before body (c :: rest) ∧ lexeme source (pos + before.length) c rest = .error err
  | pos, [] => .inl ⟨[], by rw [scanFrom.eq_def]; rfl, .nil pos []⟩
  | pos, c :: rest => by
      by_cases hb : isBlank c
      · have hpos (n : Nat) : pos + (n + 1) = pos + 1 + n := by rw [Nat.add_assoc, Nat.add_comm n]
        rw [scanFrom_blank hb]
        rcases scanFrom_cases source (pos + 1) rest with
          ⟨body, hs, hcut⟩ | ⟨before, body, c', r, err, hs, rfl, hcut, hl⟩
        · refine .inl ⟨body, ?_, .blank hb hcut⟩
          rw [hs, List.length_cons, hpos rest.length]
        · refine .inr ⟨c :: before, body, c', r, err, hs, rfl, .blank hb hcut, ?_⟩
          rwa [List.length_cons, hpos]
      · have hscan : scanFrom source pos (c :: rest) = _ := scanFrom_lexeme hb
        cases hl : lexeme source pos c rest with
        | error err =>
            refine .inr ⟨[], [], c, rest, err, ?_, rfl, .nil pos _, hl⟩
            rw [hscan, hl]
            rfl
        | ok x =>
            have hr := length_of_lexeme hl
            rcases lexeme_cases source pos c rest with
              ⟨kind, w, r, hl', hw, hspells, hends⟩ | ⟨hl', -⟩ | ⟨e, hl', -⟩
            · obtain rfl := Except.ok.inj (hl.symm.trans hl')
              rw [hl] at hscan
              simp only [Except.bind, String.length_ofList] at hscan
              rw [hw] at hscan ⊢
              rcases scanFrom_cases source (pos + w.length) r with
                ⟨body, hs, hcut⟩ | ⟨before, body, c', r', err, hs, rfl, hcut, hl''⟩
              · rw [← List.append_nil r] at hends
                refine .inl ⟨_, ?_, .token hspells hends hcut⟩
                rw [hscan, hs, List.length_append, Nat.add_assoc]
                rfl
              · refine .inr ⟨w ++ before, _, c', r', err, ?_, ?_, .token hspells hends hcut, ?_⟩
                · rw [hscan, hs]
                  rfl
                · rw [List.append_assoc]
                · rwa [List.length_append, ← Nat.add_assoc]
            · cases hl.symm.trans hl'
            · cases hl.symm.trans hl'
termination_by _ cs => cs.length
decreasing_by
  · exact Nat.lt_succ_self _
  · exact Nat.lt_succ_of_le hr

/-- The tokens of a text are those into which it is cut, and its end. -/
theorem cut_of_scan {source : String} {ts : List Token} (h : scan source = .ok ts) :
    ∃ body, ts = body ++ [finish source.length] ∧ Cut 0 source.toList body [] := by
  rw [scan] at h
  rcases scanFrom_cases source 0 source.toList with
    ⟨body, hs, hcut⟩ | ⟨before, body, c, rest, err, hs, -⟩
  · rw [hs, Nat.zero_add, String.length_toList] at h
    exact ⟨body, (Except.ok.inj h).symm, hcut⟩
  · rw [hs] at h
    cases h

/-- A text that cannot be scanned is cut up to something that is no token. -/
theorem cut_of_scan_error {source : String} {err : ReadError} (h : scan source = .error err) :
    ∃ before body c rest, source.toList = before ++ c :: rest ∧
      Cut 0 before body (c :: rest) ∧ lexeme source before.length c rest = .error err := by
  rw [scan] at h
  rcases scanFrom_cases source 0 source.toList with
    ⟨body, hs, -⟩ | ⟨before, body, c, rest, err', hs, hsource, hcut, hl⟩
  · rw [hs] at h
    cases h
  · obtain rfl := Except.error.inj (hs.symm.trans h)
    rw [Nat.zero_add] at hl
    exact ⟨before, body, c, rest, hsource, hcut, hl⟩

/-! ### The tokens of a text -/

/-- What a lexeme may be: not the end of the text, and a reference only to a proper name. -/
def Kind.IsLexeme : Kind → Prop
  | .reference key => isDeviceName key.device
  | .finish => False
  | .number _ | .operator _ | .lparen | .rparen => True

/-- The tokens end with the end of the text, and all others are lexemes. -/
def Ends (ts : List Token) : Prop :=
  ∃ body pos, ts = body ++ [finish pos] ∧ ∀ t ∈ body, t.kind.IsLexeme

theorem Spells.isLexeme {kind : Kind} {w : List Char} (h : Spells kind w) : kind.IsLexeme := by
  cases kind with
  | finish => exact h.ne_finish
  | reference key => exact h.of_reference.1
  | number | operator | lparen | rparen => trivial

theorem Cut.isLexeme {pos : Nat} {cs rest : List Char} {ts : List Token} (h : Cut pos cs ts rest) :
    ∀ t ∈ ts, t.kind.IsLexeme := by
  induction h with
  | nil => exact List.forall_mem_nil _
  | blank _ _ ih => exact ih
  | token hw _ _ ih => exact List.forall_mem_cons.mpr ⟨hw.isLexeme, ih⟩

theorem ends_of_scan {source : String} {ts : List Token} (h : scan source = .ok ts) : Ends ts := by
  obtain ⟨body, rfl, hcut⟩ := cut_of_scan h
  exact ⟨body, source.length, rfl, hcut.isLexeme⟩

end AxisMixer.Token
