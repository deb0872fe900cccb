import AxisMixer.Proofs.Expr.Printing

/-!
# Expressions — a numeral can be too long to be read at all

Whatever is wrong with a text, the error says what, and where (`ReadError.malformed`).  There is one
exception, a numeral of more than `Decimal.maxDigits` digits.  It has no value that could be out of
range, and reading stops at it with an error that tells nothing (`ReadError.numeralTooLong`), even
where its digits are zeros.

When this happens is said without scanning.  A text is made of words and blanks up to some place
(`Worded`), and the words are symbols, numbers that are not too long, and references; at that place
there stands a numeral that is too long (`Overlong`).  What follows the numeral is of no account,
unless it makes a device name of it.

* `Expr.parse_outcome`: what parsing a text comes to.
* `Expr.parse_zeros`: a text on which it stops like that.
-/

namespace AxisMixer.Token

open Text (isBlank isWord isWordStart)

/-! ### Words -/

/-- The words of expression text, in front of what follows them. -/
inductive Word : List Char → List Char → Prop where
  | symbol {c : Char} {kind : Kind} (h : Kind.ofChar? c = some kind) (rest : List Char) :
      Word [c] rest
  | number {digits rest : List Char} (hne : digits ≠ []) (hdigits : ∀ c ∈ digits, c.isDigit)
      (hlength : digits.length ≤ Decimal.maxDigits) (hrest : EndsNumber rest) : Word digits rest
  | reference {device before behind rest : List Char} (axis : Axis) (hne : device ≠ [])
      (hdevice : ∀ c ∈ device, isNameChar c) (hbefore : ∀ c ∈ before, isBlank c)
      (hbehind : ∀ c ∈ behind, isBlank c) (hrest : rest.takeWhile isWord = []) :
      Word (device ++ (before ++ ':' :: (behind ++ axis.name.toList))) rest

/-- Words and blanks, in front of what follows them. -/
inductive Worded : List Char → List Char → Prop where
  | nil (rest : List Char) : Worded [] rest
  | blank {c : Char} {cs rest : List Char} (hc : isBlank c) (h : Worded cs rest) :
      Worded (c :: cs) rest
  | word {w cs rest : List Char} (hw : Word w (cs ++ rest)) (h : Worded cs rest) :
      Worded (w ++ cs) rest

/-- A numeral with too many digits, in front of what follows it. -/
structure Overlong (digits rest : List Char) : Prop where
  isDigit : ∀ c ∈ digits, c.isDigit
  length : Decimal.maxDigits < digits.length
  ends : EndsNumber rest

/-! ### Words are scanned -/

theorem scans_nil (rest : List Char) : Scans [] [] rest := by
  intro source pos
  refine ⟨[], rfl, ?_⟩
  rw [List.nil_append]
  cases scanFrom source (pos + ([] : List Char).length) rest <;> rfl

theorem Word.scans {w rest : List Char} (h : Word w rest) : ∃ kind, Scans w [kind] rest := by
  cases h with
  | symbol h rest => exact ⟨_, scans_of_ofChar h rest⟩
  | number hne hdigits hlength hrest =>
      exact ⟨_, (Spells.number hne hdigits (if_pos hlength)).scans hrest⟩
  | reference axis hne hdevice hbefore hbehind hrest =>
      exact ⟨_, (Spells.reference axis hne hdevice hbefore hbehind).scans hrest⟩

theorem Worded.scans {cs rest : List Char} (h : Worded cs rest) : ∃ kinds, Scans cs kinds rest := by
  induction h with
  | nil rest => exact ⟨[], scans_nil rest⟩
  | blank hc _ ih =>
      obtain ⟨kinds, ih⟩ := ih
      exact ⟨_, (scans_blank hc _).append ih⟩
  | word hw _ ih =>
      obtain ⟨kind, hw⟩ := hw.scans
      obtain ⟨kinds, ih⟩ := ih
      exact ⟨_, hw.append ih⟩

/-- Scanning stops at a numeral that is too long. -/
theorem Overlong.scanFrom_eq {digits rest : List Char} (h : Overlong digits rest) (source : String)
    (pos : Nat) : scanFrom source pos (digits ++ rest) = .error .numeralTooLong := by
  obtain ⟨hdigits, hlength, hrest⟩ := h
  obtain ⟨c, cs, rfl⟩ := List.exists_cons_of_length_pos (Nat.zero_lt_of_lt hlength)
  have hnone : Decimal.numeral? (c :: cs) = none := if_neg (Nat.not_le_of_lt hlength)
  have hname : ∀ b ∈ c :: cs, isNameChar b := fun b hb => isNameChar_of_isDigit (hdigits b hb)
  obtain ⟨hc, hcs⟩ := List.forall_mem_cons.mp hname
  rw [List.cons_append, scanFrom_lexeme (not_isBlank_of_isNameChar hc),
    lexeme_number hc hcs hrest, number, if_pos (List.all_eq_true.mpr hdigits),
    hnone]
  rfl

/-! ### What is scanned is a word -/

theorem Spells.word {kind : Kind} {w rest : List Char} (h : Spells kind w)
    (hrest : kind.Ends rest) : Word w rest := by
  cases h with
  | symbol h => exact .symbol h rest
  | number hne hdigits hvalue =>
      refine .number hne hdigits (Nat.le_of_not_lt fun hlength => ?_) hrest
      rw [Decimal.numeral?, if_neg (Nat.not_le_of_lt hlength)] at hvalue
      cases hvalue
  | reference axis hne hdevice hbefore hbehind =>
      exact .reference axis hne hdevice hbefore hbehind hrest

theorem Cut.worded {pos : Nat} {cs rest : List Char} {ts : List Token} (h : Cut pos cs ts rest) :
    Worded cs rest := by
  induction h with
  | nil _ rest => exact .nil rest
  | blank hc _ ih => exact .blank hc ih
  | token hw ends _ ih => exact .word (hw.word ends) ih

/-! ### Where scanning stops -/

/-- Scanning does not stop at a numeral unless it is too long and behind words and blanks. -/
theorem overlong_of_scanFrom {source : String} {pos : Nat} {cs : List Char}
    (h : scanFrom source pos cs = .error .numeralTooLong) :
    ∃ before digits rest, cs = before ++ (digits ++ rest) ∧ Worded before (digits ++ rest) ∧
      Overlong digits rest := by
  rcases scanFrom_cases source pos cs with
    ⟨body, hs, -⟩ | ⟨before, body, c, rest, err, hs, rfl, hcut, hl⟩
  · cases hs.symm.trans h
  · obtain rfl := Except.error.inj (hs.symm.trans h)
    rcases lexeme_cases source (pos + before.length) c rest with
      ⟨kind, w, r, hl', -⟩ | ⟨-, digits, r, hsplit, hdigits, hlength, hends⟩ | ⟨e, hl', -⟩
    · cases hl.symm.trans hl'
    · rw [hsplit] at hcut ⊢
      exact ⟨before, digits, r, rfl, hcut.worded, hdigits, hlength, hends⟩
    · cases hl.symm.trans hl'

/-- **Where scanning stops.**  It stops without a reason at a numeral that is too long, with words
and blanks in front of it, and nowhere else. -/
theorem scanFrom_eq_numeralTooLong_iff {source : String} {pos : Nat} {cs : List Char} :
    scanFrom source pos cs = .error .numeralTooLong ↔
      ∃ before digits rest, cs = before ++ (digits ++ rest) ∧ Worded before (digits ++ rest) ∧
        Overlong digits rest := by
  refine ⟨overlong_of_scanFrom, ?_⟩
  rintro ⟨before, digits, rest, rfl, hbefore, hlong⟩
  obtain ⟨kinds, hscans⟩ := hbefore.scans
  obtain ⟨ts, -, hts⟩ := hscans source pos
  rw [hts, hlong.scanFrom_eq]
  rfl

end AxisMixer.Token

namespace AxisMixer.Expr

open Token (Worded Overlong)

/-! ### Where parsing stops -/

theorem parse_eq_numeralTooLong_iff {source : String} :
    parse source = .error .numeralTooLong ↔ Token.scan source = .error .numeralTooLong := by
  cases hs : Token.scan source with
  | error err => rw [parse_of_scan_error hs, Except.error.injEq, Except.error.injEq]
  | ok ts =>
      rw [parse_of_scan hs]
      simp only [reduceCtorEq, iff_false]
      cases ofTokens source ts <;> rintro ⟨⟩

/-- **What parsing comes to.**  A text stops it without a reason if it has a numeral that is too
long, with words and blanks alone in front of it.  Any other text gives an expression, or an error
that says what is wrong with the text. -/
theorem parse_outcome (source : String) :
    let stops := ∃ before digits rest, source.toList = before ++ (digits ++ rest) ∧
      Worded before (digits ++ rest) ∧ Overlong digits rest
    (parse source = .error .numeralTooLong ↔ stops) ∧
      (¬ stops → (∃ e, parse source = .ok e) ∨ ∃ e, parse source = .error (.malformed e)) := by
  intro stops
  have hstops : parse source = .error .numeralTooLong ↔ stops :=
    parse_eq_numeralTooLong_iff.trans Token.scanFrom_eq_numeralTooLong_iff
  refine ⟨hstops, fun h => ?_⟩
  rcases hp : parse source with (e | _) | e
  · exact .inr ⟨e, rfl⟩
  · exact absurd (hstops.mp hp) h
  · exact .inl ⟨e, rfl⟩

/-- The number zero, written with one digit too many. -/
theorem parse_zeros :
    let source := String.ofList (List.replicate 4301 '0')
    ¬ ((∃ e, parse source = .ok e) ∨ ∃ e, parse source = .error (.malformed e)) := by
  intro source
  have hlong : Overlong (List.replicate 4301 '0') [] :=
    ⟨fun c hc => List.eq_of_mem_replicate hc ▸ rfl, by rw [List.length_replicate]; decide, rfl,
      fun beyond h => by cases h⟩
  have hparse : parse source = .error .numeralTooLong := by
    refine parse_eq_numeralTooLong_iff.mpr (Token.scanFrom_eq_numeralTooLong_iff.mpr ?_)
    refine ⟨[], List.replicate 4301 '0', [], ?_, .nil _, hlong⟩
    rw [String.toList_ofList, List.nil_append, List.append_nil]
  rw [hparse]
  rintro (⟨e, he⟩ | ⟨e, he⟩) <;> cases he

end AxisMixer.Expr
