import AxisMixer.Expr.Lexeme
import Mathlib.Data.List.TakeWhile

/-!
# Tokens — how they are spelled

Which token a text starts with is said here without scanning.  A token of each kind has its spelling
(`Spells`), and what follows it neither goes on with it nor makes something else of it
(`Kind.Ends`): behind a number there is no character of a name and no colon, and behind a reference
no character of a word.

* `Spells.lexeme_eq`: a token that is spelled and ends is taken as a whole.
* `lexeme_cases`: a text starts with a token, with a numeral that is too long, or with something of
  which an error says what is wrong with it (`Misread`).
-/

namespace AxisMixer.Token

open Text (isBlank isWord isWordStart)

/-! ### Characters -/

/-- The characters that are tokens of their own. -/
theorem ofChar_cases {c : Char} {kind : Kind} (h : Kind.ofChar? c = some kind) :
    (c = '(' ∧ kind = .lparen) ∨ (c = ')' ∧ kind = .rparen) ∨
      ∃ op : Operator, c = op.symbol ∧ kind = .operator op := by
  unfold Kind.ofChar? at h
  split at h
  · exact .inl ⟨rfl, (Option.some.inj h).symm⟩
  · exact .inr (.inl ⟨rfl, (Option.some.inj h).symm⟩)
  · obtain ⟨op, hop, rfl⟩ := Option.map_eq_some_iff.mp h
    have hc : op.symbol = c := by simpa using List.find?_some hop
    exact .inr (.inr ⟨op, hc.symm, rfl⟩)

/-- They are no blanks and belong to no name and to no word. -/
theorem of_ofChar {c : Char} {kind : Kind} (h : Kind.ofChar? c = some kind) :
    isBlank c = false ∧ isNameChar c = false ∧ isWord c = false := by
  rcases ofChar_cases h with ⟨rfl, -⟩ | ⟨rfl, -⟩ | ⟨op, rfl, -⟩
  · decide
  · decide
  · cases op <;> decide

theorem ofChar_of_isNameChar {c : Char} (h : isNameChar c) : Kind.ofChar? c = none := by
  cases hk : Kind.ofChar? c with
  | none => rfl
  | some kind =>
      rw [(of_ofChar hk).2.1] at h
      cases h

theorem not_isBlank_of_isNameChar {c : Char} (h : isNameChar c) : ¬ isBlank c := by
  intro hb
  rw [isNameChar, hb] at h
  cases h

theorem not_isNameChar_of_isBlank {c : Char} (h : isBlank c) : ¬ isNameChar c :=
  fun hname => not_isBlank_of_isNameChar hname h

theorem isDeviceName_iff_forall {name : String} :
    isDeviceName name ↔ name.toList ≠ [] ∧ ∀ c ∈ name.toList, isNameChar c := by
  simp [isDeviceName]

theorem isNameChar_of_isDigit {c : Char} (h : c.isDigit) : isNameChar c := by
  simp only [Char.isDigit, Bool.and_eq_true, decide_eq_true_eq, ge_iff_le,
    UInt32.le_iff_toNat_le] at h
  have hn : 48 ≤ c.toNat ∧ c.toNat ≤ 57 := h
  -- blanks and delimiters lie outside these bounds
  have hblank : isBlank c = false := by
    simp only [isBlank]
    simp
    omega
  have hdelimiter : isDelimiter c = false := by
    simp only [isDelimiter, Bool.or_eq_false_iff, beq_eq_false_iff_ne]
    refine ⟨⟨⟨⟨⟨⟨?_, ?_⟩, ?_⟩, ?_⟩, ?_⟩, ?_⟩, ?_⟩ <;> rintro rfl <;> revert hn <;> decide
  rw [isNameChar, hblank, hdelimiter]
  rfl

theorem takeWhile_eq_nil_iff_head? {p : Char → Bool} {l : List Char} :
    l.takeWhile p = [] ↔ ∀ c ∈ l.head?, ¬ p c := by
  rw [List.takeWhile_eq_nil_iff]
  cases l <;> simp

theorem dropWhile_of_takeWhile {p : Char → Bool} {l : List Char} (h : l.takeWhile p = []) :
    l.dropWhile p = l :=
  List.dropWhile_eq_self_iff.mpr (List.takeWhile_eq_nil_iff.mp h)

theorem takeWhile_dropWhile (p : Char → Bool) (l : List Char) :
    (l.dropWhile p).takeWhile p = [] :=
  List.takeWhile_eq_nil_iff.mpr (List.dropWhile_get_zero_not p l)

/-! ### The spelling of a token -/

/-- What may follow a numeral: nothing that goes on with a name, and no colon that makes the numeral
a device name, not even behind blanks. -/
structure EndsNumber (rest : List Char) : Prop where
  name : rest.takeWhile isNameChar = []
  colon : ∀ beyond, rest.dropWhile isBlank ≠ ':' :: beyond

/-- What may follow a token of this kind. -/
def Kind.Ends : Kind → List Char → Prop
  | .number _, rest => EndsNumber rest
  | .reference _, rest => rest.takeWhile isWord = []
  | .operator _, _ | .lparen, _ | .rparen, _ | .finish, _ => True

/-- How a token of this kind may be written.  There may be blanks on both sides of the colon of a
reference. -/
inductive Spells : Kind → List Char → Prop where
  | symbol {c : Char} {kind : Kind} (h : Kind.ofChar? c = some kind) : Spells kind [c]
  | number {digits : List Char} {n : Nat} (hne : digits ≠ []) (hdigits : ∀ c ∈ digits, c.isDigit)
      (hvalue : Decimal.numeral? digits = some n) : Spells (.number n) digits
  | reference {device before behind : List Char} (axis : Axis) (hne : device ≠ [])
      (hdevice : ∀ c ∈ device, isNameChar c) (hbefore : ∀ c ∈ before, isBlank c)
      (hbehind : ∀ c ∈ behind, isBlank c) :
      Spells (.reference ⟨String.ofList device, axis⟩)
        (device ++ (before ++ ':' :: (behind ++ axis.name.toList)))

theorem ends_of_ofChar {c : Char} {kind : Kind} (h : Kind.ofChar? c = some kind)
    (rest : List Char) : kind.Ends rest := by
  rcases ofChar_cases h with ⟨-, rfl⟩ | ⟨-, rfl⟩ | ⟨op, -, rfl⟩ <;> trivial

theorem Spells.ne_nil {kind : Kind} {w : List Char} (h : Spells kind w) : w ≠ [] := by
  cases h with
  | symbol => exact List.cons_ne_nil _ _
  | number hne => exact hne
  | reference _ hne => exact fun h => hne (List.append_eq_nil_iff.mp h).1

theorem Spells.ne_finish {w : List Char} : ¬ Spells .finish w := by
  rintro ⟨h⟩
  rcases ofChar_cases h with ⟨-, h⟩ | ⟨-, h⟩ | ⟨op, -, h⟩ <;> cases h

theorem Spells.of_number {n : Nat} {w : List Char} (h : Spells (.number n) w) :
    w ≠ [] ∧ (∀ c ∈ w, c.isDigit) ∧ Decimal.numeral? w = some n := by
  cases h with
  | symbol h => rcases ofChar_cases h with ⟨-, h⟩ | ⟨-, h⟩ | ⟨op, -, h⟩ <;> cases h
  | number hne hdigits hvalue => exact ⟨hne, hdigits, hvalue⟩

theorem Spells.of_reference {key : AxisKey} {w : List Char} (h : Spells (.reference key) w) :
    isDeviceName key.device ∧ ∃ before behind,
      (∀ c ∈ before, isBlank c) ∧ (∀ c ∈ behind, isBlank c) ∧
        w = key.device.toList ++ (before ++ ':' :: (behind ++ key.axis.name.toList)) := by
  cases h with
  | symbol h => rcases ofChar_cases h with ⟨-, h⟩ | ⟨-, h⟩ | ⟨op, -, h⟩ <;> cases h
  | @reference device before behind axis hne hdevice hbefore hbehind =>
      refine ⟨?_, before, behind, hbefore, hbehind, ?_⟩
      · rw [isDeviceName_iff_forall, String.toList_ofList]
        exact ⟨hne, hdevice⟩
      · rw [String.toList_ofList]

/-! ### What is spelled is taken -/

/-- A name that no colon follows has to be a number. -/
theorem lexeme_number {source : String} {pos : Nat} {c : Char} {cs after : List Char}
    (hc : isNameChar c) (hcs : ∀ c ∈ cs, isNameChar c) (hafter : EndsNumber after) :
    lexeme source pos c (cs ++ after) = number source pos (c :: cs) after := by
  have hcolon := hafter.colon
  simp only [lexeme, ofChar_of_isNameChar hc, hc, if_true, List.takeWhile_append_of_pos hcs,
    List.dropWhile_append_of_pos hcs, hafter.name, dropWhile_of_takeWhile hafter.name,
    List.append_nil]

/-- A name with a colon behind it, be it behind blanks, starts a reference. -/
theorem lexeme_colon {source : String} {pos : Nat} {c : Char} {cs blanks target : List Char}
    (hc : isNameChar c) (hcs : ∀ c ∈ cs, isNameChar c) (hblanks : ∀ c ∈ blanks, isBlank c) :
    lexeme source pos c (cs ++ (blanks ++ ':' :: target)) =
      reference source pos (c :: cs) (blanks ++ ':' :: target.takeWhile isBlank)
        (target.dropWhile isBlank) := by
  have hname : (blanks ++ ':' :: target).takeWhile isNameChar = [] := by
    cases blanks with
    | nil => rfl
    | cons b blanks =>
        have hb : isBlank b := hblanks b List.mem_cons_self
        rw [List.cons_append, List.takeWhile_cons_of_neg (not_isNameChar_of_isBlank hb)]
  have hcolon : (':' :: target).takeWhile isBlank = [] := rfl
  simp only [lexeme, ofChar_of_isNameChar hc, hc, if_true, List.takeWhile_append_of_pos hcs,
    List.dropWhile_append_of_pos hcs, hname, dropWhile_of_takeWhile hname,
    List.takeWhile_append_of_pos hblanks, List.dropWhile_append_of_pos hblanks, hcolon,
    dropWhile_of_takeWhile hcolon, List.append_nil]

/-- The name of an axis is a word, which starts with a letter. -/
theorem name_eq_cons (axis : Axis) : ∃ t cs, axis.name.toList = t :: cs ∧ isWordStart t ∧
    isBlank t = false ∧ ∀ c ∈ cs, isWord c := by
  simp only [← List.all_eq_true]
  cases axis <;> exact ⟨_, _, rfl, rfl, rfl, rfl⟩

theorem reference_name {source : String} {pos : Nat} (device colon : List Char) (axis : Axis)
    {rest : List Char} (hrest : rest.takeWhile isWord = []) :
    reference source pos device colon (axis.name.toList ++ rest) =
      .ok (⟨.reference ⟨String.ofList device, axis⟩,
        String.ofList (device ++ (colon ++ axis.name.toList)), pos⟩, rest) := by
  have hname : Axis.ofName? (String.ofList axis.name.toList) = some axis := by
    rw [String.ofList_toList, Axis.ofName?_name]
  obtain ⟨t, cs, he, ht, -, hcs⟩ := name_eq_cons axis
  rw [he] at hname ⊢
  simp only [reference, List.cons_append, ht, if_true, List.takeWhile_append_of_pos hcs,
    List.dropWhile_append_of_pos hcs, hrest, dropWhile_of_takeWhile hrest, List.append_nil, hname,
    List.append_assoc]

/-- The spelling of a token starts with no blank and is taken as a whole. -/
theorem Spells.lexeme_eq {kind : Kind} {w rest : List Char} (h : Spells kind w)
    (hrest : kind.Ends rest) : ∃ c cs, w = c :: cs ∧ ¬ isBlank c ∧ ∀ source pos,
      lexeme source pos c (cs ++ rest) = .ok (⟨kind, String.ofList w, pos⟩, rest) := by
  cases h with
  | @symbol c _ h =>
      refine ⟨c, [], rfl, by rw [(of_ofChar h).1]; decide, fun source pos => ?_⟩
      simp only [lexeme, h]
      rfl
  | number hne hdigits hvalue =>
      obtain ⟨c, cs, rfl⟩ := List.exists_cons_of_ne_nil hne
      have hname : ∀ b ∈ c :: cs, isNameChar b := fun b hb => isNameChar_of_isDigit (hdigits b hb)
      obtain ⟨hc, hcs⟩ := List.forall_mem_cons.mp hname
      refine ⟨c, cs, rfl, not_isBlank_of_isNameChar hc, fun source pos => ?_⟩
      rw [lexeme_number hc hcs hrest, Token.number, if_pos (List.all_eq_true.mpr hdigits), hvalue]
  | @reference device before behind axis hne hdevice hbefore hbehind =>
      obtain ⟨c, cs, rfl⟩ := List.exists_cons_of_ne_nil hne
      obtain ⟨hc, hcs⟩ := List.forall_mem_cons.mp hdevice
      obtain ⟨t, ts, he, -, hblank, -⟩ := name_eq_cons axis
      have hname : (axis.name.toList ++ rest).takeWhile isBlank = [] := by
        rw [he, List.cons_append, List.takeWhile_cons, hblank]
        rfl
      refine ⟨c, _, List.cons_append, not_isBlank_of_isNameChar hc, fun source pos => ?_⟩
      simp only [List.append_assoc, List.cons_append]
      rw [lexeme_colon hc hcs hbefore, List.takeWhile_append_of_pos hbehind,
        List.dropWhile_append_of_pos hbehind, hname, dropWhile_of_takeWhile hname,
        List.append_nil, reference_name _ _ axis hrest]
      simp only [List.append_assoc, List.cons_append]

/-! ### What is taken is spelled -/

/-- A text that starts with no token, and the error about it. -/
inductive Misread (source : String) (pos : Nat) : List Char → SyntaxError → Prop where
  | strayColon (c : Char) (rest : List Char) :
      Misread source pos (c :: rest) ⟨.strayColon, source, pos, String.singleton c⟩
  | missingColon (name rest : List Char) :
      Misread source pos (name ++ rest)
        ⟨.missingColon (String.ofList name), source, pos, String.ofList name⟩
  /-- The text ends behind the colon. -/
  | noAxis (device colon : List Char) :
      Misread source pos (device ++ colon)
        ⟨.missingAxis (String.ofList device), source, pos + device.length + colon.length,
          String.ofList (device ++ colon)⟩
  /-- Behind the colon there is a character that starts no name. -/
  | noWord (device colon : List Char) (t : Char) (rest : List Char) :
      Misread source pos (device ++ (colon ++ t :: rest))
        ⟨.missingAxis (String.ofList device), source, pos + device.length + colon.length,
          String.ofList (device ++ colon ++ [t])⟩
  | unknownAxis {device before behind name rest : List Char} (hbehind : ∀ c ∈ behind, isBlank c)
      (hname : Axis.ofName? (String.ofList name) = none) (hrest : rest.takeWhile isWord = []) :
      Misread source pos (device ++ (before ++ ':' :: (behind ++ (name ++ rest))))
        ⟨.unknownAxis (String.ofList name), source,
          pos + device.length + (before ++ ':' :: behind).length, String.ofList name⟩

/-- A name that no colon follows is read as a number if it is one, and is too long if it has too
many digits. -/
theorem number_cases (source : String) (pos : Nat) (name rest : List Char) :
    (∃ n, number source pos name rest = .ok (⟨.number n, String.ofList name, pos⟩, rest) ∧
      (∀ c ∈ name, c.isDigit) ∧ Decimal.numeral? name = some n) ∨
    (number source pos name rest = .error .numeralTooLong ∧ (∀ c ∈ name, c.isDigit) ∧
      Decimal.maxDigits < name.length) ∨
    number source pos name rest = .error (.malformed
      ⟨.missingColon (String.ofList name), source, pos, String.ofList name⟩) := by
  rw [number]
  by_cases hdigits : name.all Char.isDigit
  · rw [if_pos hdigits]
    by_cases hlength : name.length ≤ Decimal.maxDigits
    · have hvalue : Decimal.numeral? name = some _ := if_pos hlength
      rw [hvalue]
      exact .inl ⟨_, rfl, List.all_eq_true.mp hdigits, rfl⟩
    · rw [Decimal.numeral?, if_neg hlength]
      exact .inr (.inl ⟨rfl, List.all_eq_true.mp hdigits, Nat.lt_of_not_le hlength⟩)
  · rw [if_neg hdigits]
    exact .inr (.inr rfl)

/-- Behind a colon there is the name of an axis, or an error says that there is none. -/
theorem reference_cases (source : String) (pos : Nat) (device before : List Char)
    {behind : List Char} (hbehind : ∀ c ∈ behind, isBlank c) (target : List Char) :
    let colon := before ++ ':' :: behind
    (∃ axis : Axis, ∃ rest, target = axis.name.toList ++ rest ∧ rest.takeWhile isWord = [] ∧
      reference source pos device colon target =
        .ok (⟨.reference ⟨String.ofList device, axis⟩,
          String.ofList (device ++ (colon ++ axis.name.toList)), pos⟩, rest)) ∨
    ∃ e, reference source pos device colon target = .error (.malformed e) ∧
      Misread source pos (device ++ (colon ++ target)) e := by
  intro colon
  cases target with
  | nil =>
      rw [List.append_nil]
      exact .inr ⟨_, rfl, .noAxis device colon⟩
  | cons t rest =>
      by_cases ht : isWordStart t
      · have htarget : t :: rest = (t :: rest.takeWhile isWord) ++ rest.dropWhile isWord := by
          rw [List.cons_append, List.takeWhile_append_dropWhile]
        have hrest := takeWhile_dropWhile isWord rest
        cases haxis : Axis.ofName? (String.ofList (t :: rest.takeWhile isWord)) with
        | none =>
            simp only [reference, if_pos ht, haxis]
            refine .inr ⟨_, rfl, ?_⟩
            rw [htarget, List.append_assoc, List.cons_append]
            exact .unknownAxis hbehind haxis hrest
        | some axis =>
            have hname : axis.name.toList = t :: rest.takeWhile isWord := by
              rw [Axis.ofName?_eq_some_iff.mp haxis, String.toList_ofList]
            rw [← hname] at htarget
            rw [htarget]
            exact .inl ⟨axis, _, rfl, hrest, reference_name device colon axis hrest⟩
      · simp only [reference, if_neg ht]
        exact .inr ⟨_, rfl, .noWord device colon t rest⟩

/-- **The first lexeme of a text.**  It is a token, or a numeral that is too long, or an error says
what is wrong with it. -/
theorem lexeme_cases (source : String) (pos : Nat) (c : Char) (rest : List Char) :
    (∃ kind w r, lexeme source pos c rest = .ok (⟨kind, String.ofList w, pos⟩, r) ∧
      c :: rest = w ++ r ∧ Spells kind w ∧ kind.Ends r) ∨
    (lexeme source pos c rest = .error .numeralTooLong ∧
      ∃ digits r, c :: rest = digits ++ r ∧ (∀ c ∈ digits, c.isDigit) ∧
        Decimal.maxDigits < digits.length ∧ EndsNumber r) ∨
    ∃ e, lexeme source pos c rest = .error (.malformed e) ∧ Misread source pos (c :: rest) e := by
  rw [lexeme]
  cases hkind : Kind.ofChar? c with
  | some kind => exact .inl ⟨kind, [c], rest, rfl, rfl, .symbol hkind, ends_of_ofChar hkind rest⟩
  | none =>
      by_cases hc : isNameChar c
      · simp only [if_pos hc]
        have hname : ∀ b ∈ c :: rest.takeWhile isNameChar, isNameChar b :=
          List.forall_mem_cons.mpr ⟨hc, List.all_eq_true.mp List.all_takeWhile⟩
        have hrest : rest = rest.takeWhile isNameChar ++ rest.dropWhile isNameChar :=
          List.takeWhile_append_dropWhile.symm
        have hends := takeWhile_dropWhile isNameChar rest
        generalize rest.takeWhile isNameChar = name at hname hrest
        generalize rest.dropWhile isNameChar = after at hrest hends
        subst hrest
        split
        · next beyond hcolon =>
            -- the name of a device
            have hblanks (l : List Char) : ∀ b ∈ l.takeWhile isBlank, isBlank b :=
              List.all_eq_true.mp List.all_takeWhile
            have hafter : after = after.takeWhile isBlank ++ ':' :: beyond := by
              rw [← hcolon, List.takeWhile_append_dropWhile]
            have hbeyond : beyond = beyond.takeWhile isBlank ++ beyond.dropWhile isBlank :=
              List.takeWhile_append_dropWhile.symm
            have htext : c :: (name ++ after) = (c :: name) ++
                ((after.takeWhile isBlank ++ ':' :: beyond.takeWhile isBlank) ++
                  beyond.dropWhile isBlank) := by
              simp only [List.append_assoc, List.cons_append]
              rw [← hbeyond, ← hafter]
            rcases reference_cases source pos (c :: name) (after.takeWhile isBlank)
                (hblanks beyond) (beyond.dropWhile isBlank) with
              ⟨axis, r, htarget, hr, ht⟩ | ⟨e, he, hmisread⟩
            · refine .inl ⟨_, _, r, ht, ?_, ?_, hr⟩
              · rw [htext, htarget]
                simp only [List.append_assoc]
              · rw [List.append_assoc, List.cons_append]
                exact .reference axis (List.cons_ne_nil _ _) hname (hblanks after) (hblanks beyond)
            · exact .inr (.inr ⟨e, he, htext ▸ hmisread⟩)
        · next hcolon =>
            have hends : EndsNumber after := ⟨hends, fun beyond h => hcolon beyond h⟩
            rcases number_cases source pos (c :: name) after with
              ⟨n, ht, hdigits, hvalue⟩ | ⟨he, hdigits, hlength⟩ | he
            · exact .inl ⟨_, c :: name, after, ht, rfl,
                .number (List.cons_ne_nil _ _) hdigits hvalue, hends⟩
            · exact .inr (.inl ⟨he, c :: name, after, rfl, hdigits, hlength, hends⟩)
            · exact .inr (.inr ⟨_, he, .missingColon (c :: name) after⟩)
      · simp only [if_neg hc]
        exact .inr (.inr ⟨_, rfl, .strayColon c rest⟩)

end AxisMixer.Token
