import AxisMixer.Expr.SyntaxError
import AxisMixer.Text.Word

/-!
# Lexemes — cutting text into tokens

Text is cut from the left.  Blanks separate tokens and are skipped.  A parenthesis or operator is
a token of its own.  Everything else is a run of name characters: with a colon behind it, blanks
allowed on both sides, it names a device and the axis name behind the colon completes a
reference; without a colon it has to be a number.

* `Token.lexeme`: the first token of a text that starts with no blank.
* `Token.scan`: all tokens of a text, the last one marking its end.
-/

namespace AxisMixer.Token

open Text (isBlank isWord isWordStart)

/-- The reference to an axis of `device`, whose name starts at offset `pos`; `colon` is the colon
with the blanks around it, and `target` the text behind it. -/
def reference (source : String) (pos : Nat) (device colon target : List Char) :
    Except ReadError (Token × List Char) :=
  let offset := pos + device.length + colon.length
  match target with
  | [] => .error (.malformed
      ⟨.missingAxis (String.ofList device), source, offset, String.ofList (device ++ colon)⟩)
  | t :: rest =>
    if isWordStart t then
      let name := t :: rest.takeWhile isWord
      match Axis.ofName? (String.ofList name) with
      | none => .error (.malformed
          ⟨.unknownAxis (String.ofList name), source, offset, String.ofList name⟩)
      | some axis => .ok (
          ⟨.reference ⟨String.ofList device, axis⟩, String.ofList (device ++ colon ++ name), pos⟩,
          rest.dropWhile isWord)
    else .error (.malformed
      ⟨.missingAxis (String.ofList device), source, offset, String.ofList (device ++ colon ++ [t])⟩)

/-- The number written as `name`, which no colon follows. -/
def number (source : String) (pos : Nat) (name rest : List Char) :
    Except ReadError (Token × List Char) :=
  if name.all Char.isDigit then
    match Decimal.numeral? name with
    | some n => .ok (⟨.number n, String.ofList name, pos⟩, rest)
    | none => .error .numeralTooLong
  else .error (.malformed
    ⟨.missingColon (String.ofList name), source, pos, String.ofList name⟩)

/-- The first token of the text `c :: rest`, which starts at offset `pos` of `source` and with no
blank, and the text behind that token. -/
def lexeme (source : String) (pos : Nat) (c : Char) (rest : List Char) :
    Except ReadError (Token × List Char) :=
  match Kind.ofChar? c with
  | some kind => .ok (⟨kind, String.singleton c, pos⟩, rest)
  | none =>
    if isNameChar c then
      let name := c :: rest.takeWhile isNameChar
      let after := rest.dropWhile isNameChar
      match after.dropWhile isBlank with
      | ':' :: beyond =>
        reference source pos name (after.takeWhile isBlank ++ ':' :: beyond.takeWhile isBlank)
          (beyond.dropWhile isBlank)
      | _ => number source pos name after
    else .error (.malformed ⟨.strayColon, source, pos, String.singleton c⟩)

/-! ### A lexeme takes at least its first character -/

theorem length_of_reference {source : String} {pos : Nat} {device colon target : List Char}
    {t : Token} {r : List Char} (h : reference source pos device colon target = .ok (t, r)) :
    r.length ≤ target.length := by
  cases target with
  | nil => simp [reference] at h
  | cons c rest =>
    simp only [reference] at h
    split at h
    · split at h
      · cases h
      · cases h
        exact Nat.le_succ_of_le (List.dropWhile_sublist isWord).length_le
    · cases h

theorem length_of_number {source : String} {pos : Nat} {name rest : List Char} {t : Token}
    {r : List Char} (h : number source pos name rest = .ok (t, r)) : r = rest := by
  simp only [number] at h
  split at h
  · split at h
    · cases h; rfl
    · cases h
  · cases h

theorem length_of_lexeme {source : String} {pos : Nat} {c : Char} {rest : List Char} {t : Token}
    {r : List Char} (h : lexeme source pos c rest = .ok (t, r)) : r.length ≤ rest.length := by
  simp only [lexeme] at h
  split at h
  · cases h; exact Nat.le_refl _
  · split at h
    · split at h
      · next beyond hb =>
        have h₁ := length_of_reference h
        have h₂ := (List.dropWhile_sublist (l := beyond) isBlank).length_le
        have h₃ := (List.dropWhile_sublist (l := rest.dropWhile isNameChar) isBlank).length_le
        have h₄ := (List.dropWhile_sublist (l := rest) isNameChar).length_le
        rw [hb, List.length_cons] at h₃
        omega
      · rw [length_of_number h]
        exact (List.dropWhile_sublist isNameChar).length_le
    · cases h

/-! ### All tokens -/

/-- The tokens of the text that starts at offset `pos` of `source`, closed by the end token. -/
def scanFrom (source : String) (pos : Nat) : List Char → Except ReadError (List Token)
  | [] => .ok [finish pos]
  | c :: rest =>
    if isBlank c then scanFrom source (pos + 1) rest
    else
      match h : lexeme source pos c rest with
      | .error e => .error e
      | .ok (t, r) =>
        have : r.length ≤ rest.length := length_of_lexeme h
        match scanFrom source (pos + t.text.length) r with
        | .error e => .error e
        | .ok ts => .ok (t :: ts)
termination_by cs => cs.length
decreasing_by all_goals simp only [List.length_cons]; omega

/-- The tokens of `source`, closed by the end token. -/
def scan (source : String) : Except ReadError (List Token) := scanFrom source 0 source.toList

end AxisMixer.Token
