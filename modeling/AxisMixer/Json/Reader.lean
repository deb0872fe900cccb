import AxisMixer.Decimal.Numeral
import AxisMixer.Json.Document
import AxisMixer.OrderedMap

/-!
# Reading JSON text

The grammar is that of RFC 8259 with three more constants, `NaN`, `Infinity` and `-Infinity`.  A
number without fraction and exponent is an integer, of any size up to `Decimal.maxDigits` digits.
Where a name is repeated in an object, its last value stands at its first place.

* `Document.parse`: the document that a whole text denotes.
-/

namespace AxisMixer.Json

inductive Fault where
  | malformed
  /-- An integer of more than `Decimal.maxDigits` digits. -/
  | numeralTooLong
  deriving DecidableEq, Repr

def isBlank (c : Char) : Bool := c == ' ' || c == '\t' || c == '\n' || c == '\r'

def skip (cs : List Char) : List Char := cs.dropWhile isBlank

theorem length_skip_le (cs : List Char) : (skip cs).length ≤ cs.length :=
  (List.dropWhile_sublist isBlank).length_le

/-! ### Strings -/

def hexValue? (c : Char) : Option Nat :=
  if c.isDigit then some (c.toNat - '0'.toNat)
  else if 'a' ≤ c ∧ c ≤ 'f' then some (c.toNat - 'a'.toNat + 10)
  else if 'A' ≤ c ∧ c ≤ 'F' then some (c.toNat - 'A'.toNat + 10)
  else none

def hexCode? (a b c d : Char) : Option Nat := do
  return 0x1000 * (← hexValue? a) + 0x100 * (← hexValue? b) + 0x10 * (← hexValue? c) +
    (← hexValue? d)

/-- What an escape of one letter stands for. -/
def escape? : Char → Option Char
  | '"' => some '"'
  | '\\' => some '\\'
  | '/' => some '/'
  | 'b' => some '\x08'
  | 'f' => some '\x0c'
  | 'n' => some '\n'
  | 'r' => some '\r'
  | 't' => some '\t'
  | _ => none

/-- The code points of a string behind its opening quote, surrogate pairs as two halves, and the
text behind its closing quote. -/
def string? : List Char → Option (List Text.CodePoint × List Char)
  | [] => none
  | '"' :: rest => some ([], rest)
  | '\\' :: 'u' :: a :: b :: c :: d :: rest => do
    let unit ← hexCode? a b c d
    let (points, rest) ← string? rest
    return (.ofUnit unit :: points, rest)
  | '\\' :: e :: rest => do
    let c ← escape? e
    let (points, rest) ← string? rest
    return (.char c :: points, rest)
  | c :: rest =>
    if c != '\\' && 0x20 ≤ c.toNat then do
      let (points, rest) ← string? rest
      return (.char c :: points, rest)
    else none

theorem length_of_string? {cs : List Char} {points : List Text.CodePoint} {r : List Char}
    (h : string? cs = some (points, r)) : r.length < cs.length := by
  fun_induction string? cs generalizing points r with
  | case1 => cases h
  | case2 rest => cases h; simp
  | case3 a b c d rest ih =>
    simp only [Option.bind_eq_bind, Option.bind_eq_some_iff] at h
    obtain ⟨_, -, ⟨points', r'⟩, h', e⟩ := h
    cases e
    have := ih h'
    simp only [List.length_cons]
    omega
  | case4 e rest _ ih =>
    simp only [Option.bind_eq_bind, Option.bind_eq_some_iff] at h
    obtain ⟨_, -, ⟨points', r'⟩, h', e⟩ := h
    cases e
    have := ih h'
    simp only [List.length_cons]
    omega
  | case5 c rest _ _ _ _ ih =>
    simp only [Option.bind_eq_bind, Option.bind_eq_some_iff] at h
    obtain ⟨⟨points', r'⟩, h', e⟩ := h
    cases e
    have := ih h'
    simp only [List.length_cons]
    omega
  | case6 => cases h

/-! ### Numbers -/

/-- A non-empty run of digits and the text behind it. -/
def digits? (cs : List Char) : Option (List Char × List Char) :=
  match cs.takeWhile Char.isDigit with
  | [] => none
  | ds => some (ds, cs.dropWhile Char.isDigit)

/-- A zero, or a run of digits that starts with no zero. -/
def whole? : List Char → Option (List Char × List Char)
  | '0' :: rest => some (['0'], rest)
  | cs => digits? cs

/-- The digits behind a decimal point; none if no digit follows the point. -/
def fraction : List Char → List Char × List Char
  | '.' :: rest => (digits? rest).getD ([], '.' :: rest)
  | cs => ([], cs)

/-- The sign in front of an exponent's digits, plus if there is none, and the text behind it. -/
def powerSign : List Char → Int × List Char
  | '-' :: rest => (-1, rest)
  | '+' :: rest => (1, rest)
  | cs => (1, cs)

/-- An exponent, if a letter `e`, perhaps a sign, and a digit follow one another. -/
def power? : List Char → Option (Int × List Char)
  | e :: rest =>
    if e == 'e' || e == 'E' then
      (digits? (powerSign rest).2).map fun p =>
        ((powerSign rest).1 * Nat.ofDigitChars 10 p.1 0, p.2)
    else none
  | [] => none

/-- A number behind its sign. -/
def magnitude (negative : Bool) (cs : List Char) : Except Fault (Document × List Char) :=
  match whole? cs with
  | none => .error .malformed
  | some (whole, rest) =>
    match (fraction rest).1, power? (fraction rest).2 with
    | [], none =>
      match Decimal.numeral? whole with
      | none => .error .numeralTooLong
      | some n => .ok (.int (if negative then -n else n), (fraction rest).2)
    | decimals, power =>
      let digits := Nat.ofDigitChars 10 (whole ++ decimals) 0
      let exponent := (power.map Prod.fst).getD 0 - decimals.length
      .ok (.real (.ofDecimal negative digits exponent),
        (power.map Prod.snd).getD (fraction rest).2)

def number : List Char → Except Fault (Document × List Char)
  | '-' :: rest => magnitude true rest
  | cs => magnitude false cs

theorem length_of_digits? {cs ds r : List Char} (h : digits? cs = some (ds, r)) :
    r.length < cs.length := by
  unfold digits? at h
  split at h
  · cases h
  · next hne =>
    cases h
    cases cs with
    | nil => exact absurd rfl hne
    | cons c rest =>
      by_cases hc : c.isDigit = true
      · rw [List.dropWhile_cons_of_pos hc]
        exact Nat.lt_succ_of_le (List.dropWhile_sublist _).length_le
      · rw [List.takeWhile_cons_of_neg hc] at hne
        exact absurd rfl hne

theorem length_of_whole? {cs ds r : List Char} (h : whole? cs = some (ds, r)) :
    r.length < cs.length := by
  unfold whole? at h
  split at h
  · cases h; simp
  · exact length_of_digits? h

theorem length_fraction_le (cs : List Char) : (fraction cs).2.length ≤ cs.length := by
  unfold fraction
  split
  · next rest =>
    cases h : digits? rest with
    | none => simp
    | some p =>
      obtain ⟨ds, r⟩ := p
      have := length_of_digits? h
      simp only [Option.getD_some, List.length_cons]
      omega
  · exact Nat.le_refl _

theorem length_powerSign_le (cs : List Char) : (powerSign cs).2.length ≤ cs.length := by
  unfold powerSign
  split <;> simp

theorem length_of_power? {cs r : List Char} {n : Int} (h : power? cs = some (n, r)) :
    r.length < cs.length := by
  unfold power? at h
  split at h
  · next e rest =>
    split at h
    · obtain ⟨⟨ds, r'⟩, hd, e⟩ := Option.map_eq_some_iff.1 h
      cases e
      have h₁ := length_of_digits? hd
      have h₂ := length_powerSign_le rest
      simp only [List.length_cons]
      omega
    · cases h
  · cases h

theorem length_of_magnitude {negative : Bool} {cs r : List Char} {d : Document}
    (h : magnitude negative cs = .ok (d, r)) : r.length < cs.length := by
  unfold magnitude at h
  split at h
  · cases h
  · next whole rest hw =>
    have h₁ := length_of_whole? hw
    have h₂ := length_fraction_le rest
    split at h
    · split at h
      · cases h
      · cases h; omega
    · cases h
      cases hp : power? (fraction rest).2 with
      | none => simp only [Option.map_none, Option.getD_none]; omega
      | some p =>
        obtain ⟨n, r⟩ := p
        have := length_of_power? hp
        simp only [Option.map_some, Option.getD_some]
        omega

theorem length_of_number {cs r : List Char} {d : Document} (h : number cs = .ok (d, r)) :
    r.length < cs.length := by
  unfold number at h
  split at h
  · have := length_of_magnitude h
    simp only [List.length_cons]
    omega
  · exact length_of_magnitude h

/-! ### Constants -/

/-- The words that denote a value. -/
def constants : List (List Char × Document) :=
  [(['n', 'u', 'l', 'l'], .null),
    (['t', 'r', 'u', 'e'], .bool true),
    (['f', 'a', 'l', 's', 'e'], .bool false),
    (['N', 'a', 'N'], .real .nan),
    (['I', 'n', 'f', 'i', 'n', 'i', 't', 'y'], .real (.infinite false)),
    (['-', 'I', 'n', 'f', 'i', 'n', 'i', 't', 'y'], .real (.infinite true))]

/-- The constant at the front of the text, and the text behind it. -/
def constant? (cs : List Char) : Option (Document × List Char) :=
  constants.findSome? fun e =>
    if e.1.isPrefixOf cs then some (e.2, cs.drop e.1.length) else none

theorem length_of_constant? {cs r : List Char} {d : Document} (h : constant? cs = some (d, r)) :
    r.length < cs.length := by
  obtain ⟨e, he, h⟩ := List.exists_of_findSome?_eq_some h
  have hpos : ∀ e ∈ constants, 0 < e.1.length := by decide
  split at h
  · next hp =>
    cases h
    have h₁ := hpos e he
    have h₂ := (List.isPrefixOf_iff_prefix.1 hp).length_le
    rw [List.length_drop]
    omega
  · cases h

/-! ### Values -/

mutual

/-- The value at the front of the text, which starts with no blank, and the text behind it. -/
def value (cs : List Char) : Except Fault (Document × { r : List Char // r.length < cs.length }) :=
  match cs with
  | '"' :: rest =>
    match h : string? rest with
    | none => .error .malformed
    | some (points, r) =>
      .ok (.text (Text.CodePoint.joinHalves points),
        ⟨r, Nat.lt_succ_of_lt (length_of_string? h)⟩)
  | '[' :: rest =>
    have h₁ := length_skip_le rest
    match h : skip rest with
    | ']' :: r => .ok (.array [], ⟨r, by simp only [h, List.length_cons] at *; omega⟩)
    | _ =>
      match items (skip rest) with
      | .error e => .error e
      | .ok (ds, ⟨r, _⟩) => .ok (.array ds, ⟨r, by simp only [List.length_cons]; omega⟩)
  | '\x7b' :: rest =>
    have h₁ := length_skip_le rest
    match h : skip rest with
    | '\x7d' :: r => .ok (.object [], ⟨r, by simp only [h, List.length_cons] at *; omega⟩)
    | _ =>
      match fields (skip rest) with
      | .error e => .error e
      | .ok (fs, ⟨r, _⟩) =>
        .ok (.object (OrderedMap.ofList fs).entries, ⟨r, by simp only [List.length_cons]; omega⟩)
  | cs =>
    match h : constant? cs with
    | some (d, r) => .ok (d, ⟨r, length_of_constant? h⟩)
    | none =>
      match h : number cs with
      | .error e => .error e
      | .ok (d, r) => .ok (d, ⟨r, length_of_number h⟩)
termination_by (cs.length, 0)

/-- The items of an array, and the text behind its closing bracket. -/
def items (cs : List Char) :
    Except Fault (List Document × { r : List Char // r.length < cs.length }) :=
  match value cs with
  | .error e => .error e
  | .ok (d, ⟨r, h⟩) =>
    have h₁ := length_skip_le r
    match h₂ : skip r with
    | ']' :: r' => .ok ([d], ⟨r', by simp only [h₂, List.length_cons] at *; omega⟩)
    | ',' :: r' =>
      have h₃ := length_skip_le r'
      have : (skip r').length < cs.length := by simp only [h₂, List.length_cons] at *; omega
      match items (skip r') with
      | .error e => .error e
      | .ok (ds, ⟨r'', _⟩) => .ok (d :: ds, ⟨r'', by omega⟩)
    | _ => .error .malformed
termination_by (cs.length, 1)

/-- The fields of an object, repetitions included, and the text behind its closing brace. -/
def fields (cs : List Char) :
    Except Fault
      (List (List Text.CodePoint × Document) × { r : List Char // r.length < cs.length }) :=
  match cs with
  | '"' :: rest =>
    match h : string? rest with
    | none => .error .malformed
    | some (points, r) =>
      have h₁ := length_of_string? h
      have h₂ := length_skip_le r
      match h₃ : skip r with
      | ':' :: r' =>
        have h₄ := length_skip_le r'
        have : (skip r').length < rest.length + 1 := by
          simp only [h₃, List.length_cons] at *; omega
        match value (skip r') with
        | .error e => .error e
        | .ok (d, ⟨r₁, h₅⟩) =>
          have h₆ := length_skip_le r₁
          match h₇ : skip r₁ with
          | '\x7d' :: r₂ => .ok ([(Text.CodePoint.joinHalves points, d)],
              ⟨r₂, by simp only [h₇, List.length_cons] at *; omega⟩)
          | ',' :: r₂ =>
            have h₈ := length_skip_le r₂
            have : (skip r₂).length < rest.length + 1 := by
              simp only [h₇, List.length_cons] at *; omega
            match fields (skip r₂) with
            | .error e => .error e
            | .ok (fs, ⟨r₃, _⟩) =>
              .ok ((Text.CodePoint.joinHalves points, d) :: fs,
                ⟨r₃, by simp only [List.length_cons]; omega⟩)
          | _ => .error .malformed
      | _ => .error .malformed
  | _ => .error .malformed
termination_by (cs.length, 1)

end

end AxisMixer.Json

namespace AxisMixer

/-- The document that the text denotes; only blanks may stand around it. -/
def Document.parse (text : String) : Except Json.Fault Document :=
  match Json.value (Json.skip text.toList) with
  | .error e => .error e
  | .ok (d, ⟨rest, _⟩) => if (Json.skip rest).isEmpty then .ok d else .error .malformed

end AxisMixer
