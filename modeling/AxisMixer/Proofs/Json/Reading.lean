import AxisMixer.Json.Reader
import Mathlib.Data.Nat.Basic
import Mathlib.Tactic.Ring

/-!
# What a JSON text is read as

One induction over the reader (`soundBelow`).  It says two things of every text:

* what holds of the parts that the reader makes holds of the whole document (`holds_of_parse`);
* where the reader stops at an integer of more than `Decimal.maxDigits` digits, there is such a run
  of digits in the text, for all that a reader leaves is a part of its text (`hasLongRun_of_parse`).

* `Json.Hereditary`: the reader makes nothing without the property out of parts that have it.
* `Json.HasLongRun`: a run of digits that is too long.
-/

namespace AxisMixer

/-! ### Digits -/

namespace Decimal

theorem ofDigitChars_lt {digits : List Char} (h : ∀ c ∈ digits, c.isDigit = true) (init : Nat) :
    Nat.ofDigitChars 10 digits init < (init + 1) * 10 ^ digits.length := by
  induction digits generalizing init with
  | nil => simp [Nat.ofDigitChars]
  | cons c rest ih =>
      obtain ⟨hc, hrest⟩ := List.forall_mem_cons.mp h
      have hdigit : c.toNat - '0'.toNat ≤ 9 := Nat.sub_le_of_le_add (Char.isDigit_iff_toNat.mp hc).2
      calc Nat.ofDigitChars 10 (c :: rest) init
        _ = Nat.ofDigitChars 10 rest (10 * init + (c.toNat - '0'.toNat)) := Nat.ofDigitChars_cons
        _ < (10 * init + (c.toNat - '0'.toNat) + 1) * 10 ^ rest.length := ih hrest _
        _ ≤ (10 * (init + 1)) * 10 ^ rest.length := Nat.mul_le_mul_right _ (by omega)
        _ = (init + 1) * 10 ^ (c :: rest).length := by rw [List.length_cons]; ring

theorem isWritable_iff {n : Nat} : isWritable n = true ↔ n < 10 ^ maxDigits := by
  have hpow : ∀ m, Nat.pow 10 m = 10 ^ m := fun _ => rfl
  rw [isWritable, decide_eq_true_iff, hpow]

theorem isWritable_of_numeral? {digits : List Char} {n : Nat} (hn : numeral? digits = some n)
    (h : ∀ c ∈ digits, c.isDigit = true) : isWritable n = true := by
  unfold numeral? at hn
  split at hn
  · next hlength =>
    cases hn
    refine isWritable_iff.mpr (Nat.lt_of_lt_of_le (ofDigitChars_lt h 0) ?_)
    rw [Nat.zero_add, Nat.one_mul]
    exact Nat.pow_le_pow_right (by decide) hlength
  · cases hn

end Decimal

namespace Json

/-- Somewhere in the text there are more than `Decimal.maxDigits` digits in a row. -/
def HasLongRun (cs : List Char) : Prop :=
  ∃ digits, digits <:+: cs ∧ (∀ c ∈ digits, c.isDigit = true) ∧ Decimal.maxDigits < digits.length

theorem HasLongRun.of_suffix {cs cs' : List Char} (h : HasLongRun cs') (hs : cs' <:+ cs) :
    HasLongRun cs := by
  obtain ⟨digits, hin, hdigits, hlong⟩ := h
  exact ⟨digits, hin.trans hs.isInfix, hdigits, hlong⟩

/-! ### Parts of the text -/

theorem suffix_skip (cs : List Char) : skip cs <:+ cs := List.dropWhile_suffix isBlank

theorem suffix_of_skip {cs r : List Char} {c : Char} (h : skip cs = c :: r) : r <:+ cs :=
  (List.suffix_cons c r).trans (h ▸ suffix_skip cs)

theorem suffix_of_string? {cs : List Char} {points : List Text.CodePoint} {r : List Char}
    (h : string? cs = some (points, r)) : r <:+ cs := by
  fun_induction string? cs generalizing points r with
  | case1 => cases h
  | case2 rest => cases h; exact List.suffix_cons _ _
  | case3 a b c d rest ih =>
    simp only [Option.bind_eq_bind, Option.bind_eq_some_iff] at h
    obtain ⟨_, -, ⟨points', r'⟩, h', e⟩ := h
    cases e
    exact (ih h').trans ⟨['\\', 'u', a, b, c, d], rfl⟩
  | case4 e rest _ ih =>
    simp only [Option.bind_eq_bind, Option.bind_eq_some_iff] at h
    obtain ⟨_, -, ⟨points', r'⟩, h', e⟩ := h
    cases e
    exact (ih h').trans ⟨['\\', _], rfl⟩
  | case5 c rest _ _ _ _ ih =>
    simp only [Option.bind_eq_bind, Option.bind_eq_some_iff] at h
    obtain ⟨⟨points', r'⟩, h', e⟩ := h
    cases e
    exact (ih h').trans (List.suffix_cons c rest)
  | case6 => cases h

/-- A run of digits stands in front of the rest. -/
theorem append_of_digits? {cs ds r : List Char} (h : digits? cs = some (ds, r)) :
    ds ++ r = cs ∧ ∀ c ∈ ds, c.isDigit = true := by
  unfold digits? at h
  split at h
  · cases h
  · cases h
    exact ⟨List.takeWhile_append_dropWhile, List.all_eq_true.mp List.all_takeWhile⟩

theorem append_of_whole? {cs ds r : List Char} (h : whole? cs = some (ds, r)) :
    ds ++ r = cs ∧ ∀ c ∈ ds, c.isDigit = true := by
  unfold whole? at h
  split at h
  · cases h
    exact ⟨rfl, List.forall_mem_singleton.mpr rfl⟩
  · exact append_of_digits? h

theorem suffix_of_digits? {cs ds r : List Char} (h : digits? cs = some (ds, r)) : r <:+ cs :=
  ⟨ds, (append_of_digits? h).1⟩

theorem suffix_fraction (cs : List Char) : (fraction cs).2 <:+ cs := by
  unfold fraction
  split
  · next rest =>
    cases h : digits? rest with
    | none => exact List.suffix_rfl
    | some p => exact (suffix_of_digits? h).trans (List.suffix_cons _ _)
  · exact List.suffix_rfl

theorem suffix_powerSign (cs : List Char) : (powerSign cs).2 <:+ cs := by
  unfold powerSign
  split
  · exact List.suffix_cons _ _
  · exact List.suffix_cons _ _
  · exact List.suffix_rfl

theorem suffix_of_power? {cs r : List Char} {n : Int} (h : power? cs = some (n, r)) :
    r <:+ cs := by
  unfold power? at h
  split at h
  · next e rest =>
    split at h
    · obtain ⟨⟨ds, r'⟩, hd, e⟩ := Option.map_eq_some_iff.1 h
      cases e
      exact ((suffix_of_digits? hd).trans (suffix_powerSign rest)).trans (List.suffix_cons _ _)
    · cases h
  · cases h

/-! ### What the readers come to -/

/-- What is read from the text satisfies `P`, and the rest is a part of the text.  If a numeral is
too long, it stands in the text. -/
structure Sound {α β : Type} (rest : β → List Char) (P : α → Prop) (cs : List Char)
    (result : Except Fault (α × β)) : Prop where
  ok : ∀ {a b}, result = .ok (a, b) → P a ∧ rest b <:+ cs
  long : result = .error .numeralTooLong → HasLongRun cs

namespace Sound

variable {α β γ δ : Type} {rest : β → List Char} {rest' : δ → List Char} {P : α → Prop}
  {Q : γ → Prop} {cs cs' : List Char} {result : Except Fault (α × β)}

theorem of_ok {a : α} {b : β} (ha : P a) (hb : rest b <:+ cs) : Sound rest P cs (.ok (a, b)) where
  ok h := by
    cases h
    exact ⟨ha, hb⟩
  long := nofun

theorem malformed : Sound rest P cs (.error .malformed) := ⟨nofun, nofun⟩

/-- A reader fails as the one it calls. -/
theorem of_error (h : Sound rest P cs' result) (hs : cs' <:+ cs) {e : Fault}
    (he : result = .error e) : Sound rest' Q cs (.error e) where
  ok := nofun
  long hlong := (h.long (he.trans (congrArg _ (Except.error.inj hlong)))).of_suffix hs

end Sound

/-! ### Whole documents -/

/-- A value has the property if all values it is made of have it.  An integer is one that can be
written out, since the reader takes no other. -/
structure Hereditary (P : Document → Prop) : Prop where
  null : P .null
  bool : ∀ value, P (.bool value)
  int : ∀ {value : Int}, Decimal.isWritable value.natAbs = true → P (.int value)
  real : ∀ value, P (.real value)
  text : ∀ points, P (.text points)
  array : ∀ {items : List Document}, (∀ d ∈ items, P d) → P (.array items)
  object : ∀ fields : OrderedMap (List Text.CodePoint) Document,
    (∀ field ∈ fields.entries, P field.2) → P (.object fields.entries)

variable {P : Document → Prop}

theorem Hereditary.of_forall (h : ∀ d, P d) : Hereditary P where
  null := h _
  bool _ := h _
  int _ := h _
  real _ := h _
  text _ := h _
  array _ := h _
  object _ _ := h _

/-- The fields that are kept are among those that were read. -/
theorem Hereditary.ofList (hP : Hereditary P) {fields : List (List Text.CodePoint × Document)}
    (h : ∀ field ∈ fields, P field.2) : P (.object (OrderedMap.ofList fields).entries) := by
  refine hP.object _ fun field hf => ?_
  have found := (OrderedMap.find?_eq_some_iff _).mpr hf
  exact h _ (OrderedMap.mem_of_find?_ofList found)

theorem Hereditary.constant (hP : Hereditary P) {cs r : List Char} {d : Document}
    (h : constant? cs = some (d, r)) : P d ∧ r <:+ cs := by
  obtain ⟨e, he, h⟩ := List.exists_of_findSome?_eq_some h
  split at h
  · cases h
    refine ⟨?_, List.drop_suffix _ _⟩
    simp only [constants, List.mem_cons, List.not_mem_nil, or_false] at he
    rcases he with rfl | rfl | rfl | rfl | rfl | rfl
    exacts [hP.null, hP.bool _, hP.bool _, hP.real _, hP.real _, hP.real _]
  · cases h

theorem sound_magnitude (hP : Hereditary P) (negative : Bool) (cs : List Char) :
    Sound id P cs (magnitude negative cs) := by
  unfold magnitude
  split
  · exact .malformed
  · next whole rest hw =>
    obtain ⟨hcs, hdigits⟩ := append_of_whole? hw
    have hfraction : (fraction rest).2 <:+ cs := (suffix_fraction rest).trans ⟨whole, hcs⟩
    split
    · split
      · next hlong =>
        refine ⟨nofun, fun _ => ⟨whole, ⟨[], rest, hcs⟩, hdigits, Nat.lt_of_not_le fun hle => ?_⟩⟩
        rw [Decimal.numeral?, if_pos hle] at hlong
        cases hlong
      · next n hn =>
        have hwritable := Decimal.isWritable_of_numeral? hn hdigits
        exact .of_ok (hP.int (by cases negative <;> simpa using hwritable)) hfraction
    · refine .of_ok (hP.real _) ?_
      cases hp : power? (fraction rest).2 with
      | none => exact hfraction
      | some p => exact (suffix_of_power? hp).trans hfraction

theorem sound_number (hP : Hereditary P) (cs : List Char) : Sound id P cs (number cs) := by
  unfold number
  split
  · next rest =>
    have h := sound_magnitude hP true rest
    have hs : rest <:+ '-' :: rest := List.suffix_cons _ _
    exact ⟨fun hok => ⟨(h.ok hok).1, (h.ok hok).2.trans hs⟩,
      fun hlong => (h.long hlong).of_suffix hs⟩
  · exact sound_magnitude hP false cs

/-- What is read of the texts with fewer than `n` characters. -/
structure SoundBelow (P : Document → Prop) (n : Nat) : Prop where
  value : ∀ {cs}, cs.length < n → Sound Subtype.val P cs (value cs)
  items : ∀ {cs}, cs.length < n →
    Sound Subtype.val (fun ds => ∀ d ∈ ds, P d) cs (items cs)
  fields : ∀ {cs}, cs.length < n →
    Sound Subtype.val (fun fs => ∀ field ∈ fs, P field.2) cs (fields cs)

namespace SoundBelow

variable {cs : List Char}

theorem mono {m n : Nat} (below : SoundBelow P n) (h : m ≤ n) : SoundBelow P m where
  value hcs := below.value (Nat.lt_of_lt_of_le hcs h)
  items hcs := below.items (Nat.lt_of_lt_of_le hcs h)
  fields hcs := below.fields (Nat.lt_of_lt_of_le hcs h)

theorem value_of (below : SoundBelow P cs.length) (hP : Hereditary P) :
    Sound Subtype.val P cs (Json.value cs) := by
  unfold Json.value
  split
  · split
    · exact .malformed
    · next hstring =>
      exact .of_ok (hP.text _) ((suffix_of_string? hstring).trans (List.suffix_cons _ _))
  · next rest =>
    have hitems := below.items (Nat.lt_succ_of_le (length_skip_le rest))
    have hs : skip rest <:+ '[' :: rest := (suffix_skip rest).trans (List.suffix_cons _ _)
    dsimp only
    split
    · next hskip =>
      exact .of_ok (hP.array (List.forall_mem_nil _))
        ((suffix_of_skip hskip).trans (List.suffix_cons _ _))
    · split
      · next hi => exact hitems.of_error hs hi
      · next hi =>
        obtain ⟨hds, hr⟩ := hitems.ok hi
        exact .of_ok (hP.array hds) (hr.trans hs)
  · next rest =>
    have hfields := below.fields (Nat.lt_succ_of_le (length_skip_le rest))
    have hs : skip rest <:+ '\x7b' :: rest := (suffix_skip rest).trans (List.suffix_cons _ _)
    dsimp only
    split
    · next hskip =>
      exact .of_ok (hP.ofList (List.forall_mem_nil _))
        ((suffix_of_skip hskip).trans (List.suffix_cons _ _))
    · split
      · next hf => exact hfields.of_error hs hf
      · next hf =>
        obtain ⟨hfs, hr⟩ := hfields.ok hf
        exact .of_ok (hP.ofList hfs) (hr.trans hs)
  · split
    · next hc =>
      obtain ⟨hd, hr⟩ := hP.constant hc
      exact .of_ok hd hr
    · split
      · next hn => exact (sound_number hP _).of_error List.suffix_rfl hn
      · next hn =>
        obtain ⟨hd, hr⟩ := (sound_number hP _).ok hn
        exact .of_ok hd hr

theorem items_of (below : SoundBelow P cs.length) (hP : Hereditary P) :
    Sound Subtype.val (fun ds => ∀ d ∈ ds, P d) cs (Json.items cs) := by
  have hvalue := below.value_of hP
  unfold Json.items
  split
  · next hv => exact hvalue.of_error List.suffix_rfl hv
  · next d rest hlt hv =>
    obtain ⟨hd, hrest⟩ := hvalue.ok hv
    dsimp only
    split
    · next hskip =>
      exact .of_ok (List.forall_mem_singleton.mpr hd) ((suffix_of_skip hskip).trans hrest)
    · next more hskip =>
      have hs : skip more <:+ cs :=
        (suffix_skip more).trans ((suffix_of_skip hskip).trans hrest)
      have hmore : (skip more).length < cs.length := by
        have h₁ := length_skip_le rest
        have h₂ := length_skip_le more
        rw [hskip, List.length_cons] at h₁
        omega
      have hitems := below.items hmore
      split
      · next hi => exact hitems.of_error hs hi
      · next hi =>
        obtain ⟨hds, hr⟩ := hitems.ok hi
        exact .of_ok (List.forall_mem_cons.mpr ⟨hd, hds⟩) (hr.trans hs)
    · exact .malformed

theorem fields_of (below : SoundBelow P cs.length) :
    Sound Subtype.val (fun fs => ∀ field ∈ fs, P field.2) cs (Json.fields cs) := by
  unfold Json.fields
  split
  · next rest =>
    split
    · exact .malformed
    · next points r₁ hstring =>
      have h₁ := length_of_string? hstring
      have h₂ := length_skip_le r₁
      have hs₁ : r₁ <:+ '"' :: rest := (suffix_of_string? hstring).trans (List.suffix_cons _ _)
      dsimp only
      split
      · next r₂ hcolon =>
        have h₃ := length_skip_le r₂
        have hs₂ : skip r₂ <:+ '"' :: rest :=
          (suffix_skip r₂).trans ((suffix_of_skip hcolon).trans hs₁)
        rw [hcolon, List.length_cons] at h₂
        have hvalue : Sound Subtype.val P (skip r₂) (Json.value (skip r₂)) :=
          below.value (by rw [List.length_cons]; omega)
        split
        · next hv => exact hvalue.of_error hs₂ hv
        · next d r₃ h₄ hv =>
          obtain ⟨hd, hr⟩ := hvalue.ok hv
          have hs₃ : r₃ <:+ '"' :: rest := hr.trans hs₂
          split
          · next hbrace =>
            exact .of_ok (List.forall_mem_singleton.mpr hd) ((suffix_of_skip hbrace).trans hs₃)
          · next r₄ hcomma =>
            have h₅ := length_skip_le r₃
            have h₆ := length_skip_le r₄
            have hs₄ : skip r₄ <:+ '"' :: rest :=
              (suffix_skip r₄).trans ((suffix_of_skip hcomma).trans hs₃)
            rw [hcomma, List.length_cons] at h₅
            have hfields : Sound Subtype.val (fun fs => ∀ field ∈ fs, P field.2)
                (skip r₄) (Json.fields (skip r₄)) :=
              below.fields (by rw [List.length_cons]; omega)
            split
            · next hf => exact hfields.of_error hs₄ hf
            · next hf =>
              obtain ⟨hfs, hr⟩ := hfields.ok hf
              exact .of_ok (List.forall_mem_cons.mpr ⟨hd, hfs⟩) (hr.trans hs₄)
          · exact .malformed
      · exact .malformed
  · exact .malformed

end SoundBelow

theorem soundBelow (hP : Hereditary P) : ∀ n, SoundBelow P n
  | 0 => ⟨nofun, nofun, nofun⟩
  | n + 1 =>
    have below {cs : List Char} (h : cs.length < n + 1) : SoundBelow P cs.length :=
      (soundBelow hP n).mono (Nat.le_of_lt_succ h)
    { value := fun h => (below h).value_of hP
      items := fun h => (below h).items_of hP
      fields := fun h => (below h).fields_of }

end Json

/-- The reader stops at a long numeral only where there is one in the text. -/
theorem Document.hasLongRun_of_parse {text : String}
    (h : parse text = .error .numeralTooLong) : Json.HasLongRun text.toList := by
  have anything : Json.Hereditary fun _ => True := .of_forall fun _ => trivial
  unfold parse at h
  split at h
  · next hv =>
    cases h
    exact (((Json.soundBelow anything _).value_of anything).long hv).of_suffix (Json.suffix_skip _)
  · split at h <;> cases h

/-- A property that goes from the parts to the whole holds of every document that was read. -/
theorem Document.holds_of_parse {P : Document → Prop} (hP : Json.Hereditary P) {text : String}
    {d : Document} (h : parse text = .ok d) : P d := by
  unfold parse at h
  split at h
  · cases h
  · next hv =>
    split at h
    · cases h
      exact ((Json.soundBelow hP _).value_of hP).ok hv |>.1
    · cases h

end AxisMixer
