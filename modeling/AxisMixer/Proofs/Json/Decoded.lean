import AxisMixer.Proofs.Json.Reading
import Mathlib.Data.List.Nodup

/-!
# Decoded documents — what is true of every document that was read

A `Document` may list a field twice, but no JSON text denotes one that does (`distinct_of_parse`).
It may hold an integer of any length, but one that was read can be written out again
(`writable_of_parse`).

Names that differ are also different texts, as long as no stand-in is a character of the document
(`Separates`).  So it is in a document without halves of surrogate pairs, and in any other one that
leaves some stand-ins free (`legible_of_parse`).

* `Document.Distinct`: no object in the document has two fields of one name.
* `Document.Writable`: all integers in the document can be written out.
* `Text.StandIns.Separates`: different code points have different characters.
* `Document.Legible`: names that differ in the document are different texts.
-/

namespace AxisMixer

/-! ### Names in an object -/

inductive Document.Distinct : Document → Prop where
  | null : Distinct .null
  | bool (value : Bool) : Distinct (.bool value)
  | int (value : Int) : Distinct (.int value)
  | real (value : Decimal.Binary64) : Distinct (.real value)
  | text (points : List Text.CodePoint) : Distinct (.text points)
  | array {items : List Document} (each : ∀ d ∈ items, d.Distinct) : Distinct (.array items)
  | object {fields : List (List Text.CodePoint × Document)}
      (nodup : (fields.map Prod.fst).Nodup) (each : ∀ field ∈ fields, field.2.Distinct) :
      Distinct (.object fields)

theorem Json.hereditary_distinct : Hereditary Document.Distinct where
  null := .null
  bool := .bool
  int {value} _ := .int value
  real := .real
  text := .text
  array := .array
  object fields := .object fields.nodup

theorem Document.distinct_of_parse {text : String} {d : Document} (h : parse text = .ok d) :
    d.Distinct :=
  holds_of_parse Json.hereditary_distinct h

/-! ### Integers -/

/-- Every integer in the document can be written out. -/
inductive Document.Writable : Document → Prop where
  | null : Writable .null
  | bool (value : Bool) : Writable (.bool value)
  | int {value : Int} (h : Decimal.isWritable value.natAbs = true) : Writable (.int value)
  | real (value : Decimal.Binary64) : Writable (.real value)
  | text (points : List Text.CodePoint) : Writable (.text points)
  | array {items : List Document} (each : ∀ d ∈ items, d.Writable) : Writable (.array items)
  | object {fields : List (List Text.CodePoint × Document)}
      (each : ∀ field ∈ fields, field.2.Writable) : Writable (.object fields)

theorem Json.hereditary_writable : Hereditary Document.Writable where
  null := .null
  bool := .bool
  int := .int
  real := .real
  text := .text
  array := .array
  object _ := .object

theorem Document.writable_of_parse {text : String} {d : Document} (h : parse text = .ok d) :
    d.Writable :=
  holds_of_parse Json.hereditary_writable h

/-! ### Names as text -/

namespace Text

def CodePoint.isChar : CodePoint → Bool
  | char _ => true
  | half _ => false

namespace StandIns

variable {s : StandIns} {points : List CodePoint}

def Separates (s : StandIns) (points : List CodePoint) : Prop :=
  ∀ p ∈ points, ∀ q ∈ points, s.char p = s.char q → p = q

theorem Separates.mono {points' : List CodePoint} (h : s.Separates points)
    (sub : points' ⊆ points) : s.Separates points' :=
  fun p hp q hq => h p (sub hp) q (sub hq)

/-- Strings that differ are different texts. -/
theorem Separates.text_inj {a b : List CodePoint} (h : s.Separates points) (ha : a ⊆ points)
    (hb : b ⊆ points) (e : s.text a = s.text b) : a = b := by
  have hmap : a.map s.char = b.map s.char := String.ofList_injective e
  clear e
  induction a generalizing b with
  | nil => exact (List.map_eq_nil_iff.mp hmap.symm).symm
  | cons p a ih =>
    cases b with
    | nil => cases hmap
    | cons q b =>
      obtain ⟨hp, ha⟩ := List.cons_subset.mp ha
      obtain ⟨hq, hb⟩ := List.cons_subset.mp hb
      obtain ⟨hchar, hmap⟩ := List.cons.inj hmap
      rw [h p hp q hq hchar, ih ha hb hmap]

/-- Characters stand for themselves. -/
theorem separates_of_isChar (h : points.all CodePoint.isChar = true) : s.Separates points := by
  have ischar := List.all_eq_true.mp h
  rintro (c | n) hp (c' | n') hq e
  · exact congrArg CodePoint.char e
  · cases ischar _ hq
  · cases ischar _ hp
  · cases ischar _ hp

theorem toNat_char_half (hs : s ∈ choices) (n : Fin 0x800) :
    (s.char (.half n)).toNat = s.first + n := by
  obtain ⟨k, hk, rfl⟩ := List.mem_map.mp hs
  rw [List.mem_range] at hk
  have hvalid : (0xF0000 + 0x800 * k + n).isValidChar := .inr (by omega)
  rw [char, Char.ofNat, dif_pos hvalid]
  rfl

/-- Stand-ins that the code points do not hold are told apart from them. -/
theorem separates_of_not_holds (hs : s ∈ choices) (free : points.any s.holds = false) :
    s.Separates points := by
  have apart : ∀ c n, .char c ∈ points → c ≠ s.char (.half n) := by
    rintro c n hc rfl
    have := n.isLt
    have hc := List.any_eq_false.mp free _ hc
    simp [holds, toNat_char_half hs] at hc
  rintro (c | n) hp (c' | n') hq e
  · exact congrArg CodePoint.char e
  · exact absurd e (apart c n' hp)
  · exact absurd e.symm (apart c' n hq)
  · have := congrArg Char.toNat e
    rw [toNat_char_half hs, toNat_char_half hs] at this
    exact congrArg CodePoint.half (Fin.ext (by omega))

/-- The stand-ins are told apart if there are any that the code points do not hold. -/
theorem separates_avoiding {s : StandIns} (hs : s ∈ choices) (free : points.any s.holds = false) :
    (avoiding points).Separates points := by
  unfold avoiding
  cases h : choices.find? fun s => !points.any s.holds with
  | none => exact absurd (List.find?_eq_none.mp h s hs) (by simp [free])
  | some t =>
    have ht : points.any t.holds = false := by simpa using List.find?_some h
    exact separates_of_not_holds (List.mem_of_find?_eq_some h) ht

end StandIns

end Text

namespace Document

theorem subset_fieldPoints {field : List Text.CodePoint × Document} :
    ∀ {fields}, field ∈ fields →
      field.1 ⊆ fieldPoints fields ∧ field.2.points ⊆ fieldPoints fields
  | (name, d) :: rest, h => by
      have hname : name ⊆ fieldPoints ((name, d) :: rest) := by simp [fieldPoints]
      have hd : d.points ⊆ fieldPoints ((name, d) :: rest) := by simp [fieldPoints]
      have hrest : fieldPoints rest ⊆ fieldPoints ((name, d) :: rest) := by simp [fieldPoints]
      rcases List.mem_cons.mp h with rfl | h
      · exact ⟨hname, hd⟩
      · obtain ⟨h₁, h₂⟩ := subset_fieldPoints h
        exact ⟨List.Subset.trans h₁ hrest, List.Subset.trans h₂ hrest⟩

/-- Names that differ in the document are different texts. -/
structure Legible (s : Text.StandIns) (d : Document) : Prop where
  distinct : d.Distinct
  separates : s.Separates d.points

variable {s : Text.StandIns} {fields : List (List Text.CodePoint × Document)}

theorem Legible.nodup_names (h : (object fields).Legible s) :
    (fields.map fun field => s.text field.1).Nodup := by
  cases h.distinct with
  | object nodup _ =>
    have hnames : ((fields.map Prod.fst).map s.text).Nodup := by
      refine nodup.map_on fun a ha b hb e => ?_
      obtain ⟨fa, hfa, rfl⟩ := List.mem_map.mp ha
      obtain ⟨fb, hfb, rfl⟩ := List.mem_map.mp hb
      exact h.separates.text_inj (subset_fieldPoints hfa).1 (subset_fieldPoints hfb).1 e
    rwa [List.map_map] at hnames

theorem Legible.of_mem (h : (object fields).Legible s)
    {field : List Text.CodePoint × Document} (hf : field ∈ fields) : field.2.Legible s := by
  cases h.distinct with
  | object _ each => exact ⟨each field hf, h.separates.mono (subset_fieldPoints hf).2⟩

theorem Legible.empty : (object []).Legible s := ⟨.object .nil nofun, nofun⟩

theorem legible_of_parse {text : String} {d : Document} (h : parse text = .ok d)
    (apart : d.points.all Text.CodePoint.isChar = true ∨
      ∃ s ∈ Text.StandIns.choices, d.points.any s.holds = false) : d.Legible d.standIns := by
  refine ⟨distinct_of_parse h, ?_⟩
  rcases apart with chars | ⟨s, hs, free⟩
  · exact Text.StandIns.separates_of_isChar chars
  · exact Text.StandIns.separates_avoiding hs free

end Document

end AxisMixer
