import AxisMixer.Config.OfDocument
import AxisMixer.Proofs.Expr.Printing
import AxisMixer.Proofs.Json.Decoded
import Mathlib.Data.List.Forall2

/-!
# Acceptance — which documents are configurations, and what they say

`Config.ofDocument` reads a document part by part and stops at the first thing that is wrong.  Here
the documents that it accepts are described without it: `Shaped` says of each part what it may be.
What a part then says is a relation to the value it stands for (`GivesMatcher`, `GivesRule`,
`GivesOutput`, and `Describes` for the whole).

Each reader comes to a value exactly if its part gives that value (`readMatcher_eq_ok`, and so on
up to `readDocument_eq_ok`), and a part gives some value exactly if it has the right shape.  Both
together are `ofDocument_accepts`.

* `Shaped`: the documents that are configurations.
* `Lists`: a map holds what fields give, in their order.
* `Describes`: a document describes a configuration.
-/

namespace AxisMixer

/-! ### Readings that succeed -/

section Except

variable {ε α β : Type}

theorem bind_eq_ok {x : Except ε α} {f : α → Except ε β} {b : β} :
    x >>= f = .ok b ↔ ∃ a, x = .ok a ∧ f a = .ok b := by
  cases x <;> simp [bind, Except.bind]

theorem map_eq_ok {x : Except ε α} {f : α → β} {b : β} :
    f <$> x = .ok b ↔ ∃ a, x = .ok a ∧ f a = b := by
  cases x <;> simp [Functor.map, Except.map]

theorem pure_eq_ok {a b : α} : (pure a : Except ε α) = .ok b ↔ a = b := by
  simp [pure, Except.pure]

theorem mapM_eq_ok {f : α → Except ε β} :
    ∀ {l : List α} {r : List β}, l.mapM f = .ok r ↔ List.Forall₂ (fun a b => f a = .ok b) l r
  | [], r => by rw [List.mapM_nil, pure_eq_ok, List.forall₂_nil_left_iff, eq_comm]
  | a :: l, r => by
      simp only [List.mapM_cons, bind_eq_ok, pure_eq_ok, mapM_eq_ok, List.forall₂_cons_left_iff]
      constructor
      · rintro ⟨b, hb, bs, hbs, rfl⟩
        exact ⟨b, bs, hb, hbs, rfl⟩
      · rintro ⟨b, bs, hb, hbs, rfl⟩
        exact ⟨b, hb, bs, hbs, rfl⟩

/-- Values for all members of a list can be chosen one by one. -/
theorem exists_forall₂ {R : α → β → Prop} :
    ∀ {l : List α}, (∃ r, List.Forall₂ R l r) ↔ ∀ a ∈ l, ∃ b, R a b
  | [] => by simp
  | a :: l => by
      simp only [List.forall₂_cons_left_iff, List.forall_mem_cons, ← exists_forall₂ (l := l)]
      constructor
      · rintro ⟨_, b, r, hb, hr, rfl⟩
        exact ⟨⟨b, hb⟩, r, hr⟩
      · rintro ⟨⟨b, hb⟩, r, hr⟩
        exact ⟨_, b, r, hb, hr, rfl⟩

end Except

namespace Config

variable (s : Text.StandIns)

/-! ### The shape of a document -/

/-- The field is missing or null. -/
def Omitted (found : Option Document) : Prop := found = none ∨ found = some .null

/-- The document is an id: an integer or a hexadecimal numeral, and its value has sixteen bits. -/
inductive IsId : Document → Int → Prop where
  | int {id : Int} (range : 0 ≤ id ∧ id ≤ 0xFFFF) : IsId (.int id) id
  | numeral {points : List Text.CodePoint} {id : Int}
      (value : Text.hexNumeral? (s.text points) = some id) (range : 0 ≤ id ∧ id ≤ 0xFFFF) :
      IsId (.text points) id

/-- The field is an id, if it is there and not null. -/
def IdShaped (found : Option Document) : Prop :=
  Omitted found ∨ ∃ d id, found = some d ∧ IsId s d id

/-- The entry of a physical device: a path, or an object with either a path or two ids. -/
inductive MatcherShaped : Document → Prop where
  | path (points : List Text.CodePoint) : MatcherShaped (.text points)
  | fields {fields : Fields}
      (vendor : IdShaped s (Fields.get? fields "vendor_id"))
      (product : IdShaped s (Fields.get? fields "product_id"))
      (either :
        (¬Omitted (Fields.get? fields "path") ∧
          Omitted (Fields.get? fields "vendor_id") ∧ Omitted (Fields.get? fields "product_id")) ∨
        (Omitted (Fields.get? fields "path") ∧
          ¬Omitted (Fields.get? fields "vendor_id") ∧
          ¬Omitted (Fields.get? fields "product_id"))) :
      MatcherShaped (.object fields)

/-- The entry of an axis: an object with a range that is not empty and an expression. -/
inductive RuleShaped : Document → Prop where
  | fields {fields : Fields} {min max : Int} {points : List Text.CodePoint}
      (least : Fields.get? fields "min" = some (.int min))
      (greatest : Fields.get? fields "max" = some (.int max))
      (min_le_max : min ≤ max)
      (source : Fields.get? fields "expr" = some (.text points))
      (parses : ∃ expr, Expr.parse (s.text points) = .ok expr) :
      RuleShaped (.object fields)

/-- The field is a string that is not empty, if it is there. -/
def NameShaped (found : Option Document) : Prop :=
  found = none ∨ ∃ points, found = some (.text points) ∧ points ≠ []

/-- The entry of a virtual device: an object with axes under their names, and what the device says
of itself. -/
inductive OutputShaped : Document → Prop where
  | fields {fields axes : Fields}
      (found : Fields.get? fields "axes" = some (.object axes))
      (nonempty : axes ≠ [])
      (axes : ∀ entry ∈ axes, (∃ a : Axis, a.name = s.text entry.1) ∧ RuleShaped s entry.2)
      (name : NameShaped (Fields.get? fields "name"))
      (vendor : IdShaped s (Fields.get? fields "vendor_id"))
      (product : IdShaped s (Fields.get? fields "product_id")) :
      OutputShaped (.object fields)

/-- The section is an object with these entries, or it is missing and there are none. -/
def HasSection (fields : Fields) (name : String) (entries : Fields) : Prop :=
  (Fields.get? fields name = none ∧ entries = []) ∨
    Fields.get? fields name = some (.object entries)

/-- The document is a configuration. -/
inductive Shaped : Document → Prop where
  | sections {fields physical virtual : Fields}
      (hasPhysical : HasSection fields "real_devices" physical)
      (hasVirtual : HasSection fields "virt_devices" virtual)
      (matchers : ∀ entry ∈ physical,
        isDeviceName (s.text entry.1) = true ∧ MatcherShaped s entry.2)
      (outputs : ∀ entry ∈ virtual, OutputShaped s entry.2) :
      Shaped (.object fields)

/-! ### What a document says -/

/-- The id that an optional field gives. -/
inductive GivesId : Option Document → Option Int → Prop where
  | omitted {found : Option Document} (h : Omitted found) : GivesId found none
  | given {d : Document} {id : Int} (h : IsId s d id) : GivesId (some d) (some id)

inductive GivesMatcher : Document → Matcher → Prop where
  | path (points : List Text.CodePoint) : GivesMatcher (.text points) (.atPath (s.text points))
  | atPath {fields : Fields} {d : Document}
      (path : Fields.get? fields "path" = some d) (given : d ≠ .null)
      (vendor : GivesId s (Fields.get? fields "vendor_id") none)
      (product : GivesId s (Fields.get? fields "product_id") none) :
      GivesMatcher (.object fields) (.atPath (pathText s d))
  | withIds {fields : Fields} {v p : Int}
      (path : Omitted (Fields.get? fields "path"))
      (vendor : GivesId s (Fields.get? fields "vendor_id") (some v))
      (product : GivesId s (Fields.get? fields "product_id") (some p)) :
      GivesMatcher (.object fields) (.withIds v p)

/-- The range is the one that is given, and the expression is the one that its text denotes. -/
inductive GivesRule : Document → Rule → Prop where
  | fields {fields : Fields} {points : List Text.CodePoint} {rule : Rule}
      (least : Fields.get? fields "min" = some (.int rule.min))
      (greatest : Fields.get? fields "max" = some (.int rule.max))
      (source : Fields.get? fields "expr" = some (.text points))
      (parses : Expr.parse (s.text points) = .ok rule.expr) :
      GivesRule (.object fields) rule

inductive GivesName : Option Document → String → Prop where
  | missing : GivesName none Output.defaultName
  | given {points : List Text.CodePoint} (nonempty : points ≠ []) :
      GivesName (some (.text points)) (s.text points)

/-- The map is made of what the fields give, one after another. -/
def Lists {κ α : Type} [DecidableEq κ] (R : List Text.CodePoint × Document → κ × α → Prop)
    (fields : Fields) (m : OrderedMap κ α) : Prop :=
  ∃ l, List.Forall₂ R fields l ∧ .ofList l = m

def GivesAxis (field : List Text.CodePoint × Document) (entry : Axis × Rule) : Prop :=
  entry.1.name = s.text field.1 ∧ GivesRule s field.2 entry.2

inductive GivesOutput : Document → Output → Prop where
  | fields {fields axes : Fields} {output : Output} {v p : Option Int}
      (found : Fields.get? fields "axes" = some (.object axes))
      (nonempty : axes ≠ [])
      (lists : Lists (GivesAxis s) axes output.axes)
      (name : GivesName s (Fields.get? fields "name") output.name)
      (vendor : GivesId s (Fields.get? fields "vendor_id") v)
      (vendor_eq : output.vendor = v.getD Output.defaultVendor)
      (product : GivesId s (Fields.get? fields "product_id") p)
      (product_eq : output.product = p.getD Output.defaultProduct) :
      GivesOutput (.object fields) output

def GivesPhysical (field : List Text.CodePoint × Document) (entry : String × Matcher) : Prop :=
  entry.1 = s.text field.1 ∧ isDeviceName entry.1 = true ∧ GivesMatcher s field.2 entry.2

def GivesVirtual (field : List Text.CodePoint × Document) (entry : String × Output) : Prop :=
  entry.1 = s.text field.1 ∧ GivesOutput s field.2 entry.2

/-- The document describes the configuration. -/
inductive Describes : Document → Config → Prop where
  | sections {fields physical virtual : Fields} {c : Config}
      (hasPhysical : HasSection fields "real_devices" physical)
      (hasVirtual : HasSection fields "virt_devices" virtual)
      (matchers : Lists (GivesPhysical s) physical c.physical)
      (outputs : Lists (GivesVirtual s) virtual c.virtual) :
      Describes (.object fields) c

/-- The axes of the virtual device are those of its entry, in their order. -/
def AxesInOrder (entry : Document) (output : Output) : Prop :=
  ∃ fields axes, entry = .object fields ∧ Fields.get? fields "axes" = some (.object axes) ∧
    List.Forall₂ (GivesAxis s) axes output.axes.entries

/-- Devices and axes have the order of the document, and none is left out. -/
inductive InOrder : Document → Config → Prop where
  | sections {fields physical virtual : Fields} {c : Config}
      (hasPhysical : HasSection fields "real_devices" physical)
      (hasVirtual : HasSection fields "virt_devices" virtual)
      (matchers : List.Forall₂ (GivesPhysical s) physical c.physical.entries)
      (outputs : List.Forall₂ (GivesVirtual s) virtual c.virtual.entries)
      (axes : List.Forall₂ (fun field entry => AxesInOrder s field.2 entry.2) virtual
        c.virtual.entries) :
      InOrder (.object fields) c

/-! ### Each reader comes to what its part gives -/

variable {s}

theorem fail_ne_ok {α : Type} {place : List String} {cause : ShapeError.Cause} {a : α} :
    fail place cause ≠ .ok a :=
  fun h => nomatch h

theorem checkId_eq_ok {place : List String} {id id' : Int} :
    checkId place id = .ok id' ↔ id = id' ∧ 0 ≤ id ∧ id ≤ 0xFFFF := by
  unfold checkId
  split
  · next h => simp [h]
  · next h =>
    refine ⟨fun e => ?_, fun e => absurd e.2 h⟩
    split at e <;> cases e

theorem readId_eq_ok {place : List String} {found : Option Document} {id : Option Int} :
    readId s place found = .ok id ↔ GivesId s found id := by
  constructor
  · intro h
    unfold readId at h
    split at h
    · cases h; exact .omitted (.inl rfl)
    · cases h; exact .omitted (.inr rfl)
    · obtain ⟨_, hc, rfl⟩ := map_eq_ok.mp h
      obtain ⟨rfl, hr⟩ := checkId_eq_ok.mp hc
      exact .given (.int hr)
    · dsimp only at h
      split at h
      · next hn =>
        obtain ⟨_, hc, rfl⟩ := map_eq_ok.mp h
        obtain ⟨rfl, hr⟩ := checkId_eq_ok.mp hc
        exact .given (.numeral hn hr)
      · cases h
    · cases h
  · rintro (⟨rfl | rfl⟩ | ⟨hr⟩ | ⟨hn, hr⟩)
    · rfl
    · rfl
    · rw [readId, map_eq_ok]
      exact ⟨_, checkId_eq_ok.mpr ⟨rfl, hr⟩, rfl⟩
    · simp only [readId, hn, map_eq_ok]
      exact ⟨_, checkId_eq_ok.mpr ⟨rfl, hr⟩, rfl⟩

theorem givenPath?_eq_none {found : Option Document} :
    givenPath? s found = none ↔ Omitted found := by
  unfold givenPath? Omitted
  split
  · simp
  · simp
  · next h => simpa using h

theorem givenPath?_eq_some {found : Option Document} {path : String} :
    givenPath? s found = some path ↔ ∃ d, found = some d ∧ d ≠ .null ∧ pathText s d = path := by
  unfold givenPath?
  split
  · simp
  · simp
  · next h => simpa [eq_comm] using fun _ => h

theorem matcherOf?_eq_ok {path : Option String} {vendor product : Option Int} {m : Matcher} :
    Matcher.of? path vendor product = .ok m ↔
      (∃ t, path = some t ∧ vendor = none ∧ product = none ∧ m = .atPath t) ∨
        (path = none ∧ ∃ v p, vendor = some v ∧ product = some p ∧ m = .withIds v p) := by
  rcases path with _ | t <;> rcases vendor with _ | v <;> rcases product with _ | p <;>
    simp [Matcher.of?, eq_comm]

/-- The path and the ids of a physical device are read first, and then the matcher is made. -/
theorem readMatcher_object_eq_ok {name : String} {fields : Fields} {m : Matcher} :
    readMatcher s name (.object fields) = .ok m ↔ isDeviceName name = true ∧
      ∃ v, GivesId s (Fields.get? fields "vendor_id") v ∧
        ∃ p, GivesId s (Fields.get? fields "product_id") p ∧
          Matcher.of? (givenPath? s (Fields.get? fields "path")) v p = .ok m := by
  by_cases hn : isDeviceName name = true
  · simp only [readMatcher, hn, if_true, true_and, bind_eq_ok, readId_eq_ok]
    refine exists_congr fun v => and_congr_right' (exists_congr fun p => and_congr_right' ?_)
    cases Matcher.of? (givenPath? s (Fields.get? fields "path")) v p with
    | ok m' => simp only [pure_eq_ok, Except.ok.injEq]
    | error fault => exact iff_of_false fail_ne_ok nofun
  · simp [readMatcher, hn, fail, bind, Except.bind]

theorem readMatcher_eq_ok {name : String} {entry : Document} {m : Matcher} :
    readMatcher s name entry = .ok m ↔ isDeviceName name = true ∧ GivesMatcher s entry m := by
  constructor
  · intro h
    by_cases hn : isDeviceName name = true
    · refine ⟨hn, ?_⟩
      cases entry with
      | text points =>
        simp only [readMatcher, hn, if_true, pure_eq_ok] at h
        exact h ▸ .path points
      | object fields =>
        obtain ⟨-, v, hv, p, hp, h⟩ := readMatcher_object_eq_ok.mp h
        obtain ⟨t, ht, rfl, rfl, rfl⟩ | ⟨ht, v, p, rfl, rfl, rfl⟩ := matcherOf?_eq_ok.mp h
        · obtain ⟨d, hd, given, rfl⟩ := givenPath?_eq_some.mp ht
          exact .atPath hd given hv hp
        · exact .withIds (givenPath?_eq_none.mp ht) hv hp
      | _ =>
        simp only [readMatcher, hn, if_true] at h
        cases h
    · simp [readMatcher, hn, fail, bind, Except.bind] at h
  · rintro ⟨hn, h⟩
    cases h with
    | path points => simp only [readMatcher, hn, if_true, pure_eq_ok]
    | atPath path given vendor product =>
      refine readMatcher_object_eq_ok.mpr ⟨hn, _, vendor, _, product,
        matcherOf?_eq_ok.mpr (.inl ?_)⟩
      exact ⟨_, givenPath?_eq_some.mpr ⟨_, path, given, rfl⟩, rfl, rfl, rfl⟩
    | withIds path vendor product =>
      refine readMatcher_object_eq_ok.mpr ⟨hn, _, vendor, _, product,
        matcherOf?_eq_ok.mpr (.inr ?_)⟩
      exact ⟨givenPath?_eq_none.mpr path, _, _, rfl, rfl, rfl⟩

theorem required_eq_ok {place : List String} {fields : Fields} {name : String} {d : Document} :
    required place fields name = .ok d ↔ Fields.get? fields name = some d := by
  unfold required
  split
  · next h => simp [h]
  · next h => simp [h, fail]

theorem readInteger_eq_ok {place : List String} {d : Document} {n : Int} :
    readInteger place d = .ok n ↔ d = .int n := by
  unfold readInteger
  split
  · simp
  · next h => simpa [fail] using h n

theorem readExpr_eq_ok {place : List String} {d : Document} {expr : Expr} :
    readExpr s place d = .ok expr ↔
      ∃ points, d = .text points ∧ Expr.parse (s.text points) = .ok expr := by
  unfold readExpr
  split
  · next points =>
    split <;> rename_i h <;> simp [h]
  · next h => simpa [fail] using fun points e => absurd e (h points)

theorem ruleOf?_eq_ok {min max : Int} {expr : Expr} {rule : Rule} :
    Rule.of? min max expr = .ok rule ↔ min = rule.min ∧ max = rule.max ∧ expr = rule.expr := by
  obtain ⟨min', max', expr', h'⟩ := rule
  unfold Rule.of?
  split
  · simp
  · next h =>
    refine iff_of_false nofun ?_
    rintro ⟨rfl, rfl, -⟩
    exact h h'

theorem readRule_eq_ok {place : List String} {entry : Document} {rule : Rule} :
    readRule s place entry = .ok rule ↔ GivesRule s entry rule := by
  constructor
  · intro h
    unfold readRule at h
    split at h
    · simp only [bind_eq_ok, required_eq_ok, readInteger_eq_ok, readExpr_eq_ok] at h
      obtain ⟨_, hmin, _, hmax, _, hexpr, min, rfl, max, rfl, expr, ⟨points, rfl, hparse⟩, h⟩ := h
      split at h
      · next hr =>
        rw [pure_eq_ok] at h
        subst h
        obtain ⟨rfl, rfl, rfl⟩ := ruleOf?_eq_ok.mp hr
        exact .fields hmin hmax hexpr hparse
      · cases h
    · cases h
  · rintro ⟨least, greatest, source, parses⟩
    simp only [readRule, bind_eq_ok, required_eq_ok, readInteger_eq_ok, readExpr_eq_ok]
    refine ⟨_, least, _, greatest, _, source, _, rfl, _, rfl, _, ⟨_, rfl, parses⟩, ?_⟩
    rw [ruleOf?_eq_ok.mpr ⟨rfl, rfl, rfl⟩]
    rfl

theorem readAxis_eq_ok {place : List String} {field : List Text.CodePoint × Document}
    {entry : Axis × Rule} : readAxis s place field = .ok entry ↔ GivesAxis s field entry := by
  obtain ⟨axis, rule⟩ := entry
  simp only [readAxis, GivesAxis, ← Axis.ofName?_eq_some_iff]
  cases Axis.ofName? (s.text field.1) with
  | none => exact iff_of_false fail_ne_ok fun h => nomatch h.1
  | some found =>
    simp only [bind_eq_ok, readRule_eq_ok, pure_eq_ok, Prod.mk.injEq, Option.some.injEq]
    constructor
    · rintro ⟨_, h, rfl, rfl⟩
      exact ⟨rfl, h⟩
    · rintro ⟨rfl, h⟩
      exact ⟨_, h, rfl, rfl⟩

theorem readDisplayName_eq_ok {place : List String} {found : Option Document} {name : String} :
    readDisplayName s place found = .ok name ↔ GivesName s found name := by
  constructor
  · intro h
    unfold readDisplayName at h
    split at h
    · cases h; exact .missing
    · next points =>
      split at h
      · cases h
      · next hp =>
        cases h
        exact .given (by simpa using hp)
    · cases h
  · rintro (_ | hp)
    · rfl
    · simp [readDisplayName, hp]

/-- The axes of a virtual device are read first, and then what it says of itself. -/
theorem readOutput_object_eq_ok {name : String} {fields axes : Fields} {output : Output}
    (found : Fields.get? fields "axes" = some (.object axes)) (nonempty : axes ≠ []) :
    readOutput s name (.object fields) = .ok output ↔
      ∃ l, List.Forall₂ (GivesAxis s) axes l ∧
        ∃ n, GivesName s (Fields.get? fields "name") n ∧
          ∃ v, GivesId s (Fields.get? fields "vendor_id") v ∧
            ∃ p, GivesId s (Fields.get? fields "product_id") p ∧
              { axes := .ofList l, name := n
                vendor := v.getD Output.defaultVendor
                product := p.getD Output.defaultProduct : Output } = output := by
  obtain ⟨axis, more, rfl⟩ := List.exists_cons_of_ne_nil nonempty
  simp only [readOutput, found, bind_eq_ok, pure_eq_ok, mapM_eq_ok, readAxis_eq_ok,
    readDisplayName_eq_ok, readId_eq_ok]

theorem readOutput_eq_ok {name : String} {entry : Document} {output : Output} :
    readOutput s name entry = .ok output ↔ GivesOutput s entry output := by
  constructor
  · intro h
    cases entry with
    | object fields =>
      cases hfound : Fields.get? fields "axes" with
      | none => simp [readOutput, hfound, fail] at h
      | some found =>
        cases found with
        | object axes =>
          by_cases hne : axes = []
          · simp [readOutput, hfound, hne, fail] at h
          · obtain ⟨l, hl, n, hn, v, hv, p, hp, rfl⟩ :=
              (readOutput_object_eq_ok hfound hne).mp h
            exact .fields hfound hne (⟨l, hl, rfl⟩) hn hv rfl hp rfl
        | _ => simp [readOutput, hfound, fail] at h
    | _ => cases h
  · intro h
    obtain ⟨axes, n, vendor, product⟩ := output
    obtain ⟨found, nonempty, lists, name, hv, rfl, hp, rfl⟩ := h
    obtain ⟨l, hl, rfl⟩ := lists
    exact (readOutput_object_eq_ok found nonempty).mpr ⟨l, hl, n, name, _, hv, _, hp, rfl⟩

theorem readSection_eq_ok {fields entries : Fields} {name : String} :
    readSection fields name = .ok entries ↔ HasSection fields name entries := by
  unfold readSection HasSection
  split
  · next h => simp [h, eq_comm]
  · next h => simp [h]
  · next found hne h =>
    refine iff_of_false fail_ne_ok ?_
    rw [h]
    rintro (⟨h', -⟩ | h')
    · cases h'
    · exact hne _ (Option.some.inj h')

theorem readEntries_eq_ok {α : Type} {read : String → Document → Except ReadError α}
    {fields : Fields} {l : List (String × α)} :
    readEntries s read fields = .ok l ↔
      List.Forall₂ (fun field entry =>
        entry.1 = s.text field.1 ∧ read entry.1 field.2 = .ok entry.2) fields l := by
  have step : ∀ (field : List Text.CodePoint × Document) (entry : String × α),
      (do return (s.text field.1, ← read (s.text field.1) field.2)) = .ok entry ↔
        entry.1 = s.text field.1 ∧ read entry.1 field.2 = .ok entry.2 := by
    rintro field ⟨name, a⟩
    simp only [bind_eq_ok, pure_eq_ok, Prod.mk.injEq]
    constructor
    · rintro ⟨_, h, rfl, rfl⟩
      exact ⟨rfl, h⟩
    · rintro ⟨rfl, h⟩
      exact ⟨a, h, rfl, rfl⟩
  simp only [readEntries, mapM_eq_ok, step]

/-- A document is read as the configurations that it describes. -/
theorem readDocument_eq_ok {d : Document} {c : Config} :
    readDocument s d = .ok c ↔ Describes s d c := by
  constructor
  · intro h
    cases d with
    | object fields =>
      simp only [readDocument, bind_eq_ok, pure_eq_ok, readSection_eq_ok, readEntries_eq_ok,
        readMatcher_eq_ok, readOutput_eq_ok] at h
      obtain ⟨physical, hp, virtual, hv, matchers, hm, outputs, ho, rfl⟩ := h
      exact .sections hp hv (⟨matchers, hm, rfl⟩) (⟨outputs, ho, rfl⟩)
    | _ => cases h
  · intro h
    obtain ⟨physical, virtual⟩ := c
    obtain ⟨hp, hv, hphysical, hvirtual⟩ := h
    obtain ⟨matchers, hm, rfl⟩ := hphysical
    obtain ⟨outputs, ho, rfl⟩ := hvirtual
    simp only [readDocument, bind_eq_ok, pure_eq_ok, readSection_eq_ok, readEntries_eq_ok,
      readMatcher_eq_ok, readOutput_eq_ok]
    exact ⟨_, hp, _, hv, matchers, hm, outputs, ho, rfl⟩

/-! ### A document of the right shape describes something -/

theorem exists_givesId {found : Option Document} :
    (∃ id, GivesId s found id) ↔ IdShaped s found := by
  constructor
  · rintro ⟨_, h | h⟩
    · exact .inl h
    · exact .inr ⟨_, _, rfl, h⟩
  · rintro (h | ⟨d, id, rfl, h⟩)
    · exact ⟨none, .omitted h⟩
    · exact ⟨some id, .given h⟩

theorem givesId_none {found : Option Document} : GivesId s found none ↔ Omitted found := by
  constructor
  · rintro (h | _)
    exact h
  · exact .omitted

theorem exists_givesId_some {found : Option Document} :
    (∃ id, GivesId s found (some id)) ↔ IdShaped s found ∧ ¬Omitted found := by
  constructor
  · rintro ⟨_, _ | h⟩
    refine ⟨.inr ⟨_, _, rfl, h⟩, ?_⟩
    rintro (e | e) <;> cases e
    cases h
  · rintro ⟨h | ⟨d, id, rfl, h⟩, hg⟩
    · exact absurd h hg
    · exact ⟨id, .given h⟩

theorem exists_givesMatcher {entry : Document} :
    (∃ m, GivesMatcher s entry m) ↔ MatcherShaped s entry := by
  constructor
  · rintro ⟨_, points | ⟨path, given, vendor, product⟩ | ⟨path, vendor, product⟩⟩
    · exact .path points
    · have hv := givesId_none.mp vendor
      have hp := givesId_none.mp product
      refine .fields (.inl hv) (.inl hp) (.inl ⟨?_, hv, hp⟩)
      rintro (e | e) <;> rw [path] at e <;> cases e
      exact given rfl
    · obtain ⟨hv, hv'⟩ := exists_givesId_some.mp ⟨_, vendor⟩
      obtain ⟨hp, hp'⟩ := exists_givesId_some.mp ⟨_, product⟩
      exact .fields hv hp (.inr ⟨path, hv', hp'⟩)
  · rintro (points | @⟨fields, hv, hp, ⟨path, hv', hp'⟩ | ⟨path, hv', hp'⟩⟩)
    · exact ⟨_, .path points⟩
    · cases hd : Fields.get? fields "path" with
      | none => exact absurd (.inl hd) path
      | some d =>
        have given : d ≠ .null := fun e => path (.inr (e ▸ hd))
        exact ⟨_, .atPath hd given (givesId_none.mpr hv') (givesId_none.mpr hp')⟩
    · obtain ⟨v, vendor⟩ := exists_givesId_some.mpr ⟨hv, hv'⟩
      obtain ⟨p, product⟩ := exists_givesId_some.mpr ⟨hp, hp'⟩
      exact ⟨_, .withIds path vendor product⟩

theorem exists_givesRule {entry : Document} :
    (∃ rule, GivesRule s entry rule) ↔ RuleShaped s entry := by
  constructor
  · rintro ⟨rule, least, greatest, source, parses⟩
    exact .fields least greatest rule.min_le_max source ⟨_, parses⟩
  · rintro @⟨fields, min, max, points, least, greatest, min_le_max, source, expr, parses⟩
    exact ⟨⟨min, max, expr, min_le_max⟩, .fields least greatest source parses⟩

theorem exists_givesName {found : Option Document} :
    (∃ name, GivesName s found name) ↔ NameShaped found := by
  constructor
  · rintro ⟨_, _ | h⟩
    · exact .inl rfl
    · exact .inr ⟨_, rfl, h⟩
  · rintro (rfl | ⟨points, rfl, h⟩)
    · exact ⟨_, .missing⟩
    · exact ⟨_, .given h⟩

theorem exists_lists {κ α : Type} [DecidableEq κ]
    {R : List Text.CodePoint × Document → κ × α → Prop} {fields : Fields} :
    (∃ m, Lists R fields m) ↔ ∀ field ∈ fields, ∃ entry, R field entry := by
  rw [← exists_forall₂]
  constructor
  · rintro ⟨m, l, hl, -⟩
    exact ⟨l, hl⟩
  · rintro ⟨l, hl⟩
    exact ⟨_, l, hl, rfl⟩

theorem exists_givesOutput {entry : Document} :
    (∃ output, GivesOutput s entry output) ↔ OutputShaped s entry := by
  constructor
  · rintro ⟨output, @⟨fields, axes, _, v, p, found, nonempty, lists, name, vendor, -, product, -⟩⟩
    refine .fields found nonempty (fun field hf => ?_) (exists_givesName.mp ⟨_, name⟩)
      (exists_givesId.mp ⟨v, vendor⟩) (exists_givesId.mp ⟨p, product⟩)
    obtain ⟨entry, he, hr⟩ := exists_lists.mp ⟨_, lists⟩ field hf
    exact ⟨⟨_, he⟩, exists_givesRule.mp ⟨_, hr⟩⟩
  · rintro @⟨fields, axes, found, nonempty, shaped, name, vendor, product⟩
    obtain ⟨m, lists⟩ : ∃ m : OrderedMap Axis Rule, Lists (GivesAxis s) axes m := by
      refine exists_lists.mpr fun field hf => ?_
      obtain ⟨⟨axis, ha⟩, hr⟩ := shaped field hf
      obtain ⟨rule, hr⟩ := exists_givesRule.mpr hr
      exact ⟨(axis, rule), ha, hr⟩
    obtain ⟨n, name⟩ := exists_givesName.mpr name
    obtain ⟨v, vendor⟩ := exists_givesId.mpr vendor
    obtain ⟨p, product⟩ := exists_givesId.mpr product
    exact ⟨⟨m, n, _, _⟩, .fields found nonempty lists name vendor rfl product rfl⟩

theorem exists_describes {d : Document} : (∃ c, Describes s d c) ↔ Shaped s d := by
  constructor
  · rintro ⟨c, hp, hv, matchers, outputs⟩
    refine .sections hp hv (fun field hf => ?_) fun field hf => ?_
    · obtain ⟨⟨_, m⟩, rfl, hn, hm⟩ := exists_lists.mp ⟨_, matchers⟩ field hf
      exact ⟨hn, exists_givesMatcher.mp ⟨m, hm⟩⟩
    · obtain ⟨⟨_, output⟩, rfl, ho⟩ := exists_lists.mp ⟨_, outputs⟩ field hf
      exact exists_givesOutput.mp ⟨output, ho⟩
  · rintro @⟨fields, physical, virtual, hp, hv, matchers, outputs⟩
    obtain ⟨m, listed⟩ : ∃ m : OrderedMap String Matcher,
        Lists (GivesPhysical s) physical m := by
      refine exists_lists.mpr fun field hf => ?_
      obtain ⟨hn, hm⟩ := matchers field hf
      obtain ⟨m, hm⟩ := exists_givesMatcher.mpr hm
      exact ⟨(_, m), rfl, hn, hm⟩
    obtain ⟨m', listed'⟩ : ∃ m : OrderedMap String Output,
        Lists (GivesVirtual s) virtual m := by
      refine exists_lists.mpr fun field hf => ?_
      obtain ⟨output, ho⟩ := exists_givesOutput.mpr (outputs field hf)
      exact ⟨(_, output), rfl, ho⟩
    exact ⟨⟨m, m'⟩, .sections hp hv listed listed'⟩

/-! ### Legible documents are read in their order -/

/-- Fields whose names differ are the entries of the map, in their order. -/
theorem Lists.inOrder {κ α : Type} [DecidableEq κ]
    {R : List Text.CodePoint × Document → κ × α → Prop} {fields : Fields} {m : OrderedMap κ α}
    (h : Lists R fields m) (name : κ → String)
    (hname : ∀ field entry, R field entry → name entry.1 = s.text field.1)
    (nodup : (fields.map fun field => s.text field.1).Nodup) : List.Forall₂ R fields m.entries := by
  obtain ⟨l, hl, rfl⟩ := h
  have names : (l.map Prod.fst).map name = fields.map fun field => s.text field.1 := by
    clear nodup
    induction hl with
    | nil => rfl
    | cons h _ ih => rw [List.map_cons, List.map_cons, List.map_cons, hname _ _ h, ih]
  rw [OrderedMap.entries_ofList (List.Nodup.of_map name (names ▸ nodup))]
  exact hl

theorem legible_of_get? {fields : Fields} {name : String} {d : Document}
    (h : (Document.object fields).Legible s) (found : Fields.get? fields name = some d) :
    d.Legible s :=
  h.of_mem (OrderedMap.mem_of_lookup found)

theorem legible_of_hasSection {fields entries : Fields} {name : String}
    (h : (Document.object fields).Legible s) (section_ : HasSection fields name entries) :
    (Document.object entries).Legible s := by
  rcases section_ with ⟨-, rfl⟩ | found
  · exact .empty
  · exact legible_of_get? h found

theorem GivesOutput.inOrder {entry : Document} {output : Output} (h : GivesOutput s entry output)
    (legible : entry.Legible s) : AxesInOrder s entry output := by
  obtain @⟨fields, axes, _, _, _, found, -, lists⟩ := h
  exact ⟨fields, axes, rfl, found,
    lists.inOrder Axis.name (fun _ _ h => h.1) (legible_of_get? legible found).nodup_names⟩

theorem Describes.inOrder {d : Document} {c : Config} (h : Describes s d c)
    (legible : d.Legible s) : InOrder s d c := by
  obtain @⟨fields, physical, virtual, _, hp, hv, matchers, outputs⟩ := h
  have legible' := legible_of_hasSection legible hv
  have hm := matchers.inOrder id (fun _ _ h => h.1) (legible_of_hasSection legible hp).nodup_names
  have ho := outputs.inOrder id (fun _ _ h => h.1) legible'.nodup_names
  have each := (List.forall₂_and_left _ _).mpr ⟨fun field hf => legible'.of_mem hf, ho⟩
  exact .sections hp hv hm ho (each.imp fun _ _ h => h.2.2.inOrder h.1)

/-! ### What is accepted -/

/-- A document is accepted exactly if it has the shape of a configuration.  It is read as what it
describes, and in its order if it is legible. -/
theorem ofDocument_accepts (d : Document) :
    ((∃ c, ofDocument d = .ok c) ↔ Shaped d.standIns d) ∧
      ∀ c, ofDocument d = .ok c →
        Describes d.standIns d c ∧ (d.Legible d.standIns → InOrder d.standIns d c) := by
  have reads : ∀ c, ofDocument d = .ok c ↔ Describes d.standIns d c := fun c => readDocument_eq_ok
  refine ⟨?_, fun c hc => ⟨(reads c).mp hc, ((reads c).mp hc).inOrder⟩⟩
  rw [← exists_describes]
  exact exists_congr reads

/-- The usual kinds of entries: a path, two ids, and an axis that is driven by two others. -/
def pedals : Document :=
  .object [
    (Text.codePoints "real_devices", .object [
      (Text.codePoints "stick", .text (Text.codePoints "/dev/input/event7")),
      (Text.codePoints "pedals", .object [
        (Text.codePoints "path", .null),
        (Text.codePoints "vendor_id", .text (Text.codePoints "044f")),
        (Text.codePoints "product_id", .int 0xB679)])]),
    (Text.codePoints "virt_devices", .object [
      (Text.codePoints "combined", .object [
        (Text.codePoints "axes", .object [
          (Text.codePoints "Z", .object [
            (Text.codePoints "min", .int (-255)),
            (Text.codePoints "max", .int 255),
            (Text.codePoints "expr", .text (Text.codePoints "(pedals:RX - pedals:RY)"))])])])])]

theorem shaped_pedals : Shaped s pedals := by
  have hexpr : Expr.parse (s.text (Text.codePoints "(pedals:RX - pedals:RY)")) =
      .ok (.binary .sub (.ref ⟨"pedals", .rx⟩) (.ref ⟨"pedals", .ry⟩)) := by
    rw [Text.StandIns.text_codePoints]
    exact Expr.parse_text (e := .binary .sub (.ref ⟨"pedals", .rx⟩) (.ref ⟨"pedals", .ry⟩))
      (by decide)
  refine .sections (.inr rfl) (.inr rfl)
    (List.forall_mem_cons.mpr ⟨⟨?_, ?_⟩, List.forall_mem_singleton.mpr ⟨?_, ?_⟩⟩)
    (List.forall_mem_singleton.mpr ?_)
  · rw [Text.StandIns.text_codePoints]; decide
  · exact .path _
  · rw [Text.StandIns.text_codePoints]; decide
  · refine .fields (.inr ⟨_, 0x044F, rfl, .numeral ?_ (by decide)⟩)
      (.inr ⟨_, 0xB679, rfl, .int (by decide)⟩) (.inr ⟨.inr rfl, ?_, ?_⟩)
    · rw [Text.StandIns.text_codePoints]; decide
    · rintro (h | h) <;> cases h
    · rintro (h | h) <;> cases h
  · refine .fields rfl (List.cons_ne_nil _ _) (List.forall_mem_singleton.mpr ⟨⟨.z, ?_⟩, ?_⟩)
      (.inl rfl) (.inl (.inl rfl)) (.inl (.inl rfl))
    · rw [Text.StandIns.text_codePoints]; rfl
    · exact .fields rfl rfl (by decide) rfl ⟨_, hexpr⟩

theorem legible_pedals : pedals.Legible s := by
  refine ⟨.object (by decide) ?_, Text.StandIns.separates_of_isChar (by decide)⟩
  refine List.forall_mem_cons.mpr ⟨.object (by decide) ?_, List.forall_mem_singleton.mpr
    (.object (by decide) (List.forall_mem_singleton.mpr ?_))⟩
  · refine List.forall_mem_cons.mpr ⟨.text _, List.forall_mem_singleton.mpr ?_⟩
    refine .object (by decide) (List.forall_mem_cons.mpr ⟨.null, ?_⟩)
    exact List.forall_mem_cons.mpr ⟨.text _, List.forall_mem_singleton.mpr (.int _)⟩
  · refine .object (by decide) (List.forall_mem_singleton.mpr ?_)
    refine .object (by decide) (List.forall_mem_singleton.mpr (.object (by decide) ?_))
    refine List.forall_mem_cons.mpr ⟨.int _, List.forall_mem_cons.mpr ⟨.int _, ?_⟩⟩
    exact List.forall_mem_singleton.mpr (.text _)

theorem ofDocument_accepts_pedals :
    ∃ c, ofDocument pedals = .ok c ∧ Describes pedals.standIns pedals c ∧
      InOrder pedals.standIns pedals c := by
  obtain ⟨accepts, reads⟩ := ofDocument_accepts pedals
  obtain ⟨c, hc⟩ := accepts.mpr shaped_pedals
  obtain ⟨describes, inOrder⟩ := reads c hc
  exact ⟨c, hc, describes, inOrder legible_pedals⟩

end Config

end AxisMixer
