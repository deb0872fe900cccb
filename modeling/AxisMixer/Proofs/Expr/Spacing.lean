import AxisMixer.Proofs.Expr.Printing
import AxisMixer.Proofs.Expr.Tiling
import Mathlib.Data.List.Pairwise
import Mathlib.Data.List.TakeWhile

/-!
# Tokens — blanks between them do not count

Blanks may be inserted into a text wherever they split no number and no name (`Gap`): in front of a
token, behind the last one, and on both sides of the colon of a reference.  The text has then the
same tokens, at other offsets, and is read as the same tree or refused again (`scan_widened`).

What holds a token together is what follows it.  So the lemmas are about a piece of text and
another one that takes the place of what is behind it (`Replaces`): it starts in the same way, or
with a character that ends every token.

* `widened`: a text with characters inserted at its offsets.
* `Cut.spread`: a text is cut into the same tokens with blanks inserted.
-/

namespace AxisMixer.Text

/-! ### Blanks and words -/

/-- The code points of the blanks from U+0080 on, as closed ranges. -/
def blankRanges : List (Nat × Nat) :=
  [(0x85, 0x85), (0xA0, 0xA0), (0x1680, 0x1680), (0x2000, 0x200A), (0x2028, 0x2029),
    (0x202F, 0x202F), (0x205F, 0x205F), (0x3000, 0x3000)]

/-- No range of word characters meets one of blanks. -/
theorem wordRanges_apart : wordRanges.toList.all (fun word =>
    blankRanges.all fun blank => word.2 < blank.1 || blank.2 < word.1) = true := by
  decide +kernel

/-- A blank belongs to no word. -/
theorem not_isWord_of_isBlank {c : Char} (h : isBlank c) : ¬ isWord c := by
  simp only [isBlank, Bool.or_eq_true, Bool.and_eq_true, decide_eq_true_eq, beq_iff_eq] at h
  by_cases hc : c.toNat < 0x80
  · have hascii : ∀ n ∈ List.range' 0x09 5 ++ List.range' 0x1C 5,
        isAsciiWord (Char.ofNat n) = false := by decide
    rw [isWord, if_pos hc, ← Char.ofNat_toNat c, hascii c.toNat]
    · decide
    · simp only [List.mem_append, List.mem_range'_1]
      omega
  · rw [isWord, if_neg hc, inRanges, Array.any_eq_true']
    rintro ⟨word, hword, hin⟩
    obtain ⟨blank, hblank, hle⟩ : ∃ blank ∈ blankRanges, blank.1 ≤ c.toNat ∧ c.toNat ≤ blank.2 := by
      simp only [blankRanges, List.mem_cons, List.not_mem_nil, exists_eq_or_imp, or_false,
        exists_eq_left]
      omega
    have hapart := List.all_eq_true.mp wordRanges_apart word (Array.mem_toList_iff.mpr hword)
    have hapart := List.all_eq_true.mp hapart blank hblank
    simp only [Bool.or_eq_true, Bool.and_eq_true, decide_eq_true_eq] at hapart hin
    omega

end AxisMixer.Text

namespace AxisMixer.Token

open Text (isBlank isWord)

/-! ### Insertions -/

/-- The text with the characters `runs o` inserted in front of the one at each offset `o`, where the
first one is at `pos`. -/
def spread (runs : Nat → List Char) : Nat → List Char → List Char
  | _, [] => []
  | pos, c :: cs => runs pos ++ c :: spread runs (pos + 1) cs

/-- The text with the characters `runs o` inserted at each offset `o`. -/
def widened (runs : Nat → List Char) (source : String) : String :=
  String.ofList (spread runs 0 source.toList ++ runs source.length)

/-- Nothing is split at this offset: it is inside of no token, but for a reference, where it may be
between the device and the axis. -/
def Gap (ts : List Token) (o : Nat) : Prop :=
  ∀ t ∈ ts, t.position < o → o < t.stop → ∃ key, t.kind = .reference key ∧
    t.position + key.device.length ≤ o ∧ o + key.axis.name.length ≤ t.stop

variable {runs : Nat → List Char}

theorem spread_append (runs : Nat → List Char) (pos : Nat) (a b : List Char) :
    spread runs pos (a ++ b) = spread runs pos a ++ spread runs (pos + a.length) b := by
  induction a generalizing pos with
  | nil => rfl
  | cons c a ih =>
      rw [List.cons_append, spread, spread, ih, List.append_assoc, List.cons_append,
        List.length_cons, Nat.add_assoc, Nat.add_comm 1]

theorem spread_eq_self {pos : Nat} {l : List Char}
    (h : ∀ o, pos ≤ o → o < pos + l.length → runs o = []) : spread runs pos l = l := by
  induction l generalizing pos with
  | nil => rfl
  | cons c l ih =>
      rw [List.length_cons] at h
      rw [spread, h pos (Nat.le_refl _) (by omega), List.nil_append,
        ih fun o h₁ h₂ => h o (by omega) (by omega)]

/-- If nothing is inserted inside, the characters stay together. -/
theorem spread_eq_append {pos : Nat} {l : List Char} (hne : l ≠ [])
    (h : ∀ o, pos < o → o < pos + l.length → runs o = []) :
    spread runs pos l = runs pos ++ l := by
  obtain ⟨c, cs, rfl⟩ := List.exists_cons_of_ne_nil hne
  rw [List.length_cons] at h
  rw [spread, spread_eq_self fun o h₁ h₂ => h o (by omega) (by omega)]

theorem isBlank_of_mem_spread (hblank : ∀ o, ∀ c ∈ runs o, isBlank c) {l : List Char}
    (hl : ∀ c ∈ l, isBlank c) (pos : Nat) : ∀ c ∈ spread runs pos l, isBlank c := by
  induction l generalizing pos with
  | nil => exact List.forall_mem_nil _
  | cons a l ih =>
      obtain ⟨ha, hl⟩ := List.forall_mem_cons.mp hl
      rw [spread, List.forall_mem_append, List.forall_mem_cons]
      exact ⟨hblank pos, ha, ih hl _⟩

/-! ### What may take the place of what follows -/

/-- Whatever may stand in front of `rest` may stand in front of `rest'`. -/
structure Replaces (rest rest' : List Char) : Prop where
  head : ∀ c ∈ rest'.head?, c ∈ rest.head? ∨ (¬ isNameChar c ∧ ¬ isWord c)
  colon : ':' ∈ (rest'.dropWhile isBlank).head? → ':' ∈ (rest.dropWhile isBlank).head?

variable {rest rest' : List Char}

theorem Replaces.takeWhile_eq_nil (h : Replaces rest rest') {p : Char → Bool}
    (hp : ∀ c, p c → isNameChar c ∨ isWord c) (hrest : rest.takeWhile p = []) :
    rest'.takeWhile p = [] := by
  rw [Token.takeWhile_eq_nil_iff_head?] at hrest ⊢
  intro c hc hpc
  rcases h.head c hc with hc | ⟨hname, hword⟩
  · exact hrest c hc hpc
  · exact (hp c hpc).elim hname hword

theorem Replaces.ends (h : Replaces rest rest') {kind : Kind} (hends : kind.Ends rest) :
    kind.Ends rest' := by
  cases kind with
  | number n =>
      refine ⟨h.takeWhile_eq_nil (fun _ => .inl) hends.name, fun beyond hbeyond => ?_⟩
      have hcolon := h.colon (by rw [hbeyond]; rfl)
      obtain ⟨beyond', hbeyond'⟩ := List.head?_eq_some_iff.mp hcolon
      exact hends.colon beyond' hbeyond'
  | reference key => exact h.takeWhile_eq_nil (fun _ => .inr) hends
  | operator | lparen | rparen | finish => trivial

/-- Blanks may follow at the end of a text. -/
theorem replaces_blanks {bs : List Char} (h : ∀ c ∈ bs, isBlank c) : Replaces [] bs := by
  constructor
  · intro c hc
    have hblank : isBlank c := h c (List.mem_of_mem_head? hc)
    exact .inr ⟨not_isNameChar_of_isBlank hblank, Text.not_isWord_of_isBlank hblank⟩
  · rw [List.dropWhile_eq_nil_iff.mpr h]
    exact id

/-- Blanks in the text and in front of it do not count. -/
theorem Replaces.spread (h : Replaces rest rest') (hblank : ∀ o, ∀ c ∈ runs o, isBlank c)
    (pos : Nat) (cs : List Char) : Replaces (cs ++ rest) (Token.spread runs pos cs ++ rest') := by
  induction cs generalizing pos with
  | nil => exact h
  | cons a cs ih =>
      rw [Token.spread, List.append_assoc, List.cons_append, List.cons_append]
      constructor
      · intro c hc
        cases hrun : runs pos with
        | nil =>
            rw [hrun] at hc
            exact .inl hc
        | cons b bs =>
            rw [hrun] at hc
            obtain rfl : b = c := Option.some.inj hc
            have hb : isBlank b := hblank pos b (hrun ▸ List.mem_cons_self)
            exact .inr ⟨not_isNameChar_of_isBlank hb, Text.not_isWord_of_isBlank hb⟩
      · rw [List.dropWhile_append_of_pos (hblank pos)]
        by_cases ha : isBlank a
        · rw [List.dropWhile_cons_of_pos ha, List.dropWhile_cons_of_pos ha]
          exact (ih (pos + 1)).colon
        · rw [List.dropWhile_cons_of_neg ha, List.dropWhile_cons_of_neg ha]
          exact id

/-! ### Tokens with blanks inserted -/

/-- A gap inside of a token is between the device and the axis of a reference. -/
theorem Gap.inside {kind : Kind} {w : List Char} {pos o : Nat}
    (h : Gap [⟨kind, String.ofList w, pos⟩] o) (h₁ : pos < o) (h₂ : o < pos + w.length) :
    ∃ key, kind = .reference key ∧ pos + key.device.length ≤ o ∧
      o + key.axis.name.length ≤ pos + w.length := by
  have hstop : stop ⟨kind, String.ofList w, pos⟩ = pos + w.length := by
    rw [stop, String.length_ofList]
  rw [← hstop] at h₂ ⊢
  exact h _ List.mem_cons_self h₁ h₂

/-- Nothing is inserted into a device or into the name of an axis. -/
theorem spread_reference {device before behind name : List Char} {pos : Nat} (hdevice : device ≠ [])
    (hname : name ≠ [])
    (h : ∀ o, pos < o → o < pos + (device ++ (before ++ ':' :: (behind ++ name))).length →
      runs o ≠ [] → pos + device.length ≤ o ∧
        o + name.length ≤ pos + (device ++ (before ++ ':' :: (behind ++ name))).length) :
    let colon := pos + device.length + before.length
    spread runs pos (device ++ (before ++ ':' :: (behind ++ name))) =
      runs pos ++ (device ++ ((spread runs (pos + device.length) before ++ runs colon) ++ ':' ::
        ((spread runs (colon + 1) behind ++ runs (colon + 1 + behind.length)) ++ name))) := by
  intro colon
  have hlength : (device ++ (before ++ ':' :: (behind ++ name))).length =
      device.length + (before.length + (1 + (behind.length + name.length))) := by
    simp only [List.length_append, List.length_cons]
    omega
  rw [hlength] at h
  have hspread_device : spread runs pos device = runs pos ++ device := by
    refine spread_eq_append hdevice fun o h₁ h₂ => ?_
    refine Classical.byContradiction fun hrun => ?_
    obtain ⟨hle, -⟩ := h o h₁ (by omega) hrun
    omega
  have hspread_name : spread runs (colon + 1 + behind.length) name =
      runs (colon + 1 + behind.length) ++ name := by
    refine spread_eq_append hname fun o h₁ h₂ => ?_
    refine Classical.byContradiction fun hrun => ?_
    obtain ⟨-, hle⟩ := h o (by omega) (by omega) hrun
    omega
  rw [spread_append, spread_append, spread, spread_append, hspread_device, hspread_name]
  simp only [List.append_assoc]
  rfl

/-- The spelling of a token, with blanks inserted in its gaps. -/
theorem Spells.spread {kind : Kind} {w : List Char} (h : Spells kind w)
    (hblank : ∀ o, ∀ c ∈ runs o, isBlank c) {pos : Nat}
    (hgap : ∀ o, runs o ≠ [] → Gap [⟨kind, String.ofList w, pos⟩] o) :
    ∃ w', Token.spread runs pos w = runs pos ++ w' ∧ Spells kind w' := by
  cases h with
  | symbol h => exact ⟨_, rfl, .symbol h⟩
  | number hne hdigits hvalue =>
      refine ⟨w, spread_eq_append hne fun o h₁ h₂ => ?_, .number hne hdigits hvalue⟩
      refine Classical.byContradiction fun hrun => ?_
      obtain ⟨key, hkey, -⟩ := (hgap o hrun).inside h₁ h₂
      cases hkey
  | @reference device before behind axis hne hdevice hbefore hbehind =>
      obtain ⟨t, ts, hname, -⟩ := name_eq_cons axis
      have hname_ne : axis.name.toList ≠ [] := hname ▸ List.cons_ne_nil t ts
      refine ⟨_, spread_reference hne hname_ne fun o h₁ h₂ hrun => ?_,
        .reference axis hne hdevice ?_ ?_⟩
      · obtain ⟨key, hkey, hle, hle'⟩ := (hgap o hrun).inside h₁ h₂
        obtain rfl := Kind.reference.inj hkey
        rw [String.length_ofList] at hle
        rw [String.length_toList]
        exact ⟨hle, hle'⟩
      · exact List.forall_mem_append.mpr ⟨isBlank_of_mem_spread hblank hbefore _, hblank _⟩
      · exact List.forall_mem_append.mpr ⟨isBlank_of_mem_spread hblank hbehind _, hblank _⟩

/-- **Inserting blanks.**  A text is cut into tokens of the same kinds with blanks inserted in its
gaps, at any offset and in front of what may take the place of the rest. -/
theorem Cut.spread {pos : Nat} {cs : List Char} {ts : List Token} (h : Cut pos cs ts rest)
    (hblank : ∀ o, ∀ c ∈ runs o, isBlank c) (hgap : ∀ o, runs o ≠ [] → Gap ts o)
    (hrest : Replaces rest rest') (pos' : Nat) :
    ∃ ts', Cut pos' (Token.spread runs pos cs) ts' rest' ∧
      ts'.map Token.kind = ts.map Token.kind := by
  induction h generalizing pos' with
  | nil => exact ⟨[], .nil pos' rest', rfl⟩
  | @blank pos c cs rest ts hc _ ih =>
      obtain ⟨ts', hcut, hkinds⟩ := ih hgap hrest (pos' + (runs pos ++ [c]).length)
      have hfront : ∀ b ∈ runs pos ++ [c], isBlank b :=
        List.forall_mem_append.mpr ⟨hblank pos, List.forall_mem_singleton.mpr hc⟩
      refine ⟨ts', ?_, hkinds⟩
      rw [Token.spread, List.append_cons]
      exact (Cut.blanks hfront pos' _).append hcut
  | @token pos kind w cs rest ts hw ends _ ih =>
      have hgap_w : ∀ o, runs o ≠ [] → Gap [⟨kind, String.ofList w, pos⟩] o := fun o hrun =>
        List.forall_mem_singleton.mpr (hgap o hrun _ List.mem_cons_self)
      have hgap_ts : ∀ o, runs o ≠ [] → Gap ts o := fun o hrun t ht =>
        hgap o hrun t (List.mem_cons_of_mem _ ht)
      obtain ⟨w', hspread, hw'⟩ := hw.spread hblank hgap_w
      obtain ⟨ts', hcut, hkinds⟩ := ih hgap_ts hrest (pos' + (runs pos).length + w'.length)
      have hends := (hrest.spread hblank (pos + w.length) cs).ends ends
      refine ⟨⟨kind, String.ofList w', pos' + (runs pos).length⟩ :: ts', ?_, ?_⟩
      · rw [spread_append, hspread, List.append_assoc]
        exact (Cut.blanks (hblank pos) pos' _).append (.token hw' hends hcut)
      · rw [List.map_cons, List.map_cons, hkinds]

/-! ### Where the gaps are -/

variable {source : String} {ts : List Token} {t u : Token} {o : Nat}

/-- Of two tokens of a text one is behind the other. -/
theorem apart_of_scan (h : scan source = .ok ts) (ht : t ∈ ts) (hu : u ∈ ts) (hne : t ≠ u) :
    t.stop ≤ u.position ∨ u.stop ≤ t.position := by
  obtain ⟨-, -, hspaced, -⟩ := stands_of_scan h
  have hsymm : Std.Symm fun t u : Token => t.stop ≤ u.position ∨ u.stop ≤ t.position :=
    ⟨fun _ _ => Or.symm⟩
  have hapart : ts.Pairwise fun t u => t.stop ≤ u.position ∨ u.stop ≤ t.position :=
    hspaced.pairwise.2.imp Or.inl
  exact hapart.forall ht hu hne

/-- There is a gap in front of each token. -/
theorem gap_position (h : scan source = .ok ts) (ht : t ∈ ts) : Gap ts t.position := by
  intro u hu h₁ h₂
  by_cases hne : t = u
  · subst hne
    exact absurd h₁ (Nat.lt_irrefl _)
  · have hle : t.position ≤ t.stop := Nat.le_add_right _ _
    rcases apart_of_scan h ht hu hne with h' | h' <;> omega

/-- A colon in a reference is between the device and the axis. -/
theorem colon_of_reference {key : AxisKey} (h : IsReference source ts t key)
    (hslice : t.text.toList = source.toList.extract t.position t.stop) (h₁ : t.position ≤ o)
    (h₂ : o < t.stop) (hcolon : source.toList[o]? = some ':') :
    t.position + key.device.length ≤ o ∧ o + 1 + key.axis.name.length ≤ t.stop := by
  obtain ⟨before, behind, -, -, htext⟩ := h.text
  have hstop : t.stop = t.position + t.text.length := rfl
  have hat : t.text.toList[o - t.position]? = some ':' := by
    rw [hslice, List.extract_eq_take_drop, List.getElem?_take_of_lt (by omega), List.getElem?_drop,
      Nat.add_sub_cancel' h₁, hcolon]
  constructor
  · -- no colon is in the name of the device
    refine Nat.le_of_not_lt fun hlt => ?_
    rw [htext, List.getElem?_append_left (by rw [String.length_toList]; omega)] at hat
    obtain ⟨-, hdevice⟩ := isDeviceName_iff_forall.mp h.device
    exact absurd (hdevice ':' (List.mem_of_getElem? hat)) (by decide)
  · -- nor in the name of the axis
    refine Nat.le_of_not_lt fun hlt => ?_
    have hsplit : t.text.toList =
        (key.device.toList ++ (before ++ ':' :: behind)) ++ key.axis.name.toList := by
      rw [htext]
      simp only [List.append_assoc, List.cons_append]
    have hlength : t.text.length = (key.device.toList ++ (before ++ ':' :: behind)).length +
        key.axis.name.length := by
      rw [← String.length_toList, hsplit, List.length_append, String.length_toList]
    rw [hsplit, List.getElem?_append_right (by omega)] at hat
    have hname := List.mem_of_getElem? hat
    revert hname
    cases key.axis <;> decide

/-- There are gaps on both sides of the colon of a reference. -/
theorem gap_colon (h : scan source = .ok ts) (ht : t ∈ ts) {key : AxisKey}
    (hkind : t.kind = .reference key) (h₁ : t.position ≤ o) (h₂ : o < t.stop)
    (hcolon : source.toList[o]? = some ':') : Gap ts o ∧ Gap ts (o + 1) := by
  obtain ⟨body, rfl, -, hstands⟩ := stands_of_scan h
  have hbody : t ∈ body := by
    rcases List.mem_append.mp ht with ht | ht
    · exact ht
    · obtain rfl := List.mem_singleton.mp ht
      cases hkind
  have hstand := hstands t hbody
  have hbounds := colon_of_reference (hstand.reference key hkind) hstand.slice h₁ h₂ hcolon
  -- no other token is there
  have hgap : ∀ o', o ≤ o' → o' ≤ o + 1 → Gap (body ++ [finish source.length]) o' := by
    intro o' hle hle' u hu hlt hlt'
    by_cases hne : t = u
    · subst hne
      exact ⟨key, hkind, by omega, by omega⟩
    · rcases apart_of_scan h ht hu hne with h' | h' <;> omega
  exact ⟨hgap o (Nat.le_refl _) (Nat.le_succ _), hgap (o + 1) (Nat.le_succ _) (Nat.le_refl _)⟩

/-- A text with blanks inserted in its gaps has tokens of the same kinds. -/
theorem scan_widened (h : scan source = .ok ts) (hblank : ∀ o, ∀ c ∈ runs o, isBlank c)
    (hgap : ∀ o, runs o ≠ [] → Gap ts o) :
    ∃ ts', scan (widened runs source) = .ok ts' ∧
      ts'.map Token.kind = ts.map Token.kind := by
  obtain ⟨body, rfl, hcut⟩ := cut_of_scan h
  have hgap_body : ∀ o, runs o ≠ [] → Gap body o := fun o hrun t ht =>
    hgap o hrun t (List.mem_append_left _ ht)
  have hend : Replaces [] (runs source.length ++ []) := by
    rw [List.append_nil]
    exact replaces_blanks (hblank source.length)
  obtain ⟨ts', hcut', hkinds⟩ := hcut.spread hblank hgap_body hend 0
  have hwhole : Cut 0 (widened runs source).toList (ts' ++ []) [] := by
    rw [widened, String.toList_ofList]
    exact hcut'.append (Cut.blanks (hblank source.length) _ [])
  rw [List.append_nil] at hwhole
  refine ⟨_, hwhole.scan_eq, ?_⟩
  rw [List.map_append, List.map_append, hkinds, List.map_singleton, List.map_singleton]
  simp only [finish]

end AxisMixer.Token

namespace AxisMixer.Expr

open Token (Gap widened scan)
open Text (isBlank)

variable {source source' : String} {ts ts' : List Token}

/-- A text that has tokens is read as the tree of their kinds. -/
theorem parse_eq_ok_iff (h : scan source = .ok ts) (e : Expr) :
    parse source = .ok e ↔ Derives .expr (ts.map Token.kind).dropLast e := by
  rw [← List.map_dropLast, ← ofTokens_iff (Token.ends_of_scan h), parse_eq_ok]
  constructor
  · rintro ⟨ts', h', he⟩
    cases h.symm.trans h'
    exact he
  · exact fun he => ⟨ts, h, he⟩

/-- A text that has tokens is refused if it has no tree, and not for the name of an axis. -/
theorem refused_iff (h : scan source = .ok ts) :
    (∃ err, parse source = .error (.malformed err) ∧ ∀ name, err.cause ≠ .unknownAxis name) ↔
      ∀ e, parse source ≠ .ok e := by
  constructor
  · rintro ⟨err, he, -⟩ e
    rw [he]
    nofun
  · intro hnone
    cases he : ofTokens source ts with
    | ok e => exact absurd (parse_eq_ok.mpr ⟨ts, h, he⟩) (hnone e)
    | error err =>
        exact ⟨err, parse_eq_malformed.mpr (.inr ⟨ts, h, he⟩), cause_of_ofTokens he⟩

/-- **Blanks between tokens do not count.**  There are gaps in front of each token, the end of the
text among them, and on both sides of the colon of a reference.  A text with blanks inserted in its
gaps has tokens of the same kinds, and is read as the same tree or refused again. -/
theorem parse_widened (h : scan source = .ok ts) :
    (∀ t ∈ ts, Gap ts t.position) ∧
      (∀ t ∈ ts, ∀ key, t.kind = .reference key → ∀ o, t.position ≤ o → o < t.stop →
        source.toList[o]? = some ':' → Gap ts o ∧ Gap ts (o + 1)) ∧
      ∀ runs : Nat → List Char, (∀ o, ∀ c ∈ runs o, isBlank c) → (∀ o, runs o ≠ [] → Gap ts o) →
        (∃ ts', scan (widened runs source) = .ok ts' ∧
          ts'.map Token.kind = ts.map Token.kind) ∧
        (∀ e, parse (widened runs source) = .ok e ↔ parse source = .ok e) ∧
        ((∃ err, parse (widened runs source) = .error (.malformed err) ∧
            ∀ name, err.cause ≠ .unknownAxis name) ↔
          ∃ err, parse source = .error (.malformed err) ∧
            ∀ name, err.cause ≠ .unknownAxis name) := by
  refine ⟨fun t => Token.gap_position h, fun t ht key hkind o => Token.gap_colon h ht hkind, ?_⟩
  intro runs hblank hgap
  obtain ⟨ts', h', hkinds⟩ := Token.scan_widened h hblank hgap
  have htree (e : Expr) : parse (widened runs source) = .ok e ↔ parse source = .ok e := by
    rw [parse_eq_ok_iff h', parse_eq_ok_iff h, hkinds]
  refine ⟨⟨ts', h', hkinds⟩, htree, ?_⟩
  rw [refused_iff h', refused_iff h]
  exact forall_congr' fun e => not_congr (htree e)

/-- A space in front of each token, behind the last one, and on both sides of the colon. -/
theorem parse_widened_product :
    let ts : List Token := [⟨.reference ⟨"A", .x⟩, "A:X", 0⟩, ⟨.operator .mul, "*", 3⟩,
      ⟨.number 2, "2", 4⟩, Token.finish 5]
    let runs : Nat → List Char := fun o => if o ≤ 5 then [' '] else []
    scan "A:X*2" = .ok ts ∧ (∀ o, runs o ≠ [] → Gap ts o) ∧ widened runs "A:X*2" = " A : X * 2 " ∧
      parse (widened runs "A:X*2") = .ok (.binary .mul (.ref ⟨"A", .x⟩) (.lit 2)) := by
  intro ts runs
  have h : scan "A:X*2" = .ok ts := eq_ok_of_toOption (by decide +kernel)
  obtain ⟨hposition, hcolon, hwidened⟩ := parse_widened h
  have haround := hcolon _ List.mem_cons_self _ rfl 1 (by decide) (by decide) rfl
  have hgap : ∀ o, runs o ≠ [] → Gap ts o := by
    intro o hrun
    have ho : o ≤ 5 := by
      by_contra hlt
      exact hrun (if_neg hlt)
    match o with
    | 0 => exact hposition ⟨.reference ⟨"A", .x⟩, "A:X", 0⟩ (by decide)
    | 1 => exact haround.1
    | 2 => exact haround.2
    | 3 => exact hposition ⟨.operator .mul, "*", 3⟩ (by decide)
    | 4 => exact hposition ⟨.number 2, "2", 4⟩ (by decide)
    | 5 => exact hposition (Token.finish 5) (by decide)
  have hblank : ∀ o, ∀ c ∈ runs o, isBlank c := by
    intro o c hc
    by_cases ho : o ≤ 5
    · rw [show runs o = [' '] from if_pos ho] at hc
      obtain rfl := List.mem_singleton.mp hc
      decide
    · rw [show runs o = [] from if_neg ho] at hc
      cases hc
  have hproduct := @Derives.term _ _ [⟨.mul, _, _⟩] (.reference ⟨"A", .x⟩) (by decide)
    (List.forall_mem_singleton.mpr (.number (n := 2) (by decide)))
  have hparse : parse "A:X*2" = .ok (.binary .mul (.ref ⟨"A", .x⟩) (.lit 2)) :=
    (parse_eq_ok_iff h _).mpr (.of_term hproduct)
  obtain ⟨-, htree, -⟩ := hwidened runs hblank hgap
  exact ⟨h, hgap, by decide +kernel, (htree _).mpr hparse⟩

end AxisMixer.Expr
