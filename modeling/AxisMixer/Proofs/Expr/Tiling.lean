import AxisMixer.Proofs.Expr.Climbing

/-!
# Tokens — a text is tiled by its tokens

The tokens of a text stand in it one behind the other, and all that is not part of a token is blank
(`tiled_of_scan`).  Each is the piece of the text at its position, and it cannot be lengthened:
next to a number there is no character of a name, and behind a reference none of a word.

In front of a reference there may be a character of a name after all, if another reference ends
with it: the name of an axis ends where its word ends, and a device may be called by what follows.
So the text `A:X#B:Y` refers to an axis of `A` and to one of `#B`.  What is known of the place
between a piece of the text and the next one is `Joint`.

* `Spaced`: nothing but blanks is in front of the tokens and between them.
* `Stands`: the token is the piece of the text at its position, with its proper neighbours.
-/

namespace AxisMixer.Token

open Text (isBlank isWord)

/-! ### Tokens in their text -/

/-- The offset behind the token. -/
def stop (t : Token) : Nat := t.position + t.text.length

/-- The tokens follow one another from offset `pos` on, with blanks alone in front of each. -/
def Spaced (source : String) : Nat → List Token → Prop
  | _, [] => True
  | pos, t :: ts => pos ≤ t.position ∧
      (∀ c ∈ source.toList.extract pos t.position, isBlank c) ∧ Spaced source t.stop ts

/-- The token is written in the digits of `n`, and nothing that can be part of a name is next to
it, nor a colon behind it. -/
structure IsNumeral (source : String) (t : Token) (n : Nat) : Prop where
  digits : ∀ c ∈ t.text.toList, c.isDigit
  value : n = Nat.ofDigitChars 10 t.text.toList 0
  before : ∀ c ∈ (source.toList.take t.position).getLast?, ¬ isNameChar c
  behind : EndsNumber (source.toList.drop t.stop)

/-- The token is written as a device, a colon between blanks, and an axis.  What is in front of it
cannot be part of the name of the device, unless it is the end of a reference among `ts`, and what
is behind it cannot be part of the name of the axis. -/
structure IsReference (source : String) (ts : List Token) (t : Token) (key : AxisKey) : Prop where
  text : ∃ before behind, (∀ c ∈ before, isBlank c) ∧ (∀ c ∈ behind, isBlank c) ∧
    t.text.toList = key.device.toList ++ (before ++ ':' :: (behind ++ key.axis.name.toList))
  device : isDeviceName key.device
  before : ∀ c ∈ (source.toList.take t.position).getLast?, isNameChar c →
    ∃ u ∈ ts, (∃ key, u.kind = .reference key) ∧ u.stop = t.position
  behind : ∀ c ∈ (source.toList.drop t.stop).head?, ¬ isWord c

/-- The token stands in the text, where `ts` are all the tokens but its end. -/
structure Stands (source : String) (ts : List Token) (t : Token) : Prop where
  lexeme : t.kind ≠ .finish
  text_ne : t.text ≠ ""
  slice : t.text.toList = source.toList.extract t.position t.stop
  number : ∀ n, t.kind = .number n → IsNumeral source t n
  reference : ∀ key, t.kind = .reference key → IsReference source ts t key

/-! ### Between two pieces of a text -/

/-- Characters of a name meet between `before` and `rest` only at the end of a reference among
`ts`, and the second one is then no character of a word. -/
def Joint (before rest : List Char) (ts : List Token) : Prop :=
  ∀ b ∈ before.getLast?, ∀ c ∈ rest.head?, isNameChar b → isNameChar c →
    ¬ isWord c ∧ ∃ u ∈ ts, (∃ key, u.kind = .reference key) ∧ u.stop = before.length

theorem joint_nil (rest : List Char) (ts : List Token) : Joint [] rest ts := by
  rintro b ⟨⟩

theorem joint_concat {c : Char} (hc : ¬ isNameChar c) (before rest : List Char)
    (ts : List Token) : Joint (before ++ [c]) rest ts := by
  intro b hb _ _ hname
  rw [List.getLast?_concat] at hb
  cases hb
  exact absurd hname hc

theorem Spells.joint {kind : Kind} {w rest : List Char} (h : Spells kind w)
    (hends : kind.Ends rest) (before : List Char) {ts : List Token}
    (ht : ⟨kind, String.ofList w, before.length⟩ ∈ ts) : Joint (before ++ w) rest ts := by
  have hstop : stop ⟨kind, String.ofList w, before.length⟩ = (before ++ w).length := by
    rw [stop, String.length_ofList, List.length_append]
  cases h with
  | symbol h => exact joint_concat (by rw [(of_ofChar h).2.1]; decide) before rest ts
  | number =>
      intro b _ c hc _ hname
      exact absurd hname (takeWhile_eq_nil_iff_head?.mp hends.name c hc)
  | reference axis =>
      intro b _ c hc _ _
      exact ⟨takeWhile_eq_nil_iff_head?.mp hends c hc, _, ht, ⟨_, rfl⟩, hstop⟩

/-! ### Every token stands in its text -/

theorem extract_append (before w rest : List Char) :
    (before ++ (w ++ rest)).extract before.length (before.length + w.length) = w := by
  rw [List.extract_eq_take_drop, List.drop_left, Nat.add_sub_cancel_left, List.take_left]

variable {source : String} {pos : Nat} {before cs rest : List Char} {ts : List Token}

/-- What is in front of a number is not part of a name: it would have to be the end of a reference,
which a digit would go on with. -/
theorem Joint.not_isNameChar {c : Char} (h : Joint before (c :: rest) ts) (hc : c.isDigit) :
    ∀ b ∈ before.getLast?, ¬ isNameChar b := by
  intro b hb hname
  have hword : isWord c := Text.isWord_of_isAlphanum (by rw [Char.isAlphanum, hc, Bool.or_true])
  exact (h b hb c rfl hname (isNameChar_of_isDigit hc)).1 hword

/-- A token behind `before` stands in the text. -/
theorem Spells.stands {kind : Kind} {w : List Char} (h : Spells kind w) (hends : kind.Ends rest)
    (hsource : source.toList = before ++ (w ++ rest)) (hjoint : Joint before (w ++ rest) ts) :
    Stands source ts ⟨kind, String.ofList w, before.length⟩ := by
  have hstop : stop ⟨kind, String.ofList w, before.length⟩ = before.length + w.length := by
    rw [stop, String.length_ofList]
  have htake : source.toList.take before.length = before := by
    rw [hsource, List.take_left]
  have hdrop : source.toList.drop (before.length + w.length) = rest := by
    rw [hsource, ← List.append_assoc, ← List.length_append, List.drop_left]
  refine ⟨?_, ?_, ?_, ?_, ?_⟩
  · rintro rfl
    exact Spells.ne_finish h
  · intro hempty
    refine h.ne_nil ?_
    rw [← String.toList_ofList (l := w)]
    exact String.toList_eq_nil_iff.mpr hempty
  · rw [hstop, String.toList_ofList, hsource, extract_append]
  · rintro n rfl
    obtain ⟨hne, hdigits, hvalue⟩ := h.of_number
    obtain ⟨c, cs, rfl⟩ := List.exists_cons_of_ne_nil hne
    refine ⟨?_, ?_, ?_, ?_⟩
    · rwa [String.toList_ofList]
    · rw [Decimal.numeral?] at hvalue
      split at hvalue
      · rw [String.toList_ofList]
        exact (Option.some.inj hvalue).symm
      · cases hvalue
    · rw [htake]
      exact hjoint.not_isNameChar (hdigits c List.mem_cons_self)
    · rw [hstop, hdrop]
      exact hends
  · rintro key rfl
    obtain ⟨hdevice, front, behind, hfront, hbehind, rfl⟩ := h.of_reference
    refine ⟨⟨front, behind, hfront, hbehind, String.toList_ofList⟩, hdevice, ?_, ?_⟩
    · rw [htake]
      intro b hb hname
      obtain ⟨hne, hall⟩ := isDeviceName_iff_forall.mp hdevice
      obtain ⟨c, cs, hcs⟩ := List.exists_cons_of_ne_nil hne
      have hc : isNameChar c := hall c (hcs ▸ List.mem_cons_self)
      rw [hcs] at hjoint
      exact (hjoint b hb c rfl hname hc).2
    · rw [hstop, hdrop]
      exact takeWhile_eq_nil_iff_head?.mp hends

/-- The tokens into which the text behind `before` is cut stand in the text, if those in front of
them are `seen`. -/
theorem Cut.stands (h : Cut pos cs ts rest) {seen : List Token} (hpos : before.length = pos)
    (hsource : source.toList = before ++ (cs ++ rest)) (hjoint : Joint before (cs ++ rest) seen) :
    ∀ t ∈ ts, Stands source (seen ++ ts) t := by
  induction h generalizing before seen with
  | nil => exact List.forall_mem_nil _
  | @blank pos c cs rest ts hc _ ih =>
      rw [List.cons_append, List.append_cons] at hsource
      exact ih (by rw [List.length_append, hpos]; rfl) hsource
        (joint_concat (not_isNameChar_of_isBlank hc) before _ seen)
  | @token pos kind w cs rest ts hw ends _ ih =>
      subst hpos
      rw [List.append_assoc] at hsource hjoint
      refine List.forall_mem_cons.mpr ⟨?_, fun t ht => ?_⟩
      · refine hw.stands ends hsource fun b hb c hc hname hname' => ?_
        obtain ⟨hword, u, hu, hstop⟩ := hjoint b hb c hc hname hname'
        exact ⟨hword, u, List.mem_append_left _ hu, hstop⟩
      · have hlast : ⟨kind, String.ofList w, before.length⟩ ∈
            seen ++ [⟨kind, String.ofList w, before.length⟩] := List.mem_concat_self
        rw [← List.append_assoc] at hsource
        rw [List.append_cons]
        exact ih List.length_append hsource (hw.joint ends before hlast) t ht

/-! ### Nothing but blanks between the tokens -/

theorem Spaced.blank {c : Char} (hc : isBlank c) (hsource : source.toList[pos]? = some c)
    (h : Spaced source (pos + 1) ts) : Spaced source pos ts := by
  cases ts with
  | nil => trivial
  | cons t ts =>
      obtain ⟨hle, hblank, h⟩ := h
      refine ⟨Nat.le_of_succ_le hle, ?_, h⟩
      have hextract : source.toList.extract pos t.position =
          c :: source.toList.extract (pos + 1) t.position := by
        obtain ⟨hlt, hget⟩ := List.getElem?_eq_some_iff.mp hsource
        rw [List.extract_eq_take_drop, List.extract_eq_take_drop, List.drop_eq_getElem_cons hlt,
          hget, ← Nat.succ_pred_eq_of_pos (Nat.sub_pos_of_lt hle), List.take_succ_cons]
        rfl
      rw [hextract]
      exact List.forall_mem_cons.mpr ⟨hc, hblank⟩

theorem Cut.spaced (h : Cut pos cs ts rest) (hpos : before.length = pos)
    (hsource : source.toList = before ++ (cs ++ rest)) :
    Spaced source pos (ts ++ [finish (pos + cs.length)]) := by
  induction h generalizing before with
  | nil pos =>
      refine ⟨Nat.le_refl _, ?_, trivial⟩
      simp [finish]
  | @blank pos c cs rest ts hc _ ih =>
      have hget : source.toList[pos]? = some c := by
        rw [hsource, ← hpos, List.getElem?_append_right (Nat.le_refl _), Nat.sub_self]
        rfl
      rw [List.cons_append, List.append_cons] at hsource
      have hrest := ih (by rw [List.length_append, hpos]; rfl) hsource
      rw [Nat.add_assoc, Nat.add_comm 1] at hrest
      exact hrest.blank hc hget
  | @token pos kind w cs rest ts hw ends _ ih =>
      rw [List.append_assoc, ← List.append_assoc] at hsource
      have hrest := ih (by rw [List.length_append, hpos]) hsource
      rw [Nat.add_assoc, ← List.length_append] at hrest
      refine ⟨Nat.le_refl _, by simp, ?_⟩
      rwa [stop, String.length_ofList]

/-- Tokens with blanks alone between them do not overlap. -/
theorem Spaced.pairwise (h : Spaced source pos ts) :
    (∀ t ∈ ts, pos ≤ t.position) ∧ ts.Pairwise fun t u => t.stop ≤ u.position := by
  induction ts generalizing pos with
  | nil => exact ⟨List.forall_mem_nil _, .nil⟩
  | cons t ts ih =>
      obtain ⟨hle, -, h⟩ := h
      obtain ⟨hall, hpairs⟩ := ih h
      refine ⟨List.forall_mem_cons.mpr ⟨hle, fun u hu => ?_⟩, hpairs.cons hall⟩
      calc
        pos ≤ t.position := hle
        _ ≤ t.stop := Nat.le_add_right _ _
        _ ≤ u.position := hall u hu

/-- The tokens before the end stand in the text, and nothing but blanks is between them. -/
theorem stands_of_scan (h : scan source = .ok ts) :
    ∃ body, ts = body ++ [finish source.length] ∧ Spaced source 0 ts ∧
      ∀ t ∈ body, Stands source body t := by
  obtain ⟨body, rfl, hcut⟩ := cut_of_scan h
  have hsource : source.toList = [] ++ (source.toList ++ []) := by
    rw [List.append_nil, List.nil_append]
  have hspaced := hcut.spaced rfl hsource
  have hstands := hcut.stands rfl hsource (joint_nil _ [])
  rw [Nat.zero_add, String.length_toList] at hspaced
  exact ⟨body, rfl, hspaced, hstands⟩

/-- **A text is tiled by its tokens.**  The last one is its end, at the offset behind the text, and
no other is.  They follow one another without overlap, with blanks alone in front of each, and each
stands in the text. -/
theorem tiled_of_scan (h : scan source = .ok ts) :
    ∃ body, ts = body ++ [finish source.length] ∧ Spaced source 0 ts ∧
      (ts.Pairwise fun t u => t.stop ≤ u.position) ∧ ∀ t ∈ body, Stands source body t := by
  obtain ⟨body, hts, hspaced, hstands⟩ := stands_of_scan h
  exact ⟨body, hts, hspaced, hspaced.pairwise.2, hstands⟩

/-- Blanks in front and behind, a product with a number that starts with zeros, and a reference that
follows another one without a blank. -/
theorem tiled_of_scan_touching :
    let source := " 007 *A\t: X#B:Y "
    let body : List Token := [⟨.number 7, "007", 1⟩, ⟨.operator .mul, "*", 5⟩,
      ⟨.reference ⟨"A", .x⟩, "A\t: X", 6⟩, ⟨.reference ⟨"#B", .y⟩, "#B:Y", 11⟩]
    scan source = .ok (body ++ [finish 16]) ∧ ∀ t ∈ body, Stands source body t := by
  intro source body
  have h : scan source = .ok (body ++ [finish 16]) := Expr.eq_ok_of_toOption (by decide +kernel)
  obtain ⟨body', hts, -, -, hstands⟩ := tiled_of_scan h
  obtain rfl : body = body' := (List.append_inj' hts rfl).1
  exact ⟨h, hstands⟩

end AxisMixer.Token
