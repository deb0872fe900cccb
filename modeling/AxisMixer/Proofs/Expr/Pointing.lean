import AxisMixer.Proofs.Expr.Printing
import AxisMixer.Proofs.Expr.Tiling

/-!
# Expressions — an error points into the text

An error tells the text that is wrong, an offset in it, and a piece of it that the offset touches
(`SyntaxError.PointsInto`).  The name of an unknown axis starts at the offset, behind a colon, and
ends where its word ends.

A text can be wrong in two ways.  Either it cannot be cut into tokens beyond some place, and the
error is about what stands there (`Token.Misread`).  Or its tokens have no tree, and the error is
about one of them, which may be the end of the text (`Expr.Within`).

* `Expr.atToken_of_ofTokens`: which token an error is about.
* `Expr.pointsInto_of_parse`: the error points into the text.
-/

namespace AxisMixer

open Text (isBlank isWord)

/-! ### Pointing -/

namespace SyntaxError

/-- The fragment is the piece of the text between these offsets, and the position is at it. -/
structure Spans (e : SyntaxError) (a b : Nat) : Prop where
  start_le : a ≤ e.position
  le_stop : e.position ≤ b
  stop_le : b ≤ e.source.length
  slice : e.fragment.toList = e.source.toList.extract a b

/-- The fragment is the name of no axis.  It stands between the position and offset `b`, where its
word ends, and nothing but blanks is between it and a colon in front of it. -/
structure IsUnknown (e : SyntaxError) (b : Nat) : Prop where
  spans : e.Spans e.position b
  notMem : e.fragment ∉ Axis.all.map Axis.name
  behind : ∀ c ∈ (e.source.toList.drop b).head?, ¬ isWord c
  before : ∃ o < e.position, e.source.toList[o]? = some ':' ∧
    ∀ c ∈ e.source.toList.extract (o + 1) e.position, isBlank c

/-- The error is about this text, and points to a piece of it. -/
structure PointsInto (e : SyntaxError) (source : String) : Prop where
  source : e.source = source
  spans : ∃ a b, e.Spans a b
  unknown : ∀ name, e.cause = .unknownAxis name → ∃ b, e.IsUnknown b

variable {source : String} {before w rest : List Char}

/-- An error about the piece `w` of the text, with a position in it or at its end. -/
theorem spans_of_append (h : source.toList = before ++ (w ++ rest)) (cause : Cause) {position : Nat}
    (hstart : before.length ≤ position) (hstop : position ≤ before.length + w.length) :
    Spans ⟨cause, source, position, String.ofList w⟩ before.length (before.length + w.length) := by
  refine ⟨hstart, hstop, ?_, ?_⟩
  · rw [← String.length_toList, h, List.length_append, List.length_append, ← Nat.add_assoc]
    exact Nat.le_add_right _ _
  · rw [String.toList_ofList, h, Token.extract_append]

/-- A word behind a colon that is the name of no axis. -/
theorem isUnknown_of_append {front behind name : List Char} {position : Nat}
    (h : source.toList = front ++ ':' :: (behind ++ (name ++ rest)))
    (hposition : position = (front ++ ':' :: behind).length) (hbehind : ∀ c ∈ behind, isBlank c)
    (hname : Axis.ofName? (String.ofList name) = none) (hrest : rest.takeWhile isWord = []) :
    IsUnknown ⟨.unknownAxis (String.ofList name), source, position, String.ofList name⟩
      (position + name.length) := by
  subst hposition
  have hsplit : source.toList = (front ++ ':' :: behind) ++ (name ++ rest) := by
    rw [h, List.append_assoc, List.cons_append]
  refine ⟨spans_of_append hsplit _ (Nat.le_refl _) (Nat.le_add_right _ _), ?_, ?_, ?_⟩
  · intro hmem
    obtain ⟨axis, -, haxis⟩ := List.mem_map.mp hmem
    rw [Axis.ofName?_eq_some_iff.mpr haxis] at hname
    cases hname
  · dsimp only
    rw [hsplit, ← List.append_assoc, ← List.length_append, List.drop_left]
    exact Token.takeWhile_eq_nil_iff_head?.mp hrest
  · have hcolon : source.toList[front.length]? = some ':' := by
      rw [h, List.getElem?_append_right (Nat.le_refl _), Nat.sub_self]
      rfl
    have hlength : (front ++ [':']).length = front.length + 1 := List.length_append
    have hposition : (front ++ ':' :: behind).length = front.length + 1 + behind.length := by
      rw [List.append_cons, List.length_append, hlength]
    refine ⟨front.length, ?_, hcolon, ?_⟩
    · show front.length < (front ++ ':' :: behind).length
      rw [hposition]
      omega
    · rw [List.append_cons] at h
      rw [hposition, h, ← hlength, Token.extract_append]
      exact hbehind

end SyntaxError

namespace Token

open SyntaxError (spans_of_append isUnknown_of_append)

/-! ### No token -/

/-- An error about what stands behind `before` points into the text. -/
theorem Misread.pointsInto {source : String} {before cs : List Char} {e : SyntaxError}
    (h : Misread source before.length cs e) (hsource : source.toList = before ++ cs) :
    e.PointsInto source := by
  cases h with
  | strayColon c rest =>
      have hsplit : source.toList = before ++ ([c] ++ rest) := hsource
      exact ⟨rfl, ⟨_, _, spans_of_append hsplit _ (Nat.le_refl _) (Nat.le_add_right _ _)⟩, nofun⟩
  | missingColon name rest =>
      exact ⟨rfl, ⟨_, _, spans_of_append hsource _ (Nat.le_refl _) (Nat.le_add_right _ _)⟩, nofun⟩
  | noAxis device colon =>
      rw [← List.append_nil (device ++ colon)] at hsource
      refine ⟨rfl, ⟨_, _, spans_of_append hsource _ ?_ ?_⟩, nofun⟩
      · omega
      · exact Nat.le_of_eq (by rw [List.length_append, Nat.add_assoc])
  | noWord device colon t rest =>
      have hsplit : source.toList = before ++ ((device ++ colon ++ [t]) ++ rest) := by
        rw [hsource]
        simp only [List.append_assoc, List.cons_append, List.nil_append]
      refine ⟨rfl, ⟨_, _, spans_of_append hsplit _ ?_ ?_⟩, nofun⟩
      · omega
      · rw [List.length_append, List.length_append, ← Nat.add_assoc, ← Nat.add_assoc]
        exact Nat.le_add_right _ _
  | @unknownAxis device front behind name rest hbehind hname hrest =>
      have hsplit : source.toList =
          (before ++ (device ++ front)) ++ ':' :: (behind ++ (name ++ rest)) := by
        rw [hsource]
        simp only [List.append_assoc]
      have hposition : before.length + device.length + (front ++ ':' :: behind).length =
          ((before ++ (device ++ front)) ++ ':' :: behind).length := by
        simp only [List.length_append, Nat.add_assoc]
      have hunknown := isUnknown_of_append hsplit hposition hbehind hname hrest
      exact ⟨rfl, ⟨_, _, hunknown.spans⟩, fun _ _ => ⟨_, hunknown⟩⟩

/-! ### No tree -/

variable {source : String} {ts : List Token} {t : Token}

/-- An error about a token of the text points into it, if it is not one about an unknown axis. -/
theorem pointsInto_atToken (h : scan source = .ok ts) (ht : t ∈ ts) {cause : SyntaxError.Cause}
    (hcause : ∀ name, cause ≠ .unknownAxis name) :
    (SyntaxError.atToken source t cause).PointsInto source := by
  refine ⟨rfl, ?_, fun name hname => absurd hname (hcause name)⟩
  obtain ⟨body, rfl, hspaced, hstands⟩ := stands_of_scan h
  rcases List.mem_append.mp ht with hbody | hfinish
  · have hstand := hstands t hbody
    have hstop : t.stop ≤ source.length :=
      (List.pairwise_append.mp hspaced.pairwise.2).2.2 t hbody _ (List.mem_singleton.mpr rfl)
    refine ⟨t.position, t.stop, Nat.le_refl _, Nat.le_add_right _ _, hstop, ?_⟩
    have hne : ¬ t.text.isEmpty := fun hempty => hstand.text_ne (String.isEmpty_iff.mp hempty)
    rw [SyntaxError.atToken, if_neg hne]
    exact hstand.slice
  · -- the end has no text, and the last characters take its place
    obtain rfl := List.mem_singleton.mp hfinish
    refine ⟨source.length - 10, source.length, Nat.sub_le _ _, Nat.le_refl _, Nat.le_refl _, ?_⟩
    have hall : (source.toList.drop (source.length - 10)).length ≤
        source.length - (source.length - 10) :=
      Nat.le_of_eq (by rw [List.length_drop, String.length_toList])
    rw [List.extract_eq_take_drop]
    exact String.toList_ofList.trans (List.take_of_length_le hall).symm

end Token

namespace Expr

variable {source : String} {level : Nat} {left : Expr} {ts ts' : List Token}

theorem next_mem (source : String) (ts : List Token) :
    next source ts ∈ ts ∨ next source ts = Token.finish source.length := by
  cases ts with
  | nil =>
      rw [← String.length_toList]
      exact .inr rfl
  | cons t ts => exact .inl List.mem_cons_self

/-- What may come of reading something from `ts`: tokens are left at their end, or an error is about
one of them or about the end of the text. -/
inductive Within (source : String) (ts : List Token) :
    Except SyntaxError (Expr × List Token) → Prop where
  | ok {e : Expr} {r : List Token} (h : r <:+ ts) : Within source ts (.ok (e, r))
  | error {t : Token} (cause : SyntaxError.Cause) (h : t ∈ ts ∨ t = Token.finish source.length) :
      Within source ts (.error (.atToken source t cause))

theorem Within.mono {result : Except SyntaxError (Expr × List Token)} (h : Within source ts result)
    (hts : ts <:+ ts') : Within source ts' result := by
  cases h with
  | ok h => exact .ok (h.trans hts)
  | error cause h => exact .error cause (h.imp_left (hts.mem ·))

theorem Within.bind {result : Except SyntaxError (Expr × List Token)}
    {f : Expr × List Token → Except SyntaxError (Expr × List Token)} (h : Within source ts result)
    (hf : ∀ e r, r <:+ ts → Within source ts (f (e, r))) : Within source ts (result.bind f) := by
  cases h with
  | ok h => exact hf _ _ h
  | error cause h => exact .error cause h

/-- Reading may stop at the next token. -/
theorem within_next (cause : SyntaxError.Cause) :
    Within source ts (.error (.atToken source (next source ts) cause)) :=
  .error cause (next_mem source ts)

theorem within_literal {t : Token} {r : List Token} (ht : t ∈ ts) (hr : r <:+ ts) (n : Int) :
    Within source ts ((literal source t n).map (·, r)) := by
  by_cases hn : InRange n
  · rw [literal_of_inRange hn]
    exact .ok hr
  · rw [literal_of_not hn]
    exact .error _ (.inl ht)

theorem within_signed (t : Token) (negative : Bool) (ts : List Token) :
    Within source (t :: ts) (bare (signed source t negative ts)) := by
  have hnext (cause : SyntaxError.Cause) :
      Within source (t :: ts) (.error (.atToken source (next source ts) cause)) :=
    (within_next cause).mono (List.suffix_cons t ts)
  rcases ts with _ | ⟨⟨kind, text, pos⟩, rest⟩
  · exact hnext _
  · cases kind with
    | number n =>
        rw [signed_cons]
        exact within_literal List.mem_cons_self
          ((List.suffix_cons _ rest).trans (List.suffix_cons t _)) _
    | operator | reference | lparen | rparen | finish => exact hnext _

theorem within_factor
    (hread : ∀ ts', ts'.length < ts.length → Within source ts' (readExpression source 1 ts')) :
    Within source ts (readFactor source ts) := by
  rcases ts with _ | ⟨⟨kind, text, pos⟩, rest⟩
  · rw [readFactor, factor]
    exact within_next _
  · have hrest := List.suffix_cons (⟨kind, text, pos⟩ : Token) rest
    rw [readFactor_cons]
    cases kind with
    | number n => exact within_literal List.mem_cons_self hrest n
    | reference key => exact .ok hrest
    | operator op =>
        cases op with
        | add => exact within_signed _ false rest
        | sub => exact within_signed _ true rest
        | mul | div => exact .error _ (.inl List.mem_cons_self)
    | rparen | finish => exact .error _ (.inl List.mem_cons_self)
    | lparen =>
        refine ((hread rest (Nat.lt_succ_self _)).mono hrest).bind fun e r hr => ?_
        have hnext (cause : SyntaxError.Cause) : Within source (⟨.lparen, text, pos⟩ :: rest)
            (.error (.atToken source (next source r) cause)) := (within_next cause).mono hr
        rcases r with _ | ⟨⟨kind', text', pos'⟩, r⟩
        · exact hnext _
        · cases kind' with
          | rparen => exact .ok ((List.suffix_cons _ r).trans hr)
          | number | operator | reference | lparen | finish => exact hnext _

theorem within_chain (level : Nat) :
    ∀ (left : Expr) (ts : List Token),
      (∀ ts', ts'.length < ts.length →
        ∀ level, Within source ts' (readExpression source level ts')) →
      Within source ts (readChain source level left ts)
  | left, ts, hread => by
      rcases stops_or level ts with hstop | ⟨op, text, pos, rest, rfl, hop⟩
      · rw [readChain_of_stops hstop]
        exact .ok (List.suffix_refl ts)
      · rw [readChain_cons, if_pos hop]
        -- one operand, and a chain behind it
        refine ((hread rest (Nat.lt_succ_self _) _).bind fun right r hr => ?_).mono
          (List.suffix_cons _ rest)
        have hlength : r.length < rest.length + 1 := Nat.lt_succ_of_le hr.length_le
        exact (within_chain level (.binary op left right) r fun ts' h =>
          hread ts' (Nat.lt_trans h hlength)).mono hr
termination_by _ ts => ts.length
decreasing_by
  subst_vars
  exact hlength

theorem within_expression (source : String) :
    ∀ (level : Nat) (ts : List Token), Within source ts (readExpression source level ts)
  | level, ts => by
      rw [readExpression_eq]
      refine (within_factor fun ts' h => within_expression source 1 ts').bind fun left r hr => ?_
      exact (within_chain level left r
        fun ts' h level => within_expression source level ts').mono hr
termination_by _ ts => ts.length
decreasing_by
  · exact h
  · exact Nat.lt_of_lt_of_le h hr.length_le

/-- **What an error is about.**  It is about one of the tokens, or about the end of the text. -/
theorem atToken_of_ofTokens {err : SyntaxError} (h : ofTokens source ts = .error err) :
    ∃ t cause, err = .atToken source t cause ∧ (t ∈ ts ∨ t = Token.finish source.length) := by
  rw [ofTokens_eq] at h
  have hr := within_expression source 1 ts
  generalize readExpression source 1 ts = result at h hr
  cases hr with
  | error cause ht =>
      cases h
      exact ⟨_, cause, rfl, ht⟩
  | @ok e r hr =>
      simp only [Except.bind] at h
      split at h
      · cases h
      · cases h
        exact ⟨_, _, rfl, (next_mem source r).imp_left (hr.mem ·)⟩

/-- **An error points into the text.** -/
theorem pointsInto_of_parse {e : SyntaxError} (h : parse source = .error (.malformed e)) :
    e.PointsInto source := by
  rcases parse_eq_malformed.mp h with hs | ⟨ts, hs, ht⟩
  · obtain ⟨before, body, c, rest, hsource, -, hl⟩ := Token.cut_of_scan_error hs
    rcases Token.lexeme_cases source before.length c rest with
      ⟨kind, w, r, hl', -⟩ | ⟨hl', -⟩ | ⟨e', hl', hmisread⟩
    · cases hl.symm.trans hl'
    · cases hl.symm.trans hl'
    · cases hl.symm.trans hl'
      exact hmisread.pointsInto hsource
  · obtain ⟨t, cause, rfl, hmem⟩ := atToken_of_ofTokens ht
    refine Token.pointsInto_atToken hs ?_ (cause_of_ofTokens ht)
    rcases hmem with hmem | rfl
    · exact hmem
    · obtain ⟨body, rfl, -⟩ := Token.cut_of_scan hs
      exact List.mem_concat_self

end Expr

end AxisMixer
