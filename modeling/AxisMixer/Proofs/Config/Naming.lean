import AxisMixer.Proofs.Config.Acceptance

/-!
# Names — configurations and expressions agree on them

A configuration takes a physical device under every device name and under no other one, whatever
the entry says (`exists_readMatcher_iff`).  An expression refers to devices by such names only
(`Expr.WellFormed.isDeviceName`), and it can refer to each of them, since the text of an axis is an
expression (`parse_axis`).

One side looks at a whole string, the other one cuts a name out of a text.  They come to the same
(`isDeviceName_iff`): what can be configured can be referred to, and what cannot be configured
appears in no expression.
-/

namespace AxisMixer

/-! ### Names in expressions -/

theorem Expr.WellFormed.isDeviceName :
    ∀ {e : Expr}, e.WellFormed → ∀ {key : AxisKey}, key ∈ e.references → isDeviceName key.device
  | .ref _, he, _, h => by
      obtain rfl := List.mem_singleton.mp h
      exact he
  | .lit _, _, _, h => absurd h List.not_mem_nil
  | .binary _ _ _, ⟨hleft, hright⟩, _, h => by
      rcases List.mem_append.mp h with h | h
      · exact hleft.isDeviceName h
      · exact hright.isDeviceName h

/-- The key of an axis is the shortest expression that refers to it. -/
theorem Expr.parse_axis {n : String} (hn : isDeviceName n) :
    parse (n ++ ":X") = .ok (.ref ⟨n, .x⟩) := by
  have htext : (Expr.ref ⟨n, .x⟩).text = n ++ ":X" := String.append_assoc
  rw [← htext]
  exact parse_text hn

/-! ### Names in configurations -/

namespace Config

/-- Whether the name will do and whether the entry will do are separate matters. -/
theorem exists_readMatcher_iff {s : Text.StandIns} {n : String} {entry : Document} :
    (∃ m, readMatcher s n entry = .ok m) ↔ isDeviceName n = true ∧ MatcherShaped s entry := by
  simp only [readMatcher_eq_ok, exists_and_left, exists_givesMatcher]

/-- A configuration with one physical device. -/
def lone (n : String) : Document :=
  .object [(Text.codePoints "real_devices",
    .object [(Text.codePoints n, .text (Text.codePoints "/dev/input/event0"))])]

theorem ofDocument_lone {n : String} (hn : isDeviceName n) :
    ofDocument (lone n) = .ok ⟨.ofList [(n, .atPath "/dev/input/event0")], .empty⟩ := by
  refine readDocument_eq_ok.mpr (.sections (.inr rfl) (.inl ⟨rfl, rfl⟩) ⟨_, .cons ?_ .nil, rfl⟩
    ⟨[], .nil, rfl⟩)
  refine ⟨(Text.StandIns.text_codePoints _ _).symm, hn, ?_⟩
  have hpath := GivesMatcher.path (s := (lone n).standIns) (Text.codePoints "/dev/input/event0")
  rwa [Text.StandIns.text_codePoints] at hpath

/-- The physical devices of a configuration have device names. -/
theorem isDeviceName_of_mem_physical {d : Document} {c : Config} (h : ofDocument d = .ok c)
    {n : String} (hn : n ∈ c.physical.keys) : isDeviceName n := by
  cases readDocument_eq_ok.mp h with
  | sections _ _ matchers _ =>
      obtain ⟨l, hl, hphysical⟩ := matchers
      have named : ∀ entry ∈ l, isDeviceName entry.1 :=
        ((List.forall₂_and_left l _).mp (hl.flip.imp fun _ _ hgives => ⟨hgives.2.1, hgives⟩)).1
      obtain ⟨m, hm⟩ := Option.isSome_iff_exists.mp (c.physical.contains_iff.mpr hn)
      rw [← hphysical] at hm
      exact named _ (OrderedMap.mem_of_find?_ofList hm)

end Config

/-- **One notion of a device name.** -/
theorem isDeviceName_iff (n : String) :
    (∀ s entry, (∃ m, Config.readMatcher s n entry = .ok m) ↔
      isDeviceName n = true ∧ Config.MatcherShaped s entry) ∧
    (isDeviceName n = true ↔ ∃ d c, Config.ofDocument d = .ok c ∧ n ∈ c.physical.keys) ∧
    (isDeviceName n = true ↔ Expr.parse (n ++ ":X") = .ok (.ref ⟨n, .x⟩)) ∧
    (isDeviceName n = true ↔
      ∃ text e axis, Expr.parse text = .ok e ∧ ⟨n, axis⟩ ∈ e.references) := by
  -- a reference in a text that is accepted has a device name to it
  have referred : ∀ {text e axis}, Expr.parse text = .ok e → ⟨n, axis⟩ ∈ e.references →
      isDeviceName n = true :=
    fun h href => (Expr.wellFormed_of_parse h).isDeviceName href
  refine ⟨fun s entry => Config.exists_readMatcher_iff, ⟨fun hn => ?_, ?_⟩,
    ⟨Expr.parse_axis, fun h => referred h (List.mem_singleton.mpr rfl)⟩, ⟨fun hn => ?_, ?_⟩⟩
  · exact ⟨_, _, Config.ofDocument_lone hn, List.mem_singleton.mpr rfl⟩
  · rintro ⟨d, c, h, hn⟩
    exact Config.isDeviceName_of_mem_physical h hn
  · exact ⟨_, _, .x, Expr.parse_axis hn, List.mem_singleton.mpr rfl⟩
  · rintro ⟨text, e, axis, h, href⟩
    exact referred h href

end AxisMixer
