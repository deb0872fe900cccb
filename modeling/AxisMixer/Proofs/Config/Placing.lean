import AxisMixer.Proofs.Config.Loading
import AxisMixer.Proofs.Expr.Pointing

/-!
# Configurations — where an expression is that cannot be read

An error in an expression is met while a configuration is read.  The reader says in which field the
expression is and hands the error on as it is: the text that it tells is the one in this field, and
its offset and its fragment belong to this text (`Config.expression_points`).

* `Document.Holds`: a value stands in the document at a place, which is a path of field names.
* `Config.Blames`: the error is about a text that stands in the document.
-/

namespace AxisMixer

/-- The value stands in the document at the place to which these field names lead. -/
inductive Document.Holds (s : Text.StandIns) (value : Document) :
    Document → List String → Prop where
  | here : Holds s value value []
  | field {fields : List (List Text.CodePoint × Document)}
      {field : List Text.CodePoint × Document} {place : List String} (h : field ∈ fields)
      (t : Holds s value field.2 place) : Holds s value (.object fields) (s.text field.1 :: place)

namespace Config

/-- The error is about a text in the document `d`.  The text stands at `place'` if the document
itself stands at `place`. -/
def Blames (s : Text.StandIns) (place : List String) (d : Document) (place' : List String)
    (e : SyntaxError) : Prop :=
  ∃ inner points, place' = place ++ inner ∧ Document.Holds s (.text points) d inner ∧
    Expr.parse (s.text points) = .error (.malformed e)

variable {s : Text.StandIns} {place place' : List String} {d : Document} {e : SyntaxError}

theorem Blames.field {fields : Fields} {field : List Text.CodePoint × Document}
    (hfield : field ∈ fields) (h : Blames s (place ++ [s.text field.1]) field.2 place' e) :
    Blames s place (.object fields) place' e := by
  obtain ⟨inner, points, rfl, hholds, hparse⟩ := h
  exact ⟨s.text field.1 :: inner, points, List.append_assoc _ _ _, .field hfield hholds, hparse⟩

theorem Blames.get? {fields : Fields} {name : String} (hget : Fields.get? fields name = some d)
    (h : Blames s (place ++ [name]) d place' e) : Blames s place (.object fields) place' e := by
  refine .field (mem_of_get? hget) ?_
  rwa [Text.StandIns.text_codePoints]

/-! ### What meets no expression -/

theorem shape_ne_expression (shape : ShapeError) : ReadError.shape shape ≠ .expression place e :=
  nofun

theorem checkId_ne_expression {id : Int} : checkId place id ≠ .error (.expression place' e) := by
  unfold checkId
  split
  · nofun
  · split
    · exact fail_ne_error shape_ne_expression
    · nofun

theorem readId_ne_expression {found : Option Document} :
    readId s place found ≠ .error (.expression place' e) := by
  unfold readId
  split
  · nofun
  · nofun
  · exact fun h => checkId_ne_expression (map_eq_error.mp h)
  · dsimp only
    split
    · exact fun h => checkId_ne_expression (map_eq_error.mp h)
    · exact fail_ne_error shape_ne_expression
  · exact fail_ne_error shape_ne_expression

theorem readMatcher_ne_expression {name : String} {entry : Document} :
    readMatcher s name entry ≠ .error (.expression place e) := by
  intro h
  by_cases hn : isDeviceName name = true
  · cases entry with
    | object fields =>
      simp only [readMatcher, hn, if_true, bind_eq_error, readId_ne_expression, false_or] at h
      obtain ⟨_, -, _, -, h⟩ := h
      split at h <;> cases h
    | _ =>
      simp only [readMatcher, hn, if_true] at h
      cases h
  · simp [readMatcher, hn, fail, bind, Except.bind] at h

/-! ### What meets one -/

theorem blames_of_readExpr (h : readExpr s place d = .error (.expression place' e)) :
    Blames s place d place' e := by
  unfold readExpr at h
  split at h
  · split at h
    · cases h
    · next hparse =>
        cases h
        exact ⟨[], _, (List.append_nil _).symm, .here, hparse⟩
    · cases h
  · cases h

theorem blames_of_readRule (h : readRule s place d = .error (.expression place' e)) :
    Blames s place d place' e := by
  cases d with
  | object fields =>
    simp only [readRule, bind_eq_error, required_ne_error shape_ne_expression,
      readInteger_ne_error shape_ne_expression, false_or] at h
    obtain ⟨_, -, _, -, source, hsource, _, -, _, -, h | ⟨_, -, h⟩⟩ := h
    · exact .get? (required_eq_ok.mp hsource) (blames_of_readExpr h)
    · split at h <;> cases h
  | _ => cases h

theorem blames_of_readAxis {field : List Text.CodePoint × Document}
    (h : readAxis s place field = .error (.expression place' e)) :
    Blames s (place ++ [s.text field.1]) field.2 place' e := by
  unfold readAxis at h
  dsimp only at h
  split at h
  · rw [bind_eq_error] at h
    rcases h with h | ⟨_, -, h⟩
    · exact blames_of_readRule h
    · cases h
  · cases h

theorem blames_of_readOutput {name : String} {entry : Document}
    (h : readOutput s name entry = .error (.expression place' e)) :
    Blames s ["virt_devices", name] entry place' e := by
  cases entry with
  | object fields =>
    simp only [readOutput] at h
    split at h
    · next axis more hfound =>
      simp only [bind_eq_error, readDisplayName_ne_error shape_ne_expression,
        readId_ne_expression, false_or] at h
      rcases h with h | ⟨_, -, _, -, _, -, _, -, h⟩
      · obtain ⟨field, hfield, h⟩ := exists_of_mapM_eq_error h
        exact .get? hfound (.field hfield (blames_of_readAxis h))
      · cases h
    · cases h
  | _ => cases h

/-- An error that is met in a document is about a text in it. -/
theorem blames_of_readDocument (h : readDocument s d = .error (.expression place' e)) :
    Blames s [] d place' e := by
  cases d with
  | object fields =>
    simp only [readDocument, bind_eq_error, readSection_ne_error shape_ne_expression,
      false_or] at h
    obtain ⟨physical, -, virtual, hvirtual, h | ⟨_, -, h | ⟨_, -, h⟩⟩⟩ := h
    · obtain ⟨field, -, h⟩ := exists_of_mapM_eq_error h
      simp only [bind_eq_error, readMatcher_ne_expression, false_or] at h
      obtain ⟨_, -, h⟩ := h
      cases h
    · obtain ⟨field, hfield, h⟩ := exists_of_mapM_eq_error h
      rcases readSection_eq_ok.mp hvirtual with ⟨-, rfl⟩ | hfound
      · cases hfield
      · rw [bind_eq_error] at h
        rcases h with h | ⟨_, -, h⟩
        · exact .get? hfound (.field hfield (blames_of_readOutput h))
        · cases h
    · cases h
  | _ => cases h

/-- **Errors in expressions point into them.**  An error about a text points into it, whether the
text stands alone or in a configuration.  There it stands at the place that is reported, and the
error is the one that it has by itself. -/
theorem expression_points :
    (∀ source e, Expr.parse source = .error (.malformed e) → e.PointsInto source) ∧
      ∀ (d : Document) (place : List String) (e : SyntaxError),
        ofDocument d = .error (.expression place e) →
          ∃ points, Document.Holds d.standIns (.text points) d place ∧
            Expr.parse (d.standIns.text points) = .error (.malformed e) ∧
            e.PointsInto (d.standIns.text points) := by
  refine ⟨fun source e => Expr.pointsInto_of_parse, fun d place e h => ?_⟩
  obtain ⟨inner, points, rfl, hholds, hparse⟩ := blames_of_readDocument h
  exact ⟨points, hholds, hparse, Expr.pointsInto_of_parse hparse⟩

/-- A configuration with this text as its only expression. -/
def ruled (source : String) : Document :=
  .object [(Text.codePoints "virt_devices", .object [(Text.codePoints "V",
    .object [(Text.codePoints "axes", .object [(Text.codePoints "X",
      .object [(Text.codePoints "min", .int 0), (Text.codePoints "max", .int 9),
        (Text.codePoints "expr", .text (Text.codePoints source))])])])])]

/-- The error of a text is the error of the configuration. -/
theorem ofDocument_ruled {source : String} (h : Expr.parse source = .error (.malformed e)) :
    ofDocument (ruled source) =
      .error (.expression ["virt_devices", "V", "axes", "X", "expr"] e) := by
  have hexpr (place : List String) : readExpr (ruled source).standIns place
      (.text (Text.codePoints source)) = .error (.expression place e) := by
    rw [readExpr, Text.StandIns.text_codePoints, h]
  refine bind_eq_error.mpr (.inr ⟨[], rfl, ?_⟩)
  refine bind_eq_error.mpr (.inr ⟨_, rfl, ?_⟩)
  refine bind_eq_error.mpr (.inr ⟨[], rfl, ?_⟩)
  refine bind_eq_error.mpr (.inl ?_)
  -- the only device, and its only axis
  rw [readEntries, List.mapM_cons]
  refine bind_eq_error.mpr (.inl (bind_eq_error.mpr (.inl ?_)))
  refine bind_eq_error.mpr (.inl ?_)
  rw [List.mapM_cons]
  refine bind_eq_error.mpr (.inl (bind_eq_error.mpr (.inl ?_)))
  -- nothing is wrong with the rule before its expression
  refine bind_eq_error.mpr (.inr ⟨.int 0, rfl, ?_⟩)
  refine bind_eq_error.mpr (.inr ⟨.int 9, rfl, ?_⟩)
  refine bind_eq_error.mpr (.inr ⟨.text (Text.codePoints source), rfl, ?_⟩)
  refine bind_eq_error.mpr (.inr ⟨0, rfl, ?_⟩)
  refine bind_eq_error.mpr (.inr ⟨9, rfl, ?_⟩)
  exact bind_eq_error.mpr (.inl (hexpr _))

theorem expression_points_misnamed :
    let e : SyntaxError := ⟨.unknownAxis "Up", "B:X-A : Up", 8, "Up"⟩
    ofDocument (ruled "B:X-A : Up") =
        .error (.expression ["virt_devices", "V", "axes", "X", "expr"] e) ∧
      e.PointsInto "B:X-A : Up" ∧ ∃ b, e.IsUnknown b := by
  intro e
  have hparse : Expr.parse "B:X-A : Up" = .error (.malformed e) := by decide +kernel
  have h := ofDocument_ruled hparse
  obtain ⟨-, hconfig⟩ := expression_points
  obtain ⟨points, -, -, hpoints⟩ := hconfig _ _ e h
  have hsource : e.source = _ := hpoints.source
  rw [← hsource] at hpoints
  exact ⟨h, hpoints, hpoints.unknown "Up" rfl⟩

end Config

end AxisMixer
