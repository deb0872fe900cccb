import AxisMixer.Program
import AxisMixer.Proofs.Config.Acceptance

/-!
# Loading — what comes of a configuration file, whatever is in it

A file that cannot be used is reported as an error of the configuration: it cannot be opened, it is
no JSON text, its document is not that of a configuration.  Four things are not reported so
(`Config.Overlooked`): the path cannot be handed to the operating system, the contents are not
UTF-8, the text holds an integer that is too long to be read, or the document holds an id or an
expression with a number that is too long.  These four are all there is, and they end the program
without an exit status of its own (`load_overlooks`).

* `Document.HasField`: an object somewhere in the document has a field.
* `Config.HasOverlong`: a field has a number in it that is too long.
* `Config.IsChosen`: the program reads its configuration from this file.
-/

namespace AxisMixer

/-! ### Readings that fail -/

section Except

variable {ε α β : Type}

theorem bind_eq_error {x : Except ε α} {f : α → Except ε β} {e : ε} :
    x >>= f = .error e ↔ x = .error e ∨ ∃ a, x = .ok a ∧ f a = .error e := by
  cases x <;> simp [bind, Except.bind]

theorem map_eq_error {x : Except ε α} {f : α → β} {e : ε} :
    f <$> x = .error e ↔ x = .error e := by
  cases x <;> simp [Functor.map, Except.map]

/-- A list fails with one of its members. -/
theorem exists_of_mapM_eq_error {f : α → Except ε β} {e : ε} :
    ∀ {l : List α}, l.mapM f = .error e → ∃ a ∈ l, f a = .error e
  | [], h => by cases h
  | a :: l, h => by
      rw [List.mapM_cons, bind_eq_error] at h
      rcases h with h | ⟨b, -, h⟩
      · exact ⟨a, List.mem_cons_self, h⟩
      · rw [bind_eq_error] at h
        rcases h with h | ⟨bs, -, h⟩
        · obtain ⟨a', ha', h⟩ := exists_of_mapM_eq_error h
          exact ⟨a', List.mem_cons_of_mem _ ha', h⟩
        · cases h

end Except

/-! ### Fields somewhere in a document -/

/-- An object in the document, or the document itself, has the field. -/
inductive Document.HasField (field : List Text.CodePoint × Document) : Document → Prop where
  | here {fields : List (List Text.CodePoint × Document)} (h : field ∈ fields) :
      HasField field (.object fields)
  | inside {fields : List (List Text.CodePoint × Document)}
      {outer : List Text.CodePoint × Document} (h : outer ∈ fields) (t : HasField field outer.2) :
      HasField field (.object fields)

theorem Document.Writable.of_mem {fields : List (List Text.CodePoint × Document)}
    (h : (Document.object fields).Writable) {field : List Text.CodePoint × Document}
    (hf : field ∈ fields) : field.2.Writable := by
  cases h with
  | object each => exact each field hf

namespace Config

variable (s : Text.StandIns)

/-! ### Numbers that are too long -/

/-- The field is an id with more decimal digits than can be written, or an expression with a numeral
that has more digits than can be read. -/
inductive Overlong : List Text.CodePoint × Document → Prop where
  | id {name : String} {points : List Text.CodePoint} {id : Int}
      (name_mem : name ∈ ["vendor_id", "product_id"])
      (value : Text.hexNumeral? (s.text points) = some id)
      (long : Decimal.isWritable id.natAbs = false) :
      Overlong (Text.codePoints name, .text points)
  | expr {points : List Text.CodePoint}
      (long : Expr.parse (s.text points) = .error .numeralTooLong) :
      Overlong (Text.codePoints "expr", .text points)

/-- The document has such a field. -/
def HasOverlong (d : Document) : Prop := ∃ field, Overlong s field ∧ d.HasField field

variable {s}

theorem mem_of_get? {fields : Fields} {name : String} {d : Document}
    (h : Fields.get? fields name = some d) : (Text.codePoints name, d) ∈ fields :=
  OrderedMap.mem_of_lookup h

theorem HasOverlong.of_mem {fields : Fields} {field : List Text.CodePoint × Document}
    (hf : field ∈ fields) (h : HasOverlong s field.2) : HasOverlong s (.object fields) := by
  obtain ⟨inner, hlong, hin⟩ := h
  exact ⟨inner, hlong, .inside hf hin⟩

theorem fail_ne_error {α : Type} {err : ReadError} (herr : ∀ e, .shape e ≠ err)
    {place : List String} {cause : ShapeError.Cause} :
    (fail place cause : Except ReadError α) ≠ .error err :=
  fun h => herr _ (Except.error.inj h)

theorem shape_ne_numberTooLong (shape : ShapeError) : ReadError.shape shape ≠ .numberTooLong :=
  nofun

theorem checkId_eq_numberTooLong {place : List String} {id : Int}
    (h : checkId place id = .error .numberTooLong) : Decimal.isWritable id.natAbs = false := by
  unfold checkId at h
  split at h
  · cases h
  · split at h
    · cases h
    · next hw => exact Bool.eq_false_iff.mpr hw

theorem hasOverlong_of_readId {place : List String} {fields : Fields} {name : String}
    (hw : (Document.object fields).Writable) (hname : name ∈ ["vendor_id", "product_id"])
    (h : readId s place (Fields.get? fields name) = .error .numberTooLong) :
    HasOverlong s (.object fields) := by
  unfold readId at h
  split at h
  · cases h
  · cases h
  · next id hid =>
    have hlong := checkId_eq_numberTooLong (map_eq_error.mp h)
    cases hw.of_mem (mem_of_get? hid) with
    | int hwritable => exact absurd hwritable (by rw [hlong]; decide)
  · next points hpoints =>
    dsimp only at h
    split at h
    · next hvalue =>
      exact ⟨_, .id hname hvalue (checkId_eq_numberTooLong (map_eq_error.mp h)),
        .here (mem_of_get? hpoints)⟩
    · cases h
  · cases h

theorem hasOverlong_of_readMatcher {name : String} {entry : Document} (hw : entry.Writable)
    (h : readMatcher s name entry = .error .numberTooLong) : HasOverlong s entry := by
  by_cases hn : isDeviceName name = true
  · cases entry with
    | object fields =>
      simp only [readMatcher, hn, if_true, bind_eq_error] at h
      rcases h with h | ⟨v, -, h | ⟨p, -, h⟩⟩
      · exact hasOverlong_of_readId hw (by decide) h
      · exact hasOverlong_of_readId hw (by decide) h
      · split at h <;> cases h
    | _ =>
      simp only [readMatcher, hn, if_true] at h
      cases h
  · simp [readMatcher, hn, fail, bind, Except.bind] at h

theorem required_ne_error {err : ReadError} (herr : ∀ e, .shape e ≠ err) {place : List String}
    {fields : Fields} {name : String} : required place fields name ≠ .error err := by
  unfold required
  split
  · nofun
  · exact fail_ne_error herr

theorem readInteger_ne_error {err : ReadError} (herr : ∀ e, .shape e ≠ err) {place : List String}
    {d : Document} : readInteger place d ≠ .error err := by
  unfold readInteger
  split
  · nofun
  · exact fail_ne_error herr

theorem overlong_of_readExpr {place : List String} {d : Document}
    (h : readExpr s place d = .error .numberTooLong) :
    Overlong s (Text.codePoints "expr", d) := by
  unfold readExpr at h
  split at h
  · split at h
    · cases h
    · cases h
    · next hparse => exact .expr hparse
  · cases h

theorem hasOverlong_of_readRule {place : List String} {entry : Document}
    (h : readRule s place entry = .error .numberTooLong) : HasOverlong s entry := by
  cases entry with
  | object fields =>
    simp only [readRule, bind_eq_error, required_ne_error shape_ne_numberTooLong,
      readInteger_ne_error shape_ne_numberTooLong, false_or] at h
    obtain ⟨_, -, _, -, source, hsource, _, -, _, -, h | ⟨_, -, h⟩⟩ := h
    · exact ⟨_, overlong_of_readExpr h, .here (mem_of_get? (required_eq_ok.mp hsource))⟩
    · split at h <;> cases h
  | _ => cases h

theorem hasOverlong_of_readAxis {place : List String} {field : List Text.CodePoint × Document}
    (h : readAxis s place field = .error .numberTooLong) : HasOverlong s field.2 := by
  unfold readAxis at h
  dsimp only at h
  split at h
  · rw [bind_eq_error] at h
    rcases h with h | ⟨_, -, h⟩
    · exact hasOverlong_of_readRule h
    · cases h
  · cases h

theorem readDisplayName_ne_error {err : ReadError} (herr : ∀ e, .shape e ≠ err)
    {place : List String} {found : Option Document} :
    readDisplayName s place found ≠ .error err := by
  unfold readDisplayName
  split
  · nofun
  · split
    · exact fail_ne_error herr
    · nofun
  · exact fail_ne_error herr

theorem hasOverlong_of_readOutput {name : String} {entry : Document} (hw : entry.Writable)
    (h : readOutput s name entry = .error .numberTooLong) : HasOverlong s entry := by
  cases entry with
  | object fields =>
    simp only [readOutput] at h
    split at h
    · next axis more hfound =>
      simp only [bind_eq_error, readDisplayName_ne_error shape_ne_numberTooLong, false_or] at h
      rcases h with h | ⟨_, -, _, -, h | ⟨_, -, h | ⟨_, -, h⟩⟩⟩
      · obtain ⟨field, hfield, h⟩ := exists_of_mapM_eq_error h
        have haxes : HasOverlong s (.object (axis :: more)) :=
          .of_mem hfield (hasOverlong_of_readAxis h)
        exact .of_mem (mem_of_get? hfound) haxes
      · exact hasOverlong_of_readId hw (by decide) h
      · exact hasOverlong_of_readId hw (by decide) h
      · cases h
    · cases h
  | _ => cases h

theorem readSection_ne_error {err : ReadError} (herr : ∀ e, .shape e ≠ err) {fields : Fields}
    {name : String} : readSection fields name ≠ .error err := by
  unfold readSection
  split
  · nofun
  · nofun
  · exact fail_ne_error herr

/-- A section fails with one of its entries. -/
theorem hasOverlong_of_readEntries {α : Type} {read : String → Document → Except ReadError α}
    {fields entries : Fields} {name : String} (hw : (Document.object fields).Writable)
    (hsection : readSection fields name = .ok entries)
    (hread : ∀ {name entry}, entry.Writable → read name entry = .error .numberTooLong →
      HasOverlong s entry)
    (h : readEntries s read entries = .error .numberTooLong) : HasOverlong s (.object fields) := by
  obtain ⟨field, hfield, h⟩ := exists_of_mapM_eq_error h
  simp only [bind_eq_error] at h
  rcases readSection_eq_ok.mp hsection with ⟨-, rfl⟩ | hfound
  · cases hfield
  · have hmem := mem_of_get? hfound
    rcases h with h | ⟨_, -, h⟩
    · have hfieldw : field.2.Writable := (hw.of_mem hmem).of_mem hfield
      have hentries : HasOverlong s (.object entries) := .of_mem hfield (hread hfieldw h)
      exact .of_mem hmem hentries
    · cases h

/-- Reading a document fails for the length of a number only if one of its fields is too long. -/
theorem hasOverlong_of_ofDocument {d : Document} (hw : d.Writable)
    (h : ofDocument d = .error .numberTooLong) : HasOverlong d.standIns d := by
  unfold ofDocument at h
  generalize d.standIns = s at h ⊢
  cases d with
  | object fields =>
    simp only [readDocument, bind_eq_error, readSection_ne_error shape_ne_numberTooLong,
      false_or] at h
    obtain ⟨physical, hp, virtual, hv, h | ⟨_, -, h | ⟨_, -, h⟩⟩⟩ := h
    · exact hasOverlong_of_readEntries hw hp hasOverlong_of_readMatcher h
    · exact hasOverlong_of_readEntries hw hv hasOverlong_of_readOutput h
    · cases h
  | _ => cases h

/-! ### What is overlooked -/

/-- What keeps a file from being read, although it is not reported as an error of the
configuration. -/
inductive Overlooked : Entry → Failure → Prop where
  /-- The path holds a character that no name can hold. -/
  | unnameable : Overlooked .unnameable .invalidValue
  | undecodable {contents : ByteArray} (h : ¬contents.IsValidUTF8) :
      Overlooked (.file contents) .undecodable
  /-- The reader of the text stops at a long numeral. -/
  | numeral {contents : ByteArray} {text : String}
      (decoded : String.fromUTF8? contents = some text)
      (h : Document.parse text = .error .numeralTooLong) :
      Overlooked (.file contents) .invalidValue
  /-- The reader of the document stops at a number that cannot be read or written. -/
  | number {contents : ByteArray} {text : String} {d : Document}
      (decoded : String.fromUTF8? contents = some text) (parsed : Document.parse text = .ok d)
      (h : ofDocument d = .error .numberTooLong) :
      Overlooked (.file contents) .invalidValue

theorem overlooked_of_ofContents {path : String} {contents : ByteArray} {f : Failure}
    (h : ofContents path contents = .error f) (hf : ∀ e, f ≠ .configuration e) :
    Overlooked (.file contents) f := by
  unfold ofContents at h
  split at h
  · next text decoded =>
    split at h
    · cases h
      exact absurd rfl (hf _)
    · next hlong =>
      cases h
      exact .numeral decoded hlong
    · next d parsed =>
      cases hd : ofDocument d with
      | ok c => rw [hd] at h; cases h
      | error e =>
        rw [hd] at h
        cases e with
        | numberTooLong =>
          cases h
          exact .number decoded parsed hd
        | _ =>
          cases h
          exact absurd rfl (hf _)
  · next hnone =>
    cases h
    refine .undecodable fun hvalid => ?_
    rw [String.fromUTF8?, dif_pos hvalid] at hnone
    exact hnone _ rfl

theorem ofEntry_of_overlooked (path : String) {entry : Entry} {f : Failure}
    (h : Overlooked entry f) : ofEntry path entry = .error f := by
  cases h with
  | unnameable => rfl
  | undecodable h =>
    rw [ofEntry, ofContents, String.fromUTF8?, dif_neg h]
    rfl
  | numeral decoded h =>
    rw [ofEntry, ofContents, decoded]
    dsimp only
    rw [h]
    rfl
  | number decoded parsed h =>
    rw [ofEntry, ofContents, decoded]
    dsimp only
    rw [parsed]
    dsimp only
    rw [h]
    rfl

/-- Nothing that is overlooked has an error of the configuration for a failure. -/
theorem Overlooked.ne_configuration {entry : Entry} {f : Failure} (h : Overlooked entry f)
    (e : ConfigError) : f ≠ .configuration e := by
  cases h <;> nofun

/-- The program does not foresee what is overlooked. -/
theorem Overlooked.conclude {entry : Entry} {f : Failure} (h : Overlooked entry f) (j : Journal) :
    (Program.conclude (.error f) j).1 = .error f := by
  cases h <;> rfl

theorem overlooked_iff (path : String) (entry : Entry) (f : Failure) :
    (ofEntry path entry = .error f ∧ ∀ e, f ≠ .configuration e) ↔ Overlooked entry f := by
  refine ⟨fun ⟨h, hf⟩ => ?_, fun h => ⟨ofEntry_of_overlooked path h, h.ne_configuration⟩⟩
  cases entry with
  | file contents => exact overlooked_of_ofContents h hf
  | unusable e =>
    cases h
    exact absurd rfl (hf _)
  | unnameable =>
    cases h
    exact .unnameable

/-- What is overlooked in text has to do with the length of a number. -/
theorem Overlooked.long {contents : ByteArray} {text : String}
    (h : Overlooked (.file contents) .invalidValue)
    (decoded : String.fromUTF8? contents = some text) :
    Json.HasLongRun text.toList ∨
      ∃ d, Document.parse text = .ok d ∧ HasOverlong d.standIns d := by
  cases h with
  | numeral decoded' h =>
    cases decoded.symm.trans decoded'
    exact .inl (Document.hasLongRun_of_parse h)
  | number decoded' parsed h =>
    cases decoded.symm.trans decoded'
    exact .inr ⟨_, parsed, hasOverlong_of_ofDocument (Document.writable_of_parse parsed) h⟩

/-- With this command line the program reads its configuration from the file. -/
def IsChosen (files : FileSystem) (env : Environment) (system : Path) (words : List String)
    (path : Path) : Prop :=
  ∃ settings logging, Arguments.parse words = .ok settings ∧
    Program.chosenLogging env settings.logLevel = .ok logging ∧
    Program.namedFile settings.config >>= find files env system = .ok path

theorem result_of_load {files : FileSystem} {env : Environment} {system path : Path}
    {words : List String} (chosen : IsChosen files env system words path) (host : Host)
    {f : Failure} (h : (load files path).1 = .error f) :
    ∃ j, (Program.run host files env system words).result =
      (Program.conclude (.error f) j).1 := by
  obtain ⟨settings, logging, hsettings, hlogging, hpath⟩ := chosen
  rcases hload : load files path with ⟨result, log⟩
  rw [hload] at h
  cases h
  refine ⟨({} : Journal).append log, ?_⟩
  simp only [Program.run, hsettings, hlogging, Program.operate, Program.configure, hpath, hload]

/-- **What a configuration file comes to.**  Reading the file gives a configuration or an error of
the configuration unless something is overlooked.  In a file of text this can only be a number: the
text has a run of digits that is too long, or a field of the document is an id or an expression with
a number that is too long.  An error of the configuration ends the program with status 1; what is
overlooked, it does not foresee. -/
theorem load_overlooks (files : FileSystem) (path : Path) :
    (∀ f, ((load files path).1 = .error f ∧ ∀ e, f ≠ .configuration e) ↔
      isOutdated path = false ∧ Overlooked (files path) f) ∧
    (∀ contents text, files path = .file contents → String.fromUTF8? contents = some text →
      Overlooked (files path) .invalidValue →
        Json.HasLongRun text.toList ∨
          ∃ d, Document.parse text = .ok d ∧ HasOverlong d.standIns d) ∧
    ∀ host env system words, IsChosen files env system words path →
      let result := (Program.run host files env system words).result
      (∀ e, (load files path).1 = .error (.configuration e) → result = .ok 1) ∧
        ∀ f, isOutdated path = false → Overlooked (files path) f → result = .error f := by
  have hload : ∀ f, ((load files path).1 = .error f ∧ ∀ e, f ≠ .configuration e) ↔
      isOutdated path = false ∧ Overlooked (files path) f := by
    intro f
    cases hout : isOutdated path with
    | true =>
      rw [load, if_pos hout]
      simp only [Bool.true_eq_false, false_and, iff_false, not_and]
      rintro ⟨⟩ hf
      exact hf _ rfl
    | false =>
      rw [load, if_neg (by rw [hout]; decide), overlooked_iff]
      exact (and_iff_right rfl).symm
  refine ⟨hload, ?_, ?_⟩
  · intro contents text hfile decoded h
    rw [hfile] at h
    exact h.long decoded
  · intro host env system words chosen
    refine ⟨fun e h => ?_, fun f hout hf => ?_⟩
    · obtain ⟨j, hj⟩ := result_of_load chosen host h
      exact hj
    · obtain ⟨h, -⟩ := (hload f).mpr ⟨hout, hf⟩
      obtain ⟨j, hj⟩ := result_of_load chosen host h
      exact hj.trans (hf.conclude j)

/-- A file with a byte that starts no character, whatever its path is. -/
def garbled : FileSystem := fun _ => .file ⟨#[0x80]⟩

theorem overlooked_garbled (path : Path) : Overlooked (garbled path) .undecodable :=
  .undecodable (by decide +kernel)

theorem isOutdated_c : isOutdated (.ofText "c") = false := by
  have hnames : "c".splitOn "/" = ["c"] := by
    rw [String.splitOn, if_neg (by decide), String.splitOnAux, if_neg (by decide +kernel),
      if_neg (by decide +kernel), String.splitOnAux, if_pos (by decide +kernel)]
    decide +kernel
  rw [Path.ofText, hnames]
  decide +kernel

theorem load_overlooks_garbled :
    isOutdated (.ofText "c") = false ∧ Overlooked (garbled (.ofText "c")) .undecodable ∧
      (Program.run .bare garbled {} Config.systemFile ["-c", "c"]).result =
        .error .undecodable := by
  have hsettings : Arguments.parse ["-c", "c"] = .ok ⟨.value "c", .unset, false⟩ := by
    decide +kernel
  have chosen : IsChosen garbled {} systemFile ["-c", "c"] (.ofText "c") :=
    ⟨_, _, hsettings, rfl, rfl⟩
  have hentry := overlooked_garbled (.ofText "c")
  obtain ⟨-, -, hprogram⟩ := load_overlooks garbled (.ofText "c")
  exact ⟨isOutdated_c, hentry,
    (hprogram .bare {} systemFile _ chosen).2 _ isOutdated_c hentry⟩

/-- Neither a configuration nor an error of the configuration comes of such a file. -/
theorem load_garbled :
    ¬∀ (files : FileSystem) (path : Path), (∃ c, (load files path).1 = .ok c) ∨
      ∃ e, (load files path).1 = .error (.configuration e) := by
  intro h
  have hload : (load garbled (.ofText "c")).1 = .error .undecodable := by
    rw [load, if_neg (by rw [isOutdated_c]; decide)]
    exact ofEntry_of_overlooked (Path.ofText "c").text (overlooked_garbled (.ofText "c"))
  rcases h garbled (.ofText "c") with ⟨c, hc⟩ | ⟨e, he⟩
  · cases hload.symm.trans hc
  · cases hload.symm.trans he

end Config

end AxisMixer
