import Keyring.Proofs.Configuration

/-!
Which text counts for a setting.

A setting is given by the environment variable of its name, up to case, else by the value that
the settings file gives to this name (`Settings.Given`); no other entry counts. The debug flag is
what the words for truth values say up to case (`Settings.Means`). Where no two names are equal up
to case the settings are read from the texts that count, and are refused for one of them alone
(`Settings.settings_precedence`).
-/

namespace Keyring

namespace Settings

/-! ## Names up to case -/

/-- Two texts that are equal up to the case of letters. -/
def UpToCase (text text' : String) : Prop :=
  text.toList.map lowerChar = text'.toList.map lowerChar

instance (text text' : String) : Decidable (UpToCase text text') :=
  inferInstanceAs (Decidable (_ = _))

/-- Entries of which no two have names that are equal up to case. -/
def Distinct {α : Type} (entries : List (String × α)) : Prop :=
  entries.Pairwise fun entry entry' => ¬UpToCase entry.1 entry'.1

instance {α : Type} (entries : List (String × α)) : Decidable (Distinct entries) :=
  inferInstanceAs (Decidable (entries.Pairwise _))

/-- The name under which a setting is given. -/
def variableOf (setting : String) : String :=
  "SAWTOOTH_" ++ setting

/-- An entry that gives a setting a value. -/
def Gives {α : Type} (entries : List (String × α)) (setting : String) (value : α) : Prop :=
  ∃ name, (name, value) ∈ entries ∧ UpToCase name (variableOf setting)

theorem Gives.unique {α : Type} {entries : List (String × α)} {setting : String}
    {value value' : α} (distinct : Distinct entries) (gives : Gives entries setting value)
    (gives' : Gives entries setting value') : value = value' := by
  rcases gives with ⟨name, member, same⟩
  rcases gives' with ⟨name', member', same'⟩
  by_contra different
  have : Std.Symm fun entry entry' : String × α => ¬UpToCase entry.1 entry'.1 :=
    ⟨fun _ _ apart same => apart same.symm⟩
  have apart : (name, value) ≠ (name', value') := fun equal => different (congrArg Prod.snd equal)
  exact distinct.forall member member' apart (same.trans same'.symm)

section Lookup

variable {α : Type} {entries : List (String × α)} {setting lowerName : String} {value : α}
  (lower : (variableOf setting).toList.map lowerChar = lowerName.toList)

include lower

theorem named_iff {name : String} :
    named lowerName name = true ↔ UpToCase name (variableOf setting) := by
  rw [named, beq_iff_eq, UpToCase, lower]

theorem gives_of_lastNamed (found : lastNamed lowerName entries = some value) :
    Gives entries setting value := by
  rcases Option.map_eq_some_iff.mp found with ⟨⟨name, value'⟩, last, rfl⟩
  have member := List.mem_reverse.mp (List.mem_of_find?_eq_some last)
  have same := List.find?_some last
  exact ⟨name, member, (named_iff lower).mp same⟩

theorem lastNamed_eq_none_iff :
    lastNamed lowerName entries = none ↔ ¬∃ value, Gives entries setting value := by
  rw [lastNamed, Option.map_eq_none_iff, List.find?_eq_none]
  constructor
  · intro none
    rintro ⟨value, name, member, same⟩
    exact none _ (List.mem_reverse.mpr member) ((named_iff lower).mpr same)
  · intro none entry member same
    exact none ⟨entry.2, entry.1, List.mem_reverse.mp member, (named_iff lower).mp same⟩

/-- Of names that are distinct up to case it does not matter which is the last. -/
theorem lastNamed_eq_some_iff (distinct : Distinct entries) :
    lastNamed lowerName entries = some value ↔ Gives entries setting value := by
  refine ⟨gives_of_lastNamed lower, fun gives => ?_⟩
  cases found : lastNamed lowerName entries with
  | none => exact absurd ⟨value, gives⟩ ((lastNamed_eq_none_iff lower).mp found)
  | some value' => rw [gives.unique distinct (gives_of_lastNamed lower found)]

end Lookup

/-! ## The text that counts -/

/-- The text that counts for a setting: that of the environment, else that of the file. An entry
of the file without a value gives none. -/
inductive Given (environment : Environment) (file : EnvFile.Values) (setting : String) :
    String → Prop
  | environment {text : String} : Gives environment setting text →
    Given environment file setting text
  | file {text : List Char} : (¬∃ text, Gives environment setting text) →
    Gives file setting (some text) → Given environment file setting (.ofList text)

variable {environment : Environment} {values : EnvFile.Values}

theorem givenText_eq_some_iff {setting lowerName text : String}
    (lower : (variableOf setting).toList.map lowerChar = lowerName.toList)
    (distinct : Distinct environment) (distinct' : Distinct values) :
    givenText environment values lowerName = some text ↔
      Given environment values setting text := by
  unfold givenText
  cases found : lastNamed lowerName environment with
  | some text' =>
    have gives := (lastNamed_eq_some_iff lower distinct).mp found
    constructor
    · intro same
      cases same
      exact .environment gives
    · intro given
      cases given with
      | environment gives' => rw [gives.unique distinct gives']
      | file silent => exact absurd ⟨text', gives⟩ silent
  | none =>
    have silent := (lastNamed_eq_none_iff lower).mp found
    dsimp only
    constructor
    · intro same
      rcases Option.map_eq_some_iff.mp same with ⟨text', last, rfl⟩
      rcases Option.bind_eq_some_iff.mp last with ⟨value, last, rfl⟩
      exact .file silent ((lastNamed_eq_some_iff lower distinct').mp last)
    · intro given
      cases given with
      | environment gives => exact absurd ⟨text, gives⟩ silent
      | file _ gives =>
        rw [(lastNamed_eq_some_iff lower distinct').mpr gives]
        rfl

/-! ## Truth values -/

/-- The words for a truth value. -/
def wordsFor : Bool → List String
  | true => ["1", "true", "t", "yes", "y", "on"]
  | false => ["0", "false", "f", "no", "n", "off"]

/-- A text that is a word for a truth value up to case, with nothing around it. -/
def Means (text : String) (value : Bool) : Prop :=
  ∃ word ∈ wordsFor value, UpToCase text word

/-- The sign for the unit kelvin, which is a letter up to case, occurs in no word for a truth
value: without `k` the case of ASCII letters is all there is. -/
theorem map_lowerChar_eq_iff {text word : List Char} (noLetter : 'k' ∉ word)
    (noSign : '\u212A' ∉ word) :
    text.map lowerChar = word ↔ text.map Char.toLower = word := by
  induction text generalizing word with
  | nil => rfl
  | cons c text ih =>
    cases word with
    | nil => simp
    | cons d word =>
      rw [List.mem_cons, not_or] at noLetter noSign
      have letter : lowerChar c = d ↔ c.toLower = d := by
        unfold lowerChar
        split
        case isTrue sign =>
          subst sign
          have kept : '\u212A'.toLower = '\u212A' := by decide
          rw [kept]
          exact ⟨fun same => absurd same noLetter.1, fun same => absurd same noSign.1⟩
        case isFalse => rfl
      rw [List.map_cons, List.map_cons, List.cons.injEq, List.cons.injEq, letter,
        ih noLetter.2 noSign.2]

theorem lowerText_eq_iff {text word : String} {value : Bool} (member : word ∈ wordsFor value) :
    String.ofList (text.toList.map Char.toLower) = word ↔ UpToCase text word := by
  have plain : ∀ value, ∀ word ∈ wordsFor value, word.toList.map lowerChar = word.toList ∧
      'k' ∉ word.toList ∧ '\u212A' ∉ word.toList := by
    decide
  rcases plain value word member with ⟨lower, noLetter, noSign⟩
  rw [UpToCase, lower, map_lowerChar_eq_iff noLetter noSign, ← String.toList_inj,
    String.toList_ofList]

theorem means_iff {text : String} {value : Bool} :
    Means text value ↔ String.ofList (text.toList.map Char.toLower) ∈ wordsFor value := by
  constructor
  · rintro ⟨word, member, same⟩
    rw [(lowerText_eq_iff member).mpr same]
    exact member
  · intro member
    exact ⟨_, member, (lowerText_eq_iff member).mp rfl⟩

theorem truthValue_eq_some_iff {text : String} {value : Bool} :
    truthValue? text = some value ↔ Means text value := by
  have apart : ∀ word ∈ falseTexts, word ∉ trueTexts := by decide
  rw [means_iff, truthValue?]
  generalize String.ofList (text.toList.map Char.toLower) = word
  simp only [List.contains_iff_mem]
  cases value with
  | true =>
    change _ ↔ word ∈ trueTexts
    split
    case isTrue member => exact ⟨fun _ => member, fun _ => rfl⟩
    case isFalse other =>
      refine ⟨fun same => ?_, fun member => absurd member other⟩
      split at same <;> cases same
  | false =>
    change _ ↔ word ∈ falseTexts
    split
    case isTrue member =>
      refine ⟨fun same => (by cases same), fun member' => absurd member (apart word member')⟩
    case isFalse =>
      split
      case isTrue member => exact ⟨fun _ => member, fun _ => rfl⟩
      case isFalse other => exact ⟨fun same => (by cases same), fun member => absurd member other⟩

theorem truthValue_eq_none_iff {text : String} :
    truthValue? text = none ↔ ¬∃ value, Means text value := by
  rw [Option.eq_none_iff_forall_ne_some, not_exists]
  exact forall_congr' fun value => not_congr truthValue_eq_some_iff

/-! ## Settings from the texts that count -/

theorem lower_debug : (variableOf "debug").toList.map lowerChar = "sawtooth_debug".toList := by
  decide

theorem lower_keyName :
    (variableOf "key_name").toList.map lowerChar = "sawtooth_key_name".toList := by
  decide

/-- The debug flag that the texts for it give: the truth value of the one that counts, and false
without one. -/
inductive DebugIs (environment : Environment) (file : EnvFile.Values) : Bool → Prop
  | said {text : String} {value : Bool} : Given environment file "debug" text → Means text value →
    DebugIs environment file value
  | unsaid : (¬∃ text, Given environment file "debug" text) → DebugIs environment file false

section Values

variable (distinct : Distinct environment) (distinct' : Distinct values)

include distinct distinct'

theorem ofValues_eq_error_iff {fault : SettingsFault} :
    ofValues environment values = .error fault ↔
      ∃ text, Given environment values "debug" text ∧ (¬∃ value, Means text value) ∧
        fault = .flag text := by
  simp only [← givenText_eq_some_iff lower_debug distinct distinct', ← truthValue_eq_none_iff]
  unfold ofValues
  dsimp only
  cases found : givenText environment values "sawtooth_debug" with
  | none => simp
  | some text =>
    cases read : truthValue? text with
    | none => simp [read, eq_comm]
    | some value => simp [read]

theorem debugIs_iff {debug : Bool} :
    DebugIs environment values debug ↔
      ((givenText environment values "sawtooth_debug").elim (some false) truthValue?) =
        some debug := by
  have counts (text : String) : givenText environment values "sawtooth_debug" = some text ↔
      Given environment values "debug" text :=
    givenText_eq_some_iff lower_debug distinct distinct'
  constructor
  · intro is
    cases is with
    | said given means =>
      rw [(counts _).mpr given]
      exact truthValue_eq_some_iff.mpr means
    | unsaid silent =>
      rw [Option.eq_none_iff_forall_ne_some.mpr fun text found => silent ⟨text, (counts _).mp found⟩]
      rfl
  · intro read
    cases found : givenText environment values "sawtooth_debug" with
    | some text =>
      rw [found] at read
      exact .said ((counts _).mp found) (truthValue_eq_some_iff.mp read)
    | none =>
      rw [found] at read
      cases read
      refine .unsaid ?_
      rintro ⟨text, given⟩
      cases found.symm.trans ((counts _).mpr given)

theorem ofValues_eq_ok_iff {settings : Settings} :
    ofValues environment values = .ok settings ↔
      (∀ text, settings.keyName = some text ↔ Given environment values "key_name" text) ∧
        DebugIs environment values settings.debug := by
  simp only [← givenText_eq_some_iff lower_keyName distinct distinct',
    debugIs_iff distinct distinct', ← Option.ext_iff]
  rcases settings with ⟨keyName, debug⟩
  unfold ofValues
  dsimp only
  cases found : givenText environment values "sawtooth_debug" with
  | none => simp [eq_comm]
  | some text =>
    cases read : truthValue? text with
    | none => simp [read]
    | some value => simp [read, eq_comm]

end Values

/-- The values that the settings file gives when it can be read and decodes: names with or without
a value, in which references are replaced. A file that is not there gives none. -/
def fileValues (host : Host) : Except SettingsFault EnvFile.Values :=
  (fileStatements host.disk).map fun statements =>
    EnvFile.evaluate host.environment (EnvFile.entries statements)

theorem result_read_of_fileValues {host : Host} (decoded : fileValues host = .ok values) :
    (read host).result = ofValues host.environment values := by
  rw [read]
  unfold fileValues at decoded
  cases found : fileStatements host.disk with
  | error fault =>
    rw [found] at decoded
    cases decoded
  | ok statements =>
    rw [found] at decoded
    cases decoded
    rfl

/-- A name under which a setting is given. -/
def Concerns (name : String) : Prop :=
  ∃ setting ∈ ["debug", "key_name"], UpToCase name (variableOf setting)

instance (name : String) : Decidable (Concerns name) :=
  inferInstanceAs (Decidable (∃ setting ∈ _, _))

/-- Lists with the same entries that concern a setting. -/
def AgreeOnSettings {α : Type} (entries entries' : List (String × α)) : Prop :=
  ∀ name value, Concerns name → ((name, value) ∈ entries ↔ (name, value) ∈ entries')

theorem AgreeOnSettings.gives_iff {α : Type} {entries entries' : List (String × α)}
    (agree : AgreeOnSettings entries entries') {setting : String}
    (known : setting ∈ ["debug", "key_name"]) (value : α) :
    Gives entries setting value ↔ Gives entries' setting value := by
  have member (name : String) (same : UpToCase name (variableOf setting)) :
      (name, value) ∈ entries ↔ (name, value) ∈ entries' := agree name value ⟨setting, known, same⟩
  constructor
  · rintro ⟨name, here, same⟩
    exact ⟨name, (member name same).mp here, same⟩
  · rintro ⟨name, there, same⟩
    exact ⟨name, (member name same).mpr there, same⟩

theorem AgreeOnSettings.symm {α : Type} {entries entries' : List (String × α)}
    (agree : AgreeOnSettings entries entries') : AgreeOnSettings entries' entries :=
  fun name value concerns => (agree name value concerns).symm

section Agree

variable {environment' : Environment} {values' : EnvFile.Values}

theorem Given.of_agree {setting text : String} (given : Given environment values setting text)
    (agree : AgreeOnSettings environment environment') (agree' : AgreeOnSettings values values')
    (known : setting ∈ ["debug", "key_name"]) : Given environment' values' setting text := by
  cases given with
  | environment gives => exact .environment ((agree.gives_iff known text).mp gives)
  | file silent gives =>
    refine .file ?_ ((agree'.gives_iff known _).mp gives)
    rintro ⟨text, gives⟩
    exact silent ⟨text, (agree.gives_iff known text).mpr gives⟩

/-- Entries that concern no setting do not matter, nor does the order of the others. -/
theorem ofValues_congr (distinct : Distinct environment) (distinct' : Distinct values)
    (distinctThere : Distinct environment') (distinctThere' : Distinct values')
    (agree : AgreeOnSettings environment environment') (agree' : AgreeOnSettings values values') :
    ofValues environment values = ofValues environment' values' := by
  have same {setting lowerName : String} (known : setting ∈ ["debug", "key_name"])
      (lower : (variableOf setting).toList.map lowerChar = lowerName.toList) :
      givenText environment values lowerName = givenText environment' values' lowerName := by
    ext text
    rw [givenText_eq_some_iff lower distinct distinct',
      givenText_eq_some_iff lower distinctThere distinctThere']
    exact ⟨fun given => given.of_agree agree agree' known,
      fun given => given.of_agree agree.symm agree'.symm known⟩
  unfold ofValues
  rw [same (by decide) lower_debug, same (by decide) lower_keyName]

end Agree

/-- Where the settings file decodes and neither the environment nor the file has two names that
are equal up to case, the settings are refused exactly when the text that counts for the debug
flag means no truth value, and refused for this text. Otherwise the debug flag is what the text
means, false without one, and the name of the key is the text that counts for it, if there is
one. A text of the environment that means no truth value is refused whatever the file gives. No
entry under another name matters, such as one that is named like the setting alone. -/
theorem settings_precedence {host : Host} (decoded : fileValues host = .ok values)
    (distinct : Distinct host.environment) (distinct' : Distinct values) :
    (∀ fault, (read host).result = .error fault ↔
      ∃ text, Given host.environment values "debug" text ∧ (¬∃ value, Means text value) ∧
        fault = .flag text) ∧
    (∀ settings, (read host).result = .ok settings ↔
      (∀ text, settings.keyName = some text ↔ Given host.environment values "key_name" text) ∧
        DebugIs host.environment values settings.debug) ∧
    (∀ text, Gives host.environment "debug" text → (¬∃ value, Means text value) →
      (read host).result = .error (.flag text)) ∧
    (∀ host' values', fileValues host' = .ok values' → Distinct host'.environment →
      Distinct values' → AgreeOnSettings host.environment host'.environment →
      AgreeOnSettings values values' → (read host').result = (read host).result) ∧
    ¬Concerns "debug" ∧ ¬Concerns "key_name" := by
  rw [result_read_of_fileValues decoded]
  refine ⟨fun fault => ofValues_eq_error_iff distinct distinct',
    fun settings => ofValues_eq_ok_iff distinct distinct', ?_, ?_, by decide, by decide⟩
  · intro text given meaningless
    exact (ofValues_eq_error_iff distinct distinct').mpr ⟨text, .environment given, meaningless, rfl⟩
  · intro host' values' decoded' distinctThere distinctThere' agree agree'
    rw [result_read_of_fileValues decoded']
    exact (ofValues_congr distinct distinct' distinctThere distinctThere' agree agree').symm

/-- What a file that holds a text gives. -/
theorem fileValues_of_text {host : Host} (text : String)
    (there : host.disk.entry file = .ok (.file (Utf8.encode text))) :
    fileValues host = .ok (EnvFile.evaluate host.environment (EnvFile.entries
      (EnvFile.statementsFrom 1 (EnvFile.plainLines (EnvFile.dropMark text.toList))))) := by
  unfold fileValues fileStatements
  rw [there]
  dsimp only
  unfold EnvFile.statements
  rw [Utf8.decode_encode]
  rfl

/-- The debug flag of the environment counts and that of the file does not; the name of the key
is taken from the file, and a variable that is named like the setting alone does not count. -/
theorem settings_precedence_environment_file :
    let content := Utf8.encode "SAWTOOTH_DEBUG=maybe\nSawtooth_Key_Name=bob\n"
    let host : Host := ⟨[("sawtooth_Debug", "oN"), ("KEY_NAME", "eve")], none, 0,
      Disk.ofAnswers [(file, .ok (.file content))]⟩
    let values : EnvFile.Values := [("SAWTOOTH_DEBUG", some "maybe".toList),
      ("Sawtooth_Key_Name", some "bob".toList)]
    fileValues host = .ok values ∧ Distinct host.environment ∧ Distinct values ∧
      (read host).result = .ok ⟨some "bob", true⟩ := by
  intro content host values
  have decoded : fileValues host = .ok values := by
    rw [fileValues_of_text "SAWTOOTH_DEBUG=maybe\nSawtooth_Key_Name=bob\n" rfl]
    refine congrArg Except.ok ?_
    decide +kernel
  have distinct : Distinct host.environment := by decide
  have distinct' : Distinct values := by decide
  have keyName : givenText host.environment values "sawtooth_key_name" = some "bob" := by decide
  have debug : Given host.environment values "debug" "oN" :=
    .environment ⟨"sawtooth_Debug", by decide, by decide⟩
  refine ⟨decoded, distinct, distinct', ?_⟩
  refine ((settings_precedence decoded distinct distinct').2.1 _).mpr
    ⟨fun text => ?_, .said debug ⟨"on", by decide, by decide⟩⟩
  rw [← givenText_eq_some_iff lower_keyName distinct distinct', keyName]

end Settings

end Keyring
