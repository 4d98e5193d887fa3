import TokenAuthority.Proofs.Settings.Variables

/-!
# Settings that are read

Settings are accepted exactly if no variable is set to something that it cannot be, and then they
are described by the variables one by one. Otherwise the first such variable is reported.
-/

namespace TokenAuthority.Settings

variable {source other : String → Option String} {which : Variable} {settings again : Settings}

/-! ## Refusals -/

def Accepts : Variable → String → Prop
  | .host, value => ∃ address, IsAddress value address
  | .port, value => ∃ number, IsNumber Word.size16 value number
  | .requestTimeout, value => ∃ number, IsNumber Word.size64 value number ∧ number ≠ 0
  | .shutdownTimeout, value | .keyTimeout, value => ∃ number, IsNumber Word.size64 value number
  | _, _ => True

/-- A variable is set to something that it cannot be. -/
def Refused (source : String → Option String) (which : Variable) : Prop :=
  ∃ value, IsSet source which value ∧ ¬ Accepts which value

def checked : List Variable :=
  [.host, .port, .shutdownTimeout, .requestTimeout, .keyTimeout]

theorem mem_checked_of_refused (refused : Refused source which) : which ∈ checked := by
  rcases refused with ⟨value, _, unfit⟩
  cases which <;> first | decide | exact absurd trivial unfit

def IsFirst (bad : Variable → Prop) (among : List Variable) (which : Variable) : Prop :=
  ∃ before after, among = before ++ which :: after ∧ bad which ∧
    ∀ earlier ∈ before, ¬ bad earlier

theorem isFirst_cons_iff {bad : Variable → Prop} {first : Variable} {rest : List Variable} :
    IsFirst bad (first :: rest) which ↔
      which = first ∧ bad first ∨ ¬ bad first ∧ IsFirst bad rest which := by
  constructor
  · rintro ⟨before, after, whole, isBad, good⟩
    cases before with
    | nil =>
        cases whole
        exact .inl ⟨rfl, isBad⟩
    | cons earlier before =>
        cases whole
        rw [List.forall_mem_cons] at good
        exact .inr ⟨good.1, before, after, rfl, isBad, good.2⟩
  · rintro (⟨rfl, isBad⟩ | ⟨isGood, before, after, rfl, isBad, good⟩)
    · exact ⟨[], rest, rfl, isBad, nofun⟩
    · exact ⟨first :: before, after, rfl, isBad, List.forall_mem_cons.mpr ⟨isGood, good⟩⟩

theorem exists_isFirst {bad : Variable → Prop} {among : List Variable} (member : which ∈ among)
    (isBad : bad which) : ∃ first, IsFirst bad among first := by
  induction among with
  | nil => cases member
  | cons first rest ih =>
      by_cases isGood : bad first
      · exact ⟨first, isFirst_cons_iff.mpr (.inl ⟨rfl, isGood⟩)⟩
      · rcases List.mem_cons.mp member with rfl | later
        · exact absurd isBad isGood
        · rcases ih later with ⟨earliest, isFirst⟩
          exact ⟨earliest, isFirst_cons_iff.mpr (.inr ⟨isGood, isFirst⟩)⟩

/-! ## Variables that are read -/

structure Reads {Meaning : Type} (source : String → Option String) (which : Variable)
    (fallback : Meaning) (reads : String → Meaning → Prop)
    (outcome : Except SettingsError Meaning) : Prop where
  ok_iff : ∀ meaning, outcome = .ok meaning ↔ StandsFor source which fallback reads meaning
  error_iff : ∀ fault, outcome = .error fault ↔ fault = .invalid which ∧ Refused source which

section

variable {Meaning : Type} {fallback : Meaning} {reads : String → Meaning → Prop}
  {outcome : Except SettingsError Meaning}

theorem reads_of_read? {read? : String → Option Meaning}
    (isReader : ∀ value meaning, read? value = some meaning ↔ reads value meaning)
    (accepts : ∀ value, Accepts which value ↔ ∃ meaning, reads value meaning)
    (unset : value? source which = none → outcome = .ok fallback)
    (set : ∀ value, value? source which = some value →
      outcome = (read? value).elim (.error (.invalid which)) .ok) :
    Reads source which fallback reads outcome := by
  cases isValue : value? source which with
  | none =>
      have fine : ¬ Refused source which := by
        rintro ⟨value, isSet, _⟩
        cases isValue.symm.trans (value?_eq_some_iff.mpr isSet)
      rw [unset isValue]
      exact ⟨fun meaning => by rw [standsFor_of_none isValue, Except.ok.injEq, eq_comm],
        fun fault => by simp [fine]⟩
  | some value =>
      have refused : Refused source which ↔ read? value = none := by
        rw [Option.eq_none_iff_forall_ne_some]
        simp only [ne_eq, isReader, ← not_exists, ← accepts]
        constructor
        · rintro ⟨other, isSet, unfit⟩
          cases isValue.symm.trans (value?_eq_some_iff.mpr isSet)
          exact unfit
        · exact fun unfit => ⟨value, value?_eq_some_iff.mp isValue, unfit⟩
      refine ⟨fun meaning => ?_, fun fault => ?_⟩
      · rw [standsFor_of_some isValue, set value isValue, ← isReader]
        cases read? value <;> simp
      · rw [refused, set value isValue]
        cases read? value <;> simp [eq_comm]

end

theorem reads_number {limit unset : Nat}
    (accepts : ∀ value, Accepts which value ↔ ∃ number, IsNumber limit value number) :
    Reads source which unset (IsNumber limit) (number source which limit unset) := by
  refine reads_of_read? (fun _ _ => decimal?_trimChars_eq_some_iff) accepts ?_ ?_
  · intro isNone
    rw [number, isNone]
  · intro value isSome
    simp only [number, isSome]
    cases Text.decimal? limit (Text.trimChars value.toList) <;> rfl

theorem reads_address :
    Reads source .host (.short [0, 0, 0, 0]) IsAddress (address source) := by
  have anywhere : Net.Address.parse? "0.0.0.0".toList = some (.short [0, 0, 0, 0]) := by
    decide +kernel
  refine reads_of_read? (fun _ _ => Net.Address.parse?_eq_some_iff) (fun _ => Iff.rfl) ?_ ?_
  · intro isNone
    rw [address, isNone, Option.getD_none, anywhere]
  · intro value isSome
    rw [address, isSome, Option.getD_some]
    cases Net.Address.parse? value.toList <;> rfl

theorem reads_requestSeconds :
    Reads source .requestTimeout 10
      (fun value number => IsNumber Word.size64 value number ∧ number ≠ 0)
      (requestSeconds source) := by
  refine @reads_of_read? _ _ _ _ _ _ (fun value => (Text.decimal? Word.size64
    (Text.trimChars value.toList)).filter (· ≠ 0)) ?_ (fun _ => Iff.rfl) ?_ ?_
  · intro value number
    rw [Option.filter_eq_some_iff, decimal?_trimChars_eq_some_iff, decide_eq_true_eq]
  · intro isNone
    rw [requestSeconds, number, isNone]
    rfl
  · intro value isSome
    simp only [requestSeconds, number, isSome]
    cases Text.decimal? Word.size64 (Text.trimChars value.toList) with
    | none => rfl
    | some seconds => cases seconds <;> rfl

/-! ## Variables that are read in turn -/

/-- An outcome is a fault exactly if one of several variables is refused, and the fault names the
first one. -/
def Reports {Outcome : Type} (source : String → Option String) (among : List Variable)
    (outcome : Except SettingsError Outcome) : Prop :=
  ∀ fault, outcome = .error fault ↔
    ∃ which, fault = .invalid which ∧ IsFirst (Refused source) among which

section

variable {Meaning Outcome : Type} {fallback : Meaning} {reads : String → Meaning → Prop}
  {first : Except SettingsError Meaning} {next : Meaning → Except SettingsError Outcome}
  {among : List Variable}

theorem reports_ok (outcome : Outcome) : Reports source [] (.ok outcome) := by
  intro fault
  refine iff_of_false nofun ?_
  rintro ⟨which, _, before, after, whole, _⟩
  cases before <;> cases whole

theorem Reads.reports (isRead : Reads source which fallback reads first)
    (rest : ∀ meaning, Reports source among (next meaning)) :
    Reports source (which :: among) (first >>= next) := by
  intro fault
  simp only [isFirst_cons_iff]
  cases first with
  | error said =>
      rcases (isRead.error_iff said).mp rfl with ⟨rfl, refused⟩
      simp [bind, Except.bind, refused, eq_comm]
  | ok meaning =>
      -- What was read has no part in which of the others are refused.
      have fine : ¬ Refused source which := by
        intro refused
        cases (isRead.error_iff (.invalid which)).mpr ⟨rfl, refused⟩
      refine (rest meaning fault).trans ?_
      simp [fine]

theorem bind_eq_ok_iff {outcome : Outcome} :
    first >>= next = .ok outcome ↔ ∃ meaning, first = .ok meaning ∧ next meaning = .ok outcome := by
  cases first <;> simp [bind, Except.bind]

end

theorem reports_ofSource (source : String → Option String) :
    Reports source checked (ofSource source) := by
  refine reads_address.reports fun address => ?_
  refine (reads_number fun _ => Iff.rfl).reports fun port => ?_
  refine (reads_number fun _ => Iff.rfl).reports fun shutdownTimeout => ?_
  refine reads_requestSeconds.reports fun requestTimeout => ?_
  refine (reads_number fun _ => Iff.rfl).reports fun keyTimeout => ?_
  exact reports_ok _

theorem exists_ofSource_iff :
    (∃ settings, ofSource source = .ok settings) ↔ ∀ which, ¬ Refused source which := by
  constructor
  · rintro ⟨settings, accepted⟩ which refused
    rcases exists_isFirst (mem_checked_of_refused refused) refused with ⟨earliest, isFirst⟩
    cases accepted.symm.trans ((reports_ofSource source _).mpr ⟨earliest, rfl, isFirst⟩)
  · intro fine
    cases outcome : ofSource source with
    | ok settings => exact ⟨settings, rfl⟩
    | error fault =>
        rcases (reports_ofSource source fault).mp outcome with ⟨which, _, _, _, _, refused, _⟩
        exact absurd refused (fine which)

/-! ## Settings that variables describe -/

/-- The keys come from a service if one is set, and otherwise from a folder. -/
inductive KeysFrom (source : String → Option String) : KeySource → Prop
  | service {url : String} (isSet : IsSet source .keyService url) : KeysFrom source (.service url)
  | folder {path : String} (isUnset : IsUnset source .keyService)
      (isPath : StandsFor source .keysFolder "zarf/keys" Eq path) : KeysFrom source (.folder path)

theorem keysFrom_iff {keys : KeySource} :
    KeysFrom source keys ↔
      (match value? source .keyService with
        | some url => .service url
        | none => .folder ((value? source .keysFolder).getD "zarf/keys")) = keys := by
  cases isValue : value? source .keyService with
  | none =>
      have isUnset := value?_eq_none_iff.mp isValue
      constructor
      · intro comes
        cases comes with
        | service isSet => cases isValue.symm.trans (value?_eq_some_iff.mpr isSet)
        | folder _ isPath => rw [standsFor_eq_iff.mp isPath]
      · rintro rfl
        exact .folder isUnset (standsFor_eq_iff.mpr rfl)
  | some url =>
      constructor
      · intro comes
        cases comes with
        | service isSet =>
            cases isValue.symm.trans (value?_eq_some_iff.mpr isSet)
            rfl
        | folder isUnset => cases isValue.symm.trans (value?_eq_none_iff.mpr isUnset)
      · rintro rfl
        exact .service (value?_eq_some_iff.mp isValue)

structure Describes (source : String → Option String) (settings : Settings) : Prop where
  address : StandsFor source .host (.short [0, 0, 0, 0]) IsAddress settings.endpoint.address
  port : StandsFor source .port 6000 (IsNumber Word.size16) settings.endpoint.port
  scope : settings.endpoint.scope = 0
  keys : KeysFrom source settings.keys
  issuer : StandsFor source .issuer "service project" Eq settings.issuer
  policyFolder : StandsFor source .policyFolder none (fun path folder => folder = some path)
    settings.policyFolder
  shutdownTimeout : StandsFor source .shutdownTimeout 20 (IsNumber Word.size64)
    settings.shutdownTimeout
  requestTimeout : StandsFor source .requestTimeout 10
    (fun value seconds => IsNumber Word.size64 value seconds ∧ seconds ≠ 0) settings.requestTimeout
  keyTimeout : StandsFor source .keyTimeout 2000 (IsNumber Word.size64) settings.keyTimeout
  build : StandsFor source .build "development" Eq settings.build
  logsJson : StandsFor source .logFormat false
    (fun format isJson => isJson = true ↔ IsJsonWord format) settings.logsJson

theorem standsFor_policyFolder_iff {folder : Option String} :
    StandsFor source .policyFolder none (fun path folder => folder = some path) folder ↔
      value? source .policyFolder = folder := by
  cases isValue : value? source .policyFolder with
  | none => exact (standsFor_of_none isValue).trans eq_comm
  | some path => exact (standsFor_of_some isValue).trans eq_comm

theorem standsFor_logFormat_iff {isJson : Bool} :
    StandsFor source .logFormat false (fun format isJson => isJson = true ↔ IsJsonWord format)
        isJson ↔
      ((value? source .logFormat).any fun format =>
        format.toList.map lowerLetter == "json".toList) = isJson := by
  cases isValue : value? source .logFormat with
  | none => exact (standsFor_of_none isValue).trans eq_comm
  | some format =>
      rw [standsFor_of_some isValue, isJsonWord_iff, Option.any_some, ← Bool.eq_iff_iff, eq_comm]

theorem describes_iff : ofSource source = .ok settings ↔ Describes source settings := by
  simp only [ofSource, bind_eq_ok_iff, reads_address.ok_iff, reads_requestSeconds.ok_iff,
    (reads_number fun _ => Iff.rfl : Reads source .port _ _ _).ok_iff,
    (reads_number fun _ => Iff.rfl : Reads source .shutdownTimeout _ _ _).ok_iff,
    (reads_number fun _ => Iff.rfl : Reads source .keyTimeout _ _ _).ok_iff]
  constructor
  · rintro ⟨address, isAddress, port, isPort, shutdown, isShutdown, request, isRequest, key, isKey,
      ⟨rfl⟩⟩
    exact {
      address := isAddress
      port := isPort
      scope := rfl
      keys := keysFrom_iff.mpr rfl
      issuer := standsFor_eq_iff.mpr rfl
      policyFolder := standsFor_policyFolder_iff.mpr rfl
      shutdownTimeout := isShutdown
      requestTimeout := isRequest
      keyTimeout := isKey
      build := standsFor_eq_iff.mpr rfl
      logsJson := standsFor_logFormat_iff.mpr rfl }
  · intro described
    rcases settings with
      ⟨⟨address, port, scope⟩, keys, issuer, folder, shutdown, request, key, build, isJson⟩
    refine ⟨address, described.address, port, described.port, shutdown, described.shutdownTimeout,
      request, described.requestTimeout, key, described.keyTimeout, ?_⟩
    cases described.scope
    cases keysFrom_iff.mp described.keys
    cases standsFor_eq_iff.mp described.issuer
    cases standsFor_policyFolder_iff.mp described.policyFolder
    cases standsFor_eq_iff.mp described.build
    cases standsFor_logFormat_iff.mp described.logsJson
    rfl

/-! ## Settings from two sources -/

theorem KeysFrom.eq_of_alike {keys keysAgain : KeySource} (comes : KeysFrom source keys)
    (comesAgain : KeysFrom other keysAgain) (service : Alike source other .keyService)
    (folder : IsUnset source .keyService → Alike source other .keysFolder) : keys = keysAgain := by
  rw [keysFrom_iff] at comes comesAgain
  rw [← comes, ← comesAgain, ← service.value?_eq]
  cases isValue : value? source .keyService with
  | none => rw [(folder (value?_eq_none_iff.mp isValue)).value?_eq]
  | some url => rfl

/-- Settings from two sources have in common what comes from variables that are alike. -/
structure Matches (source other : String → Option String) (settings again : Settings) : Prop where
  address : Alike source other .host → settings.endpoint.address = again.endpoint.address
  port : Alike source other .port → settings.endpoint.port = again.endpoint.port
  scope : settings.endpoint.scope = again.endpoint.scope
  keys : Alike source other .keyService →
    (IsUnset source .keyService → Alike source other .keysFolder) → settings.keys = again.keys
  issuer : Alike source other .issuer → settings.issuer = again.issuer
  policyFolder : Alike source other .policyFolder → settings.policyFolder = again.policyFolder
  shutdownTimeout : Alike source other .shutdownTimeout →
    settings.shutdownTimeout = again.shutdownTimeout
  requestTimeout : Alike source other .requestTimeout →
    settings.requestTimeout = again.requestTimeout
  keyTimeout : Alike source other .keyTimeout → settings.keyTimeout = again.keyTimeout
  build : Alike source other .build → settings.build = again.build
  logsJson : Alike source other .logFormat → settings.logsJson = again.logsJson

theorem Describes.matches (described : Describes source settings)
    (describedAgain : Describes other again) : Matches source other settings again where
  address alike := described.address.eq_of_alike describedAgain.address alike IsAddress.unique
  port alike := described.port.eq_of_alike describedAgain.port alike IsNumber.unique
  scope := described.scope.trans describedAgain.scope.symm
  keys := described.keys.eq_of_alike describedAgain.keys
  issuer alike := described.issuer.eq_of_alike describedAgain.issuer alike
    fun _ _ _ one two => one.symm.trans two
  policyFolder alike := described.policyFolder.eq_of_alike describedAgain.policyFolder alike
    fun _ _ _ one two => one.trans two.symm
  shutdownTimeout alike := described.shutdownTimeout.eq_of_alike describedAgain.shutdownTimeout
    alike IsNumber.unique
  requestTimeout alike := described.requestTimeout.eq_of_alike describedAgain.requestTimeout alike
    fun value one two isOne isTwo => IsNumber.unique value one two isOne.1 isTwo.1
  keyTimeout alike := described.keyTimeout.eq_of_alike describedAgain.keyTimeout alike
    IsNumber.unique
  build alike := described.build.eq_of_alike describedAgain.build alike
    fun _ _ _ one two => one.symm.trans two
  logsJson alike := described.logsJson.eq_of_alike describedAgain.logsJson alike
    fun _ _ _ one two => Bool.eq_iff_iff.mpr (one.trans two.symm)

/-- Settings are accepted exactly if no variable is refused, and are then what the variables say,
each of them by itself. Otherwise the first variable that is refused is reported as invalid. -/
theorem ofSource_exact (source : String → Option String) :
    ((∃ settings, ofSource source = .ok settings) ↔ ∀ which, ¬ Refused source which) ∧
      (∀ fault, ofSource source = .error fault ↔
        ∃ which, fault = .invalid which ∧ IsFirst (Refused source) checked which) ∧
      (∀ settings, ofSource source = .ok settings ↔ Describes source settings) ∧
      ∀ other settings again, ofSource source = .ok settings → ofSource other = .ok again →
        Matches source other settings again := by
  refine ⟨exists_ofSource_iff, reports_ofSource source, fun settings => describes_iff, ?_⟩
  intro other settings again accepted acceptedAgain
  exact (describes_iff.mp accepted).matches (describes_iff.mp acceptedAgain)

def sampleSource (port folder : String) : String → Option String := fun name =>
  [("AUTH_HOST", "::1"), ("AUTH_PORT", port), ("AUTH_KEYS_DIR", folder),
    ("AUTH_KMS_URL", "https://kms.internal"), ("AUTH_ISSUER", " "),
    ("AUTH_REQUEST_TIMEOUT_SECS", "007"), ("LOG_FORMAT", "Json")].lookup name

def sampleSettings (port : Nat) : Settings where
  endpoint := { address := .long [0, 0, 0, 0, 0, 0, 0, 1], port }
  keys := .service "https://kms.internal"
  issuer := "service project"
  policyFolder := none
  shutdownTimeout := 20
  requestTimeout := 7
  keyTimeout := 2000
  build := "development"
  logsJson := true

theorem sampleSource_settings :
    ofSource (sampleSource " +08080\t" "/keys") = .ok (sampleSettings 8080) ∧
      ofSource (sampleSource "80" "  ") = .ok (sampleSettings 80) ∧
      Describes (sampleSource " +08080\t" "/keys") (sampleSettings 8080) ∧
      Matches (sampleSource " +08080\t" "/keys") (sampleSource "80" "  ") (sampleSettings 8080)
        (sampleSettings 80) ∧
      ofSource (sampleSource "65536" "/keys") = .error (.invalid .port) ∧
      IsFirst (Refused (sampleSource "65536" "/keys")) checked .port := by
  have accepted : ofSource (sampleSource " +08080\t" "/keys") = .ok (sampleSettings 8080) := by
    decide +kernel
  have acceptedAgain : ofSource (sampleSource "80" "  ") = .ok (sampleSettings 80) := by
    decide +kernel
  have reported : ofSource (sampleSource "65536" "/keys") = .error (.invalid .port) := by
    decide +kernel
  rcases ofSource_exact (sampleSource " +08080\t" "/keys") with ⟨_, _, describes, shares⟩
  rcases ofSource_exact (sampleSource "65536" "/keys") with ⟨_, reports, _, _⟩
  rcases (reports _).mp reported with ⟨_, ⟨rfl⟩, isFirst⟩
  exact ⟨accepted, acceptedAgain, (describes _).mp accepted,
    shares _ _ _ accepted acceptedAgain, reported, isFirst⟩

end TokenAuthority.Settings
