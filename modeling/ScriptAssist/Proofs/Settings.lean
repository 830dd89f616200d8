import ScriptAssist.Proofs.Command.Serving
import ScriptAssist.Proofs.Log
import ScriptAssist.Proofs.Text.Line

namespace ScriptAssist.Settings

attribute [ext] Settings

/-! ## What the sources say -/

/-- A variable that is set and not blank, and its text without the blanks around it. -/
def Speaks (environment : Environment) (name text : String) : Prop :=
  ∃ value, Pairs.get? name environment = some value ∧
    (∃ c ∈ value.toList, Text.isBlank c = false) ∧ Text.trimmed value = text

/-- A variable that is not set, or set to blanks. -/
def Silent (environment : Environment) (name : String) : Prop :=
  ∀ value, Pairs.get? name environment = some value → ∀ c ∈ value.toList, Text.isBlank c

/-- The settings that a configuration can make. -/
inductive Key where
  | level
  | file
  | source
  deriving DecidableEq, Repr

namespace Key

def sectionName : Key → String
  | level => "server"
  | file => "server"
  | source => "diagnostics"

def name : Key → String
  | level => "log_level"
  | file => "log_file"
  | source => "source"

/-- The type of value that a key calls for. -/
def accepts : Key → Toml.Value → Bool
  | level, .integer _ => true
  | _, .string _ => true
  | _, _ => false

/-- The value of a key in a configuration. There is none in a section that is no table. -/
def Holds (key : Key) (table : Toml.Table) (value : Toml.Value) : Prop :=
  ∃ entries, Pairs.get? key.sectionName table = some (.table entries) ∧
    Pairs.get? key.name entries = some value

/-- Two configurations with the same value at a key, as far as it is of the right type. -/
def Agrees (key : Key) (table other : Toml.Table) : Prop :=
  ∀ value, key.accepts value → (key.Holds table value ↔ key.Holds other value)

end Key

/-- What stands for a threshold: an integer for itself, a text for the one that it names. -/
inductive Stands : Toml.Value → Int → Prop where
  | integer (rank : Int) : Stands (.integer rank) rank
  | text {name : String} {rank : Int} : Log.Spells name rank → Stands (.string name) rank

section

variable (flags : Flags) (environment : Environment) (table : Toml.Table)

/-- The threshold that is asked for by the flag or, if there is none, by the variable or, if that is
silent, by the configuration. -/
inductive AsksLevel : Int → Prop where
  | fromFlag {name : String} {rank : Int} :
      flags.logLevel = some name → Log.Spells name rank → AsksLevel rank
  | fromVariable {text : String} {rank : Int} :
      flags.logLevel = none → Speaks environment levelVariable text → Log.Spells text rank →
      AsksLevel rank
  | fromKey {value : Toml.Value} {rank : Int} :
      flags.logLevel = none → Silent environment levelVariable → Key.level.Holds table value →
      Stands value rank → AsksLevel rank

/-- The log file that is named by the flag or, if there is none, by the variable or, if that is
silent, by a text in the configuration that is not empty. -/
inductive NamesFile : Path → Prop where
  | fromFlag {path : Path} : flags.logFile = some path → NamesFile path
  | fromVariable {text : String} :
      flags.logFile = none → Speaks environment fileVariable text → NamesFile (Path.read text)
  | fromKey {name : String} :
      flags.logFile = none → Silent environment fileVariable → Key.file.Holds table (.string name) →
      name ≠ "" → NamesFile (Path.read name)

/-- The tag in the configuration, with any blanks around it, unless it is blank altogether. -/
def Tags (tag : String) : Prop :=
  Key.source.Holds table (.string tag) ∧ ∃ c ∈ tag.toList, Text.isBlank c = false

/-- A flag that asks for a threshold which is not known. -/
def Refused : Prop := ∃ name, flags.logLevel = some name ∧ ∀ rank, ¬Log.Spells name rank

/-- Settings as the sources ask for them. A threshold that is not known is not looked for further
behind. -/
structure Settled (settings : Settings) : Prop where
  level : AsksLevel flags environment table settings.logLevel ∨
    (∀ rank, ¬AsksLevel flags environment table rank) ∧ settings.logLevel = Log.defaultThreshold
  file : ∀ path, settings.logFile = some path ↔ NamesFile flags environment table path
  source : Tags table settings.source ∨
    (∀ tag, ¬Tags table tag) ∧ settings.source = Engine.defaultSource

end

/-! ## What is taken from the sources -/

theorem trimmed_eq_empty_iff {value : String} :
    Text.trimmed value = "" ↔ ∀ c ∈ value.toList, Text.isBlank c := by
  rw [← Text.trim_eq_nil_iff, Text.trimmed]
  exact String.ofList_eq_empty_iff

theorem lookedUp?_eq_none_iff {environment : Environment} {name : String} :
    lookedUp? environment name = none ↔ Silent environment name := by
  rw [lookedUp?, Silent]
  cases set : Pairs.get? name environment with
  | none => simp [Text.trimmed]
  | some value => simp [trimmed_eq_empty_iff]

theorem lookedUp?_eq_some_iff {environment : Environment} {name text : String} :
    lookedUp? environment name = some text ↔ Speaks environment name text := by
  rw [lookedUp?, Speaks]
  cases set : Pairs.get? name environment with
  | none => simp [Text.trimmed]
  | some value => simp [trimmed_eq_empty_iff]

theorem get?_sectionOf {key : Key} {table : Toml.Table} {value : Toml.Value} :
    Pairs.get? key.name (sectionOf table key.sectionName) = some value ↔ key.Holds table value := by
  rw [sectionOf, Key.Holds]
  split
  · case h_1 entries found => simp [found]
  · case h_2 other =>
    refine iff_of_false (by simp [Pairs.get?]) ?_
    rintro ⟨entries, found, -⟩
    exact other entries found

theorem levelOf?_eq_some_iff {value : Toml.Value} {rank : Int} :
    levelOf? value = some rank ↔ Stands value rank := by
  constructor
  · intro asked
    cases value with
    | integer n =>
      obtain rfl : n = rank := by simpa [levelOf?] using asked
      exact .integer n
    | string name => exact .text (Log.named?_eq_some_iff.1 asked)
    | _ => cases asked
  · rintro (rank | spells)
    · rfl
    · exact Log.named?_eq_some_iff.2 spells

theorem fileOf?_eq_some_iff {value : Toml.Value} {name : String} :
    fileOf? value = some name ↔ value = .string name ∧ name ≠ "" := by
  cases value with
  | string text =>
    by_cases empty : text = ""
    · subst empty
      simp [fileOf?]
    · simp only [fileOf?, String.isEmpty_iff, empty, if_false, Option.some.injEq,
        Toml.Value.string.injEq]
      constructor
      · intro same
        exact ⟨same, same ▸ empty⟩
      · exact And.left
  | _ => simp [fileOf?]

theorem sourceOf?_eq_some_iff {value : Toml.Value} {tag : String} :
    sourceOf? value = some tag ↔
      value = .string tag ∧ ∃ c ∈ tag.toList, Text.isBlank c = false := by
  cases value with
  | string text =>
    simp only [sourceOf?, List.isEmpty_iff, Text.trim_eq_nil_iff, Toml.Value.string.injEq]
    split
    · case isTrue blank =>
      refine iff_of_false (by simp) ?_
      rintro ⟨rfl, c, hc, visible⟩
      simp [blank c hc] at visible
    · case isFalse visible =>
      have visible : ∃ c ∈ text.toList, Text.isBlank c = false := by simpa using visible
      constructor
      · intro same
        obtain rfl : text = tag := Option.some.inj same
        exact ⟨rfl, visible⟩
      · rintro ⟨rfl, -⟩
        rfl
  | _ => simp [sourceOf?]

section

variable {table : Toml.Table}

theorem configuredLevel_iff {rank : Int} :
    (Pairs.get? "log_level" (sectionOf table "server")).bind levelOf? = some rank ↔
      ∃ value, Key.level.Holds table value ∧ Stands value rank := by
  rw [Option.bind_eq_some_iff]
  constructor
  · rintro ⟨value, found, asked⟩
    exact ⟨value, get?_sectionOf.1 found, levelOf?_eq_some_iff.1 asked⟩
  · rintro ⟨value, holds, stands⟩
    exact ⟨value, get?_sectionOf.2 holds, levelOf?_eq_some_iff.2 stands⟩

theorem configuredFile_iff {name : String} :
    (Pairs.get? "log_file" (sectionOf table "server")).bind fileOf? = some name ↔
      Key.file.Holds table (.string name) ∧ name ≠ "" := by
  rw [Option.bind_eq_some_iff]
  constructor
  · rintro ⟨value, found, named⟩
    obtain ⟨rfl, nonempty⟩ := fileOf?_eq_some_iff.1 named
    exact ⟨get?_sectionOf.1 found, nonempty⟩
  · rintro ⟨holds, nonempty⟩
    exact ⟨_, get?_sectionOf.2 holds, fileOf?_eq_some_iff.2 ⟨rfl, nonempty⟩⟩

theorem configuredSource_iff {tag : String} :
    (Pairs.get? "source" (sectionOf table "diagnostics")).bind sourceOf? = some tag ↔
      Tags table tag := by
  rw [Option.bind_eq_some_iff]
  constructor
  · rintro ⟨value, found, tagged⟩
    obtain ⟨rfl, visible⟩ := sourceOf?_eq_some_iff.1 tagged
    exact ⟨get?_sectionOf.1 found, visible⟩
  · rintro ⟨holds, visible⟩
    exact ⟨_, get?_sectionOf.2 holds, sourceOf?_eq_some_iff.2 ⟨rfl, visible⟩⟩

end

/-- A field that is taken from an offer, or else from a default. -/
theorem getD_eq_iff {α : Type} {offer : Option α} {Offers : α → Prop}
    (h : ∀ value, offer = some value ↔ Offers value) (default value : α) :
    offer.getD default = value ↔ Offers value ∨ (∀ other, ¬Offers other) ∧ value = default := by
  cases offer with
  | none =>
    have none (other : α) : ¬Offers other := fun offers => by simpa using (h other).2 offers
    simp [none, eq_comm]
  | some found =>
    have offers : Offers found := (h found).1 rfl
    constructor
    · rintro rfl
      exact Or.inl offers
    · rintro (offered | ⟨none, -⟩)
      · exact Option.some.inj ((h value).2 offered)
      · exact absurd offers (none found)

theorem Speaks.unique {environment : Environment} {name text other : String}
    (h : Speaks environment name text) (h' : Speaks environment name other) : text = other := by
  rw [← lookedUp?_eq_some_iff] at h h'
  rw [h, Option.some.injEq] at h'
  exact h'

theorem Speaks.not_silent {environment : Environment} {name text : String}
    (h : Speaks environment name text) : ¬Silent environment name := by
  rw [← lookedUp?_eq_none_iff, lookedUp?_eq_some_iff.2 h]
  simp

section

variable {flags : Flags} {environment : Environment} {table : Toml.Table}

theorem asksLevel_flag {name : String} (given : flags.logLevel = some name) (rank : Int) :
    AsksLevel flags environment table rank ↔ Log.Spells name rank := by
  constructor
  · rintro (⟨given', spells⟩ | ⟨absent, -⟩ | ⟨absent, -⟩)
    · rw [given, Option.some.injEq] at given'
      rwa [given']
    · simp [given] at absent
    · simp [given] at absent
  · exact .fromFlag given

theorem asksLevel_variable (absent : flags.logLevel = none) {text : String}
    (speaks : Speaks environment levelVariable text) (rank : Int) :
    AsksLevel flags environment table rank ↔ Log.Spells text rank := by
  constructor
  · rintro (⟨given, -⟩ | ⟨-, speaks', spells⟩ | ⟨-, silent, -⟩)
    · simp [given] at absent
    · rwa [speaks.unique speaks']
    · exact absurd silent speaks.not_silent
  · exact .fromVariable absent speaks

theorem asksLevel_key (absent : flags.logLevel = none)
    (silent : Silent environment levelVariable) (rank : Int) :
    AsksLevel flags environment table rank ↔
      ∃ value, Key.level.Holds table value ∧ Stands value rank := by
  constructor
  · rintro (⟨given, -⟩ | ⟨-, speaks, -⟩ | ⟨-, -, holds, stands⟩)
    · simp [given] at absent
    · exact absurd silent speaks.not_silent
    · exact ⟨_, holds, stands⟩
  · rintro ⟨value, holds, stands⟩
    exact .fromKey absent silent holds stands

theorem namesFile_flag {path : Path} (given : flags.logFile = some path) (other : Path) :
    NamesFile flags environment table other ↔ path = other := by
  constructor
  · rintro (given' | ⟨absent, -⟩ | ⟨absent, -⟩)
    · rw [given, Option.some.injEq] at given'
      exact given'
    · simp [given] at absent
    · simp [given] at absent
  · rintro rfl
    exact .fromFlag given

theorem namesFile_variable (absent : flags.logFile = none) {text : String}
    (speaks : Speaks environment fileVariable text) (path : Path) :
    NamesFile flags environment table path ↔ Path.read text = path := by
  constructor
  · rintro (given | ⟨-, speaks'⟩ | ⟨-, silent, -⟩)
    · simp [given] at absent
    · rw [speaks.unique speaks']
    · exact absurd silent speaks.not_silent
  · rintro rfl
    exact .fromVariable absent speaks

theorem namesFile_key (absent : flags.logFile = none) (silent : Silent environment fileVariable)
    (path : Path) :
    NamesFile flags environment table path ↔
      ∃ name, Key.file.Holds table (.string name) ∧ name ≠ "" ∧ Path.read name = path := by
  constructor
  · rintro (given | ⟨-, speaks⟩ | ⟨-, -, holds, nonempty⟩)
    · simp [given] at absent
    · exact absurd silent speaks.not_silent
    · exact ⟨_, holds, nonempty, rfl⟩
  · rintro ⟨name, holds, nonempty, rfl⟩
    exact .fromKey absent silent holds nonempty

/-! ## What is settled -/

theorem withFlags_eq_none_iff {base : Settings} : base.withFlags flags = none ↔ Refused flags := by
  rw [withFlags, Refused]
  cases flags.logLevel with
  | none => simp
  | some name =>
    have unknown : Log.named? name = none ↔ ∀ rank, ¬Log.Spells name rank := by
      simp only [← Log.named?_eq_some_iff, Option.eq_none_iff_forall_ne_some]
    simp [unknown]

variable {settings : Settings}

theorem logLevel_iff (h : (resolve table environment).withFlags flags = some settings)
    (rank : Int) :
    settings.logLevel = rank ↔
      AsksLevel flags environment table rank ∨
        (∀ other, ¬AsksLevel flags environment table other) ∧ rank = Log.defaultThreshold := by
  rw [withFlags] at h
  cases given : flags.logLevel with
  | some name =>
    simp only [given] at h
    obtain ⟨level, named, rfl⟩ := Option.map_eq_some_iff.1 h
    have taken : level = (Log.named? name).getD Log.defaultThreshold := by rw [named]; rfl
    change level = rank ↔ _
    rw [taken]
    apply getD_eq_iff
    intro other
    rw [Log.named?_eq_some_iff, asksLevel_flag given]
  | none =>
    simp only [given, Option.some.injEq] at h
    subst h
    simp only [resolve]
    apply getD_eq_iff
    intro other
    cases said : lookedUp? environment levelVariable with
    | some text =>
      rw [asksLevel_variable given (lookedUp?_eq_some_iff.1 said)]
      exact Log.named?_eq_some_iff
    | none =>
      rw [asksLevel_key given (lookedUp?_eq_none_iff.1 said)]
      exact configuredLevel_iff

/-- A flag for the level has no say in the other fields. -/
theorem withFlags_others {base : Settings} (h : base.withFlags flags = some settings) :
    settings.logFile = flags.logFile.or base.logFile ∧ settings.source = base.source := by
  rw [withFlags] at h
  cases given : flags.logLevel with
  | some name =>
    simp only [given] at h
    obtain ⟨level, -, rfl⟩ := Option.map_eq_some_iff.1 h
    exact ⟨rfl, rfl⟩
  | none =>
    simp only [given, Option.some.injEq] at h
    subst h
    exact ⟨rfl, rfl⟩

theorem logFile_iff (h : (resolve table environment).withFlags flags = some settings)
    (path : Path) :
    settings.logFile = some path ↔ NamesFile flags environment table path := by
  rw [(withFlags_others h).1]
  cases given : flags.logFile with
  | some flag =>
    rw [namesFile_flag given]
    exact Option.some_inj
  | none =>
    rw [Option.none_or, resolve]
    cases said : lookedUp? environment fileVariable with
    | some text =>
      rw [namesFile_variable given (lookedUp?_eq_some_iff.1 said)]
      exact Option.some_inj
    | none =>
      rw [namesFile_key given (lookedUp?_eq_none_iff.1 said)]
      simp only [Option.map_eq_some_iff, configuredFile_iff, and_assoc]

theorem source_iff (h : (resolve table environment).withFlags flags = some settings)
    (tag : String) :
    settings.source = tag ↔
      Tags table tag ∨ (∀ other, ¬Tags table other) ∧ tag = Engine.defaultSource := by
  rw [(withFlags_others h).2, resolve]
  apply getD_eq_iff
  intro other
  exact configuredSource_iff

/-- The sources settle all there is: one outcome only is as they ask. -/
theorem withFlags_eq_some_iff :
    (resolve table environment).withFlags flags = some settings ↔
      ¬Refused flags ∧ Settled flags environment table settings := by
  constructor
  · intro h
    have accepted : ¬Refused flags := by
      intro refused
      rw [withFlags_eq_none_iff.2 refused] at h
      cases h
    exact ⟨accepted, (logLevel_iff h _).1 rfl, logFile_iff h, (source_iff h _).1 rfl⟩
  · rintro ⟨accepted, settled⟩
    cases h : (resolve table environment).withFlags flags with
    | none => exact absurd (withFlags_eq_none_iff.1 h) accepted
    | some found =>
      have file : found.logFile = settings.logFile := by
        apply Option.ext
        intro path
        rw [logFile_iff h, settled.file]
      congr 1
      exact Settings.ext ((logLevel_iff h _).2 settled.level) file
        ((source_iff h _).2 settled.source)

end

/-! ## What makes no difference -/

section

variable {flags other : Flags} {environment ambient : Environment} {table rest : Toml.Table}

theorem AsksLevel.congr (flag : flags.logLevel = other.logLevel)
    (set : Pairs.get? levelVariable environment = Pairs.get? levelVariable ambient)
    (agrees : Key.level.Agrees table rest) {rank : Int}
    (h : AsksLevel flags environment table rank) : AsksLevel other ambient rest rank := by
  cases h with
  | fromFlag given spells => exact .fromFlag (flag ▸ given) spells
  | fromVariable absent speaks spells =>
    rw [Speaks, set] at speaks
    exact .fromVariable (flag ▸ absent) speaks spells
  | @fromKey value rank absent silent holds stands =>
    rw [Silent, set] at silent
    have typed : Key.level.accepts value := by cases stands <;> rfl
    exact .fromKey (flag ▸ absent) silent ((agrees value typed).1 holds) stands

theorem NamesFile.congr (flag : flags.logFile = other.logFile)
    (set : Pairs.get? fileVariable environment = Pairs.get? fileVariable ambient)
    (agrees : Key.file.Agrees table rest) {path : Path}
    (h : NamesFile flags environment table path) : NamesFile other ambient rest path := by
  cases h with
  | fromFlag given => exact .fromFlag (flag ▸ given)
  | fromVariable absent speaks =>
    rw [Speaks, set] at speaks
    exact .fromVariable (flag ▸ absent) speaks
  | fromKey absent silent holds nonempty =>
    rw [Silent, set] at silent
    exact .fromKey (flag ▸ absent) silent ((agrees _ rfl).1 holds) nonempty

theorem Key.Agrees.symm {key : Key} (h : key.Agrees table rest) : key.Agrees rest table :=
  fun value typed => (h value typed).symm

/-- Each field is settled by its own flag, variable and key. -/
theorem settled_congr {settings settings' : Settings}
    (h : (resolve table environment).withFlags flags = some settings)
    (h' : (resolve rest ambient).withFlags other = some settings') :
    (flags.logLevel = other.logLevel →
      Pairs.get? levelVariable environment = Pairs.get? levelVariable ambient →
      Key.level.Agrees table rest → settings.logLevel = settings'.logLevel) ∧
    (flags.logFile = other.logFile →
      Pairs.get? fileVariable environment = Pairs.get? fileVariable ambient →
      Key.file.Agrees table rest → settings.logFile = settings'.logFile) ∧
    (Key.source.Agrees table rest → settings.source = settings'.source) := by
  refine ⟨?_, ?_, ?_⟩
  · intro flag set agrees
    have same (rank : Int) :
        AsksLevel other ambient rest rank ↔ AsksLevel flags environment table rank :=
      ⟨.congr flag.symm set.symm agrees.symm, .congr flag set agrees⟩
    rw [logLevel_iff h]
    simp only [← same]
    exact (logLevel_iff h' _).1 rfl
  · intro flag set agrees
    apply Option.ext
    intro path
    rw [logFile_iff h, logFile_iff h']
    exact ⟨.congr flag set agrees, .congr flag.symm set.symm agrees.symm⟩
  · intro agrees
    have same (tag : String) : Tags rest tag ↔ Tags table tag := by
      rw [Tags, Tags, agrees (.string tag) rfl]
    rw [source_iff h]
    simp only [← same]
    exact (source_iff h' _).1 rfl

/-- Only values of the right type in their sections have a say. -/
theorem resolve_congr (h : ∀ key : Key, key.Agrees table rest) :
    resolve table environment = resolve rest environment := by
  have alone (settings : Settings) : settings.withFlags {} = some settings := rfl
  obtain ⟨level, file, source⟩ :=
    settled_congr (alone (resolve table environment)) (alone (resolve rest environment))
  exact Settings.ext (level rfl rfl (h .level)) (file rfl rfl (h .file)) (source (h .source))

/-- A section that is no table holds as little as one that is missing. -/
theorem Key.agrees_erase {name : String} {value : Toml.Value}
    (found : Pairs.get? name table = some value) (wrong : ∀ entries, value ≠ .table entries)
    (key : Key) : key.Agrees table (Pairs.erase name table) := by
  intro asked _
  rw [Holds, Holds]
  by_cases same : key.sectionName = name
  · rw [same, found, Pairs.get?_erase_self]
    simp [wrong]
  · rw [Pairs.get?_erase_of_ne same]

/-- A value of the wrong type says as little as one that is missing. -/
theorem Key.agrees_erase_value {key : Key} {entries : Toml.Table} {value : Toml.Value}
    (inside : Pairs.get? key.sectionName table = some (.table entries))
    (found : Pairs.get? key.name entries = some value) (wrong : key.accepts value = false)
    (reader : Key) :
    reader.Agrees table
      (Pairs.put key.sectionName (.table (Pairs.erase key.name entries)) table) := by
  intro asked typed
  rw [Holds, Holds]
  by_cases section_eq : reader.sectionName = key.sectionName
  · rw [section_eq, inside, Pairs.get?_put_self]
    by_cases name_eq : reader.name = key.name
    · have same : reader = key := by cases reader <;> cases key <;> simp_all [name]
      subst same
      have other : value ≠ asked := by
        rintro rfl
        simp [wrong] at typed
      simp [found, other]
    · simp [Pairs.get?_erase_of_ne name_eq]
  · rw [Pairs.get?_put_of_ne section_eq]

end

/-- Settings follow one rule of precedence, field by field. They are refused exactly if a flag asks
for a threshold that is not known, and else they are the only ones that are as the sources ask. Each
field depends on its own flag, variable and key, a section or a value of the wrong type counts as
missing, and a server that starts has these settings. -/
theorem resolve_by_precedence (table : Toml.Table) (environment : Environment) (flags : Flags) :
    let result := (resolve table environment).withFlags flags
    (result = none ↔ Refused flags) ∧
    (∀ settings,
      result = some settings ↔ ¬Refused flags ∧ Settled flags environment table settings) ∧
    (∀ rest ambient other settings settings', result = some settings →
      (resolve rest ambient).withFlags other = some settings' →
      (flags.logLevel = other.logLevel →
        Pairs.get? levelVariable environment = Pairs.get? levelVariable ambient →
        Key.level.Agrees table rest → settings.logLevel = settings'.logLevel) ∧
      (flags.logFile = other.logFile →
        Pairs.get? fileVariable environment = Pairs.get? fileVariable ambient →
        Key.file.Agrees table rest → settings.logFile = settings'.logFile) ∧
      (Key.source.Agrees table rest → settings.source = settings'.source)) ∧
    (∀ name value, Pairs.get? name table = some value → (∀ entries, value ≠ .table entries) →
      resolve table environment = resolve (Pairs.erase name table) environment) ∧
    (∀ (key : Key) entries value, Pairs.get? key.sectionName table = some (.table entries) →
      Pairs.get? key.name entries = some value → key.accepts value = false →
      resolve table environment =
        resolve (Pairs.put key.sectionName (.table (Pairs.erase key.name entries)) table)
          environment) ∧
    ∀ (world : Command.World) config events, world.environment = environment →
      configuration (world.files (config.getD (Path.read configName))).asConfiguration =
        .ok (table, events) →
      ∀ tcp host port,
        let command : Command := .serve tcp host port flags.logLevel flags.logFile config
        ((command.run world).ending = .usage ↔ Refused flags) ∧
        ∀ served, (command.run world).served = some served →
          ∃ settings, result = some settings ∧
            served.settings = { settings with logFile := settings.logFile.map Path.collapse } := by
  intro result
  refine ⟨withFlags_eq_none_iff, fun settings => withFlags_eq_some_iff, ?_, ?_, ?_, ?_⟩
  · intro rest ambient other settings settings' h h'
    exact settled_congr h h'
  · intro name value found wrong
    exact resolve_congr (Key.agrees_erase found wrong)
  · intro key entries value inside found wrong
    exact resolve_congr (Key.agrees_erase_value inside found wrong)
  · intro world config events same parsed tcp host port command
    have configured : Command.configure world config = .ok (resolve table environment, events) := by
      rw [Command.configure, parsed, same]
    obtain ⟨usage, served⟩ := Command.runServe_settled configured
      (if tcp then some (host, port) else none) ⟨flags.logLevel, flags.logFile⟩
    exact ⟨usage.trans withFlags_eq_none_iff, served⟩

/-- A variable with a level that is not known, a file that is no text and a tag in a section that is
no table. -/
theorem resolve_by_precedence_mixed :
    let server : Toml.Table := [("log_level", .string "debug"), ("log_file", .boolean true)]
    let table : Toml.Table := [("diagnostics", .integer 1), ("server", .table server)]
    let loud : Environment := [(levelVariable, " loud "), (fileVariable, " \t")]
    let silent : Environment := [(fileVariable, " \t")]
    let world : Command.World := ⟨fun _ => .missing, loud, Completion.Tables.ofLists [] []⟩
    let serve (level : String) : Command := .serve false "" 0 (some level) none none
    Settled {} loud table ⟨30, none, "ex"⟩ ∧
    (∃ settings, (resolve (Pairs.erase "diagnostics" table) silent).withFlags {} = some settings ∧
      settings.logLevel = 10 ∧ none = settings.logFile ∧ "ex" = settings.source) ∧
    resolve table loud = resolve (Pairs.erase "diagnostics" table) loud ∧
    resolve table loud =
      resolve (Pairs.put "server" (.table (Pairs.erase "log_file" server)) table) loud ∧
    ((serve "loud").run world).ending = .usage ∧
    ∃ served, ((serve " Debug").run world).served = some served ∧
      served.settings = ⟨10, none, "ex"⟩ := by
  intro server table loud silent world serve
  have resolved : (resolve table loud).withFlags {} = some ⟨30, none, "ex"⟩ := by decide +kernel
  have untabled (entries : Toml.Table) : Toml.Value.integer 1 ≠ .table entries := nofun
  obtain ⟨-, found, alone, sections, values, -⟩ := resolve_by_precedence table loud {}
  refine ⟨((found _).1 resolved).2, ?_, sections "diagnostics" _ rfl untabled,
    values .file server _ rfl rfl rfl, ?_, ?_⟩
  · have other : (resolve (Pairs.erase "diagnostics" table) silent).withFlags {} =
        some ⟨10, none, "ex"⟩ := by decide +kernel
    have agrees := Key.agrees_erase (show Pairs.get? "diagnostics" table = _ from rfl) untabled
    obtain ⟨-, file, source⟩ := alone _ _ _ _ _ resolved other
    exact ⟨_, other, rfl, file rfl rfl (agrees .file), source (agrees .source)⟩
  · obtain ⟨refused, -, -, -, -, serves⟩ :=
      resolve_by_precedence [] loud { logLevel := some "loud" }
    exact (serves world none [] rfl rfl false "" 0).1.2 (refused.1 (by decide +kernel))
  · have started : ((serve " Debug").run world).served = some ⟨none, ⟨10, none, "ex"⟩⟩ := by
      decide +kernel
    obtain ⟨-, -, -, -, -, serves⟩ := resolve_by_precedence [] loud { logLevel := some " Debug" }
    obtain ⟨settings, flagged, same⟩ := (serves world none [] rfl rfl false "" 0).2 _ started
    have settled : (resolve [] loud).withFlags { logLevel := some " Debug" } =
        some ⟨10, none, "ex"⟩ := by decide +kernel
    rw [settled] at flagged
    obtain rfl := Option.some.inj flagged
    exact ⟨_, started, same⟩

end ScriptAssist.Settings
