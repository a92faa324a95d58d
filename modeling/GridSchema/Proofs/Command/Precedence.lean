import GridSchema.Proofs.Command.Playground
import GridSchema.Proofs.Options.Argument
import GridSchema.Proofs.Snapshot.Confinement

/-! What a command for a snapshot runs with. A setting is taken from the raw arguments, else from the
command, else from the configuration. What is wrong with the settings is told before anything is
done. -/

namespace GridSchema

/-! ### Faults of configurations -/

/-- Whether an outcome can be no other error than a fault of the configuration. -/
def OnlyConfigFaults {α : Type} (outcome : Except Error α) : Prop :=
  ∀ e, outcome = .error e → ∃ fault, e = .config fault

theorem OnlyConfigFaults.bind {α β : Type} {first : Except Error α} {second : α → Except Error β}
    (one : OnlyConfigFaults first) (other : ∀ a, OnlyConfigFaults (second a)) :
    OnlyConfigFaults (first >>= second) := by
  intro e failed
  cases first with
  | error e' =>
    obtain rfl : e' = e := Except.error.inj failed
    exact one e' rfl
  | ok a => exact other a e failed

theorem onlyConfigFaults_refuseIf (condition : Bool) (fault : ConfigFault) :
    OnlyConfigFaults (refuseIf condition fault) := by
  intro e failed
  cases condition with
  | false => cases failed
  | true => exact ⟨fault, (Except.error.inj failed).symm⟩

theorem SnapshotOptions.onlyConfigFaults_validate (options : SnapshotOptions) :
    OnlyConfigFaults options.validate := by
  unfold validate
  refine (onlyConfigFaults_refuseIf _ _).bind fun _ => ?_
  refine (onlyConfigFaults_refuseIf _ _).bind fun _ => ?_
  refine (onlyConfigFaults_refuseIf _ _).bind fun _ => ?_
  exact onlyConfigFaults_refuseIf _ _

theorem Config.onlyConfigFaults_validate (config : Config) : OnlyConfigFaults config.validate := by
  unfold validate
  refine (onlyConfigFaults_refuseIf _ _).bind fun _ => ?_
  refine (onlyConfigFaults_refuseIf _ _).bind fun _ => ?_
  exact config.snapshot.onlyConfigFaults_validate

theorem Config.snapshot_of_validate {config : Config} (valid : config.validate = .ok ()) :
    config.snapshot.validate = .ok () := by
  simp only [validate, bind_eq_ok] at valid
  obtain ⟨_, -, _, -, accepted⟩ := valid
  exact accepted

namespace Command

/-! ### Settings -/

namespace SnapshotCommand

/-- What a command sets a property to, if it does. -/
def value? (command : SnapshotCommand) : Property → Option String
  | .name => command.name
  | .dir => command.dir

/-- Whether a configuration is what a command makes of another one. The last raw argument for a
property gives it its value; without one the command does, or else the configuration. Unknown types
are degraded if any of them asks for it. All caches are covered if a raw argument or the command asks
for that, or if the configuration does and the command names no caches; otherwise those are covered
that the command names, or those of the configuration if it names none. -/
structure Settles (command : SnapshotCommand) (config merged : Config) : Prop where
  raw : ∀ property value,
    LastGives (fun text given => (Argument.property property given).IsWritten text)
      command.raw value → merged.snapshot.value property = value
  option : ∀ property,
    (∀ text ∈ command.raw, ∀ given, ¬ (Argument.property property given).IsWritten text) →
    merged.snapshot.value property =
      (command.value? property).getD (config.snapshot.value property)
  degrade : merged.snapshot.degrade = true ↔ config.snapshot.degrade = true ∨
    command.degrade = true ∨ "-unsafe-type" ∈ command.raw ∨ "-ut" ∈ command.raw
  selection : merged.snapshot.selection =
    if "-full" ∈ command.raw ∨ command.full = true ∨
      command.caches = [] ∧ config.snapshot.full = true then .all
    else .only (if command.caches = [] then config.snapshot.caches else command.caches)
  addresses : merged.cluster.addresses =
    if command.addresses = [] then config.cluster.addresses else command.addresses
  user : merged.cluster.user = config.cluster.user

/-- Why a command is refused before anything is done: addresses beside a playground, a raw argument
that is not recognized, settings that are not accepted, or no cluster. -/
def Refused (command : SnapshotCommand) (merged : Config) : Prop :=
  (command.playground.isSome = true ∧ command.addresses ≠ []) ∨
  (∃ text ∈ command.raw, ¬ Argument.IsRecognized text) ∨
  merged.validate ≠ .ok () ∨
  (command.playground = none ∧ merged.cluster.addresses = [])

instance (command : SnapshotCommand) (merged : Config) : Decidable (command.Refused merged) :=
  inferInstanceAs (Decidable (_ ∨ _))

/-- The settings of a command whose raw arguments are all recognized. -/
def settings (command : SnapshotCommand) (config : Config) : Config where
  cluster := { config.cluster with
    addresses := if command.addresses.isEmpty then config.cluster.addresses else command.addresses }
  snapshot := (command.override config.snapshot).applyAll (command.raw.filterMap Argument.parse?)

variable (command : SnapshotCommand) (config : Config)

theorem value_override (options : SnapshotOptions) (property : Property) :
    (command.override options).value property =
      (command.value? property).getD (options.value property) := by
  cases property <;> rfl

theorem settles_settings : command.Settles config (command.settings config) := by
  refine ⟨?_, ?_, ?_, ?_, ?_, rfl⟩
  · intro property value last
    have found := property.lastWritten?_eq_some_iff.mpr last
    unfold settings
    rw [SnapshotOptions.value_applyAll, found, Option.getD_some]
  · intro property silent
    have missing := property.lastWritten?_eq_none_iff.mpr silent
    unfold settings
    rw [SnapshotOptions.value_applyAll, missing, Option.getD_none, value_override]
  · unfold settings
    rw [SnapshotOptions.degrade_applyAll_iff]
    simp [override, or_assoc]
  · have full : (command.settings config).snapshot.full = true ↔ "-full" ∈ command.raw ∨
        command.full = true ∨ command.caches = [] ∧ config.snapshot.full = true := by
      unfold settings
      rw [SnapshotOptions.full_applyAll_iff, or_comm]
      simp [override, and_comm]
    have caches : (command.settings config).snapshot.caches =
        if command.caches = [] then config.snapshot.caches else command.caches := by
      unfold settings
      rw [SnapshotOptions.applyAll_eq]
      simp [override]
    unfold SnapshotOptions.selection
    simp only [full, caches]
  · simp [settings]

/-- The settings are those of the raw arguments, the command and the configuration, unless the
command is refused before they are looked at. -/
theorem configure_eq : command.configure config =
    if command.playground.isSome && !command.addresses.isEmpty then
      .error (.config .addressOfPlayground)
    else match Argument.rejected? command.raw with
      | some text => .error (.config (.unknownArgument text))
      | none => (command.settings config).validate.map fun _ => command.settings config := by
  unfold configure
  cases both : command.playground.isSome && !command.addresses.isEmpty with
  | true => rfl
  | false =>
    rw [SnapshotOptions.applyArguments_eq]
    cases rejected : Argument.rejected? command.raw with
    | some text => rfl
    | none =>
      have all := Argument.accepted_eq_self (Argument.rejected?_eq_none_iff.mp rejected)
      have same : (⟨{ config.cluster with
            addresses :=
              if command.addresses.isEmpty then config.cluster.addresses else command.addresses },
          (command.override config.snapshot).applyAll (Argument.read command.raw)⟩ : Config) =
          command.settings config := by
        unfold settings Argument.read
        rw [all]
      simp only [same]
      cases (command.settings config).validate <;> rfl

/-- A command that is refused ends with a fault of the configuration, whatever the world, which it
leaves as it is. -/
theorem run_of_refused {command : SnapshotCommand} {config : Config}
    (refused : command.Refused (command.settings config)) :
    ∃ fault, ∀ world, command.run config world = (.error (.config fault), world) := by
  have told {fault : ConfigFault} (failed : command.configure config = .error (.config fault)) :
      ∃ fault, ∀ world, command.run config world = (.error (.config fault), world) := by
    refine ⟨fault, fun world => ?_⟩
    simp only [run, failed]
  have configured := command.configure_eq config
  split at configured
  · exact told configured
  next apart =>
    split at configured
    · exact told configured
    next all =>
      cases valid : (command.settings config).validate with
      | error e =>
        obtain ⟨fault, rfl⟩ := (command.settings config).onlyConfigFaults_validate e valid
        rw [valid] at configured
        exact told configured
      | ok done =>
        have known := Argument.rejected?_eq_none_iff.mp all
        obtain ⟨alone, missing⟩ : command.playground = none ∧
            (command.settings config).cluster.addresses = [] := by
          rcases refused with both | ⟨text, listed, unknown⟩ | invalid | nowhere
          · simp [both] at apart
          · exact absurd (known text listed) unknown
          · exact absurd valid invalid
          · exact nowhere
        rw [valid] at configured
        refine ⟨.noCluster, fun world => ?_⟩
        simp only [run, configured, Except.map, alone, snapshotCluster, missing, List.isEmpty_nil,
          if_true]

/-- One that is not refused is told nothing wrong about its settings. -/
theorem configure_of_not_refused {command : SnapshotCommand} {config : Config}
    (accepted : ¬ command.Refused (command.settings config)) :
    (command.settings config).validate = .ok () ∧
      command.configure config = .ok (command.settings config) := by
  unfold Refused at accepted
  simp only [not_or, not_not, not_exists, not_and] at accepted
  obtain ⟨apart, known, valid, -⟩ := accepted
  have rejected := Argument.rejected?_eq_none_iff.mpr known
  have first : (command.playground.isSome && !command.addresses.isEmpty) = false := by
    cases given : command.playground.isSome with
    | false => rfl
    | true => simp [apart given]
  refine ⟨valid, ?_⟩
  rw [configure_eq, first, rejected, valid]
  rfl

end SnapshotCommand

/-! ### Runs -/

/-- Whether a run for a client, with the directory, the name, the selection and the policy of some
options, ends like this. -/
def Runs (options : SnapshotOptions) (client : Nat) (world : World)
    (ending : Except Error Report × World) : Prop :=
  Snapshot.run ((Deployment.catalog client).beside Disk) options.degrade
    ⟨options.value .dir, stripExtension (options.value .name), options.selection⟩ world = ending

theorem runs_snapshotThrough (options : SnapshotOptions) (client : Nat) (world : World) :
    Runs options client world (snapshotThrough options client world) := by
  unfold Runs snapshotThrough
  rfl

/-- A run that is told the caches ends with a report of them, if the disk has a place for its
file. -/
theorem Runs.tells {options : SnapshotOptions} {client : Nat} {disk after : Disk}
    {deployment left : Deployment} {result : Except Error Report} {answers : List Snapshot.Answer}
    {place : String} (runs : Runs options client (disk, deployment) (result, after, left))
    (told : Snapshot.Told (Deployment.catalog client) options.degrade options.selection deployment
      answers)
    (there : (Snapshot.Request.ofOptions options).target disk = .ok place) :
    result = .ok (Snapshot.report place (.ofAnswers answers)) ∧
      after.bytesAt? place = some (Snapshot.contents answers) := by
  have ran : Snapshot.run ((Deployment.catalog client).beside Disk) options.degrade
      (.ofOptions options) (disk, deployment) = (result, after, left) := runs
  obtain ⟨reported, written⟩ := Snapshot.run_of_told (.ofOptions options) told
  have bytes := written place there
  rw [ran] at reported bytes
  rw [there] at reported
  exact ⟨reported, bytes⟩

/-- How a command ends that nothing is wrong with, step by step. Whatever fails before the run is
what the command ends with, and nothing is made on the disk then. The client of a cluster is closed
after the run, and the session of a playground after all that follows its opening. -/
inductive Performs (settings : Config) (disk : Disk) (deployment : Deployment) :
    Option String → Except Error Report × World → Prop
  | unreachable {e : Error} {left : Deployment}
      (connected : deployment.connect
        ⟨settings.cluster.addresses, settings.cluster.user.getD defaultUser⟩ = (.error e, left)) :
      Performs settings disk deployment none (.error e, disk, left)
  | cluster {client : Nat} {opened : Deployment}
      (connected : deployment.connect
        ⟨settings.cluster.addresses, settings.cluster.user.getD defaultUser⟩ = (.ok client, opened))
      {result : Except Error Report} {after : Disk} {left : Deployment}
      (runs : Runs settings.snapshot client (disk, opened) (result, after, left)) :
      Performs settings disk deployment none (result, after, left.closeClient client)
  | unreadable {path : String} {e : Error} (loaded : Seed.load disk path = .error e) :
      Performs settings disk deployment (some path) (.error e, disk, deployment)
  | unlaunched {path : String} {seed : Seed} (loaded : Seed.load disk path = .ok seed)
      {e : Error} {left : Deployment}
      (ends : (Session.new (settings.cluster.user.getD defaultUser)).launch deployment =
        (.error e, left)) :
      Performs settings disk deployment (some path) (.error e, disk, left)
  | unseeded {path : String} {seed : Seed} (loaded : Seed.load disk path = .ok seed)
      {launched : OpenSession} {opened : Deployment}
      (ends : (Session.new (settings.cluster.user.getD defaultUser)).launch deployment =
        (.ok launched, opened))
      {e : Error} {failed : Deployment}
      (created : Session.createAll launched.clientNumber seed.caches opened = (.error e, failed)) :
      Performs settings disk deployment (some path) (.error e, disk,
        (failed.closeClient launched.clientNumber).closeInstance launched.instanceNumber)
  | playground {path : String} {seed : Seed} (loaded : Seed.load disk path = .ok seed)
      {launched : OpenSession} {opened : Deployment}
      (ends : (Session.new (settings.cluster.user.getD defaultUser)).launch deployment =
        (.ok launched, opened))
      {seeded : Deployment}
      (created : Session.createAll launched.clientNumber seed.caches opened = (.ok (), seeded))
      {result : Except Error Report} {after : Disk} {left : Deployment}
      (runs : Runs settings.snapshot launched.clientNumber (disk, seeded) (result, after, left)) :
      Performs settings disk deployment (some path) (result, after,
        (left.closeClient launched.clientNumber).closeInstance launched.instanceNumber)

section Performs

variable {settings : Config} {disk : Disk} {deployment : Deployment}

theorem performs_snapshotCluster (given : settings.cluster.addresses ≠ []) :
    Performs settings disk deployment none (snapshotCluster settings (disk, deployment)) := by
  have somewhere : settings.cluster.addresses.isEmpty = false := by simpa using given
  cases connected : deployment.connect settings.cluster.client with | mk outcome opened
  cases outcome with
  | error e =>
    have ends : snapshotCluster settings (disk, deployment) = (.error e, disk, opened) := by
      simp [snapshotCluster, somewhere, connected]
    rw [ends]
    exact .unreachable connected
  | ok client =>
    have runs := runs_snapshotThrough settings.snapshot client (disk, opened)
    cases taken : snapshotThrough settings.snapshot client (disk, opened) with | mk result rest
    obtain ⟨after, left⟩ := rest
    rw [taken] at runs
    have ends : snapshotCluster settings (disk, deployment) =
        (result, after, left.closeClient client) := by
      simp [snapshotCluster, somewhere, connected, taken]
    rw [ends]
    exact .cluster connected runs

theorem performs_snapshotPlayground (path : String) :
    Performs settings disk deployment (some path)
      (snapshotPlayground settings path (disk, deployment)) := by
  cases loaded : Seed.load disk path with
  | error e =>
    have ends : snapshotPlayground settings path (disk, deployment) =
        (.error e, disk, deployment) := by
      simp only [snapshotPlayground, loaded]
    rw [ends]
    exact .unreadable loaded
  | ok seed =>
    cases launching : (Session.new settings.cluster.client.user).launch deployment with
      | mk outcome opened
    cases outcome with
    | error e =>
      rw [snapshotPlayground_of_unlaunched loaded launching]
      exact .unlaunched loaded launching
    | ok launched =>
      cases created : Session.createAll launched.clientNumber seed.caches opened with
        | mk outcome left
      cases outcome with
      | error e =>
        rw [snapshotPlayground_of_refused loaded launching created]
        exact .unseeded loaded launching created
      | ok _ =>
        rw [snapshotPlayground_of_created loaded launching created]
        exact .playground loaded launching created (runs_snapshotThrough settings.snapshot _ _)

theorem SnapshotCommand.performs_run {command : SnapshotCommand} {config : Config}
    (accepted : ¬ command.Refused (command.settings config)) (disk : Disk)
    (deployment : Deployment) :
    Performs (command.settings config) disk deployment command.playground
      (command.run config (disk, deployment)) := by
  obtain ⟨-, configured⟩ := configure_of_not_refused accepted
  cases given : command.playground with
  | none =>
    have somewhere : (command.settings config).cluster.addresses ≠ [] :=
      fun nowhere => accepted (.inr (.inr (.inr ⟨given, nowhere⟩)))
    simp only [run, configured, given]
    exact performs_snapshotCluster somewhere
  | some path =>
    simp only [run, configured, given]
    exact performs_snapshotPlayground path

/-- A report is of a file in the directory of the settings, whose name is made of theirs. -/
theorem Performs.of_report {playground : Option String} {report : Report} {left : World}
    (performs : Performs settings disk deployment playground (.ok report, left))
    (valid : settings.snapshot.validate = .ok ()) :
    ∃ name, Snapshot.IsSnapshotName (stripExtension (settings.snapshot.value .name)) name ∧
      report.path = Path.join (settings.snapshot.value .dir) name ∧ report.fileName = name := by
  have placed {client : Nat} {world : World} {ending : World} (same : world.1 = disk)
      (runs : Runs settings.snapshot client world (.ok report, ending)) :
      ∃ name, Snapshot.IsSnapshotName (stripExtension (settings.snapshot.value .name)) name ∧
        report.path = Path.join (settings.snapshot.value .dir) name ∧ report.fileName = name := by
    obtain ⟨plain, given⟩ := SnapshotOptions.of_validate valid
    obtain ⟨name, next⟩ := Snapshot.exists_isNext (disk.makeDirs settings.snapshot.dir).2 given plain
    subst same
    have made := Snapshot.fileName_of_run (Deployment.catalog client) settings.snapshot.degrade
      world.2 (.ofOptions settings.snapshot) next (congrArg Prod.fst runs)
    exact ⟨name, next.isSnapshotName, made⟩
  cases performs with
  | cluster _ runs => exact placed rfl runs
  | playground _ _ _ runs => exact placed rfl runs

end Performs

/-- A command line for a snapshot runs with the settings of its command, whatever the world is. If
the command is refused, the program ends with exit code 2 and leaves the disk, the instances and the
clients as they are. Otherwise it goes on with these settings as `Performs` says, and a file that it
reports is in the directory and has the name that they give. -/
theorem Invocation.run_follows_settings {invocation : Invocation} {command : SnapshotCommand}
    (asked : invocation.action = .snapshot command) {disk : Disk} {config : Config}
    (loaded : invocation.config disk = .ok config) :
    let merged := command.settings config
    command.Settles config merged ∧
      (command.Refused merged → ∃ e : Error, e.exitCode = 2 ∧
        ∀ deployment, invocation.run (disk, deployment) = (.error e, disk, deployment)) ∧
      (¬ command.Refused merged → ∀ deployment, ∃ result left,
        invocation.run (disk, deployment) = (result.map .reported, left) ∧
        Performs merged disk deployment command.playground (result, left) ∧
        ∀ report, result = .ok report → ∃ name,
          Snapshot.IsSnapshotName (stripExtension (merged.snapshot.value .name)) name ∧
            report.path = Path.join (merged.snapshot.value .dir) name ∧
            report.fileName = name) := by
  intro merged
  have ran (deployment : Deployment) : invocation.run (disk, deployment) =
      ((command.run config (disk, deployment)).1.map .reported,
        (command.run config (disk, deployment)).2) := by
    simp only [run, loaded, asked]
  refine ⟨command.settles_settings config, ?_, ?_⟩
  · intro refused
    obtain ⟨fault, ends⟩ := SnapshotCommand.run_of_refused refused
    refine ⟨.config fault, rfl, ?_⟩
    intro deployment
    rw [ran, ends]
    rfl
  · intro accepted deployment
    obtain ⟨valid, -⟩ := SnapshotCommand.configure_of_not_refused accepted
    have performs := SnapshotCommand.performs_run accepted disk deployment
    cases taken : command.run config (disk, deployment) with | mk result left
    rw [taken] at performs
    refine ⟨result, left, by rw [ran, taken], performs, ?_⟩
    rintro report rfl
    exact performs.of_report (Config.snapshot_of_validate valid)

def weeklyText : String :=
  "cluster:\n  addresses:\n  - 127.0.0.1:4000\nsnapshot:\n  dir: configured\n  name: weekly\n"

def weeklyConfig : Config :=
  ⟨⟨["127.0.0.1:4000"], none⟩, ⟨"configured", "weekly", false, true, []⟩⟩

theorem load_weekly : Config.load (seedDisk weeklyText) "seed" = .ok weeklyConfig := by
  unfold Config.load
  rw [text_seedDisk]
  decide +kernel

def dailyCommand (playground : Option String) (raw : List String) : SnapshotCommand :=
  ⟨[], some "asked", some "daily", false, false, ["odd"], playground, raw⟩

def nightlyRaw : List String := ["-flyway.snapshot.name=nightly", "-ut"]

def clusterInvocation (raw : List String) : Invocation :=
  ⟨some "seed", false, .snapshot (dailyCommand none raw)⟩

def playgroundInvocation : Invocation :=
  ⟨none, false, .snapshot (dailyCommand (some "seed") nightlyRaw)⟩

/-- A seed of a cache with a column of an unknown class, and of another cache. -/
def oddText : String :=
  "caches:\n- name: odd\n  query_entities:\n  - value_type: Row\n    key_field_name: id\n" ++
    "    fields:\n    - name: id\n      type: java.lang.Long\n    - name: tag\n      type: Odd\n" ++
    "- name: a\n"

def oddSeed : List CacheDefinition :=
  [Snapshot.oddCache, .bare "a"]

theorem read_oddSeed : Yaml.read? (Seed.read Yaml.reader) oddText = some ⟨oddSeed⟩ := by
  decide +kernel

def nightlyConfig : Config :=
  ⟨⟨[], none⟩, ⟨"asked", "nightly", true, false, ["odd"]⟩⟩

theorem target_nightly : (Snapshot.Request.ofOptions nightlyConfig.snapshot).target
    (seedDisk oddText) = .ok "asked/nightly.sql" := by
  have same : (seedDisk "").SameNames (seedDisk oddText) := ⟨rfl, rfl⟩
  rw [Snapshot.Request.target_of_sameNames _ same]
  decide +kernel

/-- On a machine without instances, a playground can be set up with the seed, and the run is for the
cache that is named. -/
theorem Performs.tells_odd {ending : Except Error Report × World}
    (performs : Performs nightlyConfig (seedDisk oddText) (.empty true) (some "seed") ending) :
    ∃ report after left, ending = (.ok report, after, left) ∧
      report.path = "asked/nightly.sql" ∧
      after.bytesAt? "asked/nightly.sql" = some
        ("CREATE TABLE IF NOT EXISTS ROW (\n    id BIGINT PRIMARY KEY,\n    tag OBJECT\n) " ++
          "WITH \"cache_name=odd\";\n").toUTF8.data.toList ∧
      report.dumped = ["odd"] ∧ report.skipped = [] ∧
      report.warnings = [⟨"ROW", "tag", "Odd"⟩] := by
  have loaded := load_seedDisk read_oddSeed
  obtain ⟨launched, opened, ends, fresh⟩ :=
    Session.launch_of_hasRoom Network.hasRoom_empty defaultUser []
  have distinct : (oddSeed.map (·.name)).Nodup := by decide
  have creatable : ∀ cache ∈ oddSeed, (Request.createCache cache).Fits := by
    simp only [Request.fits_iff]
    decide
  obtain ⟨network, created, holds⟩ := fresh.createAll distinct creatable
  obtain ⟨client, connected, known⟩ := fresh.known
  have tellable : (Registry.ofCaches oddSeed).Tellable (.only ["odd"]) := by
    refine ⟨nofun, ?_, ?_⟩
    · simp only [Request.fits_iff]
      decide
    · simp only [Response.fits_iff]
      decide
  have told := Deployment.told_of_holds connected known holds true tellable
  cases performs with
  | unreadable failed => cases loaded.symm.trans failed
  | unlaunched _ failed => cases ends.symm.trans failed
  | unseeded loaded' ends' failed =>
    cases loaded.symm.trans loaded'
    cases ends.symm.trans ends'
    cases created.symm.trans failed
  | @playground _ _ loaded' _ _ ends' _ created' result after left runs =>
    cases loaded.symm.trans loaded'
    cases ends.symm.trans ends'
    cases created.symm.trans created'
    obtain ⟨rfl, written⟩ := runs.tells told target_nightly
    refine ⟨_, after, _, rfl, rfl, ?_, ?_, ?_, ?_⟩
    · rw [written]
      decide +kernel
    · decide +kernel
    · decide +kernel
    · decide +kernel

/-- The address of the configuration leads to nobody on a machine without instances. -/
theorem connect_weekly : (Deployment.empty true).connect ⟨["127.0.0.1:4000"], defaultUser⟩ =
    (.error (.client (.unreachable [("127.0.0.1:4000", .connectionRefused)])), .empty true) := by
  rfl

theorem Invocation.run_follows_settings_daily :
    (dailyCommand none nightlyRaw).settings weeklyConfig =
      ⟨⟨["127.0.0.1:4000"], none⟩, ⟨"asked", "nightly", true, false, ["odd"]⟩⟩ ∧
    (clusterInvocation nightlyRaw).run (seedDisk weeklyText, .empty true) =
      (.error (.client (.unreachable [("127.0.0.1:4000", .connectionRefused)])),
        seedDisk weeklyText, .empty true) ∧
    (∃ e : Error, e.exitCode = 2 ∧ ∀ deployment,
      (clusterInvocation ["-ut", "-full=yes"]).run (seedDisk weeklyText, deployment) =
        (.error e, seedDisk weeklyText, deployment)) ∧
    ∃ report after left,
      playgroundInvocation.run (seedDisk oddText, .empty true) =
        (.ok (.reported report), after, left) ∧
      report.path = "asked/nightly.sql" ∧
      after.bytesAt? "asked/nightly.sql" = some
        ("CREATE TABLE IF NOT EXISTS ROW (\n    id BIGINT PRIMARY KEY,\n    tag OBJECT\n) " ++
          "WITH \"cache_name=odd\";\n").toUTF8.data.toList ∧
      report.dumped = ["odd"] ∧ report.skipped = [] ∧
      report.warnings = [⟨"ROW", "tag", "Odd"⟩] := by
  have nightly := run_follows_settings
    (show (clusterInvocation nightlyRaw).action = _ from rfl) load_weekly
  have misspelt := run_follows_settings
    (show (clusterInvocation ["-ut", "-full=yes"]).action = _ from rfl) load_weekly
  have played := run_follows_settings (show playgroundInvocation.action = _ from rfl)
    (show playgroundInvocation.config (seedDisk oddText) = _ from rfl)
  refine ⟨rfl, ?_, misspelt.2.1 (by decide), ?_⟩
  · obtain ⟨result, left, ran, performs, -⟩ := nightly.2.2 (by decide) (.empty true)
    rw [ran]
    cases performs with
    | unreachable connected =>
      cases connect_weekly.symm.trans connected
      rfl
    | cluster connected => cases connect_weekly.symm.trans connected
  · obtain ⟨result, left, ran, performs, -⟩ := played.2.2 (by decide) (.empty true)
    obtain ⟨report, after, left, same, told⟩ := Performs.tells_odd performs
    cases same
    exact ⟨report, after, left, ran, told⟩

end Command

end GridSchema
