import GridSchema.Command.Run
import GridSchema.Proofs.Session.Seeding
import GridSchema.Proofs.Snapshot.Target

/-! Snapshots of a playground, an instance that holds nothing but the caches of a seed. The order of
the seed does not matter to them, and a seed that has a name twice is refused before anything is
made on the disk. -/

namespace GridSchema

/-! ### What an instance tells a run -/

def Selection.namesIn (registry : Registry) : Selection → List String
  | .all => registry.names
  | .only names => names

def Registry.fixedAnswers (registry : Registry) : FixedAnswers :=
  ⟨.ok registry.names, registry.definition⟩

/-- What a run makes of the caches of a registry. -/
def Registry.told (registry : Registry) (degrade : Bool) (selection : Selection) :
    List Snapshot.Answer :=
  Snapshot.answersTo registry.fixedAnswers degrade (selection.namesIn registry)

/-- Whether what a run asks an instance with a registry, and is answered, is within the limit. -/
structure Registry.Tellable (registry : Registry) (selection : Selection) : Prop where
  listed : selection = .all → (Response.cacheNames registry.names).Fits
  asked : ∀ name ∈ selection.namesIn registry, (Request.cacheConfiguration name).Fits
  answered : ∀ name ∈ selection.namesIn registry,
    (registry.answer (.cacheConfiguration name)).Fits

namespace Deployment

variable {number : Nat} {client : ThinClient Connection} (connected : client.ConnectedTo number)
  {clients : List (ThinClient Connection)} {clientNumber : Nat}
  (known : clients[clientNumber]? = some client)
  {network : Network} {registry : Registry} (holds : network.Holds number registry)
include connected known holds

theorem interview_of_holds (degrade : Bool) {names : List String}
    (asked : ∀ name ∈ names, (Request.cacheConfiguration name).Fits)
    (answered : ∀ name ∈ names, (registry.answer (.cacheConfiguration name)).Fits) :
    Snapshot.interview (catalog clientNumber) degrade names ⟨network, clients⟩ =
      (Snapshot.answersTo registry.fixedAnswers degrade names, ⟨network, clients⟩) := by
  induction names with
  | nil => rfl
  | cons name names ih =>
    have rest := ih (fun other mem => asked other (List.mem_cons_of_mem name mem))
      fun other mem => answered other (List.mem_cons_of_mem name mem)
    have same := holds.registryOf_eq
    have first := answered name List.mem_cons_self
    rw [← same] at first
    have told := connected.definition holds.isOpen (asked name List.mem_cons_self) first
    have called : (catalog clientNumber).definition name ⟨network, clients⟩ =
        (registry.definition name, ⟨network, clients⟩) := by
      rw [same] at told
      exact call_of_known known told
    simp only [Snapshot.interview, Snapshot.mapCache, called, rest]
    rfl

/-- A run over a client of the instance is told what is in the registry. -/
theorem told_of_holds (degrade : Bool) {selection : Selection}
    (tellable : registry.Tellable selection) :
    Snapshot.Told (catalog clientNumber) degrade selection ⟨network, clients⟩
      (registry.told degrade selection) := by
  have interviewed := interview_of_holds connected known holds degrade tellable.asked
    tellable.answered
  refine ⟨selection.namesIn registry, ⟨network, clients⟩, ⟨network, clients⟩, ?_, interviewed⟩
  cases selection with
  | only names => rfl
  | all =>
    have listed := tellable.listed rfl
    have same := holds.registryOf_eq
    rw [← same] at listed
    have told := connected.names holds.isOpen listed
    rw [same] at told
    exact call_of_known known told

end Deployment

namespace Registry

variable {caches : List CacheDefinition}

theorem named_ofCaches (distinct : (caches.map (·.name)).Nodup) : (ofCaches caches).Named := by
  intro e mem
  have listed := (entries_ofCaches_perm distinct).mem_iff.mp mem
  obtain ⟨cache, -, rfl⟩ := List.mem_map.mp listed
  rfl

variable {registry : Registry} (named : registry.Named)
include named

theorem names_values : registry.values.map (·.name) = registry.names := by
  unfold NameMap.values NameMap.names
  rw [List.map_map]
  exact List.map_congr_left fun e mem => named e mem

/-- A run over all caches is told of each cache in turn. -/
theorem told_all (degrade : Bool) :
    registry.told degrade .all =
      registry.values.map fun cache => (cache.name, cache.table degrade) := by
  unfold told Snapshot.answersTo Selection.namesIn NameMap.names NameMap.values
  rw [List.map_map, List.map_map]
  refine List.map_congr_left ?_
  rintro ⟨name, cache⟩ mem
  have found := NameMap.find?_of_mem mem
  obtain rfl : cache.name = name := named _ mem
  have answer : registry.fixedAnswers.mapped degrade cache.name = cache.table degrade := by
    unfold FixedAnswers.mapped fixedAnswers
    simp only [definition, found]
    rfl
  exact Prod.ext rfl answer

end Registry

/-! ### Playgrounds -/

namespace Command

variable {config : Config} {disk disk' : Disk} {path path' : String}
  {caches caches' : List CacheDefinition} {deployment deployment' : Deployment}

/-- Once a session was given its caches, the snapshot is made through its client. -/
theorem snapshotSession_of_seed (options : SnapshotOptions) {session session' : Session}
    (seeded : session.seed caches deployment = (.ok (), session', deployment')) {client : Nat}
    (has : session'.clientNumber = some client) (disk : Disk) :
    snapshotSession options caches session (disk, deployment) =
      ((snapshotThrough options client (disk, deployment')).1, session',
        (snapshotThrough options client (disk, deployment')).2) := by
  simp only [snapshotSession, seeded, Session.ensureOpen_of_client has]

section launched

variable (loaded : Seed.load disk path = .ok ⟨caches⟩)
include loaded

/-- If no instance can be started or reached, there is no snapshot and nothing is made on the
disk. -/
theorem snapshotPlayground_of_unlaunched {e : Error} {left : Deployment}
    (ends : (Session.new config.cluster.client.user).launch deployment = (.error e, left)) :
    snapshotPlayground config path (disk, deployment) = (.error e, disk, left) := by
  have refused := Session.ensureOpen_of_error rfl ends
  simp only [snapshotPlayground, loaded, snapshotSession, Session.seed, refused]
  rfl

variable {launched : OpenSession} {opened : Deployment}
  (ends : (Session.new config.cluster.client.user).launch deployment = (.ok launched, opened))
include ends

/-- Once the caches of the seed are created, a run over the client of the session makes the
snapshot. Then the client and the instance are closed. -/
theorem snapshotPlayground_of_created {seeded : Deployment}
    (created : Session.createAll launched.clientNumber caches opened = (.ok (), seeded)) :
    let (report, after, left) :=
      snapshotThrough config.snapshot launched.clientNumber (disk, seeded)
    snapshotPlayground config path (disk, deployment) = (report, after,
      (left.closeClient launched.clientNumber).closeInstance launched.instanceNumber) := by
  have ran := snapshotSession_of_seed config.snapshot (Session.seed_of_launch rfl rfl ends created)
    rfl disk
  simp only [snapshotPlayground, loaded, ran]
  rfl

/-- If a cache of the seed cannot be created, there is no snapshot and nothing is made on the
disk. -/
theorem snapshotPlayground_of_refused {failed : Deployment} {e : Error}
    (refused : Session.createAll launched.clientNumber caches opened = (.error e, failed)) :
    snapshotPlayground config path (disk, deployment) = (.error e, disk,
      (failed.closeClient launched.clientNumber).closeInstance launched.instanceNumber) := by
  have seed := Session.seed_of_launch rfl rfl ends refused
  simp only [snapshotPlayground, loaded, snapshotSession, seed]
  rfl

end launched

section seed

variable (loaded : Seed.load disk path = .ok ⟨caches⟩) (room : deployment.network.HasRoom)
include loaded room

/-- If a name comes twice, the first cache whose name was there before is refused. -/
theorem snapshotPlayground_of_repeated {front back : List CacheDefinition} {cache : CacheDefinition}
    (split : caches = front ++ cache :: back) (distinct : (front.map (·.name)).Nodup)
    (again : cache.name ∈ front.map (·.name))
    (fit : ∀ other ∈ front ++ [cache], (Request.createCache other).Fits) :
    ∃ closed, snapshotPlayground config path (disk, deployment) =
      (.error (.cacheExists cache.name), disk, closed) := by
  subst split
  obtain ⟨launched, opened, ends, fresh⟩ :=
    Session.launch_of_hasRoom room config.cluster.client.user deployment.clients
  obtain ⟨failed, refused, -⟩ := fresh.createAll_repeated distinct again fit back
  exact ⟨_, snapshotPlayground_of_refused loaded ends refused⟩

variable (distinct : (caches.map (·.name)).Nodup)
  (creatable : ∀ cache ∈ caches, (Request.createCache cache).Fits)
  (tellable : (Registry.ofCaches caches).Tellable config.snapshot.selection)
include distinct creatable tellable

/-- A playground snapshot of caches with names of their own tells of these and no others, if the
disk has a place for its file. All that is left of the order of the seed is in the registry, where
the order is that of the names. -/
theorem snapshotPlayground_of_distinct {result : Except Error Report} {after : Disk}
    {left : Deployment}
    (ran : snapshotPlayground config path (disk, deployment) = (result, after, left)) :
    let target := (Snapshot.Request.ofOptions config.snapshot).target disk
    let answers := (Registry.ofCaches caches).told config.snapshot.degrade config.snapshot.selection
    result = target.map (fun path => Snapshot.report path (.ofAnswers answers)) ∧
      ∀ place, target = .ok place → after.bytesAt? place = some (Snapshot.contents answers) := by
  obtain ⟨launched, opened, ends, fresh⟩ :=
    Session.launch_of_hasRoom room config.cluster.client.user deployment.clients
  obtain ⟨network, created, holds⟩ := fresh.createAll distinct creatable
  obtain ⟨client, connected, known⟩ := fresh.known
  have told := Deployment.told_of_holds connected known holds config.snapshot.degrade tellable
  have same := snapshotPlayground_of_created loaded ends created
  rw [ran] at same
  cases same
  exact Snapshot.run_of_told (.ofOptions config.snapshot) told

end seed

/-- What a report and its file tell, if they are of all caches: each is dumped or skipped, in
increasing order of the names. -/
structure TellsAll (caches : List CacheDefinition) (degrade : Bool) (report : Report)
    (file : Bytes) : Prop where
  sorted : ∃ sorted : List CacheDefinition, sorted.Perm caches ∧
    (sorted.map (·.name)).Pairwise (· < ·) ∧
    Snapshot.Tells (sorted.map fun cache => (cache.name, cache.table degrade)) report file
  all : (report.dumped ++ report.skippedNames).Perm (caches.map (·.name))
  dumped : report.dumped.Pairwise (· < ·)
  skipped : report.skippedNames.Pairwise (· < ·)

theorem tellsAll_of_tells {degrade : Bool} {report : Report} {file : Bytes}
    (distinct : (caches.map (·.name)).Nodup)
    (tells : Snapshot.Tells ((Registry.ofCaches caches).told degrade .all) report file) :
    TellsAll caches degrade report file := by
  have named := Registry.named_ofCaches distinct
  have perm := Registry.values_ofCaches_perm distinct
  have names := Registry.names_values named
  have increasing := (Registry.ofCaches caches).names_increasing
  rw [Registry.told_all named] at tells
  have asked : ((Registry.ofCaches caches).values.map fun cache =>
      (cache.name, cache.table degrade)).map Prod.fst = (Registry.ofCaches caches).names := by
    rw [List.map_map]
    exact names
  refine ⟨⟨_, perm, names.symm ▸ increasing, tells⟩, ?_, ?_, ?_⟩
  · have accounted := Snapshot.dumped_append_skipped
      ((Registry.ofCaches caches).values.map fun cache => (cache.name, cache.table degrade))
    rw [asked, ← names, ← tells.dumped, ← tells.skipped] at accounted
    exact accounted.trans (perm.map _)
  · rw [tells.dumped]
    refine increasing.sublist ?_
    rw [← asked]
    exact Snapshot.dumped_sublist _
  · rw [Report.skippedNames, tells.skipped]
    refine increasing.sublist ?_
    rw [← asked]
    exact Snapshot.skipped_sublist _

/-- A playground snapshot does not depend on the order of its seed. If the caches have names of
their own, the snapshots of a seed and of any permutation of it end with the same report, and the
same bytes in the file, if the file would get the same place; if it has a place, they succeed. A run
over all caches tells of those of the seed in increasing order of their names. If a name comes twice
in the seed, the command fails at the first cache whose name was there before, with nothing made on
the disk. -/
theorem snapshotPlayground_ignores_order {config : Config}
    (loaded : Seed.load disk path = .ok ⟨caches⟩) (room : deployment.network.HasRoom)
    {result : Except Error Report} {after : Disk} {left : Deployment}
    (ran : snapshotPlayground config path (disk, deployment) = (result, after, left)) :
    let target := (Snapshot.Request.ofOptions config.snapshot).target
    ((caches.map (·.name)).Nodup → (∀ cache ∈ caches, (Request.createCache cache).Fits) →
      (Registry.ofCaches caches).Tellable config.snapshot.selection →
      (∀ {path' caches' disk' deployment' result' after' left'},
        Seed.load disk' path' = .ok ⟨caches'⟩ → caches.Perm caches' → target disk' = target disk →
        deployment'.network.HasRoom →
        snapshotPlayground config path' (disk', deployment') = (result', after', left') →
        result' = result ∧ ∀ report, result = .ok report → ∃ bytes,
          after.bytesAt? report.path = some bytes ∧ after'.bytesAt? report.path = some bytes) ∧
      (∀ place, target disk = .ok place → ∃ report, result = .ok report ∧ report.path = place) ∧
      (config.snapshot.full = true → ∀ report, result = .ok report → ∃ bytes,
        after.bytesAt? report.path = some bytes ∧
        TellsAll caches config.snapshot.degrade report bytes)) ∧
    (¬ (caches.map (·.name)).Nodup → ∃ front cache back, caches = front ++ cache :: back ∧
      (front.map (·.name)).Nodup ∧ cache.name ∈ front.map (·.name) ∧
      ((∀ other ∈ front ++ [cache], (Request.createCache other).Fits) →
        result = .error (.cacheExists cache.name) ∧ after = disk)) := by
  intro target
  constructor
  · intro distinct creatable tellable
    obtain ⟨ends, written⟩ :=
      snapshotPlayground_of_distinct loaded room distinct creatable tellable ran
    refine ⟨?_, ?_, ?_⟩
    · intro path' caches' disk' deployment' result' after' left' loaded' perm same room' ran'
      have registry := Registry.ofCaches_eq_of_perm perm distinct
      have distinct' : (caches'.map (·.name)).Nodup := (perm.map _).nodup_iff.mp distinct
      have creatable' : ∀ cache ∈ caches', (Request.createCache cache).Fits :=
        fun cache mem => creatable cache (perm.mem_iff.mpr mem)
      obtain ⟨ends', written'⟩ :=
        snapshotPlayground_of_distinct loaded' room' distinct' creatable' (registry ▸ tellable) ran'
      rw [← registry] at ends' written'
      have results : result' = result := by
        rw [ends, ends']
        exact congrArg _ same
      refine ⟨results, ?_⟩
      intro report ok
      obtain ⟨place, -⟩ := Snapshot.tells_of_map ends ok
      exact ⟨_, written report.path place, written' report.path (same.trans place)⟩
    · intro place there
      have ok : result = .ok (Snapshot.report place _) := ends.trans (congrArg _ there)
      exact ⟨_, ok, rfl⟩
    · intro full report ok
      have all : config.snapshot.selection = .all := by
        unfold SnapshotOptions.selection
        rw [if_pos full]
      obtain ⟨place, tells⟩ := Snapshot.tells_of_map ends ok
      rw [all] at tells written
      exact ⟨_, written report.path place, tellsAll_of_tells distinct tells⟩
  · intro repeated
    obtain ⟨front, cache, back, split, distinct, again⟩ := exists_first_repeated repeated
    refine ⟨front, cache, back, split, distinct, again, ?_⟩
    intro fit
    obtain ⟨closed, ends⟩ := snapshotPlayground_of_repeated loaded room split distinct again fit
    rw [ran] at ends
    cases ends
    exact ⟨rfl, rfl⟩

def rowFirst : String :=
  "caches:\n- name: b\n  query_entities:\n  - value_type: Row\n    key_field_name: id\n" ++
    "    fields:\n    - name: id\n      type: java.lang.Long\n- name: a\n"

def rowLast : String :=
  "caches:\n- name: a\n- name: b\n  query_entities:\n  - value_type: Row\n" ++
    "    key_field_name: id\n    fields:\n    - name: id\n      type: java.lang.Long\n"

def twice : String :=
  "caches:\n- name: a\n- name: a\n"

def seedDisk (text : String) : Disk where
  entries := [(["d"], .directory), (["d", "seed"], .file 0)]
  files := [⟨Utf8.encode text, false⟩]
  workingDir := ["d"]
  numbered location number mem := by
    obtain ⟨-, rfl⟩ : location = ["d", "seed"] ∧ number = 0 := by simpa using mem
    exact Nat.zero_lt_one

def rowSeed : List CacheDefinition :=
  [Snapshot.rowCache "b" "java.lang.Long", .bare "a"]

theorem text_seedDisk (text : String) : (seedDisk text).load "seed" = .ok text := by
  have found : (seedDisk text).lookup "seed" = .ok (["d", "seed"], .file 0) := rfl
  have held : (seedDisk text).contents 0 = Utf8.encode text := rfl
  have known : (seedDisk text).readText "seed" = .ok text := by
    simp only [Disk.readText, found, held, Utf8.decode?_encode, bind, Except.bind, pure,
      Except.pure]
  unfold Disk.load
  rw [known]

theorem load_seedDisk {text : String} {seed : Seed}
    (read : Yaml.read? (Seed.read Yaml.reader) text = some seed) :
    Seed.load (seedDisk text) "seed" = .ok seed := by
  unfold Seed.load
  rw [text_seedDisk]
  change Yaml.decode _ text = _
  unfold Yaml.decode
  rw [read]

/-- Nothing but the names in increasing order is left of the order of the seed. -/
theorem tellsAll_rowSeed {report : Report} {file : Bytes}
    (tells : TellsAll rowSeed false report file) :
    report.dumped = ["b"] ∧ report.skippedNames = ["a"] := by
  obtain ⟨sorted, perm, increasing, told⟩ := tells.sorted
  have same : sorted = rowSeed.reverse := by
    have reversed : (rowSeed.reverse.map (·.name)).Pairwise (· < ·) := by decide
    refine List.Perm.eq_of_pairwise ?_ (List.pairwise_map.mp increasing)
      (List.pairwise_map.mp reversed) (perm.trans (List.reverse_perm rowSeed).symm)
    intro one other _ _ before after
    exact absurd after (String.lt_asymm before)
  subst same
  constructor
  · rw [told.dumped]
    rfl
  · rw [Report.skippedNames, told.skipped]
    rfl

theorem read_rowSeed :
    Yaml.read? (Seed.read Yaml.reader) rowFirst = some ⟨rowSeed⟩ ∧
      Yaml.read? (Seed.read Yaml.reader) rowLast = some ⟨rowSeed.reverse⟩ ∧
      Yaml.read? (Seed.read Yaml.reader) twice = some ⟨List.replicate 2 (.bare "a")⟩ := by
  decide +kernel

theorem fits_rowSeed :
    (∀ cache ∈ rowSeed, (Request.createCache cache).Fits) ∧
      (Registry.ofCaches rowSeed).Tellable .all := by
  refine ⟨?_, ?_, ?_, ?_⟩
  · simp only [Request.fits_iff]
    decide
  · intro _
    rw [Response.fits_iff]
    decide
  · simp only [Request.fits_iff]
    decide
  · simp only [Response.fits_iff]
    decide

theorem target_seedDisk (text : String) :
    (Snapshot.Request.ofOptions .default).target (seedDisk text) =
      .ok "schema-snapshots/snapshot.sql" := by
  have same : (seedDisk "").SameNames (seedDisk text) := ⟨rfl, rfl⟩
  rw [Snapshot.Request.target_of_sameNames _ same]
  decide +kernel

theorem snapshotPlayground_ignores_order_rows :
    let config : Config := ⟨⟨[], none⟩, .default⟩
    let deployment := Deployment.empty true
    ∃ report first last bytes closed,
      snapshotPlayground config "seed" (seedDisk rowFirst, deployment) = (.ok report, first) ∧
      snapshotPlayground config "seed" (seedDisk rowLast, deployment) = (.ok report, last) ∧
      first.1.bytesAt? report.path = some bytes ∧ last.1.bytesAt? report.path = some bytes ∧
      report.dumped = ["b"] ∧ report.skippedNames = ["a"] ∧
      snapshotPlayground config "seed" (seedDisk twice, deployment) =
        (.error (.cacheExists "a"), seedDisk twice, closed) := by
  intro config deployment
  obtain ⟨first, last, doubled⟩ := read_rowSeed
  have room : deployment.network.HasRoom := Network.hasRoom_empty
  have distinct : (rowSeed.map (·.name)).Nodup := by decide
  obtain ⟨creatable, tellable⟩ := fits_rowSeed
  have perm : rowSeed.Perm rowSeed.reverse := (List.reverse_perm rowSeed).symm
  have place := target_seedDisk
  -- what the three commands do is known from the theorem alone, without running them
  cases ran : snapshotPlayground config "seed" (seedDisk rowFirst, deployment) with | mk result rest
  cases ran' : snapshotPlayground config "seed" (seedDisk rowLast, deployment) with
    | mk result' rest'
  cases ran'' : snapshotPlayground config "seed" (seedDisk twice, deployment) with
    | mk result'' rest''
  obtain ⟨same, succeeds, tells⟩ :=
    (snapshotPlayground_ignores_order (load_seedDisk first) room ran).1 distinct creatable tellable
  obtain ⟨report, rfl, -⟩ := succeeds _ (place rowFirst)
  obtain ⟨_, -, all⟩ := tells rfl report rfl
  obtain ⟨dumped, skipped⟩ := tellsAll_rowSeed all
  obtain ⟨rfl, written⟩ :=
    same (load_seedDisk last) perm ((place rowLast).trans (place rowFirst).symm) room ran'
  obtain ⟨bytes, here, there⟩ := written report rfl
  have repeated : ¬ ((List.replicate 2 (CacheDefinition.bare "a")).map (·.name)).Nodup := by
    decide
  obtain ⟨front, cache, back, split, -, -, failed⟩ :=
    (snapshotPlayground_ignores_order (load_seedDisk doubled) room ran'').2 repeated
  have bare (other : CacheDefinition) (mem : other ∈ front ++ cache :: back) : other = .bare "a" :=
    List.eq_of_mem_replicate (split ▸ mem)
  obtain rfl : cache = .bare "a" :=
    bare cache (List.mem_append_right front List.mem_cons_self)
  have fit : ∀ other ∈ front ++ [CacheDefinition.bare "a"], (Request.createCache other).Fits := by
    intro other mem
    have listed : other ∈ front ++ CacheDefinition.bare "a" :: back := by
      rw [← List.singleton_append, ← List.append_assoc]
      exact List.mem_append_left back mem
    rw [bare other listed]
    exact creatable _ (List.mem_cons_of_mem _ List.mem_cons_self)
  obtain ⟨refused, unchanged⟩ := failed fit
  subst refused
  refine ⟨report, rest, rest', bytes, rest''.2, rfl, rfl, here, there, dumped, skipped, ?_⟩
  rw [← unchanged]
  rfl

end Command

end GridSchema
