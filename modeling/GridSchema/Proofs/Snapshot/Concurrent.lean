import GridSchema.Proofs.Network.Moments
import GridSchema.Proofs.Snapshot.Degrading

/-! Runs over a client of an instance whose caches others create and drop meanwhile. The names are
those at the moment when the client asks for them, and each cache is dumped as it is, or skipped
because it is gone, at the moment when the client asks for it. -/

namespace GridSchema.Snapshot

/-! ### Answers of registries -/

/-- What a run makes of names, if it asks for each in the registry that belongs to its place. -/
def answersIn (registries : Nat → Registry) (degrade : Bool) (names : List String) : List Answer :=
  names.mapIdx fun k name => (name, ((registries k).definition name).bind (·.table degrade))

theorem answersIn_cons (registries : Nat → Registry) (degrade : Bool) (name : String)
    (names : List String) :
    answersIn registries degrade (name :: names) =
      (name, ((registries 0).definition name).bind (·.table degrade)) ::
        answersIn (fun k => registries (k + 1)) degrade names :=
  List.mapIdx_cons

theorem names_answersIn (registries : Nat → Registry) (degrade : Bool) (names : List String) :
    (answersIn registries degrade names).map Prod.fst = names := by
  induction names generalizing registries with
  | nil => rfl
  | cons name names ih => rw [answersIn_cons, List.map_cons, ih]

theorem mem_answersIn {registries : Nat → Registry} {degrade : Bool} {names : List String}
    {k : Nat} {name : String} (listed : names[k]? = some name) :
    (name, ((registries k).definition name).bind (·.table degrade)) ∈
      answersIn registries degrade names := by
  refine List.mem_of_getElem? (i := k) ?_
  rw [answersIn, List.getElem?_mapIdx, listed]
  rfl

theorem dumped_append_skipped (answers : List Answer) :
    (answers.filterMap Answer.dumped? ++
        (answers.filterMap Answer.skipped?).map SkippedCache.name).Perm
      (answers.map Prod.fst) := by
  induction answers with
  | nil => exact .nil
  | cons answer answers ih =>
    obtain ⟨name, mapped⟩ := answer
    cases mapped with
    | ok mapped => exact ih.cons name
    | error reason => exact List.perm_middle.trans (ih.cons name)

/-! ### Runs -/

theorem run_eq_runToPath {σ : Type} (catalog : Catalog σ) (degrade : Bool) {request : Request}
    {before disk : Disk} (dirs : before.makeDirs request.dir = (.ok (), disk)) {path : String}
    (named : nextPath disk request.dir request.baseName = .ok path) (state : σ) :
    run (catalog.beside Disk) degrade request (before, state) =
      runToPath (catalog.beside Disk) degrade path request.selection (disk, state) := by
  simp only [run, dirs, named]

section amid

variable {client : ThinClient Connection} {number : Nat} (connected : client.ConnectedTo number)
  {network : Network} (isOpen : network.IsOpen number) {others : Nat → List Activity}
  (spared : ∀ k, .event (.close number) ∉ others k)
include connected isOpen spared

/-- Asked for one after the other, names are answered from the registry at the moment of each
question. -/
theorem interview_amid (degrade : Bool) (names : List String) (first : Nat)
    (fit : ∀ k name, names[k]? = some name → (GridSchema.Request.cacheConfiguration name).Fits ∧
      ((network.registryAt others number (first + k + 1)).answer
        (.cacheConfiguration name)).Fits) :
    interview (ThinClient.amid others) degrade names
        (first + 1, client, network.moment others first) =
      (answersIn (fun k => network.registryAt others number (first + k + 1)) degrade names,
        first + 1 + names.length, client, network.moment others (first + names.length)) := by
  induction names generalizing first with
  | nil => rfl
  | cons name names ih =>
    obtain ⟨asked, answered⟩ := fit 0 name rfl
    have told := connected.definition_amid isOpen spared first asked answered
    have shift (k : Nat) : first + (k + 1) + 1 = first + 1 + k + 1 := by omega
    have rest := ih (first + 1) fun k other listed => shift k ▸ fit (k + 1) other listed
    have length : first + 1 + (name :: names).length = first + 1 + 1 + names.length := by
      rw [List.length_cons]
      omega
    have last : first + (name :: names).length = first + 1 + names.length := by
      rw [List.length_cons]
      omega
    rw [answersIn_cons, length, last]
    simp only [interview, mapCache, told, rest, shift]

/-- A run over all caches of an instance, with a file that it can make, succeeds whatever others do
meanwhile, as long as they do not close the instance. The names that it processes are those in the
registry when it asks for names, each once. Each is dumped or skipped as its cache is in the
registry at the moment when the run asks for it; a cache that is gone by then is skipped for that
reason, and none appears that was not listed. -/
theorem survives_changes (degrade : Bool) {path : String} {disk : Disk} {file : Nat} {opened : Disk}
    (creatable : disk.createFile path = .ok (file, opened))
    (listing : (Response.cacheNames (network.registryAt others number 0).names).Fits)
    (fit : ∀ k name, (network.registryAt others number 0).names[k]? = some name →
      (GridSchema.Request.cacheConfiguration name).Fits ∧
        ((network.registryAt others number (k + 1)).answer (.cacheConfiguration name)).Fits) :
    let names := (network.registryAt others number 0).names
    let answers := answersIn (fun k => network.registryAt others number (k + 1)) degrade names
    ∃ report after left bytes,
      runToPath ((ThinClient.amid others).beside Disk) degrade path .all
          (disk, 0, client, network) = (.ok report, after, left) ∧
      (∀ request before, request.selection = .all →
        before.makeDirs request.dir = (.ok (), disk) →
        nextPath disk request.dir request.baseName = .ok path →
        run ((ThinClient.amid others).beside Disk) degrade request (before, 0, client, network) =
          (.ok report, after, left)) ∧
      after.bytesAt? path = some bytes ∧ Tells answers report bytes ∧
      (report.dumped ++ report.skippedNames).Perm names ∧ names.Nodup ∧
      (∀ k name, names[k]? = some name →
        (network.registryAt others number (k + 1)).find? name = none →
        ⟨name, "Cache not found: " ++ name⟩ ∈ report.skipped) ∧
      ∀ name, (network.registryAt others number 0).find? name = none →
        name ∉ report.dumped ∧ name ∉ report.skippedNames := by
  intro names answers
  have listed : enumerate (ThinClient.amid others) .all (0, client, network) =
      (.ok names, 1, client, network.moment others 0) :=
    connected.names_amid isOpen spared listing
  have told := interview_amid connected isOpen spared degrade names 0
    (by simpa only [Nat.zero_add] using fit)
  simp only [Nat.zero_add] at told
  obtain ⟨after, ends, written⟩ :=
    runToPath_of_createFile (ThinClient.amid others) degrade .all _ creatable listed told
  have tells := tells_report path answers
  have accounted : ((report path (.ofAnswers answers)).dumped ++
      (report path (.ofAnswers answers)).skippedNames).Perm names := by
    have perm := dumped_append_skipped answers
    rw [names_answersIn, ← tells.dumped, ← tells.skipped] at perm
    exact perm
  refine ⟨report path (.ofAnswers answers), after, _, contents answers, ends, ?_, written, tells,
    accounted, ?_, ?_, ?_⟩
  · intro request before all dirs named
    rw [run_eq_runToPath _ _ dirs named, all]
    exact ends
  · exact (network.registryAt others number 0).names_increasing.imp fun lt => String.ne_of_lt lt
  · intro k name place gone
    rw [tells.skipped]
    refine List.mem_filterMap.mpr ⟨_, mem_answersIn place, ?_⟩
    rw [Registry.definition, gone]
    rfl
  · intro name absent
    have unlisted : name ∉ names := by
      rw [NameMap.mem_names_iff, absent]
      exact Bool.false_ne_true
    have nowhere := accounted.mem_iff.not.mpr unlisted
    exact not_or.mp (List.mem_append.not.mp nowhere)

end amid

def rowCache (name className : String) : CacheDefinition :=
  { CacheDefinition.bare name with
    entities := [⟨defaultKeyType, "Row", none, none, some "id", [⟨"id", className⟩], ∅, ∅⟩] }

/-- Two caches are created. Once they have been listed one is dropped and another created, and then
the second is dropped and created with another column. -/
def rivals : Nat → List GridSchema.Request
  | 0 => [.createCache (rowCache "a" "java.lang.Long"), .createCache (rowCache "b" "java.lang.Long")]
  | 1 => [.destroyCache "a", .createCache (rowCache "c" "java.lang.Long")]
  | 2 => [.destroyCache "b", .createCache (rowCache "b" "java.lang.String")]
  | _ => []

def rivalry (k : Nat) : List Activity :=
  Network.requestsTo 0 (rivals k)

theorem survives_changes_rivals : ∃ report after left,
    runToPath ((ThinClient.amid rivalry).beside Disk) false "s.sql" .all
        (.empty ["d"], 0, .lone, .lone) = (.ok report, after, left) ∧
      report.dumped = ["b"] ∧ report.skipped = [⟨"a", "Cache not found: a"⟩] ∧
      after.bytesAt? "s.sql" = some
        ("CREATE TABLE IF NOT EXISTS ROW (\n    id VARCHAR PRIMARY KEY\n) " ++
          "WITH \"cache_name=b\";\n").toUTF8.data.toList := by
  have fits : ∀ k, ∀ request ∈ rivals k, request.Fits := by
    intro k
    simp only [GridSchema.Request.fits_iff]
    obtain _ | _ | _ | k := k
    · decide
    · decide
    · decide
    · exact nofun
  have holds (k : Nat) : (Network.lone.moment rivalry k).Holds 0
      (Registry.afterAll ∅ ((List.range (k + 1)).flatMap rivals)) :=
    Network.holds_lone.moment rivals fits k
  have names : (Network.registryAt rivalry .lone 0 0).names = ["a", "b"] := by
    rw [Network.registryAt, (holds 0).registryOf_eq]
    decide
  have gone : (Network.registryAt rivalry .lone 0 1).find? "a" = none := by
    rw [Network.registryAt, (holds 1).registryOf_eq]
    decide
  have other : (Network.registryAt rivalry .lone 0 2).find? "b" =
      some (rowCache "b" "java.lang.String") := by
    rw [Network.registryAt, (holds 2).registryOf_eq]
    decide
  have refused : (Network.registryAt rivalry .lone 0 1).answer (.cacheConfiguration "a") =
      .failure .cacheNotFound "a" := by
    rw [Registry.answer, Registry.definition, gone]
    rfl
  have told : (Network.registryAt rivalry .lone 0 2).answer (.cacheConfiguration "b") =
      .cacheConfiguration (rowCache "b" "java.lang.String") :=
    Registry.answer_cacheConfiguration_eq_iff.mpr other
  have sizes : (Response.cacheNames ["a", "b"]).Fits ∧
      ((GridSchema.Request.cacheConfiguration "a").Fits ∧
        (Response.failure .cacheNotFound "a").Fits) ∧
      (GridSchema.Request.cacheConfiguration "b").Fits ∧
        (Response.cacheConfiguration (rowCache "b" "java.lang.String")).Fits := by
    simp only [GridSchema.Request.fits_iff, Response.fits_iff]
    decide
  have fit : ∀ k name, (Network.registryAt rivalry .lone 0 0).names[k]? = some name →
      (GridSchema.Request.cacheConfiguration name).Fits ∧
        ((Network.registryAt rivalry .lone 0 (k + 1)).answer (.cacheConfiguration name)).Fits := by
    rw [names]
    intro k name place
    obtain _ | _ | k := k
    · cases place
      rw [refused]
      exact sizes.2.1
    · cases place
      rw [told]
      exact sizes.2.2
    · cases place
  have creatable : (Disk.empty ["d"]).createFile "s.sql" =
      .ok (0, (Disk.empty ["d"]).addFile ["d", "s.sql"]) := by rfl
  have spared (k : Nat) : .event (.close 0) ∉ rivalry k :=
    Network.requestsTo_spares 0 (rivals k)
  obtain ⟨report, after, left, bytes, ends, -, written, tells, -⟩ :=
    survives_changes ThinClient.connectedTo_lone Network.holds_lone.isOpen spared false creatable
      (names ▸ sizes.1) fit
  rw [names] at tells
  simp only [answersIn, List.mapIdx_cons, List.mapIdx_nil, Registry.definition, gone, other]
    at tells
  refine ⟨report, after, left, ends, ?_, ?_, ?_⟩
  · rw [tells.dumped]
    rfl
  · rw [tells.skipped]
    rfl
  · rw [written, tells.file]
    decide +kernel

end GridSchema.Snapshot
