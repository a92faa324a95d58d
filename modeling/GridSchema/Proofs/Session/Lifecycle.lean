import GridSchema.Proofs.Session.Ownership

/-! Sessions over their whole life. Whatever fails on the way, a session leaves nothing behind that
runs and starts afresh whenever it is opened, and its instance holds the caches that were
created. -/

namespace GridSchema

/-- Whether the registry of a session, if it is open, holds some caches and no others. -/
def Session.HoldsExactly (session : Session) (deployment : Deployment)
    (created : List CacheDefinition) : Prop :=
  session.isOpen = true → ∃ number registry, session.instanceNumber = some number ∧
    deployment.network.Holds number registry ∧ registry.values.Perm created

namespace Scene

variable {scene : Scene}

/-! ### Caches that are held -/

/-- What an open session has if it is alone: a client that is connected to its instance, and the
instance with the caches that were created and no others. -/
structure Holding (scene : Scene) (number client : Nat) : Prop where
  distinct : (scene.created.map (·.name)).Nodup
  client : ∃ known, known.ConnectedTo number ∧ scene.deployment.client? client = some known
  holds : scene.deployment.network.Holds number (.ofCaches scene.created)

def Keeps (scene : Scene) : Prop :=
  ∀ number client, scene.session.instanceNumber = some number →
    scene.session.clientNumber = some client → scene.Holding number client

/-- An open session that is asked to be opened goes on as it is. One that was just opened has an
instance without caches. -/
theorem holding_open (paired : scene.session.Paired) (before : scene.Keeps)
    {client : Nat} {session : Session} {deployment : Deployment}
    (opened : scene.session.ensureOpen scene.deployment = (.ok client, session, deployment)) :
    ∃ number, session.instanceNumber = some number ∧ session.clientNumber = some client ∧
      (scene.next session deployment scene.kept).Holding number client := by
  cases paired.opening opened with
  | again has =>
    obtain ⟨number, own⟩ := paired.exists_instanceNumber has
    have kept : scene.kept = scene.created := by
      simp only [Scene.kept, Session.isOpen, has, Option.isSome_some, if_true]
    obtain ⟨distinct, connected, holds⟩ := before number client own has
    rw [kept]
    exact ⟨number, own, has, distinct, connected, holds⟩
  | opened closed connected holds =>
    have kept : scene.kept = [] := by
      simp only [Scene.kept, Session.isOpen, closed, Option.isSome_none, Bool.false_eq_true,
        if_false]
    rw [kept]
    refine ⟨_, rfl, rfl, .nil, ⟨_, connected, ?_⟩, holds⟩
    exact List.getElem?_concat_length

theorem keeps_call_open (paired : scene.session.Paired) (before : scene.Keeps) :
    (scene.call .open).Keeps := by
  intro number client own has
  cases opened : scene.session.ensureOpen scene.deployment with | mk result rest
  obtain ⟨session, deployment⟩ := rest
  rw [call_open opened] at own has ⊢
  cases result with
  | error e =>
    obtain ⟨rfl, closed, -⟩ := paired.bare_of_refused opened
    cases closed.symm.trans has
  | ok client' =>
    obtain ⟨number', own', has', holding⟩ := holding_open paired before opened
    obtain rfl := Option.some.inj (own'.symm.trans own)
    obtain rfl := Option.some.inj (has'.symm.trans has)
    exact holding

theorem keeps_call_seed (paired : scene.session.Paired) (before : scene.Keeps)
    {caches : List CacheDefinition} (fit : ∀ cache ∈ caches, (Request.createCache cache).Fits) :
    (scene.call (.seed caches)).Keeps := by
  cases opened : scene.session.ensureOpen scene.deployment with | mk result rest
  obtain ⟨session, deployment⟩ := rest
  cases result with
  | error e =>
    rw [(call_seed_of_error opened caches).1]
    exact keeps_call_open paired before
  | ok client =>
    obtain ⟨called, seeded, -⟩ := call_seed_of_ok opened caches
    obtain ⟨number, own, has, distinct, ⟨known, connected, listed⟩, holds⟩ :=
      holding_open paired before opened
    obtain ⟨network, clients⟩ := deployment
    have distinct : (scene.kept.map (·.name)).Nodup := distinct
    have listed : clients[client]? = some known := listed
    have holds : network.Holds number (.ofCaches scene.kept) := holds
    obtain ⟨network', created, distinct', holds'⟩ :=
      Session.holds_createAll connected listed distinct holds fit
    rw [called, created, seeded]
    intro number' client' own' has'
    obtain rfl := Option.some.inj (own.symm.trans own')
    obtain rfl := Option.some.inj (has.symm.trans has')
    exact ⟨distinct', ⟨known, connected, listed⟩, holds'⟩

theorem Reached.keeps {alone : Prop} (reached : Reached alone scene) (isAlone : alone) :
    scene.Keeps := by
  induction reached with
  | start closed bare deployment => exact fun number client own => nomatch bare.symm.trans own
  | «open» before ih => exact keeps_call_open before.owned.paired ih
  | seed before fit ih => exact keeps_call_seed before.owned.paired ih (fit isAlone)
  | @close scene before ih =>
    cases ends : scene.session.close scene.deployment with | mk session deployment
    rw [call_close ends]
    have none : session = _ := (congrArg Prod.fst ends).symm.trans (Session.fst_close ..)
    exact fun number client own => by cases none ▸ own
  | @others scene before after spared left ih =>
    intro number client own has
    obtain ⟨distinct, ⟨known, connected, listed⟩, holds⟩ := ih number client own has
    obtain ⟨sameClient, sameRegistry⟩ := left isAlone
    exact ⟨distinct, ⟨known, connected, (sameClient client has).trans listed⟩,
      sameRegistry number _ own holds⟩

theorem Keeps.holdsExactly (keeps : scene.Keeps) (paired : scene.session.Paired) :
    scene.session.HoldsExactly scene.deployment scene.created := by
  intro isOpen
  obtain ⟨client, has⟩ := Option.isSome_iff_exists.mp isOpen
  obtain ⟨number, own⟩ := paired.exists_instanceNumber has
  obtain ⟨distinct, -, holds⟩ := keeps number client own has
  exact ⟨number, _, own, holds, Registry.values_ofCaches_perm distinct⟩

/-! ### What a session leaves -/

/-- What may be relied on between two calls of a session, whatever others do.

The session has both an instance and a client or neither, and it is open if and only if exactly one
of the instances that it started runs, which is the one that it has; the others are down, and the
nodes that it started in vain have ended. If it is open, opening it again returns the client that it
has and changes nothing. If it cannot be opened, it has nothing, and nothing runs that it started.
Once it is closed, so are its client and all instances that it started, and closing it again changes
nothing. If it is opened again, it has a new instance and a client that sees no caches there. Caches
that it is given are all created, or up to one whose creation fails, with the session open; or it
cannot be opened. -/
structure LeaksNothing (scene : Scene) : Prop where
  paired : scene.session.instanceNumber.isSome = scene.session.clientNumber.isSome
  isOpen : scene.session.isOpen = true ↔
    ∃! n, n ∈ scene.started ∧ scene.deployment.network.IsUp n
  isClosed : scene.session.isOpen = false ↔
    ∀ n ∈ scene.started, scene.deployment.network.IsDown n
  own : ∀ n, scene.session.instanceNumber = some n ↔
    n ∈ scene.started ∧ scene.deployment.network.IsUp n
  down : ∀ n ∈ scene.started,
    scene.deployment.network.IsUp n ∨ scene.deployment.network.IsDown n
  ended : ∀ grid ∈ scene.abandoned, grid.HasEnded
  open_again : ∀ client, scene.session.clientNumber = some client →
    scene.session.ensureOpen scene.deployment = (.ok client, scene.session, scene.deployment)
  open_failed : ∀ e session deployment,
    scene.session.ensureOpen scene.deployment = (.error e, session, deployment) →
    session.isOpen = false ∧ session.instanceNumber = none ∧
    (∀ n ∈ (scene.call .open).started, deployment.network.IsDown n) ∧
    ∀ grid ∈ (scene.call .open).abandoned, grid.HasEnded
  closed : ∀ session deployment, scene.session.close scene.deployment = (session, deployment) →
    session.isOpen = false ∧ session.instanceNumber = none ∧
    (∀ n ∈ scene.started, deployment.network.IsDown n) ∧
    (∀ n, scene.session.clientNumber = some n →
      ∃ client, deployment.client? n = some client ∧ client.isClosed = true) ∧
    ∀ later, session.close later = (session, later)
  reopened : scene.session.isOpen = false → ∀ client session deployment,
    scene.session.ensureOpen scene.deployment = (.ok client, session, deployment) →
    ∃ number, session.instanceNumber = some number ∧ session.clientNumber = some client ∧
      number ∉ scene.started ∧ deployment.network.IsUp number ∧
      deployment.network.Holds number ∅ ∧
      (Deployment.catalog client).names deployment = (.ok [], deployment)
  seeded : ∀ caches session deployment,
    scene.session.seed caches scene.deployment = (.ok (), session, deployment) →
    session.isOpen = true ∧ scene.seeded caches = caches
  seed_failed : ∀ caches e session deployment,
    scene.session.seed caches scene.deployment = (.error e, session, deployment) →
    (scene.session.ensureOpen scene.deployment = (.error e, session, deployment) ∧
      scene.seeded caches = []) ∨
    session.isOpen = true ∧ ∃ client cache back middle, session.clientNumber = some client ∧
      caches = scene.seeded caches ++ cache :: back ∧
      scene.session.seed (scene.seeded caches) scene.deployment = (.ok (), session, middle) ∧
      middle.call client (ThinClient.create Network.peer cache) = (.error e, deployment)
  dropped : ∀ n ∈ scene.started, (scene.session.drop scene.deployment).network.IsDown n

namespace Owned

variable (owned : scene.Owned)
include owned

theorem own_iff (n : Nat) : scene.session.instanceNumber = some n ↔
    n ∈ scene.started ∧ scene.deployment.network.IsUp n := by
  refine ⟨owned.up n, ?_⟩
  rintro ⟨mem, up⟩
  by_contra foreign
  exact up.not_isDown (owned.down n mem foreign)

theorem all_down (bare : scene.session.instanceNumber = none) :
    ∀ n ∈ scene.started, scene.deployment.network.IsDown n := by
  intro n mem
  refine owned.down n mem ?_
  rw [bare]
  exact nofun

theorem isOpen_iff : scene.session.isOpen = true ↔
    ∃! n, n ∈ scene.started ∧ scene.deployment.network.IsUp n := by
  rw [owned.paired.isOpen_eq, Option.isSome_iff_exists]
  constructor
  · rintro ⟨n, own⟩
    refine ⟨n, (owned.own_iff n).mp own, ?_⟩
    intro other up
    exact Option.some.inj (((owned.own_iff other).mpr up).symm.trans own)
  · rintro ⟨n, up, -⟩
    exact ⟨n, (owned.own_iff n).mpr up⟩

theorem isClosed_iff : scene.session.isOpen = false ↔
    ∀ n ∈ scene.started, scene.deployment.network.IsDown n := by
  constructor
  · intro closed
    rw [owned.paired.isOpen_eq] at closed
    exact owned.all_down (Option.isNone_iff_eq_none.mp (by simpa using closed))
  · intro all
    rw [← Bool.not_eq_true, owned.isOpen_iff]
    rintro ⟨n, ⟨mem, up⟩, -⟩
    exact up.not_isDown (all n mem)

theorem open_failed {e : Error} {session : Session} {deployment : Deployment}
    (refused : scene.session.ensureOpen scene.deployment = (.error e, session, deployment)) :
    session.isOpen = false ∧ session.instanceNumber = none ∧
    (∀ n ∈ (scene.call .open).started, deployment.network.IsDown n) ∧
    ∀ grid ∈ (scene.call .open).abandoned, grid.HasEnded := by
  have after := owned.open
  obtain ⟨rfl, closed, bare⟩ := owned.paired.bare_of_refused refused
  have down := after.all_down (by rw [call_open refused]; exact bare)
  refine ⟨?_, bare, ?_, after.ended⟩
  · rw [Session.isOpen, closed]
    rfl
  · rw [call_open refused] at down ⊢
    exact down

theorem closed {session : Session} {deployment : Deployment}
    (ends : scene.session.close scene.deployment = (session, deployment)) :
    session.isOpen = false ∧ session.instanceNumber = none ∧
    (∀ n ∈ scene.started, deployment.network.IsDown n) ∧
    (∀ n, scene.session.clientNumber = some n →
      ∃ client, deployment.client? n = some client ∧ client.isClosed = true) ∧
    ∀ later, session.close later = (session, later) := by
  have after := owned.close
  rw [call_close ends] at after
  obtain rfl : session = _ := (congrArg Prod.fst ends).symm.trans (Session.fst_close ..)
  refine ⟨rfl, rfl, ?_, ?_, Session.close_of_bare rfl rfl⟩
  · intro n mem
    exact after.all_down rfl n (mem_started_next.mpr (.inl mem))
  · intro n has
    obtain ⟨number, own⟩ := owned.paired.exists_instanceNumber has
    have inside := owned.client n has
    have left : deployment = _ :=
      (congrArg Prod.snd ends).symm.trans (Session.snd_close own has scene.deployment)
    refine ⟨scene.deployment.clients[n].close, ?_, rfl⟩
    simp [left, Deployment.client?, List.getElem?_eq_getElem inside]

theorem reopened (isClosed : scene.session.isOpen = false) {client : Nat} {session : Session}
    {deployment : Deployment}
    (opened : scene.session.ensureOpen scene.deployment = (.ok client, session, deployment)) :
    ∃ number, session.instanceNumber = some number ∧ session.clientNumber = some client ∧
      number ∉ scene.started ∧ deployment.network.IsUp number ∧
      deployment.network.Holds number ∅ ∧
      (Deployment.catalog client).names deployment = (.ok [], deployment) := by
  have none : scene.session.clientNumber = none := by simpa [Session.isOpen] using isClosed
  cases owned.paired.opening opened with
  | again has => cases none.symm.trans has
  | opened closed connected holds =>
    refine ⟨_, rfl, rfl, fun mem => Nat.lt_irrefl _ (owned.known mem), holds.isUp, holds, ?_⟩
    have registry := holds.registryOf_eq
    have short : (Response.cacheNames (∅ : Registry).names).Fits := by
      rw [Response.fits_iff]
      decide
    have told := connected.names holds.isOpen (registry.symm ▸ short)
    rw [registry] at told
    exact Deployment.call_of_known List.getElem?_concat_length told

theorem dropped : ∀ n ∈ scene.started,
    (scene.session.drop scene.deployment).network.IsDown n := by
  intro n mem
  unfold Session.drop Session.closeInstance
  cases own : scene.session.instanceNumber with
  | none => exact owned.all_down own n mem
  | some number =>
    change (scene.deployment.network.close number).IsDown n
    by_cases same : n = number
    · subst same
      exact (owned.up n own).2.close
    · rw [Network.IsDown, Network.conditions_close_of_ne same]
      refine owned.down n mem ?_
      rw [own]
      exact fun other => same (Option.some.inj other).symm

end Owned

/-! ### Caches that are given to a session -/

theorem seeded_eq (paired : scene.session.Paired) {caches : List CacheDefinition}
    {session : Session} {deployment : Deployment}
    (ends : scene.session.seed caches scene.deployment = (.ok (), session, deployment)) :
    session.isOpen = true ∧ scene.seeded caches = caches := by
  cases opened : scene.session.ensureOpen scene.deployment with | mk result rest
  obtain ⟨session', deployment'⟩ := rest
  cases result with
  | error e =>
    obtain ⟨-, -, refused⟩ := call_seed_of_error opened caches
    rw [refused] at ends
    cases ends
  | ok client =>
    obtain ⟨-, seeded, made⟩ := call_seed_of_ok opened caches
    have has := paired.client_of_opened opened
    rw [made] at ends
    obtain ⟨ok, same⟩ := Prod.mk.inj ends
    obtain ⟨rfl, -⟩ := Prod.mk.inj same
    rw [seeded, Session.createdOf_of_ok ok]
    exact ⟨by rw [Session.isOpen, has, Option.isSome_some], rfl⟩

theorem seed_failed (paired : scene.session.Paired) {caches : List CacheDefinition} {e : Error}
    {session : Session} {deployment : Deployment}
    (ends : scene.session.seed caches scene.deployment = (.error e, session, deployment)) :
    (scene.session.ensureOpen scene.deployment = (.error e, session, deployment) ∧
      scene.seeded caches = []) ∨
    session.isOpen = true ∧ ∃ client cache back middle, session.clientNumber = some client ∧
      caches = scene.seeded caches ++ cache :: back ∧
      scene.session.seed (scene.seeded caches) scene.deployment = (.ok (), session, middle) ∧
      middle.call client (ThinClient.create Network.peer cache) = (.error e, deployment) := by
  cases opened : scene.session.ensureOpen scene.deployment with | mk result rest
  obtain ⟨session', deployment'⟩ := rest
  cases result with
  | error e' =>
    obtain ⟨-, none, refused⟩ := call_seed_of_error opened caches
    rw [refused] at ends
    cases ends
    exact .inl ⟨rfl, none⟩
  | ok client =>
    obtain ⟨-, seeded, made⟩ := call_seed_of_ok opened caches
    have has := paired.client_of_opened opened
    rw [made] at ends
    obtain ⟨failed, same⟩ := Prod.mk.inj ends
    obtain ⟨rfl, left⟩ := Prod.mk.inj same
    obtain ⟨cache, back, middle, split, created, told⟩ :=
      Session.createdOf_of_error (Prod.ext failed left)
    have isOpen : session'.isOpen = true := by rw [Session.isOpen, has, Option.isSome_some]
    refine .inr ⟨isOpen, client, cache, back, middle, has, seeded.symm ▸ split, ?_, told⟩
    rw [seeded, (call_seed_of_ok opened _).2.2, created]

/-! ### Main result -/

/-- Wherever a session gets, with whatever failing on the way, it leaves nothing behind. If it is
alone, its instance holds exactly the caches that were created since it was opened. Given more of
them, it holds those that are created too, even if one of them cannot be. -/
theorem Reached.leaks_nothing {alone : Prop} (reached : Reached alone scene) :
    scene.LeaksNothing ∧
      (alone → scene.session.HoldsExactly scene.deployment scene.created ∧
        ∀ caches result session deployment,
          (∀ cache ∈ caches, (Request.createCache cache).Fits) →
          scene.session.seed caches scene.deployment = (result, session, deployment) →
          session.HoldsExactly deployment (scene.kept ++ scene.seeded caches)) := by
  have owned := reached.owned
  constructor
  · exact {
      paired := owned.paired
      isOpen := owned.isOpen_iff
      isClosed := owned.isClosed_iff
      own := owned.own_iff
      down := fun n mem => by
        by_cases own : scene.session.instanceNumber = some n
        · exact .inl (owned.up n own).2
        · exact .inr (owned.down n mem own)
      ended := owned.ended
      open_again := fun client has => Session.ensureOpen_of_client has scene.deployment
      open_failed := fun e session deployment => owned.open_failed
      closed := fun session deployment => owned.closed
      reopened := fun isClosed client session deployment => owned.reopened isClosed
      seeded := fun caches session deployment => seeded_eq owned.paired
      seed_failed := fun caches e session deployment => seed_failed owned.paired
      dropped := owned.dropped }
  · intro isAlone
    refine ⟨(reached.keeps isAlone).holdsExactly owned.paired, ?_⟩
    intro caches result session deployment fit ends
    have after : Reached alone (scene.call (.seed caches)) := reached.seed fun _ => fit
    have holds := (after.keeps isAlone).holdsExactly after.owned.paired
    rw [call_seed ends] at holds
    exact holds

/-- A session whose instance is to be where another one accepts connections. -/
def crowded : Scene :=
  start ⟨⟨defaultHost, 4000⟩, "user", none, none⟩ ⟨.lone, []⟩

def doubled : List CacheDefinition := [.bare "a", .bare "a", .bare "b"]

/-- Once the place is free, the session can be opened, and the second of the caches is refused. -/
theorem seed_doubled {network : Network} (addressed : network.addressed = true)
    {endpoint : Endpoint} (bound : network.bind crowded.session.config = .ok endpoint) :
    ∃ session failed, crowded.session.seed doubled ⟨network, []⟩ =
        (.error (.cacheExists "a"), session, failed) ∧
      seeded { crowded with deployment := ⟨network, []⟩ } doubled = [.bare "a"] := by
  obtain ⟨i, client, connected, holds, ends⟩ := Session.launch_of_bind addressed bound []
  have fresh : Session.Opened [] ⟨network.instances.length, 0⟩
      ⟨network.withInstance i, [client]⟩ := ⟨rfl, ⟨client, connected, rfl⟩, holds⟩
  have distinct : ([CacheDefinition.bare "a"].map (·.name)).Nodup := by decide
  have fit : ∀ cache ∈ [CacheDefinition.bare "a", .bare "a"],
      (Request.createCache cache).Fits := by
    simp only [Request.fits_iff]
    decide
  obtain ⟨failed, refused, created⟩ :=
    fresh.createAll_repeated distinct List.mem_cons_self fit [.bare "b"]
  refine ⟨_, failed, Session.seed_of_launch rfl rfl ends refused, ?_⟩
  have opened := Session.ensureOpen_of_launch rfl rfl ends
  simp only [seeded, crowded, start] at opened ⊢
  rw [opened]
  exact created

/-- The session cannot be opened as long as the other instance is there, and the node that was
started for it has ended. Once others have closed that instance, it is opened and given caches up to
one that cannot be created, and closed again. -/
theorem leaks_nothing_crowded :
    let failed := crowded.call .open
    let freed := { failed with deployment := failed.deployment.closeInstance 0 }
    let given := freed.call (.seed doubled)
    let closed := given.call .close
    (crowded.session.ensureOpen crowded.deployment).1 =
        .error (.config (.cannotBind "127.0.0.1:4000" .addressInUse)) ∧
      failed.session.isOpen = false ∧ failed.started = [] ∧
      (∃ grid, failed.abandoned = [grid] ∧ grid.HasEnded) ∧
      (freed.session.seed doubled freed.deployment).1 = .error (.cacheExists "a") ∧
      given.session.isOpen = true ∧
      (∃! n, n ∈ given.started ∧ given.deployment.network.IsUp n) ∧
      given.session.HoldsExactly given.deployment [.bare "a"] ∧
      closed.session.isOpen = false ∧
      ∀ n ∈ given.started, closed.deployment.network.IsDown n := by
  have unbound : Network.lone.bind crowded.session.config = .error .addressInUse := rfl
  obtain ⟨grid, -, ends⟩ := Session.launch_of_unbound unbound []
  have refused : crowded.session.ensureOpen crowded.deployment =
      (.error _, crowded.session, ⟨Network.lone.withAbandoned grid, []⟩) :=
    Session.ensureOpen_of_error rfl ends
  intro failed freed given closed
  have place : failed = crowded.next crowded.session ⟨Network.lone.withAbandoned grid, []⟩
      crowded.kept := call_open refused
  have nothing : failed.started = [] := by rw [place]; rfl
  have bare : failed.session = crowded.session := by rw [place]; rfl
  have left : freed.deployment = ⟨(Network.lone.withAbandoned grid).close 0, []⟩ := by
    simp only [freed, place]
    rfl
  have before : Reached True crowded := .start rfl rfl _
  obtain ⟨shut, -, -, gone⟩ := before.leaks_nothing.1.open_failed _ _ _ refused
  have free : Reached True freed := by
    refine before.open.others ⟨Nat.le_refl _, ?_⟩ fun _ => ⟨fun _ _ => rfl, ?_⟩
    · rw [nothing]
      exact nofun
    · rw [bare]
      exact nofun
  have fit : ∀ cache ∈ doubled, (Request.createCache cache).Fits := by
    simp only [Request.fits_iff]
    decide
  have bound : ((Network.lone.withAbandoned grid).close 0).bind crowded.session.config =
      .ok ⟨.loopback, 4000⟩ := rfl
  obtain ⟨session, after, ends', created⟩ := seed_doubled rfl bound
  have ends' : freed.session.seed doubled freed.deployment =
      (.error (.cacheExists "a"), session, after) := by
    rw [left]
    exact bare ▸ ends'
  have kept : freed.kept = [] := by rw [kept, bare]; rfl
  have created : freed.seeded doubled = [.bare "a"] := by
    rw [seeded, left, bare]
    exact created
  have place' : given = freed.next session after (freed.kept ++ freed.seeded doubled) :=
    call_seed ends'
  have holds := (free.leaks_nothing.2 trivial).2 _ _ _ _ fit ends'
  rw [kept, created, List.nil_append] at holds
  have isOpen : session.isOpen = true := by
    rcases free.leaks_nothing.1.seed_failed _ _ _ _ ends' with ⟨-, none⟩ | ⟨isOpen, -⟩
    · rw [created] at none
      cases none
    · exact isOpen
  have filled : Reached True given := free.seed fun _ => fit
  rw [place'] at filled
  cases closing : session.close after with | mk session' deployment'
  have place'' : closed = given.next session' deployment' given.created := by
    refine call_close ?_
    rw [place']
    exact closing
  obtain ⟨ended, -, down, -⟩ := filled.leaks_nothing.1.closed _ _ closing
  have one := filled.leaks_nothing.1.isOpen.mp isOpen
  rw [← place'] at one down
  have listed : failed.abandoned = [grid] := by rw [place]; rfl
  refine ⟨?_, ?_, nothing, ⟨grid, listed, gone grid (listed ▸ List.mem_singleton_self grid)⟩,
    ?_, ?_, one, ?_, ?_, ?_⟩
  · rw [refused]
    rfl
  · rw [place]
    exact shut
  · rw [ends']
  · rw [place']
    exact isOpen
  · rw [place']
    exact holds
  · rw [place'']
    exact ended
  · rw [place'']
    exact down

end Scene

end GridSchema
