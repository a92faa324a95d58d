import GridSchema.Proofs.Session.Seeding

/-! What a session starts. It is opened, given caches and closed any number of times, and each of
that may fail at any point. Of all instances that it started, the one that it has runs, and no
other, and the nodes that it started in vain have ended. -/

namespace GridSchema

namespace Network

/-- Whether the instances run that ran before, and nothing was abandoned since. -/
def Alike (before after : Network) : Prop :=
  after.conditions = before.conditions ∧ after.abandoned = before.abandoned

variable {before after last : Network}

theorem Alike.refl (network : Network) : network.Alike network := ⟨rfl, rfl⟩

theorem Alike.trans (first : before.Alike after) (second : after.Alike last) : before.Alike last :=
  ⟨second.1.trans first.1, second.2.trans first.2⟩

theorem Alike.length_eq (alike : before.Alike after) :
    after.instances.length = before.instances.length := by
  rw [← length_conditions, alike.1, length_conditions]

theorem alike_exchange (bytes : Bytes) (connection : Connection) (network : Network) :
    network.Alike (network.exchange bytes connection).2.2 := by
  refine ⟨network.conditions_exchange bytes connection, ?_⟩
  unfold exchange
  split
  · split_ifs <;> rfl
  · rfl

end Network

theorem Session.alike_createAll (client : Nat) (caches : List CacheDefinition)
    (deployment : Deployment) :
    deployment.network.Alike (createAll client caches deployment).2.network ∧
      (createAll client caches deployment).2.clients.length = deployment.clients.length := by
  have call (cache : CacheDefinition) (deployment : Deployment) :
      deployment.network.Alike
          (deployment.call client (ThinClient.create Network.peer cache)).2.network ∧
        (deployment.call client (ThinClient.create Network.peer cache)).2.clients.length =
          deployment.clients.length := by
    unfold Deployment.call
    cases deployment.client? client with
    | none => exact ⟨.refl _, rfl⟩
    | some known =>
      have kept : deployment.network.Alike
          (ThinClient.call Network.peer (.createCache cache) (known, deployment.network)).2.2 :=
        ThinClient.kind_call deployment.network.Alike
          (fun bytes connection network same =>
            same.trans (network.alike_exchange bytes connection))
          (.createCache cache) (.refl _)
      exact ⟨kept, List.length_set⟩
  induction caches generalizing deployment with
  | nil => exact ⟨.refl _, rfl⟩
  | cons cache caches ih =>
    obtain ⟨alike, clients⟩ := call cache deployment
    cases called : deployment.call client (ThinClient.create Network.peer cache) with
      | mk outcome next
    rw [called] at alike clients
    simp only [createAll, called]
    cases outcome with
    | error e => exact ⟨alike, clients⟩
    | ok done =>
      obtain ⟨alike', clients'⟩ := ih next
      exact ⟨alike.trans alike', clients'.trans clients⟩

/-! ### A session and what it started -/

inductive SessionCall where
  | open
  | seed (caches : List CacheDefinition)
  | close

/-- A session where it is, with what it has done so far: the numbers of the instances that were
started by its calls, the grids of the nodes that were started in vain by them, and the caches that
were created by them since it was opened last. -/
structure Scene where
  session : Session
  deployment : Deployment
  started : List Nat
  abandoned : List Grid
  created : List CacheDefinition

namespace Scene

def start (session : Session) (deployment : Deployment) : Scene :=
  ⟨session, deployment, [], [], []⟩

def next (scene : Scene) (session : Session) (deployment : Deployment)
    (created : List CacheDefinition) : Scene where
  session := session
  deployment := deployment
  started := scene.started ++ (List.range deployment.network.instances.length).filter
    (scene.deployment.network.instances.length ≤ ·)
  abandoned := scene.abandoned ++
    deployment.network.abandoned.drop scene.deployment.network.abandoned.length
  created := created

/-- The caches that were created, as far as they are still there once the session has been asked to
be opened. -/
def kept (scene : Scene) : List CacheDefinition :=
  if scene.session.isOpen then scene.created else []

/-- Those of some caches that are created if the session is given them. -/
def seeded (scene : Scene) (caches : List CacheDefinition) : List CacheDefinition :=
  match scene.session.ensureOpen scene.deployment with
  | (.ok client, _, opened) => Session.createdOf client caches opened
  | (.error _, _, _) => []

def call (scene : Scene) : SessionCall → Scene
  | .open =>
    let (_, session, deployment) := scene.session.ensureOpen scene.deployment
    scene.next session deployment scene.kept
  | .seed caches =>
    let (_, session, deployment) := scene.session.seed caches scene.deployment
    scene.next session deployment (scene.kept ++ scene.seeded caches)
  | .close =>
    let (session, deployment) := scene.session.close scene.deployment
    scene.next session deployment scene.created

/-- What others may do between two calls. They start and close instances and connect clients of
their own, and talk to those of the session too, but have no way to close its instances. -/
structure Spares (scene : Scene) (after : Deployment) : Prop where
  clients : scene.deployment.clients.length ≤ after.clients.length
  conditions : ∀ n ∈ scene.started,
    after.network.conditions[n]? = scene.deployment.network.conditions[n]?

/-- What they do if the session has no other clients: they change no caches of its instance, and
leave its client alone. -/
structure Leaves (scene : Scene) (after : Deployment) : Prop where
  client : ∀ client, scene.session.clientNumber = some client →
    after.client? client = scene.deployment.client? client
  holds : ∀ number registry, scene.session.instanceNumber = some number →
    scene.deployment.network.Holds number registry → after.network.Holds number registry

/-- Where a session gets by any calls, with others acting in between. It may be alone: then it has no
other clients, and the caches that it is given fit into requests. -/
inductive Reached (alone : Prop) : Scene → Prop where
  | start {session : Session} (closed : session.clientNumber = none)
    (bare : session.instanceNumber = none) (deployment : Deployment) :
    Reached alone (.start session deployment)
  | open {scene : Scene} (before : Reached alone scene) : Reached alone (scene.call .open)
  | seed {scene : Scene} (before : Reached alone scene) {caches : List CacheDefinition}
    (fit : alone → ∀ cache ∈ caches, (Request.createCache cache).Fits) :
    Reached alone (scene.call (.seed caches))
  | close {scene : Scene} (before : Reached alone scene) : Reached alone (scene.call .close)
  | others {scene : Scene} (before : Reached alone scene) {after : Deployment}
    (spared : scene.Spares after) (left : alone → scene.Leaves after) :
    Reached alone { scene with deployment := after }

variable {scene : Scene}

/-! ### Steps -/

/-- A call finds the session open, or opens it, or cannot open it. -/
theorem call_open {result : Except Error Nat} {session : Session} {deployment : Deployment}
    (opened : scene.session.ensureOpen scene.deployment = (result, session, deployment)) :
    scene.call .open = scene.next session deployment scene.kept := by
  simp only [call, opened]

theorem call_seed {caches : List CacheDefinition} {result : Except Error Unit} {session : Session}
    {deployment : Deployment}
    (ends : scene.session.seed caches scene.deployment = (result, session, deployment)) :
    scene.call (.seed caches) =
      scene.next session deployment (scene.kept ++ scene.seeded caches) := by
  simp only [call, ends]

theorem call_seed_of_error {e : Error} {session : Session} {deployment : Deployment}
    (refused : scene.session.ensureOpen scene.deployment = (.error e, session, deployment))
    (caches : List CacheDefinition) :
    scene.call (.seed caches) = scene.call .open ∧ scene.seeded caches = [] ∧
      scene.session.seed caches scene.deployment = (.error e, session, deployment) := by
  simp only [call, seeded, Session.seed, refused, List.append_nil, and_self]

theorem call_seed_of_ok {client : Nat} {session : Session} {deployment : Deployment}
    (opened : scene.session.ensureOpen scene.deployment = (.ok client, session, deployment))
    (caches : List CacheDefinition) :
    scene.call (.seed caches) = scene.next session (Session.createAll client caches deployment).2
        (scene.kept ++ scene.seeded caches) ∧
      scene.seeded caches = Session.createdOf client caches deployment ∧
      scene.session.seed caches scene.deployment =
        ((Session.createAll client caches deployment).1, session,
          (Session.createAll client caches deployment).2) := by
  simp only [call, seeded, Session.seed, opened, and_self]

theorem mem_started_next {session : Session} {deployment : Deployment}
    {created : List CacheDefinition} {n : Nat} :
    n ∈ (scene.next session deployment created).started ↔ n ∈ scene.started ∨
      scene.deployment.network.instances.length ≤ n ∧ n < deployment.network.instances.length := by
  simp only [next, List.mem_append, List.mem_filter, List.mem_range, decide_eq_true_eq, and_comm]

theorem mem_started_next_of_alike {session : Session} {deployment : Deployment}
    (alike : scene.deployment.network.Alike deployment.network)
    {created : List CacheDefinition} {n : Nat} :
    n ∈ (scene.next session deployment created).started ↔ n ∈ scene.started := by
  rw [mem_started_next, alike.length_eq]
  exact or_iff_left fun between => Nat.not_le_of_lt between.2 between.1

/-! ### What is left running -/

/-- Of the instances that a session started, the one runs that it has, if it has one, together with
a client; the others are down, and the nodes that it started in vain have ended. -/
structure Owned (scene : Scene) : Prop where
  paired : scene.session.Paired
  client : ∀ client, scene.session.clientNumber = some client →
    client < scene.deployment.clients.length
  up : ∀ n, scene.session.instanceNumber = some n →
    n ∈ scene.started ∧ scene.deployment.network.IsUp n
  down : ∀ n ∈ scene.started, scene.session.instanceNumber ≠ some n →
    scene.deployment.network.IsDown n
  ended : ∀ grid ∈ scene.abandoned, grid.HasEnded

theorem owned_start {session : Session} (closed : session.clientNumber = none)
    (bare : session.instanceNumber = none) (deployment : Deployment) :
    (start session deployment).Owned where
  paired := by rw [start, Session.Paired, closed, bare]
  client client has := nomatch closed.symm.trans has
  up n own := nomatch bare.symm.trans own
  down n mem := nomatch mem
  ended grid mem := nomatch mem

theorem Owned.known (owned : scene.Owned) {n : Nat} (mem : n ∈ scene.started) :
    n < scene.deployment.network.instances.length := by
  have listed {condition : Bool × Bool}
      (found : scene.deployment.network.conditions[n]? = some condition) :
      n < scene.deployment.network.instances.length :=
    Network.length_conditions ▸ (List.getElem?_eq_some_iff.mp found).1
  by_cases own : scene.session.instanceNumber = some n
  · exact listed (owned.up n own).2
  · exact listed (owned.down n mem own)

theorem Owned.others (owned : scene.Owned) {after : Deployment} (spared : scene.Spares after) :
    Owned { scene with deployment := after } where
  paired := owned.paired
  client client has := Nat.lt_of_lt_of_le (owned.client client has) spared.clients
  up n own := by
    obtain ⟨mem, up⟩ := owned.up n own
    exact ⟨mem, (spared.conditions n mem).trans up⟩
  down n mem other := (spared.conditions n mem).trans (owned.down n mem other)
  ended := owned.ended

/-- What a session owns depends on nothing but what it started and what of that runs. -/
theorem Owned.of_alike {other : Scene} (owned : scene.Owned)
    (session : other.session = scene.session)
    (alike : scene.deployment.network.Alike other.deployment.network)
    (clients : other.deployment.clients.length = scene.deployment.clients.length)
    (started : ∀ n, n ∈ other.started ↔ n ∈ scene.started)
    (abandoned : ∀ grid ∈ other.abandoned, grid ∈ scene.abandoned ∨ grid.HasEnded) :
    other.Owned where
  paired := session ▸ owned.paired
  client client has := clients ▸ owned.client client (session ▸ has)
  up n own := by
    obtain ⟨mem, up⟩ := owned.up n (session ▸ own)
    refine ⟨(started n).mpr mem, ?_⟩
    rw [Network.IsUp, alike.1]
    exact up
  down n mem foreign := by
    rw [Network.IsDown, alike.1]
    exact owned.down n ((started n).mp mem) (session ▸ foreign)
  ended grid mem := (abandoned grid mem).elim (owned.ended grid) id

theorem Owned.unchanged (owned : scene.Owned) (created : List CacheDefinition) :
    (scene.next scene.session scene.deployment created).Owned := by
  refine owned.of_alike rfl (.refl _) rfl
    (fun _ => mem_started_next_of_alike (.refl _)) fun grid mem => .inl ?_
  simpa [next] using mem

/-- A node that was started in vain and has ended adds nothing that runs. -/
theorem Owned.withAbandoned (owned : scene.Owned) {grid : Grid} (ended : grid.HasEnded)
    (created : List CacheDefinition) :
    (scene.next scene.session ⟨scene.deployment.network.withAbandoned grid,
      scene.deployment.clients⟩ created).Owned where
  paired := owned.paired
  client := owned.client
  up n own := by
    obtain ⟨mem, up⟩ := owned.up n own
    exact ⟨mem_started_next.mpr (.inl mem), up⟩
  down n mem foreign := by
    refine owned.down n ((mem_started_next.mp mem).elim id fun between => ?_) foreign
    exact absurd between.2 (Nat.not_lt_of_le between.1)
  ended other mem := by
    have listed : other ∈ scene.abandoned ∨ other = grid := by
      simpa [next, Network.withAbandoned] using mem
    rcases listed with old | rfl
    · exact owned.ended other old
    · exact ended

/-- An attempt to open a session that starts an instance leaves it running if and only if the
session has it afterwards. -/
theorem Owned.withInstance (owned : scene.Owned) (bare : scene.session.instanceNumber = none)
    {session : Session} {i : Instance} {clients : List (ThinClient Connection)}
    (paired : session.Paired)
    (client : ∀ client, session.clientNumber = some client → client < clients.length)
    (own : session.instanceNumber = none ∧ i.condition = (false, false) ∨
      session.instanceNumber = some scene.deployment.network.instances.length ∧
        i.condition = (true, true))
    (created : List CacheDefinition) :
    (scene.next session ⟨scene.deployment.network.withInstance i, clients⟩ created).Owned := by
  have new := scene.deployment.network.conditions_withInstance_self i
  have numbers {n : Nat} (mem : n ∈ (scene.next session
      ⟨scene.deployment.network.withInstance i, clients⟩ created).started) :
      n ∈ scene.started ∨ n = scene.deployment.network.instances.length := by
    refine (mem_started_next.mp mem).imp_right fun between => ?_
    have more : (scene.deployment.network.withInstance i).instances.length =
        scene.deployment.network.instances.length + 1 := List.length_append
    have above : scene.deployment.network.instances.length ≤ n := between.1
    have below : n < (scene.deployment.network.withInstance i).instances.length := between.2
    omega
  have listed : scene.deployment.network.instances.length ∈ (scene.next session
      ⟨scene.deployment.network.withInstance i, clients⟩ created).started := by
    refine mem_started_next.mpr (.inr ⟨Nat.le_refl _, ?_⟩)
    simp [Network.withInstance]
  refine ⟨paired, client, ?_, ?_, ?_⟩
  · intro n has
    have has : session.instanceNumber = some n := has
    rcases own with ⟨none, -⟩ | ⟨some, up⟩
    · cases none.symm.trans has
    · obtain rfl := Option.some.inj (some.symm.trans has)
      exact ⟨listed, new.trans (congrArg _ up)⟩
  · intro n mem foreign
    have foreign : session.instanceNumber ≠ some n := foreign
    rcases numbers mem with old | rfl
    · have spared := Network.conditions_withInstance_of_lt i (owned.known old)
      refine spared.trans (owned.down n old ?_)
      rw [bare]
      exact (Option.some_ne_none n).symm
    · rcases own with ⟨-, down⟩ | ⟨some, -⟩
      · exact new.trans (congrArg _ down)
      · exact absurd some foreign
  · intro grid mem
    refine owned.ended grid ?_
    simpa [next, Network.withInstance] using mem

theorem Owned.open (owned : scene.Owned) : (scene.call .open).Owned := by
  cases ends : scene.session.ensureOpen scene.deployment with | mk result rest
  obtain ⟨session, deployment⟩ := rest
  rw [call_open ends]
  cases owned.paired.opening ends with
  | again has => exact owned.unchanged _
  | refused closed unbound ended => exact owned.withAbandoned ended _
  | abandoned closed down =>
    have bare := owned.paired.instanceNumber_eq_none closed
    exact owned.withInstance bare owned.paired owned.client (.inl ⟨bare, down⟩) _
  | opened closed connected holds =>
    have bare := owned.paired.instanceNumber_eq_none closed
    have up := holds.isUp
    rw [Network.IsUp, Network.conditions_withInstance_self] at up
    refine owned.withInstance bare ?_ ?_ (.inr ⟨rfl, Option.some.inj up⟩) _
    · rfl
    · rintro client ⟨⟩
      simp

theorem Owned.seed (owned : scene.Owned) (caches : List CacheDefinition) :
    (scene.call (.seed caches)).Owned := by
  cases opened : scene.session.ensureOpen scene.deployment with
    | mk result rest
  obtain ⟨session, deployment⟩ := rest
  cases result with
  | error e =>
    rw [(call_seed_of_error opened caches).1]
    exact owned.open
  | ok client =>
    have first := owned.open
    rw [call_open opened] at first
    obtain ⟨alike, clients⟩ := Session.alike_createAll client caches deployment
    rw [(call_seed_of_ok opened caches).1]
    refine first.of_alike rfl alike clients (fun n => ?_) fun grid mem => .inl ?_
    · rw [mem_started_next, mem_started_next, alike.length_eq]
    · rw [next, alike.2] at mem
      exact mem

theorem call_close {session : Session} {deployment : Deployment}
    (closed : scene.session.close scene.deployment = (session, deployment)) :
    scene.call .close = scene.next session deployment scene.created := by
  simp only [call, closed]

theorem Owned.close (owned : scene.Owned) : (scene.call .close).Owned := by
  cases has : scene.session.clientNumber with
  | none =>
    have bare := owned.paired.instanceNumber_eq_none has
    rw [call_close (Session.close_of_bare has bare scene.deployment)]
    exact owned.unchanged _
  | some client =>
    obtain ⟨number, own⟩ := owned.paired.exists_instanceNumber has
    have ends : scene.session.close scene.deployment =
        ({ scene.session with instanceNumber := none, clientNumber := none },
          ⟨scene.deployment.network.close number,
            scene.deployment.clients.modify client ThinClient.close⟩) :=
      Prod.ext (Session.fst_close ..) (Session.snd_close own has scene.deployment)
    have instances : (scene.deployment.network.close number).instances.length =
        scene.deployment.network.instances.length := List.length_modify _ _ _
    rw [call_close ends]
    refine ⟨rfl, nofun, nofun, ?_, ?_⟩
    · intro n mem _
      have old : n ∈ scene.started := by
        refine (mem_started_next.mp mem).elim id fun between => ?_
        have below : n < (scene.deployment.network.close number).instances.length := between.2
        exact absurd (instances ▸ below) (Nat.not_lt_of_le between.1)
      change (scene.deployment.network.close number).IsDown n
      by_cases same : n = number
      · subst same
        exact (owned.up n own).2.close
      · rw [Network.IsDown, Network.conditions_close_of_ne same]
        refine owned.down n old ?_
        rw [own]
        exact fun other => same (Option.some.inj other).symm
    · intro grid mem
      refine owned.ended grid ?_
      simpa [next, Network.close] using mem

theorem Reached.owned {alone : Prop} (reached : Reached alone scene) : scene.Owned := by
  induction reached with
  | start closed bare deployment => exact owned_start closed bare deployment
  | «open» before ih => exact ih.open
  | seed before fit ih => exact ih.seed _
  | close before ih => exact ih.close
  | others before spared left ih => exact ih.others spared

end Scene

end GridSchema
