import GridSchema.Proofs.Network.Events

/-! What was created can be read back, unless its definition is so long that the answer, which has
more around it than the request had, is over the limit. -/

namespace GridSchema

/-! ### Sizes of messages -/

theorem size_words :
    (Json.escape "op").utf8ByteSize = 2 ∧ (Json.escape "create_cache").utf8ByteSize = 12 ∧
      (Json.escape "status").utf8ByteSize = 6 ∧
      (Json.escape "cache_configuration").utf8ByteSize = 19 ∧
      (Json.escape "name").utf8ByteSize = 4 ∧ (Json.escape "cache").utf8ByteSize = 5 := by
  decide

/-- A definition takes more room in an answer than in the request to create it. -/
theorem size_cacheConfiguration (cache : CacheDefinition) :
    (Response.cacheConfiguration cache).toJson.size =
      (Request.createCache cache).toJson.size + 11 := by
  simp only [Response.toJson, Request.toJson, Json.ofFields, List.map, Json.ofText, Json.size,
    Json.sizeMembers, size_words]
  omega

/-- Of a cache's name only the spelling counts for the room that the cache takes. -/
theorem size_createCache_rename (cache : CacheDefinition) (name : String) :
    (Request.createCache { cache with name }).toJson.size + (Json.escape cache.name).utf8ByteSize =
      (Request.createCache cache).toJson.size + (Json.escape name).utf8ByteSize := by
  simp only [Request.toJson, CacheDefinition.toJson, Json.ofFields, List.map, List.cons_append,
    Json.ofText, Json.size, Json.sizeMembers]
  omega

theorem fits_cacheConfiguration_iff (cache : CacheDefinition) :
    (Response.cacheConfiguration cache).Fits ↔
      (Utf8.encode (Request.createCache cache).toJson.render).length + 11 ≤ Wire.maxFrame := by
  rw [Response.fits_iff, Json.length_encode_render, size_cacheConfiguration]

/-- Whoever could ask for a cache to be created can ask for it by name. -/
theorem fits_of_fits_createCache {cache : CacheDefinition}
    (fits : (Request.createCache cache).Fits) : (Request.cacheConfiguration cache.name).Fits := by
  rw [Request.fits_iff] at fits ⊢
  refine Nat.le_trans ?_ fits
  simp only [Request.toJson, CacheDefinition.toJson, Json.ofFields, List.map, List.cons_append,
    Json.ofText, Json.size, Json.sizeMembers, size_words]
  omega

namespace ThinClient

variable {κ ω : Type} {peer : Peer κ ω}

/-! ### Calls by what they return -/

theorem call_of_create {cache : CacheDefinition} {world : ThinClient κ × ω}
    {result : Except Error Unit} {world' : ThinClient κ × ω}
    (created : create peer cache world = (result, world')) :
    call peer (.createCache cache) world = (result.map fun _ => .done, world') := by
  simp only [call, created]

theorem create_of_call {cache : CacheDefinition} {world world' : ThinClient κ × ω}
    (called : call peer (.createCache cache) world = (.ok .done, world')) :
    create peer cache world = (.ok (), world') := by
  rcases returned : create peer cache world with ⟨result, next⟩
  simp only [call, returned] at called
  cases result <;> cases called
  rfl

/-- What asking for a definition returns, by what is recorded for it. -/
theorem definition_of_call {name : String} {world : ThinClient κ × ω}
    {result : Except Error CacheDefinition}
    (called : (call peer (.cacheConfiguration name) world).1 = result.map .cacheConfiguration) :
    (definition peer name world).1 = result := by
  simp only [call] at called
  generalize (definition peer name world).1 = returned at called
  cases returned <;> cases result <;> cases called <;> rfl

/-! ### Creating and reading back -/

/-- A call that succeeded, by a client that had nothing left to read, was answered by an open
instance that is at rest before and after. -/
theorem call_eq_ok {client client' : ThinClient Connection} {network network' : Network}
    (inStep : client.InStep) (ready : network.Ready) {request : Request} {answer : Response}
    (called : call Network.peer request (client, network) = (.ok answer, client', network')) :
    ∃ number registry, network.Holds number registry ∧ registry.answer request = answer ∧
      answer.answers request = true ∧ request.Fits ∧
      client'.link = some ⟨[], number, true⟩ ∧ network'.Holds number (registry.after request) := by
  have ok : (record Network.peer Network.reply request (client, network)).result = .ok answer :=
    congrArg Prod.fst called
  obtain ⟨sent, answered, fits, decoded⟩ :=
    (record_paired Network.replies inStep request network).1.of_ok ok
  obtain ⟨rfl, kind⟩ := Request.decode_eq_ok decoded
  obtain ⟨_ | ⟨unread, connection⟩, endpoint, user, schema⟩ := client
  · exact nomatch answered
  obtain rfl : unread = [] := inStep _ rfl
  obtain ⟨number, registry, rfl, -, holds, within⟩ := ready.of_reply answered
  obtain ⟨next, replied, holds'⟩ := holds.reply within
  have same : registry.answer request = sent := by
    have first := congrArg Prod.fst replied
    exact (Option.some.inj (answered.symm.trans first)).symm
  have made := call_of_fits endpoint user schema Network.replies (same ▸ replied) fits
  obtain ⟨-, rfl, rfl⟩ : _ ∧ client' = _ ∧ network' = _ := by
    simpa using called.symm.trans made
  exact ⟨number, registry, holds, same, kind, within, rfl, holds'⟩

/-- What a cache is read back as, by a client that had nothing left to read when it created it. -/
theorem definition_after_create {client reading : ThinClient Connection}
    {network network' : Network} (inStep : client.InStep) (ready : network.Ready)
    {cache : CacheDefinition}
    (created : create Network.peer cache (client, network) = (.ok (), reading, network')) :
    (definition Network.peer cache.name (reading, network')).1 =
      if (Response.cacheConfiguration cache).Fits then .ok cache else .error .oversizedAnswer := by
  obtain ⟨number, registry, -, stored, -, fits, link, holds⟩ :=
    call_eq_ok inStep ready (call_of_create created)
  -- to ask by name takes less room than to create, so that only the answer may be over the limit
  obtain ⟨next, replied, -⟩ := holds.reply (fits_of_fits_createCache fits)
  rw [Registry.answer_cacheConfiguration_eq_iff.mpr (Registry.find?_after_createCache stored)]
    at replied
  obtain ⟨_, endpoint, user, schema⟩ := reading
  obtain rfl := link
  refine definition_of_call ?_
  split_ifs with read
  · rw [call_of_fits endpoint user schema Network.replies replied read]
    rfl
  · rw [call_of_not_fits endpoint user schema Network.replies replied read]
    rfl

/-- A cache that was created, on a client whose earlier calls all succeeded, is read back when it is
asked for next, unless the request to create it came within eleven bytes of the limit: then the
answer is over it. -/
theorem created_cache_read_back (addressed : Bool) (events : List NetworkEvent)
    (calls : List (List NetworkEvent × Request)) (meanwhile : List NetworkEvent)
    (client : ThinClient Connection) (cache : CacheDefinition)
    {creating reading : ThinClient Connection} {network network' : Network}
    (inStep : client.InStep)
    (succeeded : ∀ record ∈ history Network.peer Network.reply (Network.turns calls)
        (client, (Network.empty addressed).run events), ∃ answer, record.result = .ok answer)
    (now : after Network.peer (Network.turns calls)
        (client, (Network.empty addressed).run events) = (creating, network))
    (created : create Network.peer cache (creating, network.run meanwhile) =
        (.ok (), reading, network')) :
    (definition Network.peer cache.name (reading, network')).1 =
      if (Utf8.encode (Request.createCache cache).toJson.render).length + 11 ≤ Wire.maxFrame
      then .ok cache else .error .oversizedAnswer := by
  have kept : creating.InStep := by
    have kept := inStep_after Network.replies inStep succeeded
    rwa [now] at kept
  have ready : network.Ready := by
    have ready : (after Network.peer (Network.turns calls)
        (client, (Network.empty addressed).run events)).2.Ready :=
      kind_after Network.Ready Network.Ready.peer Network.Ready.meanwhile
        ((Network.ready_empty addressed).run events)
    rwa [now] at ready
  rw [definition_after_create kept (ready.run meanwhile) created]
  simp only [fits_cacheConfiguration_iff]

theorem created_cache_read_back_odd : ∃ client reading network network',
    after Network.peer (Network.turns [([], .cacheNames)])
        (lone, (Network.empty true).run [.start ⟨defaultHost, 4000⟩]) = (client, network) ∧
      create Network.peer Wire.oddCache (client, network.run []) = (.ok (), reading, network') ∧
      (definition Network.peer Wire.oddCache.name (reading, network')).1 = .ok Wire.oddCache := by
  have fits : Request.Fits .cacheNames ∧ (Registry.answer ∅ .cacheNames).Fits := by
    simp only [Request.fits_iff, Response.fits_iff]
    decide +kernel
  obtain ⟨network, listed, holds⟩ := connectedTo_lone.call Network.holds_lone fits.1 fits.2
  obtain ⟨network', _, made, -⟩ := calls_lone holds
  have now : after Network.peer (Network.turns [([], .cacheNames)])
      (lone, (Network.empty true).run [.start ⟨defaultHost, 4000⟩]) = (lone, network) :=
    take_of_call listed
  have succeeded : ∀ record ∈ history Network.peer Network.reply (Network.turns [([], .cacheNames)])
      (lone, (Network.empty true).run [.start ⟨defaultHost, 4000⟩]),
      ∃ answer, record.result = .ok answer :=
    List.forall_mem_singleton.mpr ⟨_, result_of_call Network.reply listed⟩
  refine ⟨lone, lone, network, network', now, create_of_call made, ?_⟩
  rw [created_cache_read_back true _ _ [] lone Wire.oddCache inStep_lone succeeded now
    (create_of_call made), Json.length_encode_render]
  exact if_pos (by decide +kernel)

/-! ### A definition close to the limit -/

/-- A cache whose name is an `n` over and over. -/
def longCache (length : Nat) : CacheDefinition :=
  .bare (String.ofList (List.replicate length 'n'))

theorem size_longCache (length : Nat) :
    (Request.createCache (longCache length)).toJson.size = length + 139 := by
  have renamed := size_createCache_rename (.bare "") (String.ofList (List.replicate length 'n'))
  have sizes : (Request.createCache (.bare "")).toJson.size = 139 ∧
      (Json.escape (CacheDefinition.bare "").name).utf8ByteSize = 0 := by
    decide
  have escaped : Json.escapeChar 'n' = ['n'] := rfl
  have encoded : String.utf8EncodeChar 'n' = [0x6E] := rfl
  rw [Json.escape_replicate escaped, ← Utf8.length_encode (String.ofList _),
    Utf8.encode_replicate encoded, List.length_replicate, sizes.1, sizes.2] at renamed
  exact renamed.trans (Nat.add_comm 139 length)

theorem longCache_not_read_back {length : Nat} (fits : length + 139 ≤ Wire.maxFrame)
    (long : Wire.maxFrame < length + 139 + 11) :
    ∃ network, create Network.peer (longCache length) (lone, Network.lone) =
        (.ok (), lone, network) ∧
      (definition Network.peer (longCache length).name (lone, network)).1 =
        .error .oversizedAnswer := by
  have asked : Request.Fits (.createCache (longCache length)) := by
    rw [Request.fits_iff, size_longCache]
    exact fits
  have done : (Registry.answer ∅ (.createCache (longCache length))).Fits := fits_oddCache.2.1
  obtain ⟨network, made, -⟩ := connectedTo_lone.call Network.holds_lone asked done
  have created := create_of_call made
  refine ⟨network, created, ?_⟩
  have ready : Network.lone.Ready := (Network.ready_empty true).start ⟨defaultHost, 4000⟩
  rw [definition_after_create inStep_lone ready created, if_neg]
  rw [fits_cacheConfiguration_iff, Json.length_encode_render, size_longCache]
  exact Nat.not_le.mpr long

/-- A cache that is created with a request of just the limit is not read back. -/
theorem created_cache_not_read_back : ∃ reading network,
    create Network.peer (longCache (Wire.maxFrame - 139)) (lone, Network.lone) =
        (.ok (), reading, network) ∧
      (definition Network.peer (longCache (Wire.maxFrame - 139)).name (reading, network)).1 ≠
        .ok (longCache (Wire.maxFrame - 139)) := by
  have room : Wire.maxFrame - 139 + 139 = Wire.maxFrame := Nat.sub_add_cancel (by decide)
  obtain ⟨network, created, read⟩ := longCache_not_read_back (Nat.le_of_eq room) (by omega)
  refine ⟨lone, network, created, ?_⟩
  rw [read]
  exact nofun

end ThinClient

end GridSchema
