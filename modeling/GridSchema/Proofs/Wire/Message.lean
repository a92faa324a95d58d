import GridSchema.Proofs.Cache.Record

/-! Messages are read back from the values that stand for them. -/

namespace GridSchema

namespace Wire

/-- The tag of a message and its other members are told apart. -/
theorem tagged?_ofFields {key : String} (tag : String) {rest : List (String × Json)}
    (once : ∀ field ∈ rest, field.1 ≠ key) :
    tagged? key (.ofFields ((key, .ofText tag) :: rest)) = some (.members tag rest) := by
  have none : rest.filter (·.1 == key) = [] :=
    List.filter_eq_nil_iff.mpr fun field h same => once field h (eq_of_beq same)
  have others : rest.filter (·.1 != key) = rest :=
    List.filter_eq_self.mpr fun field h => bne_iff_ne.mpr (once field h)
  have members := Json.members?_ofFields ((key, .ofText tag) :: rest)
  rw [tagged?, members]
  · simp [none, others, Json.text?_ofText]
  · exact nofun

theorem only?_member {α : Type} {read : Json → Option α} (tag name : String) {value : Json}
    {a : α} (back : read value = some a) :
    (Tagged.members tag [(name, value)]).only? name read = some a := by
  simp [Tagged.only?, Tagged.fields?, Reader.assign, back]

end Wire

open Json (Written)

theorem Request.ofJson?_toJson (request : Request) :
    Request.ofJson? request.toJson = some request := by
  cases request with
  | cacheNames =>
    rw [ofJson?, toJson, Wire.tagged?_ofFields _ (by simp)]
    rfl
  | cacheConfiguration name =>
    rw [ofJson?, toJson, Wire.tagged?_ofFields _ (by simp)]
    simp [Wire.Tagged.tag, Wire.only?_member _ _ (Wire.text?_ofText name)]
  | createCache cache =>
    rw [ofJson?, toJson, Wire.tagged?_ofFields _ (by simp)]
    simp [Wire.Tagged.tag, Wire.only?_member _ _ cache.read_toJson]
  | destroyCache name =>
    rw [ofJson?, toJson, Wire.tagged?_ofFields _ (by simp)]
    simp [Wire.Tagged.tag, Wire.only?_member _ _ (Wire.text?_ofText name)]

theorem FailureKind.ofName?_name (kind : FailureKind) : ofName? kind.name = some kind := by
  cases kind <;> rfl

theorem Response.ofJson?_toJson (response : Response) :
    Response.ofJson? response.toJson = some response := by
  cases response with
  | cacheNames names =>
    rw [ofJson?, toJson, Wire.tagged?_ofFields _ (by simp)]
    simp [Wire.Tagged.tag, Wire.only?_member _ _ (Wire.texts?_ofTexts names)]
  | cacheConfiguration cache =>
    rw [ofJson?, toJson, Wire.tagged?_ofFields _ (by simp)]
    simp [Wire.Tagged.tag, Wire.only?_member _ _ cache.read_toJson]
  | done =>
    rw [ofJson?, toJson, Wire.tagged?_ofFields _ (by simp)]
    rfl
  | failure kind message =>
    rw [ofJson?, toJson, Wire.tagged?_ofFields _ (by simp)]
    have fields : (Wire.Tagged.members "error"
        [("kind", .ofText kind.name), ("message", .ofText message)]).fields? ["kind", "message"] =
          some [some (.ofText kind.name), some (.ofText message)] :=
      Reader.assign_given ["kind", "message"] (by decide)
        [some (Json.ofText kind.name), some (Json.ofText message)] rfl
    simp [Wire.Tagged.tag, fields, Wire.choice?_ofText, Wire.text?_ofText,
      FailureKind.ofName?_name]

theorem Request.written (request : Request) : Written 6 request.toJson := by
  cases request <;> exact .object _ (by simp [Written.text, CacheDefinition.written])

theorem Response.written (response : Response) : Written 6 response.toJson := by
  cases response <;>
    exact .object _ (by simp [Written.text, Written.texts, CacheDefinition.written])

end GridSchema
