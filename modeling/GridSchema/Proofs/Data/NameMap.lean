import GridSchema.Data.NameMap
import GridSchema.Proofs.Basic

/-! What is found in a map of names after a change, and maps made of their own entries. -/

namespace GridSchema

namespace NameMap

variable {α : Type} {name other : String} {value : α}

theorem lookup_cons_eq_ite (key : String) (old : α) (rest : List (String × α)) (name : String) :
    ((key, old) :: rest).lookup name = if name = key then some old else rest.lookup name := by
  by_cases same : name = key
  · simp [same]
  · rw [List.lookup_cons, beq_eq_false_iff_ne.mpr same, if_neg same]

theorem lookup_insertEntry (entries : List (String × α)) (name other : String) (value : α) :
    (insertEntry name value entries).lookup other =
      if other = name then some value else entries.lookup other := by
  induction entries with
  | nil => rw [insertEntry, lookup_cons_eq_ite]
  | cons head rest ih =>
    obtain ⟨key, old⟩ := head
    by_cases found : other = name
    · subst found
      rw [insertEntry, if_pos rfl]
      split_ifs with before here
      · rw [lookup_cons_eq_ite, if_pos rfl]
      · rw [lookup_cons_eq_ite, if_pos rfl]
      · rw [lookup_cons_eq_ite, if_neg here, ih, if_pos rfl]
    · rw [if_neg found] at ih ⊢
      rw [insertEntry]
      split_ifs with before here
      · rw [lookup_cons_eq_ite, if_neg found]
      · rw [lookup_cons_eq_ite, if_neg found, lookup_cons_eq_ite, if_neg (here ▸ found)]
      · rw [lookup_cons_eq_ite, lookup_cons_eq_ite, ih]

@[simp] theorem find?_empty (name : String) : (∅ : NameMap α).find? name = none := rfl

theorem find?_insert (m : NameMap α) (name other : String) (value : α) :
    (m.insert name value).find? other = if other = name then some value else m.find? other :=
  lookup_insertEntry m.entries name other value

theorem find?_erase (m : NameMap α) (name other : String) :
    (m.erase name).find? other = if other = name then none else m.find? other :=
  lookup_filter_ne m.entries name other

theorem mem_names_iff {m : NameMap α} : name ∈ m.names ↔ (m.find? name).isSome := by
  unfold names find?
  induction m.entries with
  | nil => simp
  | cons head rest ih =>
    obtain ⟨key, old⟩ := head
    rw [List.map_cons, List.mem_cons, ih, lookup_cons_eq_ite]
    by_cases same : name = key <;> simp [same]

theorem find?_of_mem {m : NameMap α} (mem : (name, value) ∈ m.entries) :
    m.find? name = some value := by
  obtain ⟨front, back, entries⟩ := List.append_of_mem mem
  have increasing := m.increasing
  rw [entries] at increasing
  have before := (List.pairwise_append.mp increasing).2.2
  refine List.lookup_eq_some_iff.mpr ⟨front, back, entries, ?_⟩
  intro e he
  have lt : e.1 < name := before e he _ List.mem_cons_self
  exact bne_iff_ne.mpr (String.ne_of_lt lt).symm

theorem names_increasing (m : NameMap α) : m.names.Pairwise (· < ·) :=
  List.pairwise_map.mpr m.increasing

theorem mem_names_insert {m : NameMap α} :
    other ∈ (m.insert name value).names ↔ other = name ∨ other ∈ m.names := by
  rw [mem_names_iff, mem_names_iff, find?_insert]
  by_cases same : other = name <;> simp [same]

theorem mem_names_ofList {entries : List (String × α)} :
    name ∈ (ofList entries).names ↔ name ∈ entries.map Prod.fst := by
  have grown : ∀ m : NameMap α, name ∈ (entries.foldl (fun m e => m.insert e.1 e.2) m).names ↔
      name ∈ m.names ∨ name ∈ entries.map Prod.fst := by
    induction entries with
    | nil => exact fun m => (or_iff_left List.not_mem_nil).symm
    | cons entry rest ih =>
      intro m
      rw [List.foldl_cons, ih, mem_names_insert, List.map_cons, List.mem_cons, or_assoc,
        or_left_comm]
  exact (grown empty).trans (or_iff_right List.not_mem_nil)

/-! ### Maps made of entries -/

/-- What comes after all entries is put at their end. -/
theorem insertEntry_of_lt {entries : List (String × α)} (name : String) (value : α)
    (above : ∀ e ∈ entries, e.1 < name) :
    insertEntry name value entries = entries ++ [(name, value)] := by
  induction entries with
  | nil => rfl
  | cons head rest ih =>
    obtain ⟨key, old⟩ := head
    have lt : key < name := above _ List.mem_cons_self
    have nlt : ¬ name < key := String.lt_asymm lt
    have ne : name ≠ key := by
      rintro rfl
      exact String.lt_irrefl _ lt
    rw [insertEntry, if_neg nlt, if_neg ne, ih fun e h => above e (List.mem_cons_of_mem _ h)]
    rfl

theorem entries_ofList {entries : List (String × α)} (h : Increasing entries) :
    (ofList entries).entries = entries := by
  have grown (rest : List (String × α)) : ∀ m : NameMap α, Increasing (m.entries ++ rest) →
      (rest.foldl (fun m e => m.insert e.1 e.2) m).entries = m.entries ++ rest := by
    induction rest with
    | nil => exact fun m _ => (List.append_nil _).symm
    | cons head rest ih =>
      intro m increasing
      have above (e) (he : e ∈ m.entries) : e.1 < head.1 :=
        (List.pairwise_append.mp increasing).2.2 e he head List.mem_cons_self
      have next : (m.insert head.1 head.2).entries = m.entries ++ [head] :=
        insertEntry_of_lt head.1 head.2 above
      rw [List.foldl_cons, ih, next, List.append_assoc, List.singleton_append]
      rw [next, List.append_assoc, List.singleton_append]
      exact increasing
  exact grown entries empty h

theorem ofList_entries (m : NameMap α) : ofList m.entries = m := by
  obtain ⟨entries, increasing⟩ := m
  have same := entries_ofList increasing
  cases h : ofList entries
  rw [h] at same
  subst same
  rfl

/-! ### The order of entries -/

theorem eq_of_perm {m n : NameMap α} (perm : m.entries.Perm n.entries) : m = n := by
  obtain ⟨entries, increasing⟩ := m
  obtain ⟨entries', increasing'⟩ := n
  have same : entries = entries' := by
    refine List.Perm.eq_of_pairwise ?_ increasing increasing' perm
    intro a b _ _ before after
    exact absurd after (String.lt_asymm before)
  subst same
  rfl

theorem insertEntry_perm {entries : List (String × α)} (value : α)
    (new : name ∉ entries.map Prod.fst) :
    (insertEntry name value entries).Perm ((name, value) :: entries) := by
  induction entries with
  | nil => exact .refl _
  | cons head rest ih =>
    obtain ⟨key, old⟩ := head
    have other : name ≠ key := fun same => new (same ▸ List.mem_cons_self)
    have later : name ∉ rest.map Prod.fst := fun mem => new (List.mem_cons_of_mem key mem)
    rw [insertEntry, if_neg other]
    split_ifs with before
    · exact .refl _
    · have moved : ((key, old) :: insertEntry name value rest).Perm
          ((key, old) :: (name, value) :: rest) := (ih later).cons (key, old)
      exact moved.trans (.swap ..)

theorem insert_perm (m : NameMap α) (value : α) (new : name ∉ m.names) :
    (m.insert name value).entries.Perm ((name, value) :: m.entries) :=
  insertEntry_perm value new

theorem foldl_insert_perm (m : NameMap α) {entries : List (String × α)}
    (apart : (m.names ++ entries.map Prod.fst).Nodup) :
    (entries.foldl (fun m e => m.insert e.1 e.2) m).entries.Perm (m.entries ++ entries) := by
  induction entries generalizing m with
  | nil =>
    rw [List.append_nil]
    exact .refl _
  | cons head rest ih =>
    have new : head.1 ∉ m.names := by
      intro mem
      have both := (List.nodup_append.mp apart).2.2 head.1 mem head.1 List.mem_cons_self
      exact both rfl
    have inserted := m.insert_perm head.2 new
    have names : ((m.insert head.1 head.2).names ++ rest.map Prod.fst).Perm
        (m.names ++ (head :: rest).map Prod.fst) :=
      ((inserted.map Prod.fst).append_right _).trans List.perm_middle.symm
    have rest := ih (m.insert head.1 head.2) (names.nodup_iff.mpr apart)
    exact rest.trans ((inserted.append_right _).trans List.perm_middle.symm)

theorem entries_ofList_perm {entries : List (String × α)}
    (distinct : (entries.map Prod.fst).Nodup) : (ofList entries).entries.Perm entries :=
  foldl_insert_perm empty distinct

/-- The order in which entries are put into a map does not matter if they have names of their own. -/
theorem ofList_eq_of_perm {entries entries' : List (String × α)} (perm : entries.Perm entries')
    (distinct : (entries.map Prod.fst).Nodup) : ofList entries = ofList entries' := by
  have distinct' : (entries'.map Prod.fst).Nodup := (perm.map Prod.fst).nodup_iff.mp distinct
  have kept := entries_ofList_perm distinct
  have kept' := entries_ofList_perm distinct'
  exact eq_of_perm (kept.trans (perm.trans kept'.symm))

end NameMap

theorem NameSet.mem_names_ofNames {name : String} {names : List String} :
    name ∈ (ofNames names).names ↔ name ∈ names := by
  rw [ofNames, NameMap.mem_names_ofList, List.map_map]
  exact List.mem_map.trans exists_eq_right

theorem NameSet.ofNames_names (s : NameSet) : ofNames s.names = s := by
  have entries : s.names.map (fun n => (n, ())) = s.entries := by
    rw [NameMap.names, List.map_map]
    exact List.map_id _
  rw [ofNames, entries, NameMap.ofList_entries]

end GridSchema
