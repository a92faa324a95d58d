import GridSchema.Error

/-! Errors that are wrapped into errors of whole runs. However often this is done, the exit code
stays that of the innermost error, and it is that of lock contention for nothing else. What is shown
in detail are the errors from the outside in and then all that stands behind the innermost, each of
them once. -/

namespace GridSchema

/-- What stands behind an error: another error, or what was made elsewhere, of which no more is
known than its text and the texts behind it. -/
inductive Source where
  | own (error : Error)
  | foreign (text : String) (behind : List String)

/-- What stands right behind an error. -/
def Error.source? : Error → Option Source
  | snapshotOperation _ source => some (.own source)
  | io fault => some (.foreign fault.text fault.sources)
  | yaml (.stated text sources) | json (.stated text sources) => some (.foreign text sources)
  | _ => none

namespace Source

def text : Source → String
  | own error => error.message
  | foreign text _ => text

def source? : Source → Option Source
  | own error => error.source?
  | foreign _ [] => none
  | foreign _ (text :: behind) => some (.foreign text behind)

/-- The sources met on the way from one to what stands right behind it, until nothing does. -/
inductive Traced : Option Source → List Source → Prop where
  | done : Traced none []
  | next {source : Source} {sources : List Source} (behind : Traced source.source? sources) :
      Traced (some source) (source :: sources)

theorem traced_foreign (first : String) (behind : List String) :
    ∃ sources, Traced (some (foreign first behind)) sources ∧
      sources.map text = first :: behind := by
  induction behind generalizing first with
  | nil => exact ⟨_, .next .done, rfl⟩
  | cons second behind ih =>
    obtain ⟨sources, traced, texts⟩ := ih second
    exact ⟨_, .next traced, by rw [List.map_cons, texts]; rfl⟩

end Source

namespace Error

open Source

/-! ### What is shown in detail -/

/-- The causes of an error are the texts of its sources. -/
theorem traced_source? (e : Error) :
    ∃ sources, Traced e.source? sources ∧ sources.map text = e.causes := by
  induction e with
  | snapshotOperation fault source ih =>
    obtain ⟨sources, traced, texts⟩ := ih
    exact ⟨_, .next traced, by rw [List.map_cons, texts]; rfl⟩
  | io fault => exact traced_foreign fault.text fault.sources
  | yaml fault | json fault =>
    cases fault with
    | untold => exact ⟨[], .done, rfl⟩
    | stated text sources => exact traced_foreign text sources
  | _ => exact ⟨[], .done, rfl⟩

/-- Texts in detail: the first as the error, and the others as causes, which are numbered. -/
def inDetail : List String → String
  | [] => ""
  | outermost :: causes =>
    "Error: " ++ outermost ++ "\n" ++ String.join ((causes.zipIdx 1).map fun (cause, number) =>
      "\nCaused by:\n  " ++ toString number ++ ": " ++ cause)

theorem causeEntries_eq_join (depth : Nat) (causes : List String) :
    causeEntries depth causes = String.join ((causes.zipIdx depth).map fun (cause, number) =>
      "\nCaused by:\n  " ++ toString number ++ ": " ++ cause) := by
  induction causes generalizing depth with
  | nil => rfl
  | cons cause causes ih =>
    have entry : causeEntries depth (cause :: causes) =
        "\nCaused by:\n  " ++ toString depth ++ ": " ++ cause ++ causeEntries (depth + 1) causes := rfl
    rw [entry, ih, List.zipIdx_cons, List.map_cons, String.join_cons]

theorem detailed_eq_inDetail (e : Error) : e.detailed = inDetail (e.message :: e.causes) := by
  rw [detailed, causeEntries_eq_join, inDetail]

/-! ### Errors that are wrapped -/

/-- An error that is wrapped once for each of some faults, of which the first is outermost. -/
def within (faults : List RunFault) (e : Error) : Error :=
  faults.foldr snapshotOperation e

theorem exitCode_within (faults : List RunFault) (e : Error) :
    (within faults e).exitCode = e.exitCode := by
  induction faults with
  | nil => rfl
  | cons fault faults ih => exact ih

theorem isLockContention_within (faults : List RunFault) (e : Error) :
    (within faults e).isLockContention = e.isLockContention := by
  induction faults with
  | nil => rfl
  | cons fault faults ih => exact ih

theorem texts_within (faults : List RunFault) (e : Error) :
    (within faults e).message :: (within faults e).causes =
      faults.map (fun fault => "Snapshot operation failed: " ++ fault.text) ++
        e.message :: e.causes := by
  induction faults with
  | nil => rfl
  | cons fault faults ih =>
    rw [List.map_cons, List.cons_append, ← ih]
    rfl

/-- Exactly the errors that are lock contention, wrapped or not, have its exit code. -/
theorem isLockContention_iff_exitCode (e : Error) :
    e.isLockContention = true ↔ e.exitCode = 3 := by
  induction e with
  | snapshotOperation fault source ih => exact ih
  | _ => simp [isLockContention, exitCode]

/-- However often an error is wrapped, it keeps its exit code and stays lock contention or not,
which the exit code tells. In detail there is the text of the outermost error, and as its causes
follow the texts of those that it wraps down to the error itself, and those of the sources met
behind that. -/
theorem wrapped_unchanged (faults : List RunFault) (e : Error) :
    (within faults e).exitCode = e.exitCode ∧
      (within faults e).isLockContention = e.isLockContention ∧
      (e.isLockContention = true ↔ e.exitCode = 3) ∧
      ∃ sources, Traced e.source? sources ∧
        (within faults e).detailed =
          inDetail (faults.map (fun fault => "Snapshot operation failed: " ++ fault.text) ++
            e.message :: sources.map text) := by
  refine ⟨exitCode_within faults e, isLockContention_within faults e,
    isLockContention_iff_exitCode e, ?_⟩
  obtain ⟨sources, traced, texts⟩ := e.traced_source?
  refine ⟨sources, traced, ?_⟩
  rw [detailed_eq_inDetail, texts_within, texts]

example : (within [.locking, .creation] (.io .notFound)).detailed =
    "Error: Snapshot operation failed: cannot lock snapshot file\n" ++
    "\nCaused by:\n  1: Snapshot operation failed: snapshot creation failed" ++
    "\nCaused by:\n  2: IO error: No such file or directory (os error 2)" ++
    "\nCaused by:\n  3: No such file or directory (os error 2)" := by decide +kernel

end Error

end GridSchema
