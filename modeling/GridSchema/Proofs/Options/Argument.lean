import GridSchema.Options.Argument
import GridSchema.Proofs.Snapshot.Index

/-! Raw arguments, and what is left of the options that they are applied to. Only the arguments in
front of the first that is not recognized count: they switch flags on, and the last of those for a
property gives it its value. -/

namespace GridSchema

/-! ### How arguments are written -/

theorem Flag.parse?_eq_some_iff {argument : String} {flag : Flag} :
    parse? argument = some flag ↔ ∃ name ∈ flag.aliases, argument = "-" ++ name := by
  unfold parse?
  constructor
  · intro read
    split at read
    next name spelled =>
      have named := List.find?_some read
      refine ⟨String.ofList name, List.contains_iff_mem.mp named, ?_⟩
      apply String.toList_inj.mp
      simp [spelled]
    next => cases read
  · rintro ⟨name, named, rfl⟩
    simp only [String.toList_append]
    cases flag with
    | degrade =>
      rcases List.mem_cons.mp named with rfl | named
      · rfl
      · obtain rfl := List.mem_singleton.mp named
        rfl
    | full =>
      obtain rfl := List.mem_singleton.mp named
      rfl

namespace Property

def keys (property : Property) : List String :=
  [property.key, domain ++ property.key]

theorem parse?_eq_some_iff {key : String} {property : Property} :
    parse? key = some property ↔ key ∈ property.keys := by
  unfold parse? keys
  constructor
  · intro read
    have found := List.find?_some read
    have named := eq_of_beq found
    cases stripped : stripStart? domain.toList key.toList with
    | none =>
      simp only [stripped] at named
      simp [named]
    | some rest =>
      simp only [stripped] at named
      have spelled := stripStart?_eq_some_iff.mp stripped
      have whole : key = domain ++ property.key := by
        apply String.toList_inj.mp
        simp [named, spelled]
      simp [whole]
  · intro named
    have known : key = property.key ∨ key = domain ++ property.key := by simpa using named
    rcases known with rfl | rfl <;> cases property <;> decide

theorem assign_not_mem {key : String} {property : Property} (named : key ∈ property.keys) :
    '=' ∉ key.toList := by
  have known : key = property.key ∨ key = domain ++ property.key := by simpa [keys] using named
  rcases known with rfl | rfl <;> cases property <;> decide

end Property

theorem splitAssignment?_eq_some_iff {text : List Char} {key value : String} :
    splitAssignment? text = some (key, value) ↔
      '=' ∉ key.toList ∧ text = key.toList ++ '=' :: value.toList := by
  have cut := (List.takeWhile_append_dropWhile (p := (· != '=')) (l := text)).symm
  unfold splitAssignment?
  constructor
  · intro split
    split at split
    next c rest dropped =>
      obtain ⟨rfl, rfl⟩ := Prod.mk.inj (Option.some.inj split)
      have stops : (c != '=') = false := by
        have head := List.head?_dropWhile_not (p := (· != '=')) text
        rw [dropped] at head
        simpa using head
      obtain rfl : c = '=' := by simpa using stops
      refine ⟨?_, ?_⟩
      · intro mem
        have kept := List.all_takeWhile (p := (· != '=')) (l := text)
        have differs := List.all_eq_true.mp kept '=' (by simpa using mem)
        simp at differs
      · rw [dropped] at cut
        simpa using cut
    next => cases split
  · rintro ⟨plain, rfl⟩
    have before : ∀ c ∈ key.toList, (c != '=') = true := by
      intro c mem
      have ne : c ≠ '=' := fun same => plain (same ▸ mem)
      simpa using ne
    simp [List.dropWhile_append_of_pos before, List.takeWhile_append_of_pos before]

namespace Argument

/-- How an argument is written: a dash and a name of a flag, or a dash, a key of a property, an
equals sign and the value. -/
inductive IsWritten : Argument → String → Prop
  | flag {flag : Flag} {name : String} (named : name ∈ flag.aliases) :
    IsWritten (.flag flag) ("-" ++ name)
  | property {property : Property} {key : String} (named : key ∈ property.keys) (value : String) :
    IsWritten (.property property value) ("-" ++ key ++ "=" ++ value)

theorem parse?_eq_some_iff {text : String} {argument : Argument} :
    parse? text = some argument ↔ argument.IsWritten text := by
  unfold parse?
  constructor
  · intro read
    split at read
    next flag named =>
      cases read
      obtain ⟨name, known, rfl⟩ := Flag.parse?_eq_some_iff.mp named
      exact .flag known
    next =>
      split at read
      next rest spelled =>
        obtain ⟨⟨key, value⟩, split, read⟩ := Option.bind_eq_some_iff.mp read
        obtain ⟨property, known, read⟩ := Option.bind_eq_some_iff.mp read
        cases read
        have named := Property.parse?_eq_some_iff.mp known
        obtain ⟨-, rfl⟩ := splitAssignment?_eq_some_iff.mp split
        have whole : text = "-" ++ key ++ "=" ++ value := by
          apply String.toList_inj.mp
          simp [spelled]
        rw [whole]
        exact .property named value
      next => cases read
  · intro written
    cases written with
    | flag named => rw [Flag.parse?_eq_some_iff.mpr ⟨_, named, rfl⟩]
    | @property property key named value =>
      have plain := Property.assign_not_mem named
      have noFlag : Flag.parse? ("-" ++ key ++ "=" ++ value) = none := by
        rw [Option.eq_none_iff_forall_ne_some]
        intro flag read
        obtain ⟨name, known, same⟩ := Flag.parse?_eq_some_iff.mp read
        have assigns : '=' ∈ name.toList := by
          have mem : '=' ∈ ("-" ++ name).toList := by
            rw [← same]
            simp
          simpa using mem
        cases flag <;> simp [Flag.aliases] at known
        · rcases known with rfl | rfl <;> exact absurd assigns (by decide)
        · subst known
          exact absurd assigns (by decide)
      have split : splitAssignment? (key.toList ++ '=' :: value.toList) = some (key, value) :=
        splitAssignment?_eq_some_iff.mpr ⟨plain, rfl⟩
      have spelled : ("-" ++ key ++ "=" ++ value).toList =
          '-' :: (key.toList ++ '=' :: value.toList) := by
        simp
      have known := Property.parse?_eq_some_iff.mpr named
      simp [noFlag, spelled, split, known]

def IsRecognized (text : String) : Prop :=
  ∃ argument : Argument, argument.IsWritten text

theorem isSome_parse?_iff {text : String} : (parse? text).isSome = true ↔ IsRecognized text := by
  simp only [Option.isSome_iff_exists, parse?_eq_some_iff, IsRecognized]

instance (text : String) : Decidable (IsRecognized text) :=
  decidable_of_iff _ isSome_parse?_iff

theorem parse?_eq_none_iff {text : String} : parse? text = none ↔ ¬ IsRecognized text := by
  rw [← isSome_parse?_iff, Option.not_isSome_iff_eq_none]

def accepted (texts : List String) : List String :=
  texts.takeWhile fun text => IsRecognized text

/-- What the arguments that are accepted ask for, in order. -/
def read (texts : List String) : List Argument :=
  (accepted texts).filterMap parse?

def rejected? (texts : List String) : Option String :=
  texts.find? fun text => ¬ IsRecognized text

theorem contains_flag_iff {flag : Flag} {texts : List String} :
    (texts.filterMap parse?).contains (.flag flag) = true ↔
      ∃ name ∈ flag.aliases, "-" ++ name ∈ texts := by
  simp only [List.contains_iff_mem, List.mem_filterMap, parse?_eq_some_iff]
  constructor
  · rintro ⟨text, listed, written⟩
    cases written with
    | @flag _ name named => exact ⟨name, named, listed⟩
  · rintro ⟨name, named, listed⟩
    exact ⟨_, listed, .flag named⟩

theorem accepted_append {front back : List String} (all : ∀ text ∈ front, IsRecognized text) :
    accepted (front ++ back) = front ++ accepted back := by
  unfold accepted
  exact List.takeWhile_append_of_pos fun text mem => decide_eq_true (all text mem)

theorem isRecognized_of_mem_accepted {text : String} {texts : List String}
    (mem : text ∈ accepted texts) : IsRecognized text := by
  have kept := List.all_takeWhile (p := fun text => decide (IsRecognized text)) (l := texts)
  exact of_decide_eq_true (List.all_eq_true.mp kept text mem)

theorem accepted_eq_self {texts : List String} (all : ∀ text ∈ texts, IsRecognized text) :
    accepted texts = texts := by
  unfold accepted
  exact List.takeWhile_eq_self_iff.mpr fun text mem => decide_eq_true (all text mem)

theorem not_isRecognized_of_append {text : String} {texts back : List String}
    (split : texts = accepted texts ++ text :: back) : ¬ IsRecognized text := by
  intro known
  have all : ∀ other ∈ accepted texts, IsRecognized other :=
    fun other mem => isRecognized_of_mem_accepted mem
  have longer : accepted texts = accepted texts ++ accepted (text :: back) := by
    conv => lhs; rw [split]
    exact accepted_append all
  unfold accepted at longer
  rw [List.takeWhile_cons_of_pos (by simpa using known)] at longer
  simp at longer

theorem rejected?_eq_none_iff {texts : List String} :
    rejected? texts = none ↔ ∀ text ∈ texts, IsRecognized text := by
  simp [rejected?]

/-- Nothing is accepted any more from an argument on that is not recognized. -/
theorem accepted_stop {front : List String} (all : ∀ text ∈ front, IsRecognized text)
    {text : String} (unknown : ¬ IsRecognized text) (back : List String) :
    accepted (front ++ text :: back) = front := by
  have stops : accepted (text :: back) = [] := by
    unfold accepted
    rw [List.takeWhile_cons_of_neg (by simpa using unknown)]
  rw [accepted_append all, stops, List.append_nil]

theorem rejected?_stop {front : List String} (all : ∀ text ∈ front, IsRecognized text)
    {text : String} (unknown : ¬ IsRecognized text) (back : List String) :
    rejected? (front ++ text :: back) = some text := by
  unfold rejected?
  rw [List.find?_append, List.find?_eq_none.mpr, Option.none_or,
    List.find?_cons_of_pos (by simpa using unknown)]
  intro other mem
  simpa using all other mem

theorem rejected?_eq_some_iff {text : String} {texts : List String} :
    rejected? texts = some text ↔ ∃ back, texts = accepted texts ++ text :: back := by
  constructor
  · intro found
    unfold rejected? at found
    obtain ⟨unknown, front, back, split, known⟩ := List.find?_eq_some_iff_append.mp found
    have all : ∀ other ∈ front, IsRecognized other := by
      intro other mem
      simpa using known other mem
    have stops : ¬ IsRecognized text := by simpa using unknown
    exact ⟨back, by rw [split, accepted_stop all stops]⟩
  · rintro ⟨back, split⟩
    have unknown := not_isRecognized_of_append split
    rw [split]
    exact rejected?_stop (fun _ mem => isRecognized_of_mem_accepted mem) unknown back

end Argument

/-! ### What arguments do to options -/

theorem Error.message_unknownArgument (text : String) :
    (Error.config (.unknownArgument text)).message =
      "Configuration error: unrecognized snapshot argument '" ++ text ++ "'" := by
  have said : (Error.config (.unknownArgument text)).message =
      "Configuration error: " ++ ("unrecognized snapshot argument '" ++ text ++ "'") := rfl
  have joined : "Configuration error: unrecognized snapshot argument '" =
      "Configuration error: " ++ "unrecognized snapshot argument '" := by decide
  rw [said, joined, String.append_assoc, String.append_assoc, String.append_assoc]

def Argument.valueFor? (property : Property) : Argument → Option String
  | .property other value => if other = property then some value else none
  | .flag _ => none

theorem Argument.valueFor?_eq_some_iff {argument : Argument} {property : Property}
    {value : String} :
    argument.valueFor? property = some value ↔ argument = .property property value := by
  cases argument with
  | flag flag => simp [valueFor?]
  | property other value => simp [valueFor?]

/-- Whether the last element of a list that gives a value gives this one. -/
def LastGives {α β : Type} (gives : α → β → Prop) (list : List α) (value : β) : Prop :=
  ∃ before last behind, list = before ++ last :: behind ∧ gives last value ∧
    ∀ later ∈ behind, ∀ other, ¬ gives later other

theorem findSome?_reverse_eq_some_iff {α β : Type} {f : α → Option β} {gives : α → β → Prop}
    (same : ∀ a b, f a = some b ↔ gives a b) {list : List α} {value : β} :
    list.reverse.findSome? f = some value ↔ LastGives gives list value := by
  have silent (a : α) : f a = none ↔ ∀ other, ¬ gives a other := by
    simp only [Option.eq_none_iff_forall_ne_some, ne_eq, same]
  rw [List.findSome?_eq_some_iff]
  constructor
  · rintro ⟨behind, last, before, split, found, none⟩
    refine ⟨before.reverse, last, behind.reverse, ?_, (same _ _).mp found, ?_⟩
    · have turned := congrArg List.reverse split
      simpa using turned
    · intro later mem
      exact (silent later).mp (none later (List.mem_reverse.mp mem))
  · rintro ⟨before, last, behind, rfl, found, none⟩
    refine ⟨behind.reverse, last, before.reverse, by simp, (same _ _).mpr found, ?_⟩
    intro later mem
    exact (silent later).mpr (none later (List.mem_reverse.mp mem))

namespace Property

variable (property : Property)

def lastValue? (arguments : List Argument) : Option String :=
  arguments.reverse.findSome? (Argument.valueFor? property)

theorem lastValue?_cons (argument : Argument) (arguments : List Argument) :
    property.lastValue? (argument :: arguments) =
      (property.lastValue? arguments).or (argument.valueFor? property) := by
  simp [lastValue?, List.findSome?_append]

section filterMap

variable {α : Type} {f : α → Option Argument} {gives : α → String → Prop}
  (same : ∀ a value, f a = some (.property property value) ↔ gives a value)
include same

/-- The last value among arguments that are made of the elements of a list. -/
theorem lastValue?_filterMap_eq_some_iff {list : List α} {value : String} :
    property.lastValue? (list.filterMap f) = some value ↔ LastGives gives list value := by
  unfold lastValue?
  rw [← List.filterMap_reverse, ← List.head?_filterMap, List.filterMap_filterMap,
    List.head?_filterMap]
  refine findSome?_reverse_eq_some_iff fun a value => ?_
  simp only [Option.bind_eq_some_iff, Argument.valueFor?_eq_some_iff, exists_eq_right, same]

theorem lastValue?_filterMap_eq_none_iff {list : List α} :
    property.lastValue? (list.filterMap f) = none ↔ ∀ a ∈ list, ∀ value, ¬ gives a value := by
  unfold lastValue?
  rw [← List.filterMap_reverse, ← List.head?_filterMap, List.filterMap_filterMap,
    List.head?_filterMap, List.findSome?_eq_none_iff]
  simp only [List.mem_reverse, Option.eq_none_iff_forall_ne_some, ne_eq, Option.bind_eq_some_iff,
    Argument.valueFor?_eq_some_iff, exists_eq_right, same]

end filterMap

/-- The last value among arguments as they are written. -/
theorem lastWritten?_eq_some_iff {texts : List String} {value : String} :
    property.lastValue? (texts.filterMap Argument.parse?) = some value ↔
      LastGives (fun text given => (Argument.property property given).IsWritten text) texts value :=
  property.lastValue?_filterMap_eq_some_iff fun _ _ => Argument.parse?_eq_some_iff

theorem lastWritten?_eq_none_iff {texts : List String} :
    property.lastValue? (texts.filterMap Argument.parse?) = none ↔
      ∀ text ∈ texts, ∀ value, ¬ (Argument.property property value).IsWritten text :=
  property.lastValue?_filterMap_eq_none_iff fun _ _ => Argument.parse?_eq_some_iff

end Property

namespace SnapshotOptions

def value (options : SnapshotOptions) : Property → String
  | .name => options.name
  | .dir => options.dir

def applyAll (options : SnapshotOptions) (arguments : List Argument) : SnapshotOptions :=
  arguments.foldl applyArgument options

/-- Each property has the last value it was given, and each flag that was named is on. -/
theorem applyAll_eq (options : SnapshotOptions) (arguments : List Argument) :
    options.applyAll arguments = {
      dir := (Property.dir.lastValue? arguments).getD options.dir
      name := (Property.name.lastValue? arguments).getD options.name
      degrade := options.degrade || arguments.contains (.flag .degrade)
      full := options.full || arguments.contains (.flag .full)
      caches := options.caches } := by
  induction arguments generalizing options with
  | nil => simp [applyAll, Property.lastValue?]
  | cons argument arguments ih =>
    have step : options.applyAll (argument :: arguments) =
        (options.applyArgument argument).applyAll arguments := rfl
    rw [step, ih, Property.lastValue?_cons, Property.lastValue?_cons]
    cases argument with
    | flag flag =>
      cases flag <;> simp [applyArgument, applyFlag, Argument.valueFor?]
    | property property value =>
      cases property <;> simp [applyArgument, applyProperty, Argument.valueFor?]

theorem value_applyAll (options : SnapshotOptions) (arguments : List Argument)
    (property : Property) :
    (options.applyAll arguments).value property =
      (property.lastValue? arguments).getD (options.value property) := by
  rw [applyAll_eq]
  cases property <;> rfl

theorem applyAll_applyAll (options : SnapshotOptions) (arguments : List Argument) :
    (options.applyAll arguments).applyAll arguments = options.applyAll arguments := by
  have again (given : Option String) (old : String) :
      given.getD (given.getD old) = given.getD old := by
    cases given <;> rfl
  simp only [applyAll_eq, again, Bool.or_assoc, Bool.or_self]

theorem degrade_applyAll_iff (options : SnapshotOptions) (texts : List String) :
    (options.applyAll (texts.filterMap Argument.parse?)).degrade = true ↔
      options.degrade = true ∨ "-unsafe-type" ∈ texts ∨ "-ut" ∈ texts := by
  rw [applyAll_eq, Bool.or_eq_true, Argument.contains_flag_iff]
  simp [Flag.aliases]

theorem full_applyAll_iff (options : SnapshotOptions) (texts : List String) :
    (options.applyAll (texts.filterMap Argument.parse?)).full = true ↔
      options.full = true ∨ "-full" ∈ texts := by
  rw [applyAll_eq, Bool.or_eq_true, Argument.contains_flag_iff]
  simp [Flag.aliases]

theorem applyArguments_eq (options : SnapshotOptions) (texts : List String) :
    options.applyArguments texts = (options.applyAll (Argument.read texts),
      match Argument.rejected? texts with
      | none => .ok ()
      | some text => .error (.config (.unknownArgument text))) := by
  induction texts generalizing options with
  | nil => rfl
  | cons text rest ih =>
    unfold applyArguments Argument.read Argument.accepted Argument.rejected?
    cases read : Argument.parse? text with
    | none =>
      have unknown := Argument.parse?_eq_none_iff.mp read
      simp [unknown, applyAll]
    | some argument =>
      have known : Argument.IsRecognized text := ⟨argument, Argument.parse?_eq_some_iff.mp read⟩
      simp only [ih]
      simp [known, read, applyAll, Argument.read, Argument.accepted, Argument.rejected?]

theorem applyArguments_eq_ok_iff (options : SnapshotOptions) {texts : List String} :
    (options.applyArguments texts).2 = .ok () ↔ ∀ text ∈ texts, Argument.IsRecognized text := by
  rw [applyArguments_eq, ← Argument.rejected?_eq_none_iff]
  cases Argument.rejected? texts <;> simp

/-- Arguments are refused because of the first that is not recognized. -/
theorem applyArguments_eq_error_iff (options : SnapshotOptions) {texts : List String} {e : Error} :
    (options.applyArguments texts).2 = .error e ↔
      ∃ text back, texts = Argument.accepted texts ++ text :: back ∧
        e = .config (.unknownArgument text) := by
  simp only [applyArguments_eq, exists_and_right, ← Argument.rejected?_eq_some_iff]
  cases Argument.rejected? texts with
  | none => simp
  | some text => simp [eq_comm]

/-- What follows the first argument that is not recognized does not matter. -/
theorem applyArguments_stop (options : SnapshotOptions) {texts back : List String} {text : String}
    (split : texts = Argument.accepted texts ++ text :: back) (others : List String) :
    options.applyArguments (Argument.accepted texts ++ text :: others) =
      options.applyArguments texts := by
  have all : ∀ other ∈ Argument.accepted texts, Argument.IsRecognized other :=
    fun other mem => Argument.isRecognized_of_mem_accepted mem
  have unknown := Argument.not_isRecognized_of_append split
  have same : Argument.read (Argument.accepted texts ++ text :: others) = Argument.read texts := by
    unfold Argument.read
    rw [Argument.accepted_stop all unknown]
  have named := Argument.rejected?_eq_some_iff.mpr ⟨back, split⟩
  simp only [applyArguments_eq, same, Argument.rejected?_stop all unknown, named]

/-- What raw arguments do, exactly. Only those in front of the first that is not recognized count.
A flag is on if it was or is named among them; a property has the value of the last of them for it,
or the one it had; the caches stay. It fails if and only if an argument is not recognized, with an
error that quotes the first such one, whatever follows that. Arguments that were applied without an
error change nothing when they are applied again. -/
theorem arguments_exact (options : SnapshotOptions) (texts : List String) :
    let (after, outcome) := options.applyArguments texts
    let front := Argument.accepted texts
    (after.degrade = true ↔
      options.degrade = true ∨ "-unsafe-type" ∈ front ∨ "-ut" ∈ front) ∧
    (after.full = true ↔ options.full = true ∨ "-full" ∈ front) ∧
    (∀ property value,
      LastGives (fun text given => (Argument.property property given).IsWritten text) front value →
      after.value property = value) ∧
    (∀ property,
      (∀ text ∈ front, ∀ given, ¬ (Argument.property property given).IsWritten text) →
      after.value property = options.value property) ∧
    after.caches = options.caches ∧
    (outcome = .ok () ↔ ∀ text ∈ texts, Argument.IsRecognized text) ∧
    (∀ e, outcome = .error e ↔ ∃ text back, texts = front ++ text :: back ∧
      e = .config (.unknownArgument text) ∧
      e.message = "Configuration error: unrecognized snapshot argument '" ++ text ++ "'") ∧
    (∀ text back others, texts = front ++ text :: back →
      options.applyArguments (front ++ text :: others) = (after, outcome)) ∧
    (outcome = .ok () → after.applyArguments texts = (after, .ok ())) := by
  cases ends : options.applyArguments texts with | mk after outcome
  have applied : after = options.applyAll (Argument.read texts) := by
    rw [applyArguments_eq] at ends
    exact (congrArg Prod.fst ends).symm
  have told : (options.applyArguments texts).2 = outcome := by rw [ends]
  refine ⟨?_, ?_, ?_, ?_, ?_, ?_, ?_, ?_, ?_⟩
  · rw [applied]
    exact options.degrade_applyAll_iff _
  · rw [applied]
    exact options.full_applyAll_iff _
  · intro property value last
    have found : property.lastValue? (Argument.read texts) = some value :=
      property.lastWritten?_eq_some_iff.mpr last
    rw [applied, value_applyAll, found, Option.getD_some]
  · intro property silent
    have missing : property.lastValue? (Argument.read texts) = none :=
      property.lastWritten?_eq_none_iff.mpr silent
    rw [applied, value_applyAll, missing, Option.getD_none]
  · rw [applied, applyAll_eq]
  · rw [← told, applyArguments_eq_ok_iff]
  · intro e
    rw [← told, applyArguments_eq_error_iff]
    constructor
    · rintro ⟨text, back, split, rfl⟩
      exact ⟨text, back, split, rfl, Error.message_unknownArgument text⟩
    · rintro ⟨text, back, split, named, -⟩
      exact ⟨text, back, split, named⟩
  · intro text back others split
    rw [options.applyArguments_stop split, ends]
  · rintro rfl
    have all := options.applyArguments_eq_ok_iff.mp told
    have done := after.applyArguments_eq_ok_iff.mpr all
    have again : (after.applyArguments texts).1 = after := by
      rw [applyArguments_eq, applied, applyAll_applyAll]
    exact Prod.ext again done

/-- Flags and properties, under each kind of key, and an argument that is neither among them. -/
def mixedArguments : List String :=
  ["-ut", "-snapshot.name=a", "-flyway.snapshot.dir=out", "-flyway.snapshot.name=b=c", "-verbose",
    "-full", "-snapshot.dir=late"]

theorem arguments_exact_mixed :
    let options : SnapshotOptions := ⟨"d", "n", false, false, ["x"]⟩
    options.applyArguments mixedArguments =
      (⟨"out", "b=c", true, false, ["x"]⟩, .error (.config (.unknownArgument "-verbose"))) := by
  intro options
  have exact := arguments_exact options mixedArguments
  have front : Argument.accepted mixedArguments =
      ["-ut", "-snapshot.name=a", "-flyway.snapshot.dir=out", "-flyway.snapshot.name=b=c"] := by
    decide +kernel
  rw [front] at exact
  generalize options.applyArguments mixedArguments = ending at exact
  obtain ⟨⟨dir, name, degrade, full, caches⟩, outcome⟩ := ending
  obtain ⟨degrades, covers, gives, -, rest, -, fails, -⟩ := exact
  have isName : (Argument.property .name "b=c").IsWritten "-flyway.snapshot.name=b=c" :=
    Argument.parse?_eq_some_iff.mp (by decide)
  have isDir : (Argument.property .dir "out").IsWritten "-flyway.snapshot.dir=out" :=
    Argument.parse?_eq_some_iff.mp (by decide)
  have named : name = "b=c" :=
    gives .name "b=c" ⟨["-ut", "-snapshot.name=a", "-flyway.snapshot.dir=out"], _, [], rfl, isName,
      nofun⟩
  have placed : dir = "out" := by
    refine gives .dir "out" ⟨["-ut", "-snapshot.name=a"], _, [_], rfl, isDir, ?_⟩
    intro later last other written
    obtain rfl := List.mem_singleton.mp last
    have read := Argument.parse?_eq_some_iff.mpr isName
    cases read.symm.trans (Argument.parse?_eq_some_iff.mpr written)
  have on : degrade = true := degrades.mpr (by decide)
  have off : full = false := by
    refine Bool.eq_false_iff.mpr fun on => ?_
    exact absurd (covers.mp on) (by decide)
  have kept : caches = ["x"] := rest
  have failed := (fails (.config (.unknownArgument "-verbose"))).mpr
    ⟨"-verbose", _, rfl, rfl, Error.message_unknownArgument "-verbose"⟩
  subst named placed on off kept failed
  rfl

end SnapshotOptions

end GridSchema
