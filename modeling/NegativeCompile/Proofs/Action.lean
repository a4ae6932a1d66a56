import NegativeCompile.World

/-! # Performing actions

Performing an action follows the way in which it was built: one equation for each of its parts. An
action that is followed by another one succeeds just if both do, the second one in the world that
the first one leaves.

What an action makes of the world, whether it succeeds or not, is told by frames: an action stays in a
frame if its parts do (`Action.Stays`). Changes of files are the frames that look at files only.

Many actions print or write files but leave alone what paths lead to (`Action.KeepsPaths`). This is
what verdicts depend on: they look at files only to tell which file a diagnostic is about. -/

namespace NegativeCompile

open Files

/-- The world with something else on the error stream. -/
def World.withErrors (world : World) (errors : String) : World :=
  { world with console := { world.console with errors := errors } }

/-- The world with something else on the output stream. -/
def World.withOutput (world : World) (output : String) : World :=
  { world with console := { world.console with output := output } }

namespace World

@[simp] theorem withErrors_tree (world : World) (errors : String) :
    (world.withErrors errors).tree = world.tree := rfl

@[simp] theorem withErrors_registry (world : World) (errors : String) :
    (world.withErrors errors).registry = world.registry := rfl

@[simp] theorem withErrors_errors (world : World) :
    world.withErrors world.console.errors = world := rfl

@[simp] theorem withErrors_withErrors (world : World) (errors later : String) :
    (world.withErrors errors).withErrors later = world.withErrors later := rfl

end World

namespace Action

variable {α β : Type} {machine : Machine} {world : World}

/-! ## Equations -/

@[simp] theorem perform_pure (value : α) :
    (pure value : Action α).perform machine world = (.ok value, world) := rfl

@[simp] theorem perform_throw (failure : Failure) :
    (throw failure : Action α).perform machine world = (.error failure, world) := rfl

@[simp] theorem perform_get : (get : Action World).perform machine world = (.ok world, world) := rfl

@[simp] theorem perform_set (next : World) :
    (set next : Action Unit).perform machine world = (.ok (), next) := rfl

@[simp] theorem perform_read :
    (read : Action Machine).perform machine world = (.ok machine, world) := rfl

@[simp] theorem perform_modify (change : World → World) :
    (modify change : Action Unit).perform machine world = (.ok (), change world) := rfl

@[simp] theorem perform_surroundings :
    surroundings.perform machine world = (.ok ⟨world.tree, machine.here⟩, world) := rfl

/-- A result that is there already changes no world. -/
@[simp] theorem perform_lift (found : Except Failure α) :
    (liftM found : Action α).perform machine world = (found, world) := by
  cases found <;> rfl

/-- An action that is followed by another one: a failure of the first one ends both. -/
theorem perform_bind (action : Action α) (next : α → Action β) :
    (action >>= next).perform machine world =
      match action.perform machine world with
      | (.ok value, after) => (next value).perform machine after
      | (.error failure, after) => (.error failure, after) := by
  simp only [perform, bind, ReaderT.bind, ExceptT.bind, ExceptT.run, ExceptT.mk, StateT.bind,
    StateT.run]
  rcases action machine world with ⟨outcome, after⟩
  cases outcome <;> rfl

/-- A handler is called in the world that a failure leaves. -/
theorem perform_tryCatch (action : Action α) (handle : Failure → Action α) :
    (tryCatch action handle).perform machine world =
      match action.perform machine world with
      | (.ok value, after) => (.ok value, after)
      | (.error failure, after) => (handle failure).perform machine after := by
  simp only [perform, tryCatch, tryCatchThe, MonadExceptOf.tryCatch, ExceptT.tryCatch, ExceptT.run,
    ExceptT.mk, StateT.run, bind, StateT.bind]
  rcases action machine world with ⟨outcome, after⟩
  cases outcome <;> rfl

/-- After a first action that succeeds the second one decides. -/
theorem perform_bind_of_ok {action : Action α} {value : α} {after : World}
    (succeeds : action.perform machine world = (.ok value, after)) (next : α → Action β) :
    (action >>= next).perform machine world = (next value).perform machine after := by
  rw [perform_bind, succeeds]

/-- A first action that fails is all there is. -/
theorem perform_bind_of_error {action : Action α} {failure : Failure} {after : World}
    (fails : action.perform machine world = (.error failure, after)) (next : α → Action β) :
    (action >>= next).perform machine world = (.error failure, after) := by
  rw [perform_bind, fails]

/-- A result that is there already and is a value is passed on. -/
theorem perform_lift_bind_ok (value : α) (next : α → Action β) :
    ((liftM (.ok value : Except Failure α) : Action α) >>= next).perform machine world =
      (next value).perform machine world :=
  perform_bind_of_ok (perform_lift _) next

/-- A result that is there already and is a failure ends the action. -/
theorem perform_lift_bind_error (failure : Failure) (next : α → Action β) :
    ((liftM (.error failure : Except Failure α) : Action α) >>= next).perform machine world =
      (.error failure, world) :=
  perform_bind_of_error (perform_lift _) next

/-- An action that is observed gives its outcome. -/
theorem perform_observing (action : Action α) (machine : Machine) (world : World) :
    (observing action).perform machine world =
      (.ok (action.perform machine world).1, (action.perform machine world).2) := by
  rw [observing, perform_tryCatch, perform_bind]
  rcases action.perform machine world with ⟨_ | value, after⟩ <;> rfl

/-- Two actions in a row succeed just if both do. -/
theorem perform_bind_eq_ok_iff {action : Action α} {next : α → Action β} {result : β}
    {last : World} :
    (action >>= next).perform machine world = (.ok result, last) ↔
      ∃ value after, action.perform machine world = (.ok value, after) ∧
        (next value).perform machine after = (.ok result, last) := by
  rw [perform_bind]
  rcases action.perform machine world with ⟨_ | value, after⟩
  · simp
  · simp only [Prod.mk.injEq, Except.ok.injEq]
    constructor
    · intro rest
      exact ⟨value, after, ⟨rfl, rfl⟩, rest⟩
    · rintro ⟨_, _, ⟨rfl, rfl⟩, rest⟩
      exact rest

/-- A step that changes the files of a world gives what it gives for its files. -/
theorem perform_withTree_of_ok {step : Place → ExceptT Failure (StateM Tree) α} {value : α}
    {tree : Tree} (done : ((step machine.here).run).run world.tree = (.ok value, tree)) :
    (withTree step).perform machine world = (.ok value, { world with tree := tree }) := by
  rw [withTree, perform_bind_of_ok perform_get, perform_bind_of_ok perform_read, done]
  rfl

/-! ## Records -/

/-- A record changes nothing but the error stream. -/
theorem perform_note (machine : Machine) (world : World) (source : RecordSource)
    (message : String) :
    ∃ errors, (note source message).perform machine world = (.ok (), world.withErrors errors) := by
  obtain ⟨tree, registry, isExtended, console, logging⟩ := world
  match logging with
  | .bare => exact ⟨console.errors, rfl⟩
  | .labelled false => exact ⟨console.errors, rfl⟩
  | .labelled true => exact ⟨_, rfl⟩

/-- A record of something doubtful changes nothing but the error stream. -/
theorem perform_warn (machine : Machine) (world : World) (source : RecordSource)
    (message : String) :
    ∃ errors, (warn source message).perform machine world = (.ok (), world.withErrors errors) := by
  obtain ⟨tree, registry, isExtended, console, logging⟩ := world
  match logging with
  | .bare => exact ⟨_, rfl⟩
  | .labelled _ => exact ⟨_, rfl⟩

/-! ## Frames -/

/-- A frame: a relation of worlds, before and after, that holds of records, which change nothing but
the error stream, and of changes in a row. -/
structure IsFrame (relation : Machine → World → World → Prop) : Prop where
  /-- It holds of records. -/
  records : ∀ machine world errors, relation machine world (world.withErrors errors)
  /-- It holds of changes in a row. -/
  trans : ∀ machine before between after, relation machine before between →
    relation machine between after → relation machine before after

/-- An action stays in a frame if what it makes of the world is in the relation to what the world
was, however it ends. -/
def Stays (relation : Machine → World → World → Prop) (action : Action α) : Prop :=
  ∀ machine world, relation machine world (action.perform machine world).2

namespace Stays

variable {relation : Machine → World → World → Prop} {action : Action α}

/-- An action may leave the world alone. -/
theorem of_eq (frame : IsFrame relation)
    (same : ∀ machine world, (action.perform machine world).2 = world) : Stays relation action := by
  intro machine world
  rw [same]
  exact frame.records machine world world.console.errors

theorem pure (frame : IsFrame relation) (value : α) : Stays relation (Pure.pure value : Action α) :=
  .of_eq frame fun _ _ => rfl

theorem throw (frame : IsFrame relation) (failure : Failure) :
    Stays relation (throw failure : Action α) :=
  .of_eq frame fun _ _ => rfl

theorem lift (frame : IsFrame relation) (found : Except Failure α) :
    Stays relation (liftM found : Action α) :=
  .of_eq frame fun _ _ => by rw [perform_lift]

theorem note (frame : IsFrame relation) (source : RecordSource) (message : String) :
    Stays relation (Action.note source message) := by
  intro machine world
  obtain ⟨errors, noted⟩ := perform_note machine world source message
  rw [noted]
  exact frame.records machine world errors

theorem warn (frame : IsFrame relation) (source : RecordSource) (message : String) :
    Stays relation (Action.warn source message) := by
  intro machine world
  obtain ⟨errors, warned⟩ := perform_warn machine world source message
  rw [warned]
  exact frame.records machine world errors

/-- Two actions in a row stay in a frame if each does, the second one for any value of the first. -/
theorem bind_of_returns (frame : IsFrame relation) {next : α → Action β}
    (first : Stays relation action)
    (second : ∀ value machine world after, action.perform machine world = (.ok value, after) →
      Stays relation (next value)) : Stays relation (action >>= next) := by
  intro machine world
  have before := first machine world
  rw [perform_bind]
  cases outcome : action.perform machine world with
  | mk found after =>
    rw [outcome] at before
    cases found with
    | ok value =>
      exact frame.trans _ _ _ _ before (second value machine world after outcome machine after)
    | error failure => exact before

/-- Two actions in a row stay in a frame if each does. -/
theorem bind (frame : IsFrame relation) {next : α → Action β} (first : Stays relation action)
    (second : ∀ value, Stays relation (next value)) : Stays relation (action >>= next) :=
  bind_of_returns frame first fun value _ _ _ _ => second value

/-- An action and what is done after its failures stay in a frame if each does. -/
theorem tryCatch (frame : IsFrame relation) {handle : Failure → Action α}
    (first : Stays relation action) (second : ∀ failure, Stays relation (handle failure)) :
    Stays relation (tryCatch action handle) := by
  intro machine world
  have before := first machine world
  rw [perform_tryCatch]
  cases outcome : action.perform machine world with
  | mk found after =>
    rw [outcome] at before
    cases found with
    | ok value => exact before
    | error failure => exact frame.trans _ _ _ _ before (second failure machine after)

end Stays

/-! ## Changes of files -/

/-- A relation of trees, before and after, that holds if nothing changes, and of changes in a row. -/
structure IsGradual (relation : Machine → Tree → Tree → Prop) : Prop where
  /-- It holds if nothing changes. -/
  refl : ∀ machine tree, relation machine tree tree
  /-- It holds of changes in a row. -/
  trans : ∀ machine before between after, relation machine before between →
    relation machine between after → relation machine before after

/-- Nothing else than the files counts for a relation of trees. -/
theorem IsGradual.isFrame {relation : Machine → Tree → Tree → Prop} (gradual : IsGradual relation) :
    IsFrame fun machine before after => relation machine before.tree after.tree :=
  ⟨fun machine world _ => gradual.refl machine world.tree,
    fun machine _ _ _ => gradual.trans machine _ _ _⟩

/-- What an action makes of the files is in a relation to what they were, however it ends. -/
def Changes (relation : Machine → Tree → Tree → Prop) (action : Action α) : Prop :=
  ∀ machine world, relation machine world.tree (action.perform machine world).2.tree

namespace Changes

variable {relation : Machine → Tree → Tree → Prop} {action : Action α}

/-- An action may leave the files alone. -/
theorem of_tree_eq (gradual : IsGradual relation)
    (same : ∀ machine world, (action.perform machine world).2.tree = world.tree) :
    Changes relation action := by
  intro machine world
  rw [same]
  exact gradual.refl machine world.tree

theorem pure (gradual : IsGradual relation) (value : α) :
    Changes relation (Pure.pure value : Action α) :=
  .of_tree_eq gradual fun _ _ => rfl

theorem throw (gradual : IsGradual relation) (failure : Failure) :
    Changes relation (throw failure : Action α) :=
  .of_tree_eq gradual fun _ _ => rfl

theorem lift (gradual : IsGradual relation) (found : Except Failure α) :
    Changes relation (liftM found : Action α) :=
  .of_tree_eq gradual fun _ _ => by rw [perform_lift]

theorem note (gradual : IsGradual relation) (source : RecordSource) (message : String) :
    Changes relation (Action.note source message) :=
  .of_tree_eq gradual fun _ _ => rfl

theorem warn (gradual : IsGradual relation) (source : RecordSource) (message : String) :
    Changes relation (Action.warn source message) :=
  .of_tree_eq gradual fun _ _ => rfl

/-- Two actions in a row are in the relation if each is, the second one for any value of the first. -/
theorem bind_of_returns (gradual : IsGradual relation) {next : α → Action β}
    (first : Changes relation action)
    (second : ∀ value machine world after, action.perform machine world = (.ok value, after) →
      Changes relation (next value)) : Changes relation (action >>= next) :=
  Stays.bind_of_returns gradual.isFrame first second

/-- Two actions in a row are in the relation if each is. -/
theorem bind (gradual : IsGradual relation) {next : α → Action β} (first : Changes relation action)
    (second : ∀ value, Changes relation (next value)) : Changes relation (action >>= next) :=
  bind_of_returns gradual first fun value _ _ _ _ => second value

/-- An action and what is done after its failures are in the relation if each is. -/
theorem tryCatch (gradual : IsGradual relation) {handle : Failure → Action α}
    (first : Changes relation action) (second : ∀ failure, Changes relation (handle failure)) :
    Changes relation (tryCatch action handle) :=
  Stays.tryCatch gradual.isFrame first second

theorem print (gradual : IsGradual relation) (line : String) :
    Changes relation (Action.print line) := by
  refine .of_tree_eq gradual fun machine world => ?_
  rw [Action.print, printBy, perform_bind_of_ok perform_get]
  cases Console.print? line world.console <;> rfl

theorem printAll (gradual : IsGradual relation) (lines : List (Except Failure String)) :
    Changes relation (Action.printAll lines) := by
  induction lines with
  | nil => exact .pure gradual ()
  | cons line rest ih =>
    exact .bind gradual (.lift gradual line) fun text =>
      .bind gradual (.print gradual text) fun _ => ih

end Changes

/-! ## Actions that keep paths -/

/-- An action keeps paths if, when it is done, every path leads where it led before. -/
def KeepsPaths (action : Action α) : Prop :=
  ∀ machine world path,
    Surroundings.resolve ⟨(action.perform machine world).2.tree, machine.here⟩ path =
      Surroundings.resolve ⟨world.tree, machine.here⟩ path

/-- Paths are kept if nothing changes, and by changes in a row. -/
theorem isGradual_keepsPaths : IsGradual fun machine before after => ∀ path,
    Surroundings.resolve ⟨after, machine.here⟩ path =
      Surroundings.resolve ⟨before, machine.here⟩ path :=
  ⟨fun _ _ _ => rfl, fun _ _ _ _ first second path => (second path).trans (first path)⟩

/-- What an action that keeps paths leaves behind when it succeeds. -/
theorem KeepsPaths.resolve_eq {action : Action α} {value : α} {after : World}
    (keeps : KeepsPaths action) (succeeds : action.perform machine world = (.ok value, after)) :
    Surroundings.resolve ⟨after.tree, machine.here⟩ =
      Surroundings.resolve ⟨world.tree, machine.here⟩ := by
  funext path
  have same := keeps machine world path
  rwa [succeeds] at same

theorem KeepsPaths.pure (value : α) : KeepsPaths (Pure.pure value : Action α) :=
  Changes.pure isGradual_keepsPaths value

/-- Two actions in a row keep paths if each does. -/
theorem KeepsPaths.bind {action : Action α} {next : α → Action β} (first : KeepsPaths action)
    (second : ∀ value, KeepsPaths (next value)) : KeepsPaths (action >>= next) :=
  Changes.bind isGradual_keepsPaths first second

theorem KeepsPaths.printAll (lines : List (Except Failure String)) : KeepsPaths (printAll lines) :=
  Changes.printAll isGradual_keepsPaths lines

end Action

end NegativeCompile
