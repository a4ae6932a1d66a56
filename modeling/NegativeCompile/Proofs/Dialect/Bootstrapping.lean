import NegativeCompile.Proofs.Action

/-! # Making dialects known

The dialects of extensions are made known once, and after a failure this can be tried again. One try
adds the dialects that the named extensions bring, in order, up to the first name that is taken or
the first extension that cannot be loaded (`tries_bootstrap`). What it added before a failure stays:
a later try finds these names taken. So a failed try leaves no trace just if nothing that it could
add came before the failure. After the first success nothing changes any more
(`bootstraps_account`). -/

namespace NegativeCompile

open Files Text

/-! ## Registries -/

namespace Registry

variable {registry : Registry} {dialects more : List Dialect}

/-- A registry with more dialects. -/
def extend (registry : Registry) (more : List Dialect) : Registry := ⟨registry.dialects ++ more⟩

@[simp] theorem extend_nil (registry : Registry) : registry.extend [] = registry := by
  rw [extend, List.append_nil]

@[simp] theorem extend_extend (registry : Registry) (dialects more : List Dialect) :
    (registry.extend dialects).extend more = registry.extend (dialects ++ more) := by
  rw [extend, extend, extend, List.append_assoc]

/-- A registry is extended by nothing just if it stays as it is. -/
theorem extend_eq_self_iff : registry.extend more = registry ↔ more = [] := by
  obtain ⟨dialects⟩ := registry
  simp [extend]

/-- The name of a dialect is taken. -/
def Takes (registry : Registry) (name : String) : Prop :=
  ∃ held ∈ registry.dialects, held.name = name

/-- The look for the name of a dialect finds it if it is taken. -/
theorem any_name_iff (name : String) :
    registry.dialects.any (·.name = name) = true ↔ registry.Takes name := by
  simp only [List.any_eq_true, decide_eq_true_eq, Takes]

/-- Those of some dialects that come before the first one whose name is taken, by a dialect of the
registry or by one of them. -/
def admitted (registry : Registry) : List Dialect → List Dialect
  | [] => []
  | dialect :: rest =>
    if registry.dialects.any (·.name = dialect.name) then []
    else dialect :: admitted (registry.extend [dialect]) rest

/-- Some dialects are new to a registry, and to each other. -/
structure IsNew (registry : Registry) (dialects : List Dialect) : Prop where
  /-- Their names are distinct. -/
  distinct : (dialects.map (·.name)).Nodup
  /-- No name is taken. -/
  untaken : ∀ dialect ∈ dialects, ¬ registry.Takes dialect.name

/-- A longer registry takes the names of both parts. -/
theorem takes_extend {name : String} :
    (registry.extend more).Takes name ↔ registry.Takes name ∨ ∃ held ∈ more, held.name = name := by
  simp only [Takes, extend, List.mem_append, or_and_right, exists_or]

/-- A dialect and some others are new just if its name is not taken and they are new to a registry
that has it. -/
theorem isNew_cons_iff {dialect : Dialect} : registry.IsNew (dialect :: dialects) ↔
    ¬ registry.Takes dialect.name ∧ (registry.extend [dialect]).IsNew dialects := by
  constructor
  · rintro ⟨distinct, untaken⟩
    obtain ⟨unlike, distinct⟩ := List.nodup_cons.mp distinct
    refine ⟨untaken dialect List.mem_cons_self, distinct, fun other member taken => ?_⟩
    rcases takes_extend.mp taken with taken | ⟨held, listed, same⟩
    · exact untaken other (List.mem_cons_of_mem _ member) taken
    · rw [List.mem_singleton.mp listed] at same
      exact unlike (List.mem_map.mpr ⟨other, member, same.symm⟩)
  · rintro ⟨free, distinct, untaken⟩
    refine ⟨List.nodup_cons.mpr ⟨fun member => ?_, distinct⟩, fun other member taken => ?_⟩
    · obtain ⟨other, listed, same⟩ := List.mem_map.mp member
      exact untaken other listed (takes_extend.mpr (.inr ⟨dialect, List.mem_singleton_self _, same.symm⟩))
    · rcases List.mem_cons.mp member with rfl | member
      · exact free taken
      · exact untaken other member (takes_extend.mpr (.inl taken))

/-- All of some dialects are admitted just if they are new. -/
theorem admitted_eq_self_iff : registry.admitted dialects = dialects ↔ registry.IsNew dialects := by
  induction dialects generalizing registry with
  | nil => exact ⟨fun _ => ⟨List.nodup_nil, nofun⟩, fun _ => rfl⟩
  | cons dialect rest ih =>
    rw [admitted, isNew_cons_iff]
    by_cases taken : registry.Takes dialect.name
    · rw [if_pos ((any_name_iff _).mpr taken)]
      exact ⟨nofun, fun new => absurd taken new.1⟩
    · rw [if_neg (mt (any_name_iff _).mp taken), List.cons.injEq, and_iff_right rfl, ih,
        and_iff_right taken]

/-- What comes after dialects that are all admitted is admitted by the registry that has them. -/
theorem admitted_append (new : registry.IsNew dialects) :
    registry.admitted (dialects ++ more) = dialects ++ (registry.extend dialects).admitted more := by
  induction dialects generalizing registry with
  | nil => rw [List.nil_append, extend_nil, List.nil_append]
  | cons dialect rest ih =>
    obtain ⟨free, new⟩ := isNew_cons_iff.mp new
    rw [List.cons_append, admitted, if_neg (mt (any_name_iff _).mp free), ih new, extend_extend,
      List.singleton_append, List.cons_append]

/-- What comes after a dialect that is not admitted is not looked at. -/
theorem admitted_append_of_not_isNew (old : ¬ registry.IsNew dialects) :
    registry.admitted (dialects ++ more) = registry.admitted dialects := by
  induction dialects generalizing registry with
  | nil => exact absurd ⟨List.nodup_nil, nofun⟩ old
  | cons dialect rest ih =>
    rw [List.cons_append, admitted, admitted]
    by_cases taken : registry.Takes dialect.name
    · rw [if_pos ((any_name_iff _).mpr taken), if_pos ((any_name_iff _).mpr taken)]
    · rw [if_neg (mt (any_name_iff _).mp taken), if_neg (mt (any_name_iff _).mp taken),
        ih fun new => old (isNew_cons_iff.mpr ⟨taken, new⟩)]

/-- Some dialects are new together just if the first ones are, and the others to a registry that has
these. -/
theorem isNew_append_iff : registry.IsNew (dialects ++ more) ↔
    registry.IsNew dialects ∧ (registry.extend dialects).IsNew more := by
  induction dialects generalizing registry with
  | nil => rw [List.nil_append, extend_nil, and_iff_right ⟨List.nodup_nil, nofun⟩]
  | cons dialect rest ih =>
    rw [List.cons_append, isNew_cons_iff, isNew_cons_iff, ih, extend_extend, and_assoc]
    rfl

/-- Nothing is admitted just if the first name is taken, if there is any. -/
theorem admitted_eq_nil_iff : registry.admitted dialects = [] ↔
    ∀ first, dialects.head? = some first → registry.Takes first.name := by
  cases dialects with
  | nil => exact ⟨fun _ => nofun, fun _ => rfl⟩
  | cons dialect rest =>
    rw [admitted, List.head?_cons]
    by_cases taken : registry.Takes dialect.name
    · rw [if_pos ((any_name_iff _).mpr taken)]
      refine ⟨fun _ first same => ?_, fun _ => rfl⟩
      rwa [← Option.some.inj same]
    · rw [if_neg (mt (any_name_iff _).mp taken)]
      exact ⟨nofun, fun taken_first => absurd (taken_first dialect rfl) taken⟩

/-! ## Dialects that need no extension -/

/-- A dialect whose name is taken is not added. -/
theorem ensure_of_takes {dialect : Dialect} (taken : registry.Takes dialect.name) :
    registry.ensure dialect = registry := by
  rw [ensure, if_pos ((any_name_iff _).mpr taken)]

/-- A registry is not changed by adding dialects whose names are taken. -/
theorem foldl_ensure_of_takes (taken : ∀ dialect ∈ dialects, registry.Takes dialect.name) :
    dialects.foldl ensure registry = registry := by
  induction dialects with
  | nil => rfl
  | cons dialect rest ih =>
    rw [List.foldl_cons, ensure_of_takes (taken dialect List.mem_cons_self)]
    exact ih fun other member => taken other (List.mem_cons_of_mem _ member)

/-- A name that is taken stays so when a dialect is added, and the name of that one is taken then. -/
theorem takes_ensure {dialect : Dialect} {name : String}
    (taken : registry.Takes name ∨ dialect.name = name) : (registry.ensure dialect).Takes name := by
  rw [ensure]
  split
  next held =>
    rcases taken with taken | rfl
    · exact taken
    · exact (any_name_iff _).mp held
  next =>
    refine takes_extend.mpr (taken.imp_right fun same => ?_)
    exact ⟨dialect, List.mem_singleton_self _, same⟩

/-- The names of dialects that were added are taken. -/
theorem takes_foldl_ensure {name : String}
    (taken : registry.Takes name ∨ ∃ dialect ∈ dialects, dialect.name = name) :
    (dialects.foldl ensure registry).Takes name := by
  induction dialects generalizing registry with
  | nil => simpa using taken
  | cons dialect rest ih =>
    rw [List.foldl_cons]
    refine ih ?_
    rcases taken with taken | ⟨other, member, same⟩
    · exact .inl (takes_ensure (.inl taken))
    · rcases List.mem_cons.mp member with rfl | member
      · exact .inl (takes_ensure (.inr same))
      · exact .inr ⟨other, member, same⟩

/-- Adding the dialects that need no extension again changes nothing. -/
theorem withBuiltin_extend (registry : Registry) (more : List Dialect) :
    (registry.withBuiltin.extend more).withBuiltin = registry.withBuiltin.extend more := by
  refine foldl_ensure_of_takes fun dialect member => takes_extend.mpr (.inl ?_)
  exact takes_foldl_ensure (.inr ⟨dialect, member, rfl⟩)

end Registry

/-! ## Extensions -/

/-- The dialects that the extensions of some names bring, up to the first one that cannot be
loaded. -/
def Extension.offered (extensions : List Extension) : List String → List Dialect
  | [] => []
  | name :: rest =>
    match find extensions name with
    | .ok dialects => dialects ++ offered extensions rest
    | .error _ => []

namespace Machine

/-- The names of the extensions that the environment names. -/
def extensionNames (machine : Machine) : List String :=
  commaList ((machine.valueOf? Extension.variableName).getD "")

/-- The dialects that the named extensions bring, up to the first one that cannot be loaded. -/
def offered (machine : Machine) : List Dialect :=
  Extension.offered machine.extensions machine.extensionNames

/-- Every named extension can be loaded. -/
def CanLoad (machine : Machine) (names : List String) : Prop :=
  ∀ name ∈ names, ∃ dialects, Extension.find machine.extensions name = .ok dialects

end Machine

/-- The world with other dialects. -/
def World.withRegistry (world : World) (registry : Registry) : World :=
  { world with registry := registry }

@[simp] theorem World.withRegistry_registry (world : World) (registry : Registry) :
    (world.withRegistry registry).registry = registry := rfl

namespace Action

variable {machine : Machine} {world : World}

/-- Adding dialects adds those that are admitted, and fails if these are not all. -/
theorem perform_registerAll (machine : Machine) (world : World) (dialects : List Dialect) :
    ∃ outcome, (registerAll dialects).perform machine world =
        (outcome, world.withRegistry (world.registry.extend (world.registry.admitted dialects))) ∧
      (outcome = .ok () ↔ world.registry.IsNew dialects) := by
  induction dialects generalizing world with
  | nil =>
    refine ⟨.ok (), ?_, fun _ => ⟨List.nodup_nil, nofun⟩, fun _ => rfl⟩
    rw [registerAll, Registry.admitted, Registry.extend_nil]
    rfl
  | cons dialect rest ih =>
    rw [registerAll, perform_bind_of_ok perform_get, Registry.register, Registry.admitted,
      Registry.isNew_cons_iff]
    by_cases taken : world.registry.Takes dialect.name
    · rw [if_pos ((Registry.any_name_iff _).mpr taken), if_pos ((Registry.any_name_iff _).mpr taken),
        perform_lift_bind_error, Registry.extend_nil]
      exact ⟨_, rfl, nofun, fun new => absurd taken new.1⟩
    · rw [if_neg (mt (Registry.any_name_iff _).mp taken),
        if_neg (mt (Registry.any_name_iff _).mp taken), perform_lift_bind_ok,
        perform_bind_of_ok (perform_set _)]
      obtain ⟨outcome, performed, succeeds⟩ :=
        ih (world.withRegistry (world.registry.extend [dialect]))
      refine ⟨outcome, performed.trans ?_, succeeds.trans (and_iff_right taken).symm⟩
      rw [World.withRegistry_registry, Registry.extend_extend, List.singleton_append]
      rfl

/-- Loading extensions adds those of their dialects that are admitted, and fails if these are not
all or an extension cannot be loaded. -/
theorem perform_loadExtensions (machine : Machine) (world : World) (names : List String) :
    ∃ outcome errors, (loadExtensions names).perform machine world =
        (outcome, (world.withErrors errors).withRegistry (world.registry.extend
          (world.registry.admitted (Extension.offered machine.extensions names)))) ∧
      (outcome = .ok () ↔ machine.CanLoad names ∧
        world.registry.IsNew (Extension.offered machine.extensions names)) := by
  -- Each extension is added to a registry that already holds the dialects of those before it.
  induction names generalizing world with
  | nil =>
    refine ⟨.ok (), world.console.errors, ?_, fun _ => ⟨nofun, List.nodup_nil, nofun⟩, fun _ => rfl⟩
    rw [loadExtensions, Extension.offered, Registry.admitted, Registry.extend_nil]
    rfl
  | cons name rest ih =>
    obtain ⟨errors, noted⟩ := perform_note machine world .loading s!"loading plugin module {name}"
    rw [loadExtensions, perform_bind_of_ok noted, perform_bind_of_ok perform_read,
      Extension.offered]
    cases found : Extension.find machine.extensions name with
    | error failure =>
      rw [perform_lift_bind_error]
      refine ⟨.error failure, errors, ?_, nofun, fun both => ?_⟩
      · rw [Registry.admitted, Registry.extend_nil]
        rfl
      · obtain ⟨dialects, loaded⟩ := both.1 name List.mem_cons_self
        rw [found] at loaded
        cases loaded
    | ok dialects =>
      have loadable : machine.CanLoad (name :: rest) ↔ machine.CanLoad rest := by
        rw [Machine.CanLoad, List.forall_mem_cons]
        exact and_iff_right ⟨dialects, found⟩
      rw [perform_lift_bind_ok]
      obtain ⟨outcome, performed, succeeds⟩ :=
        perform_registerAll machine (world.withErrors errors) dialects
      by_cases new : world.registry.IsNew dialects
      · rw [succeeds.mpr new, World.withErrors_registry, Registry.admitted_eq_self_iff.mpr new]
          at performed
        rw [perform_bind_of_ok performed, loadable]
        obtain ⟨last, later, onward, ends⟩ :=
          ih ((world.withErrors errors).withRegistry (world.registry.extend dialects))
        rw [World.withRegistry_registry] at onward ends
        dsimp only
        rw [Registry.admitted_append new, Registry.isNew_append_iff, and_iff_right new,
          ← Registry.extend_extend]
        exact ⟨last, later, onward, ends⟩
      · -- The first name that is taken ends everything.
        cases outcome with
        | ok value => exact absurd (succeeds.mp rfl) new
        | error failure =>
          rw [perform_bind_of_error performed]
          refine ⟨.error failure, errors, ?_, nofun, fun both => ?_⟩
          · dsimp only
            rw [Registry.admitted_append_of_not_isNew new]
            rfl
          · exact absurd (Registry.isNew_append_iff.mp both.2).1 new

/-! ## One try -/

/-- What a try to make dialects known does with them, if no earlier one succeeded. -/
structure Tries (machine : Machine) (before : World) (outcome : Except Failure Unit)
    (after : World) : Prop where
  /-- The dialects that need no extension are added if they are missing, and then those of the
  extensions up to the first name that is taken and the first extension that cannot be loaded. -/
  registry : after.registry = before.registry.withBuiltin.extend
    (before.registry.withBuiltin.admitted machine.offered)
  /-- The try succeeds just if all extensions can be loaded and their dialects are new. -/
  succeeds_iff : outcome = .ok () ↔ machine.CanLoad machine.extensionNames ∧
    before.registry.withBuiltin.IsNew machine.offered
  /-- A success is remembered, a failure is not. -/
  isExtended_iff : after.isExtended = true ↔ outcome = .ok ()
  /-- The files stay as they are. -/
  tree : after.tree = before.tree

/-- A try that succeeds adds all dialects of the extensions. -/
theorem Tries.registry_of_success {before after : World} {outcome : Except Failure Unit}
    (tries : Tries machine before outcome after) (success : outcome = .ok ()) :
    after.registry = before.registry.withBuiltin.extend machine.offered := by
  have new := (tries.succeeds_iff.mp success).2
  rw [tries.registry, Registry.admitted_eq_self_iff.mpr new]

/-- A try leaves no trace just if the first dialect that it would add has a name that is taken. -/
theorem Tries.traceless_iff {before after : World} {outcome : Except Failure Unit}
    (tries : Tries machine before outcome after) :
    after.registry = before.registry.withBuiltin ↔
      ∀ first, machine.offered.head? = some first → before.registry.withBuiltin.Takes first.name := by
  rw [tries.registry, Registry.extend_eq_self_iff, Registry.admitted_eq_nil_iff]

/-- A try after a success does nothing. -/
theorem bootstrap_of_isExtended (extended : world.isExtended = true) :
    bootstrap.perform machine world = (.ok (), world) := by
  rw [bootstrap, perform_bind_of_ok perform_get, if_pos extended]
  rfl

/-- If no earlier try succeeded, the dialects that need no extension come first. -/
theorem perform_bootstrap (machine : Machine) (fresh : world.isExtended = false) :
    bootstrap.perform machine world = (loadExtensions machine.extensionNames >>= fun _ =>
      (modify fun world => { world with isExtended := true } : Action Unit)).perform machine
        (world.withRegistry world.registry.withBuiltin) := by
  rw [bootstrap, perform_bind_of_ok perform_get, if_neg (by simp [fresh]),
    perform_bind_of_ok (perform_modify _), perform_bind_of_ok perform_read]
  rfl

/-- What a try does if no earlier one succeeded. -/
theorem tries_bootstrap (machine : Machine) (fresh : world.isExtended = false) :
    Tries machine world (bootstrap.perform machine world).1 (bootstrap.perform machine world).2 := by
  obtain ⟨outcome, errors, performed, succeeds⟩ := perform_loadExtensions machine
    (world.withRegistry world.registry.withBuiltin) machine.extensionNames
  rw [perform_bootstrap machine fresh]
  cases outcome with
  | ok value =>
    rw [perform_bind_of_ok performed, perform_modify]
    exact ⟨rfl, succeeds, iff_of_true rfl rfl, rfl⟩
  | error failure =>
    rw [perform_bind_of_error performed]
    exact ⟨rfl, succeeds, iff_of_false (by simp [World.withRegistry, World.withErrors, fresh]) nofun,
      rfl⟩

/-! ## Many tries -/

/-- Some tries, one after the other: their outcomes, and the world that they leave. -/
def bootstraps : List Machine → World → List (Except Failure Unit) × World
  | [], world => ([], world)
  | machine :: rest, world =>
    let first := bootstrap.perform machine world
    let others := bootstraps rest first.2
    (first.1 :: others.1, others.2)

/-- A success is remembered through all tries, and only a success. -/
theorem isExtended_bootstraps_iff (machines : List Machine) (world : World) :
    (bootstraps machines world).2.isExtended = true ↔
      world.isExtended = true ∨ .ok () ∈ (bootstraps machines world).1 := by
  induction machines generalizing world with
  | nil => simp [bootstraps]
  | cons machine rest ih =>
    rw [bootstraps, ih, List.mem_cons, ← or_assoc]
    refine or_congr_left ?_
    cases extended : world.isExtended with
    | true => simp [bootstrap_of_isExtended extended, extended]
    | false =>
      rw [(tries_bootstrap machine extended).isExtended_iff]
      simp [eq_comm]

/-- Tries that would add nothing keep the dialects, those that need no extension apart. -/
theorem withBuiltin_bootstraps {machines : List Machine}
    (traceless : ∀ machine ∈ machines, world.registry.withBuiltin.admitted machine.offered = []) :
    (bootstraps machines world).2.registry.withBuiltin = world.registry.withBuiltin := by
  induction machines generalizing world with
  | nil => rfl
  | cons machine rest ih =>
    -- After the first try the dialects are what they were, with those that need no extension.
    have first : (bootstrap.perform machine world).2.registry.withBuiltin =
        world.registry.withBuiltin := by
      cases extended : world.isExtended with
      | true => rw [bootstrap_of_isExtended extended]
      | false =>
        rw [(tries_bootstrap machine extended).registry, Registry.withBuiltin_extend,
          traceless machine List.mem_cons_self, Registry.extend_nil]
    rw [bootstraps, ih, first]
    rw [first]
    exact fun other member => traceless other (List.mem_cons_of_mem _ member)

/-- Each of some tries does what it is there for: after a success it does nothing, and before that it
adds what it can. As long as no try could add anything, the dialects are those at the start. -/
theorem bootstraps_account (fresh : world.isExtended = false) (earlier : List Machine)
    (machine : Machine) :
    (.ok () ∈ (bootstraps earlier world).1 →
      bootstrap.perform machine (bootstraps earlier world).2 = (.ok (), (bootstraps earlier world).2)) ∧
    (.ok () ∉ (bootstraps earlier world).1 →
      Tries machine (bootstraps earlier world).2
        (bootstrap.perform machine (bootstraps earlier world).2).1
        (bootstrap.perform machine (bootstraps earlier world).2).2 ∧
      ((∀ other ∈ earlier, world.registry.withBuiltin.admitted other.offered = []) →
        (bootstraps earlier world).2.registry.withBuiltin = world.registry.withBuiltin)) := by
  have remembered := isExtended_bootstraps_iff earlier world
  rw [fresh, or_iff_right Bool.false_ne_true] at remembered
  constructor
  · exact fun success => bootstrap_of_isExtended (remembered.mpr success)
  · intro failed
    exact ⟨tries_bootstrap machine (Bool.eq_false_iff.mpr (mt remembered.mp failed)),
      withBuiltin_bootstraps⟩

end Action

/-! ## An instance -/

namespace Retrying

/-- A machine with one extension and a list of names in the environment. -/
def machine (names : String) : Machine :=
  ⟨[], [(Extension.variableName, names)], [], [Extension.header], "", fun _ => default⟩

/-- A world that no extension has been loaded into. -/
def world : World := ⟨⟨[]⟩, .standard, false, default, .bare⟩

theorem names_header : (machine "header_dialect").extensionNames = ["header_dialect"] := by
  decide

theorem offered_header : (machine "header_dialect").offered = [Header.dialect] := by
  rw [Machine.offered, names_header]
  rfl

theorem canLoad_header : (machine "header_dialect").CanLoad (machine "header_dialect").extensionNames := by
  rw [names_header]
  intro name member
  rw [List.mem_singleton.mp member]
  exact ⟨[Header.dialect], rfl⟩

/-- No extension has the other name. -/
theorem not_canLoad {names : String}
    (listed : "nonexistent" ∈ (machine names).extensionNames) :
    ¬ (machine names).CanLoad (machine names).extensionNames := by
  intro loaded
  obtain ⟨dialects, found⟩ := loaded "nonexistent" listed
  cases found

/-- The dialect of headers is new to those that need no extension. -/
theorem isNew_header : world.registry.withBuiltin.IsNew [Header.dialect] := by
  have names : world.registry.withBuiltin.dialects.map (·.name) = ["guarded", "inline"] := by rfl
  refine ⟨by simp, fun dialect member taken => ?_⟩
  obtain ⟨held, listed, same⟩ := taken
  have known := List.mem_map_of_mem (f := (·.name)) listed
  rw [names, same, List.mem_singleton.mp member] at known
  exact absurd known (by decide)

end Retrying

open Retrying in
/-- A try that fails before it adds anything can be repeated: after a name of no extension, that of one
makes its dialect known. -/
theorem Action.bootstrap_after_missing_extension :
    (Action.bootstrap.perform (machine "header_dialect")
      (Action.bootstraps [machine "nonexistent"] world).2).1 = .ok () := by
  have names : (machine "nonexistent").extensionNames = ["nonexistent"] := by decide
  have offered : (machine "nonexistent").offered = [] := by
    rw [Machine.offered, names]
    rfl
  have account := Action.bootstraps_account (rfl : world.isExtended = false) [machine "nonexistent"]
    (machine "header_dialect")
  obtain ⟨tries, traceless⟩ := account.2 fun success => by
    have first := (Action.tries_bootstrap (machine "nonexistent") (rfl : world.isExtended = false))
    exact not_canLoad (by rw [names]; exact List.mem_singleton_self _)
      (first.succeeds_iff.mp (List.mem_singleton.mp success).symm).1
  have kept := traceless fun other member => by
    rw [List.mem_singleton.mp member, offered]
    rfl
  refine tries.succeeds_iff.mpr ⟨canLoad_header, ?_⟩
  rw [kept, offered_header]
  exact isNew_header

open Retrying in
/-- A try that fails after it has added a dialect spoils the next one: this could load all extensions
that it names, and their dialects are new to those that were known before, but it fails. -/
theorem Action.bootstrap_spoiled :
    (machine "header_dialect").CanLoad (machine "header_dialect").extensionNames ∧
      world.registry.withBuiltin.IsNew (machine "header_dialect").offered ∧
      .ok () ∉ (Action.bootstraps [machine "header_dialect,nonexistent", machine "header_dialect"]
        world).1 := by
  have names : (machine "header_dialect,nonexistent").extensionNames =
      ["header_dialect", "nonexistent"] := by decide
  have offered : (machine "header_dialect,nonexistent").offered = [Header.dialect] := by
    rw [Machine.offered, names]
    rfl
  have first := Action.tries_bootstrap (machine "header_dialect,nonexistent")
    (rfl : world.isExtended = false)
  have first_fails := mt first.succeeds_iff.mp fun both =>
    not_canLoad (by rw [names]; exact List.mem_cons_of_mem _ (List.mem_singleton_self _)) both.1
  have second := Action.tries_bootstrap (machine "header_dialect")
    (Bool.eq_false_iff.mpr (mt first.isExtended_iff.mp first_fails))
  refine ⟨canLoad_header, by rw [offered_header]; exact isNew_header, fun success => ?_⟩
  rcases List.mem_cons.mp success with success | success
  · exact first_fails success.symm
  · -- The first try has added the dialect that the second one is to add.
    have new := (second.succeeds_iff.mp (List.mem_singleton.mp success).symm).2
    rw [first.registry, Registry.withBuiltin_extend, offered,
      Registry.admitted_eq_self_iff.mpr isNew_header, offered_header] at new
    exact new.untaken _ List.mem_cons_self
      (Registry.takes_extend.mpr (.inr ⟨_, List.mem_cons_self, rfl⟩))

end NegativeCompile
