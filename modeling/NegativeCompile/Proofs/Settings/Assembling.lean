import NegativeCompile.Proofs.Settings.Configuring
import NegativeCompile.Proofs.Settings.Finding

/-! # Settings for a single source

Settings that are assembled for a single source do not depend on the source but for the list of
fragments (`Settings.ofDatum_withSource`). A name that leads to a file, that holds no wildcard and that
asks for nobody's home stands for the place of the file, in whatever way it leads there
(`PathContext.expandFragments_of_file`). So the settings that are assembled for such a name have the file
as their only fragment (`Action.assembleSettings_of_file`). Of other names that is not so: what they stand
for is another file, or none (`Action.assembleSettings_of_other_file`). -/

namespace NegativeCompile

open Files Schema

variable {knots : Knots} {datum : Datum} {rules : List Rule} {known : List (String × Schema)}
variable {entries : List (Datum × Datum)} {raw : KnottedDatum}

/-! ## Data without violations -/

namespace Schema

/-- Nothing is found in a datum just if no rule finds anything. -/
theorem violationsOfAll_eq_some_nil_iff :
    violationsOfAll knots rules datum = some [] ↔
      ∀ rule ∈ rules, violationsOf knots rule datum (knots.resolve datum) = some [] := by
  induction rules with
  | nil => simp [violationsOfAll]
  | cons rule rest ih =>
    rw [violationsOfAll, List.forall_mem_cons, ← ih]
    cases violationsOf knots rule datum (knots.resolve datum) <;>
      cases violationsOfAll knots rest datum <;> simp

/-- Nothing is found in the members of a mapping just if nothing is found in each. -/
theorem violationsOfMembers_eq_some_nil_iff :
    violationsOfMembers knots known entries = some [] ↔
      ∀ member ∈ known, ∀ value, Datum.get? member.1 entries = some value →
        member.2.violations knots value = some [] := by
  induction known with
  | nil => simp [violationsOfMembers]
  | cons member rest ih =>
    rw [violationsOfMembers, List.forall_mem_cons, ← ih]
    cases Datum.get? member.1 entries with
    | none => cases violationsOfMembers knots rest entries <;> simp
    | some value =>
      simp only [Option.some.injEq, forall_eq']
      cases member.2.violations knots value <;>
        cases violationsOfMembers knots rest entries <;> simp

end Schema

namespace Violation

variable {violations run rest found others : List Violation} {last : Violation}
variable {sorted after : Array Violation}

/-- Going on with a run takes nothing out of it. -/
theorem length_le_of_runFrom {isDescending : Bool}
    (ran : runFrom isDescending last run rest = .ok (found, others)) : run.length ≤ found.length := by
  induction rest generalizing last run with
  | nil =>
    cases ran
    exact Nat.le_refl _
  | cons next rest ih =>
    obtain ⟨before, -, onward⟩ := Except.bind_eq_ok_iff.mp ran
    split at onward
    · exact (Nat.le_succ _).trans (ih onward)
    · cases onward
      exact Nat.le_refl _

/-- Violations start with a run of some of them, if there are any. -/
theorem ne_nil_of_firstRun (filled : violations ≠ []) (ran : firstRun violations = .ok (found, others)) :
    found ≠ [] := by
  match violations with
  | [] => exact absurd rfl filled
  | [single] =>
    cases ran
    exact List.cons_ne_nil _ _
  | first :: second :: rest =>
    obtain ⟨isDescending, -, onward⟩ := Except.bind_eq_ok_iff.mp ran
    obtain ⟨⟨run, others⟩, ran, same⟩ := Except.bind_eq_ok_iff.mp onward
    have longer := length_le_of_runFrom ran
    cases same
    refine List.ne_nil_of_length_pos ?_
    split
    · exact Nat.zero_lt_of_lt longer
    · rw [List.length_reverse]
      exact Nat.zero_lt_of_lt longer

/-- Putting violations among sorted ones takes none of them out. -/
theorem size_le_of_foldlM (inserted : rest.foldlM insert sorted = .ok after) :
    sorted.size ≤ after.size := by
  induction rest generalizing sorted with
  | nil =>
    cases inserted
    exact Nat.le_refl _
  | cons next rest ih =>
    rw [List.foldlM_cons] at inserted
    obtain ⟨between, here, onward⟩ := Except.bind_eq_ok_iff.mp inserted
    obtain ⟨place, -, same⟩ := Except.bind_eq_ok_iff.mp here
    obtain rfl := Except.ok.inj same
    refine Nat.le_trans ?_ (ih onward)
    rw [Array.insertIdxIfInBounds]
    split
    · rw [Array.size_insertIdx]
      exact Nat.le_succ _
    · exact Nat.le_refl _

/-- Sorting violations leaves some if there are any. -/
theorem sort_ne_ok_nil (filled : violations ≠ []) : sort violations ≠ .ok [] := by
  intro nothing
  obtain ⟨⟨run, rest⟩, ran, onward⟩ := Except.bind_eq_ok_iff.mp nothing
  obtain ⟨after, inserted, empty⟩ := Except.bind_eq_ok_iff.mp onward
  have larger := size_le_of_foldlM inserted
  have same : after.toList = [] := Except.ok.inj empty
  have some := List.length_pos_of_ne_nil (ne_nil_of_firstRun filled ran)
  rw [List.size_toArray, ← Array.length_toList, same] at larger
  exact absurd larger (Nat.not_le.mpr some)

end Violation

namespace Settings

/-! ## Checking -/

/-- A configuration passes the check just if it follows the schema. -/
theorem check_eq_ok_iff : check raw = .ok () ↔ schema.violations raw.knots raw.datum = some [] := by
  unfold check
  cases schema.violations raw.knots raw.datum with
  | none => simp
  | some violations =>
    rw [Option.some.injEq]
    by_cases empty : violations = []
    · subst empty
      exact iff_of_true rfl rfl
    · refine iff_of_false ?_ empty
      have sorted := Violation.sort_ne_ok_nil empty
      dsimp only
      cases found : Violation.sort violations with
      | error problem => simp
      | ok sorted' =>
        cases sorted' with
        | nil => exact absurd found sorted
        | cons first rest => simp

/-- A configuration with a single source put in place of its fragments. -/
def withSource (name : String) (entries : Entries) : Entries :=
  entries.map fun entry =>
    if Datum.sameKey entry.1 (.text "fragments") then (entry.1, .list [.text name]) else entry

section

variable {entries : Entries} {name other key : String}

/-- What is assembled for a single source is what is assembled otherwise, with this source. -/
theorem assembled_single (given : List (String × Datum)) (name : String) :
    assembled (("sources", .list [.text name]) :: given) =
      .mapping (withSource name (KnottedDatum.plain (assembled given)).entries) := by
  have lookup (other : String) (differs : (other == "sources") = false) :
      (("sources", Datum.list [.text name]) :: given).lookup other = given.lookup other := by
    rw [List.lookup_cons, differs]
  simp only [assembled, List.lookup_cons_self, Option.getD_some, lookup "binary" rfl,
    lookup "flags" rfl, lookup "std" rfl, lookup "include_dirs" rfl, lookup "werror" rfl,
    lookup "mode" rfl, lookup "depfile" rfl, lookup "timeout" rfl, lookup "output_dir" rfl,
    lookup "jobs" rfl, lookup "header" rfl]
  rfl

/-- Only a text is the same key as a text. -/
theorem eq_text_of_sameKey {datum : Datum} (same : Datum.sameKey datum (.text key) = true) :
    datum = .text key := by
  cases datum with
  | text value => exact congrArg Datum.text (beq_iff_eq.mp same)
  | nothing | boolean | integer | real | complex | bytes | ellipsis | date | moment | tuple | list | set
  | mapping | knot => simp [Datum.sameKey, Datum.numeric?] at same

/-- A single source is found under the key of the fragments, and all else as before. -/
theorem get?_withSource : Datum.get? key (withSource name entries) =
    if key = "fragments" then (Datum.get? key entries).map fun _ => .list [.text name]
    else Datum.get? key entries := by
  -- A key that is looked for is the same with the source put in.
  have keys : (fun entry : Datum × Datum => Datum.sameKey entry.1 (.text key)) ∘ (fun entry =>
      if Datum.sameKey entry.1 (.text "fragments") then (entry.1, .list [.text name]) else entry) =
        fun entry => Datum.sameKey entry.1 (.text key) := by
    funext entry
    rw [Function.comp_apply]
    split <;> rfl
  rw [withSource, Datum.get?, Datum.get?, List.find?_map, keys, Option.map_map]
  cases found : entries.find? fun entry => Datum.sameKey entry.1 (.text key) with
  | none => simp
  | some entry =>
    obtain ⟨held, value⟩ := entry
    have asked : Datum.sameKey held (.text key) = true := List.find?_some
      (p := fun entry : Datum × Datum => Datum.sameKey entry.1 (.text key)) found
    obtain rfl := eq_text_of_sameKey asked
    have same : Datum.sameKey (.text key) (.text "fragments") = (key == "fragments") := rfl
    by_cases fragments : key = "fragments"
    · subst fragments
      rfl
    · simp [same, fragments]

/-- But for its fragments, a configuration with a single source is as before. -/
theorem entry?_withSource (differs : key ≠ "fragments") :
    entry? key (withSource name entries) = entry? key entries := by
  rw [ entry?, get?_withSource, if_neg differs, entry?]

/-- A configuration with a single source has the keys that it had. -/
theorem isSome_get?_withSource :
    (Datum.get? key (withSource name entries)).isSome = (Datum.get? key entries).isSome := by
  rw [get?_withSource]
  split
  · exact Option.isSome_map
  · rfl

/-- Where fragments are known there are no other keys than before. -/
theorem extraEntries_withSource {names : List String} (known : "fragments" ∈ names) :
    extraEntries names (withSource name entries) = extraEntries names entries := by
  have kept : (withSource name entries).filter (fun entry =>
      !names.any fun name => Datum.sameKey entry.1 (.text name)) =
        entries.filter fun entry => !names.any fun name => Datum.sameKey entry.1 (.text name) := by
    induction entries with
    | nil => rfl
    | cons entry rest ih =>
      rw [withSource, List.map_cons]
      split
      next held =>
        have listed : (names.any fun name => Datum.sameKey entry.1 (.text name)) = true :=
          List.any_eq_true.mpr ⟨_, known, held⟩
        rw [List.filter_cons_of_neg (by simp [listed]), List.filter_cons_of_neg (by simp [listed])]
        exact ih
      · rw [List.filter_cons, List.filter_cons]
        split
        · exact congrArg _ ih
        · exact ih
  rw [extraEntries, kept, extraEntries]

/-- A single source follows the schema for fragments if it is not empty. -/
theorem follows_fragments (filled : name ≠ "") :
    violations [] (.ofRules [.kind [.array], .items nonemptyText, .nonemptyList]) (.list [.text name]) =
      some [] := by
  have own : violations [] nonemptyText (.text name) = some [] := by
    unfold nonemptyText violations
    rw [violationsOfAll_eq_some_nil_iff, List.forall_mem_cons, List.forall_mem_singleton]
    refine ⟨rfl, ?_⟩
    show some (if name.isEmpty then _ else []) = _
    rw [if_neg (by simpa [String.isEmpty_iff] using filled)]
  unfold violations
  rw [violationsOfAll_eq_some_nil_iff, List.forall_mem_cons, List.forall_mem_cons,
    List.forall_mem_singleton]
  refine ⟨rfl, ?_, rfl⟩
  show (do return (← [((Datum.text name), 0)].mapM _).flatten) = some []
  simp [own]

/-- If what is assembled for one source passes the check, so does what is assembled for another one that
is not empty. -/
theorem check_withSource (filled : name ≠ "")
    (checked : check (.plain (.mapping (withSource other entries))) = .ok ()) :
    check (.plain (.mapping (withSource name entries))) = .ok () := by
  rw [check_eq_ok_iff] at checked ⊢
  unfold schema closedRecord KnottedDatum.plain violations at checked ⊢
  rw [violationsOfAll_eq_some_nil_iff] at checked ⊢
  simp only [List.forall_mem_cons] at checked ⊢
  obtain ⟨-, required, closed, members, -⟩ := checked
  -- Keys are there or not whatever the source is; only the rule for the fragments looks at the source.
  refine ⟨rfl, ?_, ?_, ?_, nofun⟩
  · change some (List.flatMap _ _) = some [] at required
    change some (List.flatMap _ _) = some []
    simp only [isSome_get?_withSource] at required ⊢
    exact required
  · have listed : "fragments" ∈
        ["compiler", "output_dir", "jobs", "fragments", "suffixes", "artifact"] := by decide
    change violationsOf [] (.closed ["compiler", "output_dir", "jobs", "fragments", "suffixes", "artifact"])
      _ (.mapping (withSource other entries)) = some [] at closed
    change violationsOf [] (.closed ["compiler", "output_dir", "jobs", "fragments", "suffixes", "artifact"])
      _ (.mapping (withSource name entries)) = some []
    rw [violationsOf, extraEntries_withSource listed] at closed ⊢
    exact closed
  · change violationsOfMembers _ _ (withSource other entries) = some [] at members
    change violationsOfMembers _ _ (withSource name entries) = some []
    rw [violationsOfMembers_eq_some_nil_iff] at members ⊢
    intro member listed value found
    by_cases fragments : member.1 = "fragments"
    · rw [get?_withSource, if_pos fragments] at found
      obtain ⟨-, -, rfl⟩ := Option.map_eq_some_iff.mp found
      simp only [List.mem_cons, List.not_mem_nil, or_false] at listed
      rcases listed with rfl | rfl | rfl | rfl | rfl | rfl <;>
        first
          | exact absurd fragments (by decide)
          | exact follows_fragments filled
    · refine members member listed value ?_
      rw [get?_withSource, if_neg fragments] at found ⊢
      exact found

/-- If there are fragments, they are the single source that is put in place of them. -/
theorem textsOf_withSource (present : (Datum.get? "fragments" entries).isSome = true) :
    textsOf "fragments" (withSource name entries) = [name] := by
  obtain ⟨value, found⟩ := Option.isSome_iff_exists.mp present
  have own : entry? "fragments" (withSource name entries) = some (.list [.text name]) := by
    rw [ entry?, get?_withSource, if_pos rfl, found, Option.map_some]
  rw [textsOf, own]
  rfl

/-- If a configuration gives settings for one source, it gives the same settings for another one, but for
the fragments, or it fails as looking up the source does. -/
theorem ofDatum_withSource {context : PathContext} {settings : Settings} (filled : name ≠ "")
    (present : (Datum.get? "fragments" entries).isSome = true)
    (given : ofDatum context (.plain (.mapping (withSource other entries))) = .ok settings) :
    ofDatum context (.plain (.mapping (withSource name entries))) =
      (fun fragments => { settings with fragments := fragments }) <$>
        context.expandFragments [name] := by
  have inner (source : String) :
      (KnottedDatum.plain (.mapping (withSource source entries))).entries = withSource source entries :=
    rfl
  rw [ofDatum_eq] at given ⊢
  simp only [inner] at given ⊢
  obtain ⟨⟨⟩, checked, given⟩ := Except.bind_eq_ok_iff.mp given
  obtain ⟨compiler, compiled, given⟩ := Except.bind_eq_ok_iff.mp given
  obtain ⟨outputDir, resolved, given⟩ := Except.bind_eq_ok_iff.mp given
  obtain ⟨_, -, given⟩ := Except.bind_eq_ok_iff.mp given
  obtain rfl := Except.ok.inj given
  -- All but the fragments is found under other keys.
  have found {key : String} (differs : key ≠ "fragments") :
      entry? key (withSource name entries) = entry? key (withSource other entries) := by
    rw [ entry?_withSource differs, entry?_withSource differs]
  have compilerPart : entriesOf "compiler" (withSource name entries) =
      entriesOf "compiler" (withSource other entries) := by
    rw [entriesOf, found (by decide), entriesOf]
  have artifactPart : entriesOf "artifact" (withSource name entries) =
      entriesOf "artifact" (withSource other entries) := by
    rw [entriesOf, found (by decide), entriesOf]
  have output : textOf? "output_dir" (withSource name entries) =
      textOf? "output_dir" (withSource other entries) := by
    rw [textOf?, found (by decide), textOf?]
  have jobs : jobsOf (withSource name entries) = jobsOf (withSource other entries) := by
    rw [jobsOf, found (by decide), jobsOf]
  have suffixes : suffixesOf (withSource name entries) = suffixesOf (withSource other entries) := by
    rw [suffixesOf, textsOf, found (by decide), suffixesOf, textsOf]
  rw [check_withSource filled checked, Except.ok_bind, compilerPart, compiled, Except.ok_bind, output,
    resolved, Except.ok_bind, textsOf_withSource present, jobs, artifactPart, suffixes]
  rfl

end

end Settings

/-! ## Files -/

/-- A path asks for somebody's home: it is relative and starts with a tilde. -/
def Files.Path.AsksHome (path : Path) : Prop :=
  path.isAbsolute = false ∧ ∃ first ∈ path.parts.head?, first.startsWith "~" = true

/-- A path that asks for nobody's home stays as it is. -/
theorem Files.Path.expandHome_eq {path : Path} (homeless : ¬ path.AsksHome) (homes : Homes) :
    path.expandHome homes = .ok path := by
  obtain ⟨slashes, parts⟩ := path
  cases parts with
  | nil => rfl
  | cons first rest =>
    rw [expandHome]
    refine if_pos ?_
    by_contra asks
    rw [Bool.or_eq_true, not_or, Bool.not_eq_true, Bool.not_eq_true', Bool.not_eq_false] at asks
    exact homeless ⟨asks.1, first, rfl, asks.2⟩

namespace PathContext

variable {context : PathContext} {here : Place} {name : String}

/-- What a text leads to if it leads to a file. -/
theorem exists_walk_of_isFile {tree : Tree} (file : isFile tree here name = .ok true) :
    ∃ place content executable,
      walk tree here true name = .ok ⟨place, some (.file content executable)⟩ := by
  obtain ⟨entry, found, kind⟩ : ∃ entry, status tree here name = .ok entry ∧ entry.isFile = true := by
    unfold isFile testStatus at file
    split at file
    · cases file
    split at file
    next entry found => exact ⟨entry, found, Except.ok.inj file⟩
    · split at file <;> cases file
  obtain ⟨place, walked⟩ := status_eq_ok_iff.mp found
  cases entry with
  | file content executable => exact ⟨place, content, executable, walked⟩
  | directory => cases kind
  | link target => cases kind

/-- A file is one also by the path of its place. -/
theorem isFile_place {tree : Tree} {place : Place} {content : List UInt8} {executable : Bool}
    (fit : tree.IsFit) (lies : tree.entry? place = some (.file content executable)) (here : Place) :
    isFile tree here (Path.ofParts place).toString = .ok true := by
  have there : tree.entry? place ≠ none := lies ▸ Option.some_ne_none _
  have plain := fit.named place there
  have filled : place ≠ [] := by
    rintro rfl
    cases lies
  have found : status tree here (Path.ofParts place).toString = .ok (.file content executable) := by
    rw [plain.status_eq filled (fit.short place there) (fit.grounded place there)]
    · show (tree.entry? place).elim _ _ = _
      rw [lies]
      rfl
    · intro target linked
      cases lies.symm.trans linked
  rw [isFile, testStatus, plain.hasNull_toString, if_neg Bool.false_ne_true, found]
  rfl

/-- A name that leads to a file, that holds no wildcard and that asks for nobody's home stands for the
place of the file, whatever links lead there. -/
theorem expandFragments_of_file (fit : context.surroundings.tree.IsFit)
    (start : context.surroundings.tree.entry? context.surroundings.here = some .directory)
    (base : context.base = .ofParts context.surroundings.here)
    (literal : Wildcard.hasMagic name = false) (homeless : ¬ (Path.ofString name).AsksHome)
    {place : Place} {content : List UInt8} {executable : Bool}
    (walked : walk context.surroundings.tree context.surroundings.here true name =
      .ok ⟨place, some (.file content executable)⟩) :
    context.expandFragments [name] = .ok [.ofParts place] := by
  have expanded : context.expand (.ofString name) = .ok (.ofString name) := by
    rw [expand, Path.expandHome_eq homeless]
  have resolved : context.resolve name = .ok (.ofParts place) := by
    rw [resolve, expanded, Except.ok_bind, base]
    exact Surroundings.resolve_eq_ok_iff.mpr (resolve_of_walk fit start walked)
  have lies : context.surroundings.tree.entry? place = some (.file content executable) :=
    (entry_of_walk walked).symm
  have found : context.pathsOf name = .ok [.ofParts place] := by
    rw [pathsOf, literal, if_neg Bool.false_ne_true, existingFile, resolved, Except.ok_bind,
      isFile_place fit lies]
    rfl
  rw [expandFragments, expandFrom, found]
  rfl

end PathContext

namespace Action

variable {machine : Machine} {world after : World} {given : List (String × Datum)}
variable {name : String} {settings : Settings}

/-- Settings are assembled from the directory in which the program runs. -/
theorem perform_assembleSettings (fit : world.tree.IsFit)
    (here : world.tree.entry? machine.here = some .directory) (given : List (String × Datum)) :
    (assembleSettings given none).perform machine world =
      (Settings.ofDatum (.of machine world (.ofParts machine.here)) (.plain (Settings.assembled given)),
        world) := by
  have there : world.tree.entry? machine.here ≠ none := here ▸ Option.some_ne_none _
  have resolved : Surroundings.resolve ⟨world.tree, machine.here⟩ (.ofParts machine.here) =
      .ok (.ofParts machine.here) :=
    Surroundings.resolve_eq_self (fit.named _ there) (fit.unlinked here nofun)
  rw [assembleSettings, perform_bind_of_ok perform_surroundings, Option.getD_none, resolved,
    perform_lift_bind_ok, parseSettings, perform_bind_of_ok perform_read,
    perform_bind_of_ok perform_surroundings, perform_lift]
  rfl

/-- Settings that are assembled for a name that leads to a file have this file as their only fragment,
and they are otherwise those that the same values give with any source that is accepted, if the name holds
no wildcard and asks for nobody's home. -/
theorem assembleSettings_of_file (machine : Machine) (world : World) (given : List (String × Datum))
    (name : String) (fit : world.tree.IsFit)
    (here : world.tree.entry? machine.here = some .directory)
    (file : isFile world.tree machine.here name = .ok true)
    (literal : Wildcard.hasMagic name = false) (homeless : ¬ (Path.ofString name).AsksHome)
    (other : String) (settings : Settings) (after : World)
    (valid : (assembleSettings (("sources", .list [.text other]) :: given) none).perform machine world =
      (.ok settings, after)) :
    ∃ place content executable,
      walk world.tree machine.here true name = .ok ⟨place, some (.file content executable)⟩ ∧
        (assembleSettings (("sources", .list [.text name]) :: given) none).perform machine world =
          (.ok { settings with fragments := [.ofParts place] }, world) := by
  obtain ⟨place, content, executable, walked⟩ := PathContext.exists_walk_of_isFile file
  have filled : name ≠ "" := by
    rintro rfl
    cases walked
  have present : (Datum.get? "fragments"
      (KnottedDatum.plain (Settings.assembled given)).entries).isSome = true := rfl
  have expanded : (PathContext.of machine world (.ofParts machine.here)).expandFragments [name] =
      .ok [.ofParts place] :=
    PathContext.expandFragments_of_file fit here rfl literal homeless walked
  rw [perform_assembleSettings fit here, Settings.assembled_single] at valid ⊢
  refine ⟨place, content, executable, walked, ?_⟩
  rw [Settings.ofDatum_withSource filled present (Prod.mk.inj valid).1, expanded]
  rfl

end Action

/-! ## Samples -/

namespace Bracketed

/-- A tree of three files: the name of one of them is a pattern for another one, and that of the third
one starts with a tilde. -/
def tree : Tree :=
  ⟨[(["a[1].nc"], .file [] false), (["a1.nc"], .file [] false), (["~x.nc"], .file [] false)]⟩

/-- A world with that tree. -/
def world : World := { Sample.world with tree := tree }

/-- Values that make up a configuration with any source. -/
def given : List (String × Datum) := [("binary", .text "cc"), ("output_dir", .text "out")]

/-- Every entry of the tree is a file below the root. -/
theorem isFit_tree : world.tree.IsFit := by
  refine Tree.isFit_of_entries fun entry member => ?_
  simp only [world, tree, List.mem_cons, List.not_mem_nil, or_false] at member
  rcases member with rfl | rfl | rfl
  · exact world.tree.fits_singleton ⟨by decide, by decide, by decide, by decide⟩ (by decide)
  · exact world.tree.fits_singleton ⟨by decide, by decide, by decide, by decide⟩ (by decide)
  · exact world.tree.fits_singleton ⟨by decide, by decide, by decide, by decide⟩ (by decide)

/-- Paths are looked up from the root. -/
def context : PathContext := .of Sample.machine world (.ofParts [])

theorem linkless : ∀ entry ∈ world.tree.entries, ∀ target, entry.2 ≠ .link target := by
  simp [world, tree]

/-- A configuration with a source. -/
def configured (source : String) : List (String × Datum) := ("sources", .list [.text source]) :: given

/-- The configuration follows the schema. -/
theorem check_configured :
    Settings.check (.plain (Settings.assembled (configured "a1.nc"))) = .ok () :=
  Except.eq_ok_of_toOption (by decide +kernel)

/-- The compiler of the configuration is found by its name. -/
theorem exists_compilerOf : ∃ compiler, Settings.compilerOf context (Settings.entriesOf "compiler"
    (KnottedDatum.plain (Settings.assembled (configured "a1.nc"))).entries) = .ok compiler := by
  have bare : ("cc".contains '/' || "cc".contains '\\') = false := by
    rw [String.contains_char_eq, String.contains_char_eq]
    decide
  have binary : Settings.binaryOf context "cc" = .ok "cc" := by
    rw [Settings.binaryOf, bare, if_neg Bool.false_ne_true]
  have named : (Settings.textOf? "binary" (Settings.entriesOf "compiler"
      (KnottedDatum.plain (Settings.assembled (configured "a1.nc"))).entries)).getD "" = "cc" := rfl
  unfold Settings.compilerOf
  rw [named, binary]
  exact ⟨_, rfl⟩

theorem resolve_output : context.resolve "out" = .ok (.ofParts ["out"]) := by
  have named : IsName "out" := ⟨by decide, by decide, by decide, by decide⟩
  exact Sample.resolve_name named.ofString_eq (by decide_cbv)
    (Surroundings.resolve_eq_self named.isPlain_ofParts (Tree.unlinked_of_linkless linkless _))

theorem isFile_plain : isFile world.tree Sample.machine.here "a1.nc" = .ok true :=
  Except.eq_ok_of_toOption (by decide_cbv)

theorem isFile_bracket : isFile world.tree Sample.machine.here "a[1].nc" = .ok true :=
  Except.eq_ok_of_toOption (by decide_cbv)

theorem isFile_tilde : isFile world.tree Sample.machine.here "~x.nc" = .ok true :=
  Except.eq_ok_of_toOption (by decide_cbv)

theorem not_asksHome_plain : ¬ (Path.ofString "a1.nc").AsksHome := by
  rintro ⟨-, first, named, starts⟩
  have parts : (Path.ofString "a1.nc").parts = ["a1.nc"] := by decide
  rw [parts] at named
  obtain rfl := Option.some.inj named
  exact absurd starts (by decide_cbv)

/-- The configuration is accepted with a plain name as its source. -/
theorem exists_assembleSettings : ∃ settings,
    (Action.assembleSettings (configured "a1.nc") none).perform Sample.machine world =
      (.ok settings, world) := by
  obtain ⟨place, content, executable, walked⟩ := PathContext.exists_walk_of_isFile isFile_plain
  have expanded : context.expandFragments ["a1.nc"] = .ok [.ofParts place] :=
    PathContext.expandFragments_of_file isFit_tree rfl rfl (by decide) not_asksHome_plain walked
  obtain ⟨compiler, compiled⟩ := exists_compilerOf
  have fragments : Settings.textsOf "fragments"
      (KnottedDatum.plain (Settings.assembled (configured "a1.nc"))).entries = ["a1.nc"] := rfl
  have output : (Settings.textOf? "output_dir"
      (KnottedDatum.plain (Settings.assembled (configured "a1.nc"))).entries).getD "" = "out" := rfl
  rw [Action.perform_assembleSettings isFit_tree rfl]
  have here : PathContext.of Sample.machine world (.ofParts Sample.machine.here) = context := rfl
  rw [here, Settings.ofDatum_eq, check_configured, Except.ok_bind, compiled, Except.ok_bind, output,
    resolve_output, Except.ok_bind, fragments, expanded]
  exact ⟨_, rfl⟩

/-- Of the names in the tree the one without brackets is matched by the one with brackets. -/
theorem filter_matchesName :
    ["a[1].nc", "a1.nc", "~x.nc"].filter (Wildcard.matchesName "a[1].nc") = ["a1.nc"] := by
  have parts : Wildcard.parts "a[1].nc".toList =
      [.char 'a', .set false [.char '1'], .char '.', .char 'n', .char 'c'] := by decide
  simp only [List.filter_cons, Wildcard.matchesName, parts]
  decide

theorem glob_bracket : glob tree [] (.ofParts ["a[1].nc"]) = [.ofParts ["a1.nc"]] := by
  have listed : namesIn tree [] ⟨1, []⟩ false = ["a[1].nc", "a1.nc", "~x.nc"] := by decide_cbv
  have shown : ["a[1].nc", "a1.nc", "~x.nc"].filter (!isHidden ·) = ["a[1].nc", "a1.nc", "~x.nc"] := by
    decide_cbv
  have visible : ¬ isHidden "a[1].nc" = true := by decide_cbv
  rw [Path.ofParts, glob_singleton (by decide), matchesIn, if_neg (by decide), if_pos (by decide)]
  dsimp only
  rw [listed, if_neg visible, shown, filter_matchesName]
  rfl

/-- The name with brackets stands for the file that it matches. -/
theorem expandFragments_bracket : context.expandFragments ["a[1].nc"] = .ok [.ofParts ["a1.nc"]] := by
  have named : IsName "a1.nc" := ⟨by decide, by decide, by decide, by decide⟩
  have root : context.base.append "a[1].nc" = .ofParts ["a[1].nc"] := by decide
  have resolved : context.surroundings.resolve (.ofParts ["a1.nc"]) = .ok (.ofParts ["a1.nc"]) :=
    Surroundings.resolve_eq_self named.isPlain_ofParts (Tree.unlinked_of_linkless linkless _)
  have free : NullFree "a[1].nc" := by
    unfold NullFree
    decide
  have targets : PathContext.resolvePaths context.surroundings
      (glob tree [] (context.base.append "a[1].nc")) = .ok [.ofParts ["a1.nc"]] := by
    rw [root, glob_bracket, PathContext.resolvePaths, resolved]
    rfl
  exact PathContext.expandFragments_pattern (Path.each_nil 1) free (by decide) targets

/-- Nobody is at home where the name with a tilde asks for. -/
theorem expandHome_tilde :
    (Path.ofString "~x.nc").expandHome context.homes = .error .unknown := by
  have named : IsName "~x.nc" := ⟨by decide, by decide, by decide, by decide⟩
  have tilde : "~x.nc".startsWith "~" = true := by decide_cbv
  have user : String.ofList ("~x.nc".toList.drop 1) = "x.nc" := by decide
  have free : "x.nc".contains '\x00' = false := by
    rw [String.contains_char_eq]
    decide
  have filled : "x.nc".isEmpty = false := by decide
  have nobody : context.homes.find "~x.nc" = .error .unknown := by
    rw [Homes.find, user, free, filled, if_neg Bool.false_ne_true, if_neg Bool.false_ne_true]
    rfl
  rw [named.ofString_eq, Path.expandHome]
  dsimp only
  rw [tilde, if_neg (by decide), nobody]
  rfl

theorem expandFragments_tilde : context.expandFragments ["~x.nc"] =
    .error (.runtime "Could not determine home directory.") := by
  have magic : ¬ Wildcard.hasMagic "~x.nc" = true := by decide
  rw [PathContext.expandFragments, PathContext.expandFrom, PathContext.pathsOf, if_neg magic,
    PathContext.existingFile, PathContext.resolve, PathContext.expand, expandHome_tilde]
  rfl

end Bracketed

namespace Action

open Bracketed

/-- The settings for a plain name have its file as their only fragment. -/
theorem assembleSettings_of_file_plain :
    ∃ (settings : Settings) (place : Place) (content : List UInt8) (executable : Bool),
      walk world.tree Sample.machine.here true "a1.nc" =
          .ok ⟨place, some (.file content executable)⟩ ∧
        (assembleSettings (configured "a1.nc") none).perform Sample.machine world =
          (.ok { settings with fragments := [.ofParts place] }, world) := by
  obtain ⟨settings, valid⟩ := exists_assembleSettings
  exact ⟨settings, assembleSettings_of_file Sample.machine world given "a1.nc" isFit_tree rfl
    isFile_plain (by decide) not_asksHome_plain "a1.nc" settings world valid⟩

/-- A file whose name holds brackets is not checked: another one is, that its name matches. And one whose
name starts with a tilde is looked for in a home directory. -/
theorem assembleSettings_of_other_file :
    (isFile world.tree Sample.machine.here "a[1].nc" = .ok true ∧
      ∃ settings, (assembleSettings (configured "a[1].nc") none).perform Sample.machine world =
        (.ok settings, world) ∧ settings.fragments = [.ofParts ["a1.nc"]]) ∧
    (isFile world.tree Sample.machine.here "~x.nc" = .ok true ∧
      (assembleSettings (configured "~x.nc") none).perform Sample.machine world =
        (.error (.runtime "Could not determine home directory."), world)) ∧
    ¬ ∀ (machine : Machine) (world : World) (given : List (String × Datum)) (name : String),
      world.tree.IsFit → world.tree.entry? machine.here = some .directory →
        isFile world.tree machine.here name = .ok true →
          ∀ (other : String) (settings : Settings) (after : World),
            (assembleSettings (("sources", .list [.text other]) :: given) none).perform machine world =
                (.ok settings, after) →
              ∃ place content executable,
                walk world.tree machine.here true name =
                    .ok ⟨place, some (.file content executable)⟩ ∧
                  (assembleSettings (("sources", .list [.text name]) :: given) none).perform machine
                    world = (.ok { settings with fragments := [.ofParts place] }, world) := by
  obtain ⟨settings, valid⟩ := exists_assembleSettings
  have run (name : String) (filled : name ≠ "") :
      (assembleSettings (configured name) none).perform Sample.machine world =
        ((fun fragments => { settings with fragments := fragments }) <$>
          context.expandFragments [name], world) := by
    rw [perform_assembleSettings isFit_tree rfl, configured, Settings.assembled_single] at valid ⊢
    rw [Settings.ofDatum_withSource filled rfl (Prod.mk.inj valid).1]
    rfl
  have bracket := run "a[1].nc" (by decide)
  have tilde := run "~x.nc" (by decide)
  rw [expandFragments_bracket] at bracket
  rw [expandFragments_tilde] at tilde
  refine ⟨⟨isFile_bracket, _, bracket, rfl⟩, ⟨isFile_tilde, tilde⟩, fun always => ?_⟩
  obtain ⟨place, content, executable, -, also⟩ := always Sample.machine world given "~x.nc" isFit_tree rfl
    isFile_tilde "a1.nc" settings world valid
  cases tilde.symm.trans also

end Action

end NegativeCompile
