import NegativeCompile.Proofs.Settings.Checking
import NegativeCompile.Proofs.Files.PathParts

/-! # Configurations that are converted

Once a configuration follows the schema, its parts are converted: flags are split into words, texts
become paths, and patterns become files. If its texts can be converted (`Settings.IsConvertible`),
nothing goes wrong but that a fragment is not there (`Settings.failsOnly_ofDatum`). -/

namespace NegativeCompile

open Files Number Text

/-! ## Paths -/

/-- With its tilde replaced a path has parts with a property if its own parts and those of the home
directories have it. -/
theorem Files.Path.Each.expandHome {holds : String → Prop} {homes : Homes} {path expanded : Path}
    (each : path.Each holds)
    (inside : ∀ user home, homes.find user = .ok home →
      (Path.ofString (if home.isEmpty then "/" else home)).Each holds)
    (done : path.expandHome homes = .ok expanded) : expanded.Each holds := by
  unfold Path.expandHome at done
  split at done
  · exact Except.ok.inj done ▸ each
  next first rest parts =>
    split at done
    · exact Except.ok.inj done ▸ each
    · obtain ⟨home, found, equal⟩ := Except.bind_eq_ok_iff.mp done
      rw [← Except.ok.inj equal]
      intro part member
      rcases List.mem_append.mp member with above | below
      · exact inside first home found part above
      · exact each part (parts ▸ List.mem_cons_of_mem first below)

namespace PathContext

variable {context : PathContext} {text : String} {texts entries : List String}

/-- The surroundings of a configuration are sound: no name in them holds a null character, and no
links lead round in a circle. -/
structure IsSound (context : PathContext) : Prop where
  /-- The tree holds no null character. -/
  tree : context.surroundings.tree.NullFree
  /-- The current directory does not. -/
  here : ∀ name ∈ context.surroundings.here, NullFree name
  /-- No links lead round in a circle. -/
  circles : ∀ path, status context.surroundings.tree context.surroundings.here path ≠
    .error .linkLoop
  /-- The base directory holds no null character. -/
  base : context.base.Each NullFree
  /-- The home directories of users do not. -/
  homes : ∀ user home, context.homes.find user = .ok home → NullFree home

/-- A text can name a path: it holds no null character, and if it starts with the tilde of a user,
this user is at home somewhere. -/
structure CanName (context : PathContext) (text : String) : Prop where
  /-- There is no null character. -/
  nullFree : NullFree text
  /-- A home directory that is asked for is known. -/
  home : (Path.ofString text).expandHome context.homes ≠ .error .unknown

/-- A path without null characters can be resolved in sound surroundings. -/
theorem IsSound.exists_resolve {path : Path} (sound : context.IsSound) (free : path.Each NullFree) :
    ∃ target, context.surroundings.resolve path = .ok target ∧ target.Each NullFree := by
  have possible := Path.each_nullFree_iff.mp free
  have resolved : ∃ target, Files.resolve context.surroundings.tree context.surroundings.here path =
      .ok target := by
    unfold Files.resolve
    rw [if_neg (by rw [possible]; exact Bool.false_ne_true)]
    dsimp only
    split
    next circular => exact absurd circular (sound.circles _)
    · exact ⟨_, rfl⟩
  obtain ⟨target, resolved⟩ := resolved
  refine ⟨target, ?_, sound.tree.resolve sound.here free resolved⟩
  rw [Surroundings.resolve, resolved]

/-- A path without null characters stays one when its tilde is replaced. -/
theorem IsSound.each_expandHome {path expanded : Path} (sound : context.IsSound)
    (free : path.Each NullFree) (done : path.expandHome context.homes = .ok expanded) :
    expanded.Each NullFree := by
  refine free.expandHome (fun user home found => NullFree.ofString ?_) done
  split
  · rw [NullFree]
    decide
  · exact sound.homes user home found

/-- The name of a user in a path without null characters has none. -/
theorem expandHome_ne_nullCharacter {path : Path} (free : path.Each NullFree) :
    path.expandHome context.homes ≠ .error .nullCharacter := by
  intro failed
  unfold Path.expandHome at failed
  split at failed
  · cases failed
  next first rest parts =>
    split at failed
    · cases failed
    · have user : ¬ (String.ofList (first.toList.drop 1)).contains '\x00' = true := by
        rw [String.contains_char_eq, decide_eq_true_eq, String.toList_ofList]
        exact fun held => free first (parts ▸ List.mem_cons_self) (List.mem_of_mem_drop held)
      cases found : context.homes.find first with
      | ok home =>
        rw [found] at failed
        cases failed
      | error problem =>
        rw [found] at failed
        obtain rfl := Except.error.inj failed
        unfold Homes.find at found
        dsimp only at found
        rw [if_neg user] at found
        split at found <;> cases found

/-- The tilde of a text that can name a path can be replaced. -/
theorem CanName.exists_expand (named : context.CanName text) (sound : context.IsSound) :
    ∃ path, context.expand (.ofString text) = .ok path ∧ path.Each NullFree := by
  have parts : (Path.ofString text).Each NullFree := named.nullFree.ofString
  have known := named.home
  unfold expand
  generalize Path.ofString text = path at parts known
  cases expanded : path.expandHome context.homes with
  | ok other => exact ⟨other, rfl, sound.each_expandHome parts expanded⟩
  | error problem =>
    cases problem with
    | unknown => exact absurd expanded known
    | nullCharacter => exact absurd expanded (expandHome_ne_nullCharacter parts)

/-- A text that can name a path does so in sound surroundings. -/
theorem CanName.exists_resolve (named : context.CanName text) (sound : context.IsSound) :
    ∃ path, context.resolve text = .ok path ∧ path.Each NullFree := by
  obtain ⟨path, expanded, free⟩ := named.exists_expand sound
  obtain ⟨target, resolved, done⟩ := sound.exists_resolve (sound.base.join free)
  exact ⟨target, by rw [resolve, expanded, Except.ok_bind, resolved], done⟩

/-- Texts that can name paths do so in sound surroundings. -/
theorem exists_resolveAll (sound : context.IsSound) (named : ∀ text ∈ texts, context.CanName text) :
    ∃ paths, context.resolveAll texts = .ok paths := by
  induction texts with
  | nil => exact ⟨[], rfl⟩
  | cons text rest ih =>
    obtain ⟨path, here, -⟩ := (named text List.mem_cons_self).exists_resolve sound
    obtain ⟨others, more⟩ := ih fun other member => named other (List.mem_cons_of_mem _ member)
    refine ⟨path :: others, ?_⟩
    rw [resolveAll, here, Except.ok_bind, more]
    rfl

/-! ## Fragments -/

/-- Paths without null characters can be resolved in sound surroundings. -/
theorem IsSound.exists_resolvePaths (sound : context.IsSound) {paths : List Path}
    (free : ∀ path ∈ paths, path.Each NullFree) :
    ∃ targets, resolvePaths context.surroundings paths = .ok targets := by
  induction paths with
  | nil => exact ⟨[], rfl⟩
  | cons path rest ih =>
    obtain ⟨target, here, -⟩ := sound.exists_resolve (free path List.mem_cons_self)
    obtain ⟨others, more⟩ := ih fun other member => free other (List.mem_cons_of_mem _ member)
    refine ⟨target :: others, ?_⟩
    rw [resolvePaths, here, Except.ok_bind, more]
    rfl

/-- An entry of the list of fragments can be looked up: a pattern holds no null character, and any
other text can name a path on which no name is too long. -/
structure CanFind (context : PathContext) (entry : String) : Prop where
  /-- There is no null character. -/
  nullFree : NullFree entry
  /-- A text that is no pattern can name a path. -/
  named : Wildcard.hasMagic entry = false → context.CanName entry
  /-- No name on the way to it is too long. -/
  short : Wildcard.hasMagic entry = false → ∀ path, context.resolve entry = .ok path →
    status context.surroundings.tree context.surroundings.here path.toString ≠ .error .longName

/-- Before the first wildcard of a pattern there is no null character if there is none at all. -/
theorem any_hasNull_eq_false {pattern : Path} (free : pattern.Each NullFree) :
    (pattern.parts.takeWhile (!Wildcard.hasMagic ·)).any hasNull = false := by
  rw [List.any_eq_false]
  intro part member
  rw [hasNull, String.contains_char_eq, decide_eq_true_eq]
  exact free part (List.takeWhile_subset _ member)

/-- A pattern without null characters matches files, or it is said that there are none. -/
theorem IsSound.failsOnly_pathsMatching (sound : context.IsSound) {entry : String}
    (free : NullFree entry) :
    Except.FailsOnly Failure.IsConfiguration (context.pathsMatching entry) := by
  have pattern : (context.base.append entry).Each NullFree := sound.base.join free.ofString
  have possible := any_hasNull_eq_false pattern
  obtain ⟨targets, resolved⟩ := sound.exists_resolvePaths (sound.tree.glob pattern)
  unfold pathsMatching
  dsimp only
  rw [if_neg (by rw [possible]; exact Bool.false_ne_true), resolved]
  dsimp only [bind, Except.bind, pure, Except.pure]
  split
  · exact .error (Failure.isConfiguration_configuration _)
  · exact .ok _

/-- A text that is no pattern and can be looked up names a file, or it is said that there is none. -/
theorem CanFind.failsOnly_existingFile {entry : String} (found : context.CanFind entry)
    (sound : context.IsSound) (literal : Wildcard.hasMagic entry = false) :
    Except.FailsOnly Failure.IsConfiguration (context.existingFile entry) := by
  obtain ⟨path, resolved, -⟩ := (found.named literal).exists_resolve sound
  obtain ⟨answer, tested⟩ := exists_isFile (found.short literal path resolved)
  unfold existingFile
  rw [resolved, Except.ok_bind, tested]
  cases answer with
  | true => exact .ok path
  | false => exact .error (Failure.isConfiguration_configuration _)

/-- Looking up an entry that can be looked up gives files, or it is said that there are none. -/
theorem CanFind.failsOnly_pathsOf {entry : String} (found : context.CanFind entry)
    (sound : context.IsSound) :
    Except.FailsOnly Failure.IsConfiguration (context.pathsOf entry) := by
  unfold pathsOf
  split
  · exact sound.failsOnly_pathsMatching found.nullFree
  next plain =>
    exact (found.failsOnly_existingFile sound (Bool.eq_false_iff.mpr plain)).map _

/-- Looking up entries that can be looked up gives files, or it is said which one has none. -/
theorem failsOnly_expandFragments (sound : context.IsSound)
    (found : ∀ entry ∈ entries, context.CanFind entry) :
    Except.FailsOnly Failure.IsConfiguration (context.expandFragments entries) := by
  have onward : ∀ known, Except.FailsOnly Failure.IsConfiguration
      (context.expandFrom known entries) := by
    induction entries with
    | nil => exact fun known => .ok known
    | cons entry rest ih =>
      intro known
      rw [expandFrom]
      refine ((found entry List.mem_cons_self).failsOnly_pathsOf sound).bind fun paths _ => ?_
      exact ih (fun other member => found other (List.mem_cons_of_mem _ member)) _
  exact onward []

end PathContext

/-! ## Parts of a configuration -/

/-- The entries of a decoded configuration. -/
def KnottedDatum.entries (raw : KnottedDatum) : List (Datum × Datum) :=
  match raw.datum with
  | .mapping entries => entries
  | _ => []

/-- The entries of a decoded configuration that can be judged are short. -/
theorem KnottedDatum.IsJudgeable.isShort_entries {raw : KnottedDatum} (judgeable : raw.IsJudgeable) :
    Datum.IsShort (.mapping raw.entries) := by
  have short := judgeable.datum
  unfold entries
  split
  next entries same => exact same ▸ short
  · exact ⟨rfl, rfl⟩

namespace Settings

variable {context : PathContext} {entries : Entries} {datum : Datum} {name : String}

/-- The entries of a mapping within a short mapping are short. -/
theorem isShort_entriesOf (short : Datum.IsShort (.mapping entries)) (name : String) :
    Datum.IsShort (.mapping (entriesOf name entries)) := by
  unfold entriesOf
  split
  next inner found => exact short.of_get? found
  · exact ⟨rfl, rfl⟩

/-- Short variables can be bound. -/
theorem exists_bindVariables (bound : List (String × String))
    (short : Datum.IsShort (.mapping entries)) : ∃ all, bindVariables bound entries = .ok all := by
  have plain (datum : Datum) (short : datum.IsShort) : plainOf datum = .ok datum.plain := by
    have shown : datum.plain? = some datum.plain :=
      if_neg (by rw [short.numbers]; exact Bool.false_ne_true)
    rw [plainOf, shown]
  have each := short.of_mapping
  clear short
  induction entries generalizing bound with
  | nil => exact ⟨bound, rfl⟩
  | cons entry rest ih =>
    obtain ⟨key, value⟩ := each entry List.mem_cons_self
    rw [bindVariables, plain _ key, Except.ok_bind, plain _ value, Except.ok_bind]
    exact ih _ fun other member => each other (List.mem_cons_of_mem _ member)

/-- The name of a compiler stands for a path. -/
def isPathLike (name : String) : Bool := name.contains '/' || name.contains '\\'

/-- The texts of a configuration that name paths. -/
def pathNames (entries : Entries) : List String :=
  let compiler := entriesOf "compiler" entries
  [(textOf? "binary" compiler).getD ""].filter isPathLike ++ textsOf "include_dirs" compiler ++
    (textOf? "workdir" compiler).toList.filter (!·.isEmpty) ++
    [(textOf? "output_dir" entries).getD ""]

/-- The texts and numbers of a configuration can be converted. -/
structure IsConvertible (context : PathContext) (entries : Entries) : Prop where
  /-- A line of flags can be split into words. -/
  flags : ∀ line, entry? "flags" (entriesOf "compiler" entries) = some (.text line) →
    ∃ words, ShellWords.split line = .ok words
  /-- A whole number of seconds is not too large. -/
  timeout : ∀ count, entry? "timeout" (entriesOf "compiler" entries) = some (.integer count) →
    (Binary64.ofInt count).isFinite = true
  /-- Texts that name paths can. -/
  names : ∀ name ∈ pathNames entries, context.CanName name
  /-- Entries of the list of fragments can be looked up. -/
  fragments : ∀ entry ∈ textsOf "fragments" entries, context.CanFind entry

/-- The flags of a configuration that can be converted are words. -/
theorem IsConvertible.exists_flagsOf (convertible : IsConvertible context entries) :
    ∃ words, flagsOf (entriesOf "compiler" entries) = .ok words := by
  unfold flagsOf
  split
  next line given =>
    obtain ⟨words, split⟩ := convertible.flags line given
    exact ⟨words, by rw [split]⟩
  · exact ⟨_, rfl⟩

/-- The time of a configuration that can be converted is a floating point number. -/
theorem IsConvertible.exists_timeoutOf (convertible : IsConvertible context entries) :
    ∃ seconds, timeoutOf (entriesOf "compiler" entries) = .ok seconds := by
  unfold timeoutOf
  split
  next count given =>
    refine ⟨.real (Binary64.ofInt count), ?_⟩
    dsimp only
    rw [if_pos (convertible.timeout count given)]
  · exact ⟨_, rfl⟩
  · exact ⟨_, rfl⟩

/-- The compiler's part of a configuration that can be converted gives settings. -/
theorem IsConvertible.exists_compilerOf (convertible : IsConvertible context entries)
    (sound : context.IsSound) (short : Datum.IsShort (.mapping entries)) :
    ∃ compiler, compilerOf context (entriesOf "compiler" entries) = .ok compiler := by
  obtain ⟨words, split⟩ := convertible.exists_flagsOf
  obtain ⟨seconds, timed⟩ := convertible.exists_timeoutOf
  obtain ⟨bound, set⟩ :=
    exists_bindVariables [] (isShort_entriesOf (isShort_entriesOf short "compiler") "env")
  have names := convertible.names
  unfold pathNames at names
  dsimp only at names
  simp only [List.mem_append, or_imp, forall_and] at names
  obtain ⟨⟨⟨binary, directories⟩, workdir⟩, -⟩ := names
  generalize entriesOf "compiler" entries = compiler at *
  -- A name of a program is looked up only when it is run, so it is resolved just if it is a path.
  obtain ⟨program, resolved⟩ : ∃ program,
      binaryOf context ((textOf? "binary" compiler).getD "") = .ok program := by
    unfold binaryOf
    split
    next pathLike =>
      obtain ⟨path, resolved, -⟩ := (binary _ (List.mem_filter.mpr
        ⟨List.mem_singleton_self _, pathLike⟩)).exists_resolve sound
      exact ⟨path.toString, by rw [resolved]; rfl⟩
    · exact ⟨_, rfl⟩
  obtain ⟨paths, all⟩ := PathContext.exists_resolveAll sound directories
  unfold compilerOf
  rw [split, Except.ok_bind, resolved, Except.ok_bind, all, Except.ok_bind, timed, Except.ok_bind,
    variablesOf, set, Except.ok_bind]
  cases given : textOf? "workdir" compiler with
  | none => exact ⟨_, rfl⟩
  | some name =>
    by_cases empty : name.isEmpty
    · simp only [if_pos empty]
      exact ⟨_, rfl⟩
    · obtain ⟨path, done, -⟩ := (workdir name (List.mem_filter.mpr
        ⟨by simp [given], by simpa using empty⟩)).exists_resolve sound
      simp only [if_neg empty, done]
      exact ⟨_, rfl⟩

/-- The settings of a decoded configuration are made of its entries. -/
theorem ofDatum_eq (context : PathContext) (raw : KnottedDatum) : ofDatum context raw = (do
    check raw
    let compiler ← compilerOf context (entriesOf "compiler" raw.entries)
    let outputDir ← context.resolve ((textOf? "output_dir" raw.entries).getD "")
    let fragments ← context.expandFragments (textsOf "fragments" raw.entries)
    return {
      compiler := compiler
      outputDir := outputDir
      fragments := fragments
      baseDir := context.base
      jobs := jobsOf raw.entries
      artifact := artifactOf (entriesOf "artifact" raw.entries)
      suffixes := suffixesOf raw.entries }) := by
  obtain ⟨datum, knots⟩ := raw
  cases datum <;> rfl

/-- A decoded configuration that can be judged, and can be converted if it follows the schema, gives
settings, or it is said what is wrong with it. -/
theorem failsOnly_ofDatum {raw : KnottedDatum} (sound : context.IsSound)
    (judgeable : raw.IsJudgeable)
    (convertible : check raw = .ok () → IsConvertible context raw.entries) :
    Except.FailsOnly Failure.IsConfiguration (ofDatum context raw) := by
  rw [ofDatum_eq]
  refine (failsOnly_check judgeable).bind fun _ follows => ?_
  have possible := convertible follows
  obtain ⟨compiler, compiled⟩ := possible.exists_compilerOf sound judgeable.isShort_entries
  obtain ⟨path, resolved, -⟩ := (possible.names _ (List.mem_append_right _
    (List.mem_singleton_self _))).exists_resolve sound
  rw [compiled, Except.ok_bind, resolved, Except.ok_bind]
  have looked := PathContext.failsOnly_expandFragments sound possible.fragments
  exact looked.bind fun fragments _ => .ok _

end Settings

end NegativeCompile
