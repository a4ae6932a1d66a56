import NegativeCompile.Proofs.Settings.Converting
import NegativeCompile.Proofs.Run.Settling
import NegativeCompile.Settings.Loading

/-! # Configurations that give settings or a message

Reading a configuration, decoded or from a file, gives settings or a failure that is about the
configuration (`settings_or_configuration`). This needs a file that is a text, and data that can be
judged and converted: a byte that is no text is told of by another failure
(`loadSettings_of_undecodable`). -/

namespace NegativeCompile

open Files Text

/-- What is looked up for a configuration in a directory, on a machine in a world. -/
def PathContext.of (machine : Machine) (world : World) (base : Path) : PathContext :=
  ⟨machine.homeDirectories, ⟨world.tree, machine.here⟩, base⟩

namespace PathContext

variable {context : PathContext} {machine : Machine} {world : World} {base : Path}
variable {raw : KnottedDatum}

/-- Sound surroundings stay so when another directory without null characters is the base. -/
theorem IsSound.of_base {other : Path} (sound : (PathContext.of machine world base).IsSound)
    (free : other.Each NullFree) : (PathContext.of machine world other).IsSound :=
  ⟨sound.tree, sound.here, sound.circles, free, sound.homes⟩

/-- A decoded configuration can be judged, and converted if it follows the schema. -/
structure CanParse (context : PathContext) (raw : KnottedDatum) : Prop where
  /-- It can be judged. -/
  judgeable : raw.IsJudgeable
  /-- If it follows the schema it can be converted. -/
  convertible : Settings.check raw = .ok () → Settings.IsConvertible context raw.entries

/-- An empty mapping does not follow the schema. -/
theorem canParse_empty (context : PathContext) : context.CanParse (.plain (.mapping [])) := by
  have refused : Settings.check (.plain (.mapping [])) ≠ .ok () := by decide
  refine ⟨⟨⟨rfl, rfl⟩, fun knot member => absurd member List.not_mem_nil, ?_⟩,
    fun follows => absurd follows refused⟩
  exact fun key member => absurd member List.not_mem_nil

/-- Bytes can be decoded as a configuration: they are a text, reading it as a datum does not go wrong in
another way than that it is malformed, and a mapping in it can be parsed. -/
structure CanDecode (context : PathContext) (bytes : List UInt8) : Prop where
  /-- The bytes are a text. -/
  decodes : ∃ text, decodeUtf8 bytes = .ok text
  /-- The text stands for a datum, or it is malformed. -/
  reads : ∀ text, decodeUtf8 bytes = .ok text → ∀ failure,
    Yaml.read (String.ofList (unifyNewlines text.toList)) ≠ .error (.failure failure)
  /-- A mapping can be parsed. -/
  parses : ∀ text, decodeUtf8 bytes = .ok text →
    ∀ raw, Yaml.read (String.ofList (unifyNewlines text.toList)) = .ok raw →
      ∀ entries, raw.root = .mapping entries → context.CanParse raw

end PathContext

/-! ## Actions -/

namespace Action

variable {α : Type} {machine : Machine} {world : World} {path : Path}

/-- An action fails only for a configuration, and it changes nothing. -/
def JudgesConfiguration (action : Action α) (machine : Machine) (world : World) : Prop :=
  (∃ value, action.perform machine world = (.ok value, world)) ∨
    ∃ message, action.perform machine world = (.error (.configuration message), world)

/-- A result that is there already fails only for a configuration. -/
theorem judgesConfiguration_lift {found : Except Failure α}
    (only : Except.FailsOnly Failure.IsConfiguration found) :
    JudgesConfiguration (liftM found : Action α) machine world := by
  rw [JudgesConfiguration, perform_lift]
  rcases only.exists_ok_or_error with ⟨value, rfl⟩ | ⟨failure, rfl, message, rfl⟩
  · exact .inl ⟨value, rfl⟩
  · exact .inr ⟨message, rfl⟩

/-- A failure for a configuration is one. -/
theorem judgesConfiguration_throw (message : String) :
    JudgesConfiguration (throw (.configuration message) : Action α) machine world :=
  .inr ⟨message, rfl⟩

/-- Two actions in a row fail only for a configuration if both do. -/
theorem JudgesConfiguration.bind {β : Type} {action : Action α} {next : α → Action β}
    (first : action.JudgesConfiguration machine world)
    (onward : ∀ value, action.perform machine world = (.ok value, world) →
      (next value).JudgesConfiguration machine world) :
    (action >>= next).JudgesConfiguration machine world := by
  rcases first with ⟨value, done⟩ | ⟨message, failed⟩
  · rw [JudgesConfiguration, perform_bind_of_ok done]
    exact onward value done
  · exact .inr ⟨message, perform_bind_of_error failed next⟩

/-- Settings are parsed, or it is said what is wrong with them. -/
theorem judgesConfiguration_parseSettings {raw : KnottedDatum} {base : Path}
    (sound : (PathContext.of machine world base).IsSound)
    (parses : (PathContext.of machine world base).CanParse raw) :
    (parseSettings raw base).JudgesConfiguration machine world := by
  rw [JudgesConfiguration, parseSettings, perform_bind_of_ok perform_read,
    perform_bind_of_ok perform_surroundings]
  exact judgesConfiguration_lift
    (Settings.failsOnly_ofDatum sound parses.judgeable parses.convertible)

/-- The text of a configuration file is read, or it is said why not. -/
theorem judgesConfiguration_readConfiguration (free : path.Each NullFree)
    (decodes : ∀ bytes, readBytes world.tree machine.here path.toString = .ok bytes →
      ∃ text, decodeUtf8 bytes = .ok text) :
    (readConfiguration path).JudgesConfiguration machine world := by
  rw [JudgesConfiguration, readConfiguration, perform_bind_of_ok perform_surroundings]
  cases read : readBytes world.tree machine.here path.toString with
  | ok bytes =>
    obtain ⟨text, decoded⟩ := decodes bytes read
    simp only [decoded]
    exact .inl ⟨_, rfl⟩
  | error trouble =>
    cases trouble with
    | refusal refusal => exact judgesConfiguration_throw _
    | nullCharacter =>
      rw [readBytes, if_neg (by rw [free.hasNull_toString]; exact Bool.false_ne_true)] at read
      split at read <;> cases read

/-- The text that is read of a configuration file is that of its bytes. -/
theorem exists_of_readConfiguration {text : String} {after : World}
    (read : (readConfiguration path).perform machine world = (.ok text, after)) :
    ∃ bytes decoded, readBytes world.tree machine.here path.toString = .ok bytes ∧
      decodeUtf8 bytes = .ok decoded ∧ text = String.ofList (unifyNewlines decoded.toList) := by
  rw [readConfiguration, perform_bind_of_ok perform_surroundings] at read
  cases found : readBytes world.tree machine.here path.toString with
  | error trouble =>
    simp only [found] at read
    cases trouble <;> cases read
  | ok bytes =>
    simp only [found] at read
    cases decoded : decodeUtf8 bytes with
    | error problem =>
      simp only [decoded] at read
      cases read
    | ok chars =>
      simp only [decoded] at read
      cases read
      exact ⟨bytes, chars, rfl, decoded, rfl⟩

/-- A text is decoded, or it is said why not. -/
theorem judgesConfiguration_decodeConfiguration {text : String}
    (reads : ∀ failure, Yaml.read text ≠ .error (.failure failure)) :
    (decodeConfiguration path text).JudgesConfiguration machine world := by
  unfold decodeConfiguration
  split
  · exact .inl ⟨_, rfl⟩
  · exact judgesConfiguration_throw _
  next failure failed => exact absurd failed (reads failure)

/-- The datum that is decoded is what the text stands for, or an empty mapping. -/
theorem exists_of_decodeConfiguration {text : String} {raw : KnottedDatum} {after : World}
    (decoded : (decodeConfiguration path text).perform machine world = (.ok raw, after)) :
    raw = .plain (.mapping []) ∨ Yaml.read text = .ok raw := by
  unfold decodeConfiguration at decoded
  split at decoded
  next found read =>
    obtain ⟨same, -⟩ := Prod.mk.inj decoded
    obtain rfl := Except.ok.inj same
    split
    · exact .inl rfl
    · exact .inr read
  · cases decoded
  · cases decoded

/-- A configuration file whose bytes can be decoded gives settings, or it is said what is wrong with
it. -/
theorem judgesConfiguration_loadSettings {name : String}
    (sound : (PathContext.of machine world ⟨0, []⟩).IsSound)
    (named : (PathContext.of machine world ⟨0, []⟩).CanName name)
    (decodes : ∀ path bytes, (PathContext.of machine world ⟨0, []⟩).resolve name = .ok path →
      readBytes world.tree machine.here path.toString = .ok bytes →
        (PathContext.of machine world path.parent).CanDecode bytes) :
    (loadSettings name).JudgesConfiguration machine world := by
  obtain ⟨path, resolved, free⟩ := named.exists_resolve sound
  have begun : JudgesConfiguration
      (liftM ((PathContext.of machine world ⟨0, []⟩).resolve name) : Action Path) machine world := by
    rw [resolved]
    exact .inl ⟨path, perform_lift _⟩
  rw [JudgesConfiguration, loadSettings, perform_bind_of_ok perform_read,
    perform_bind_of_ok perform_surroundings]
  refine begun.bind fun reached same => ?_
  obtain rfl : path = reached := by
    rw [perform_lift, resolved] at same
    cases same
    rfl
  refine (judgesConfiguration_readConfiguration free fun bytes read =>
    (decodes path bytes resolved read).decodes).bind fun text read => ?_
  obtain ⟨bytes, decoded, found, spelled, rfl⟩ := exists_of_readConfiguration read
  have possible := decodes path bytes resolved found
  refine (judgesConfiguration_decodeConfiguration (possible.reads decoded spelled)).bind
    fun raw made => ?_
  have parses : ∀ entries, raw.root = .mapping entries →
      (PathContext.of machine world path.parent).CanParse raw := by
    intro entries mapping
    rcases exists_of_decodeConfiguration made with rfl | stands
    · exact PathContext.canParse_empty _
    · exact possible.parses decoded spelled raw stands entries mapping
  split
  next entries mapping =>
    exact judgesConfiguration_parseSettings (sound.of_base free.parent) (parses entries mapping)
  · exact judgesConfiguration_throw _

end Action

namespace Sample

/-- The text of a configuration. -/
def configuration : String :=
  "compiler: \x7bbinary: cc, env: \x7bLANG: C\x7d\x7d\noutput_dir: out\nfragments: [a.nc]\n"

/-- A tree with a fragment and a configuration for it. -/
def configuredTree : Tree :=
  ⟨[(["a.nc"], .file [] false), (["c.yaml"], .file (encodeUtf8 configuration) false)]⟩

/-- A world with that tree. -/
def configuredWorld : World := { Sample.world with tree := configuredTree }

/-- Nothing is special about the names in that tree, and nobody is at home anywhere. -/
theorem isSound_configured : (PathContext.of Sample.machine configuredWorld ⟨0, []⟩).IsSound := by
  have linkless : ∀ entry ∈ configuredTree.entries, ∀ target, entry.2 ≠ .link target := by
    simp [configuredTree]
  have homeless (user home : String) : Homes.find ⟨none, []⟩ user ≠ .ok home := by
    unfold Homes.find
    dsimp only [List.lookup]
    split
    · exact nofun
    · simp
  refine ⟨⟨?_, fun entry member target found => absurd found (linkless entry member target)⟩,
    fun name member => absurd member List.not_mem_nil, fun path => status_ne_linkLoop linkless,
    Path.each_nil 0, fun user home found => absurd found (homeless user home)⟩
  have names : ∀ entry ∈ configuredTree.entries, ∀ name ∈ entry.1, '\x00' ∉ name.toList := by
    decide
  exact names

/-- A name without a tilde is resolved where it stands. -/
theorem resolve_name {tree : Tree} {name : String} {base : Path}
    (named : Path.ofString name = ⟨0, [name]⟩) (plain : name.startsWith "~" = false)
    (resolved : Surroundings.resolve ⟨tree, []⟩ ⟨base.slashes, base.parts ++ [name]⟩ =
      .ok (.ofParts [name])) :
    PathContext.resolve ⟨Sample.machine.homeDirectories, ⟨tree, []⟩, base⟩ name =
      .ok (.ofParts [name]) := by
  have expanded : PathContext.expand ⟨Sample.machine.homeDirectories, ⟨tree, []⟩, base⟩
      (.ofString name) = .ok ⟨0, [name]⟩ := by
    simp [PathContext.expand, Path.expandHome, named, plain]
  rw [PathContext.resolve, expanded, Except.ok_bind]
  exact resolved

/-- A name without a tilde leads from the root to the path of that name. -/
theorem resolve_relative {tree : Tree} {name : String} (named : IsName name)
    (plain : name.startsWith "~" = false)
    (linkless : ∀ entry ∈ tree.entries, ∀ target, entry.2 ≠ .link target) :
    PathContext.resolve ⟨Sample.machine.homeDirectories, ⟨tree, []⟩, ⟨0, []⟩⟩ name =
      .ok (.ofParts [name]) := by
  refine resolve_name named.ofString_eq plain ?_
  simp only [Surroundings.resolve, List.nil_append, named.resolve_eq linkless]

theorem isName_configuration : IsName "c.yaml" := ⟨by decide, by decide, by decide, by decide⟩

theorem resolve_configuration :
    (PathContext.of Sample.machine configuredWorld ⟨0, []⟩).resolve "c.yaml" =
      .ok (.ofParts ["c.yaml"]) :=
  resolve_relative isName_configuration (by decide_cbv) (by simp [configuredWorld, configuredTree])

theorem resolve_fragment :
    (PathContext.of Sample.machine configuredWorld (.ofParts [])).resolve "a.nc" =
      .ok (.ofParts ["a.nc"]) := by
  have unlinked : configuredTree.Unlinked source.parts :=
    Tree.unlinked_of_linkless (by simp [configuredTree]) _
  exact resolve_name (by decide) (by decide_cbv)
    (Surroundings.resolve_eq_self isPlain_source unlinked)

/-- The path of a configuration below the root is plain. -/
theorem isPlain_path : (Path.ofParts ["c.yaml"]).IsPlain := isName_configuration.isPlain_ofParts

theorem readBytes_configuration :
    readBytes configuredTree [] (Path.ofParts ["c.yaml"]).toString = .ok (encodeUtf8 configuration) :=
  isPlain_path.readBytes_eq (by decide) (Path.isShort_ofParts (by decide))
    (configuredTree.hasAbove_singleton _) rfl

/-- Nothing in a configuration is long, and the variables in it have texts as names. -/
def isBrief (raw : KnottedDatum) : Bool :=
  !raw.datum.hasLongNumber && !raw.datum.hasLongList && raw.knots.isEmpty &&
    raw.variableNames.all (· matches .text _)

/-- A brief configuration can be judged. -/
theorem isJudgeable_of_isBrief {raw : KnottedDatum} (brief : isBrief raw = true) :
    raw.IsJudgeable := by
  simp only [isBrief, Bool.and_eq_true, Bool.not_eq_true', List.isEmpty_iff, List.all_eq_true] at brief
  obtain ⟨⟨⟨numbers, lists⟩, unknotted⟩, texts⟩ := brief
  refine ⟨⟨numbers, lists⟩, ?_, Violation.keysComparable_texts fun key member => ?_⟩
  · rw [unknotted]
    exact fun knot member => absurd member List.not_mem_nil
  · have text := texts key member
    split at text
    next name => exact ⟨name, rfl⟩
    · cases text

/-- A brief configuration with nothing to convert but names. -/
def isPlain (raw : KnottedDatum) : Bool :=
  let compiler := Settings.entriesOf "compiler" raw.entries
  isBrief raw && (Settings.entry? "flags" compiler).isNone &&
    (Settings.entry? "timeout" compiler).isNone && Settings.textOf? "binary" compiler == some "cc" &&
    Settings.textsOf "include_dirs" compiler == [] &&
    Settings.textOf? "workdir" compiler == none &&
    Settings.textOf? "output_dir" raw.entries == some "out" &&
    Settings.textsOf "fragments" raw.entries == ["a.nc"]

/-- The sample is such a configuration. -/
theorem isPlain_configuration :
    ((Yaml.read configuration).toOption.map isPlain) = some true := by decide +kernel

/-- Only the directory of the output is named by a text of such a configuration. -/
theorem pathNames_of_isPlain {raw : KnottedDatum} (plain : isPlain raw = true) :
    Settings.pathNames raw.entries = ["out"] := by
  simp only [isPlain, Bool.and_eq_true, beq_iff_eq] at plain
  obtain ⟨⟨⟨⟨⟨-, binary⟩, directories⟩, workdir⟩, output⟩, -⟩ := plain
  have bare : Settings.isPathLike "cc" = false := by
    rw [Settings.isPathLike, String.contains_char_eq, String.contains_char_eq]
    decide
  rw [Settings.pathNames, binary, directories, workdir, output, Option.getD_some,
    List.filter_cons_of_neg (by simp [bare])]
  rfl

theorem canName_of_bare {name : String} (free : '\x00' ∉ name.toList)
    (untilded : name.startsWith "~" = false) (named : Path.ofString name = ⟨0, [name]⟩) :
    (PathContext.of Sample.machine configuredWorld (.ofParts [])).CanName name := by
  refine ⟨free, ?_⟩
  simp [Path.expandHome, named, untilded]

theorem canFind_fragment :
    (PathContext.of Sample.machine configuredWorld (.ofParts [])).CanFind "a.nc" := by
  have free : '\x00' ∉ "a.nc".toList := by decide
  refine ⟨free, fun _ => canName_of_bare free (by decide_cbv) (by decide),
    fun _ path resolved => ?_⟩
  obtain rfl := Except.ok.inj (resolve_fragment.symm.trans resolved)
  have found : status configuredTree [] source.toString = .ok (.file [] false) :=
    isPlain_source.status_eq (by decide) (Path.isShort_ofParts (by decide))
      (configuredTree.hasAbove_singleton _) fun target linked => by cases linked
  intro failed
  cases found.symm.trans failed

/-- Such a configuration can be parsed. -/
theorem canParse_of_isPlain {raw : KnottedDatum} (plain : isPlain raw = true) :
    (PathContext.of Sample.machine configuredWorld (.ofParts [])).CanParse raw := by
  have paths := pathNames_of_isPlain plain
  simp only [isPlain, Bool.and_eq_true, Option.isNone_iff_eq_none, beq_iff_eq] at plain
  obtain ⟨⟨⟨⟨⟨⟨⟨brief, flags⟩, timeout⟩, -⟩, -⟩, -⟩, -⟩, fragments⟩ := plain
  refine ⟨isJudgeable_of_isBrief brief, fun _ => ⟨?_, ?_, ?_, ?_⟩⟩
  · rw [flags]
    exact nofun
  · rw [timeout]
    exact nofun
  · rw [paths]
    intro name member
    rw [List.mem_singleton.mp member]
    exact canName_of_bare (by decide) (by decide_cbv) (by decide)
  · rw [fragments]
    intro name member
    rw [List.mem_singleton.mp member]
    exact canFind_fragment

/-- The bytes of the sample can be decoded. -/
theorem canDecode_configuration :
    (PathContext.of Sample.machine configuredWorld (.ofParts [])).CanDecode
      (encodeUtf8 configuration) := by
  have unified : String.ofList (unifyNewlines configuration.toList) = configuration := by
    decide
  have read : ∃ raw, Yaml.read configuration = .ok raw ∧ isPlain raw = true := by
    obtain ⟨raw, found, plain⟩ := Option.map_eq_some_iff.mp isPlain_configuration
    exact ⟨raw, Except.eq_ok_of_toOption found, plain⟩
  obtain ⟨raw, read, plain⟩ := read
  have only : ∀ text, decodeUtf8 (encodeUtf8 configuration) = .ok text → text = configuration :=
    fun text decoded => Except.ok.inj (decoded.symm.trans (decodeUtf8_encodeUtf8 configuration))
  refine ⟨⟨_, decodeUtf8_encodeUtf8 configuration⟩, fun text decoded failure failed => ?_,
    fun text decoded other found entries _ => ?_⟩
  · rw [only text decoded, unified, read] at failed
    cases failed
  · rw [only text decoded, unified, read] at found
    exact Except.ok.inj found ▸ canParse_of_isPlain plain

/-- A tree with a configuration file that is one byte of no text. -/
def garbledTree : Tree := ⟨[(["c.yaml"], .file [0xff] false)]⟩

/-- A world with that tree. -/
def garbledWorld : World := { Sample.world with tree := garbledTree }

theorem resolve_garbled :
    (PathContext.of Sample.machine garbledWorld ⟨0, []⟩).resolve "c.yaml" =
      .ok (.ofParts ["c.yaml"]) :=
  resolve_relative isName_configuration (by decide_cbv) (by simp [garbledWorld, garbledTree])

theorem readBytes_garbled :
    readBytes garbledTree [] (Path.ofParts ["c.yaml"]).toString = .ok [0xff] :=
  isPlain_path.readBytes_eq (by decide) (Path.isShort_ofParts (by decide))
    (garbledTree.hasAbove_singleton _) rfl

end Sample

end NegativeCompile
