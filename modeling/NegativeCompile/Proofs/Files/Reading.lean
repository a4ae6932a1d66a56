import NegativeCompile.Dialect
import NegativeCompile.Proofs.Text.Encoding
import NegativeCompile.Proofs.Files.PathParts

/-! # Reading files at plain paths

A walk along the text of a plain path ends where its names lead, if directories lie on the way
(`Path.IsPlain.walk_eq`). So a file that holds the encoded text of a fragment is read as that text
(`Fragment.readText_of_file`). -/

namespace NegativeCompile

namespace Files

variable {tree : Tree} {start place : Place} {path : Path} {parts : List String} {name : String}

/-! ## Walks along names -/

/-- Directories lie at all places above one. -/
def Tree.HasAbove (tree : Tree) (place : Place) : Prop :=
  ∀ above, above <+: place → above ≠ place → tree.entry? above = some .directory

/-- The root lies above any name. -/
theorem Tree.hasAbove_singleton (tree : Tree) (name : String) : tree.HasAbove [name] := by
  intro above starts proper
  rcases List.prefix_cons_iff.mp starts with rfl | ⟨rest, rfl, ends⟩
  · rfl
  · exact absurd (by rw [List.prefix_nil.mp ends]) proper

/-- A walk along short names through directories ends where they lead, unless that is a link. -/
theorem walkFrom_names {follow : Bool} {links : Nat} (names : ∀ part ∈ parts, IsName part)
    (short : ∀ part ∈ parts, part.utf8ByteSize ≤ nameLimit)
    (above : tree.HasAbove (place ++ parts))
    (straight : ∀ target, tree.entry? (place ++ parts) ≠ some (.link target)) :
    walkFrom tree follow links place parts =
      .ok ⟨place ++ parts, tree.entry? (place ++ parts)⟩ := by
  -- Induction on the names: each but the last leads to a directory, from which the walk goes on.
  induction parts generalizing place with
  | nil => rw [walkFrom, List.append_nil]
  | cons step rest ih =>
    have named := names step List.mem_cons_self
    have single : step ≠ "." := by
      rintro rfl
      cases named.counts
    have here : tree.entry? place = some .directory :=
      above place (List.prefix_append _ _) (by simp)
    have regroup : place ++ step :: rest = place ++ [step] ++ rest := by simp
    rw [regroup] at above straight ⊢
    have onward : walkFrom tree follow links (place ++ [step]) rest =
        .ok ⟨place ++ [step] ++ rest, tree.entry? (place ++ [step] ++ rest)⟩ :=
      ih (fun part member => names part (List.mem_cons_of_mem _ member))
        (fun part member => short part (List.mem_cons_of_mem _ member)) above straight
    rw [walkFrom]
    simp only [here, if_neg single, if_neg named.ne_dots,
      if_neg (Nat.not_lt.mpr (short step List.mem_cons_self))]
    by_cases last : rest = []
    · subst last
      rw [List.append_nil] at straight onward ⊢
      cases found : tree.entry? (place ++ [step]) with
      | none => rfl
      | some entry =>
        rw [found] at onward
        cases entry with
        | link target => exact absurd found (straight target)
        | directory => exact onward
        | file content executable => exact onward
    · have between : tree.entry? (place ++ [step]) = some .directory :=
        above _ (List.prefix_append _ _) (by simpa using last)
      simp only [between, onward]

/-- What stands between slashes does not end with one, if its last piece does not. -/
theorem getLast?_intercalate_ne_slash {pieces : List (List Char)} (nonempty : pieces ≠ [])
    (filled : ∀ piece ∈ pieces, piece ≠ []) (uncut : ∀ piece ∈ pieces, '/' ∉ piece) :
    ∃ c, (['/'].intercalate pieces).getLast? = some c ∧ c ≠ '/' := by
  induction pieces with
  | nil => exact absurd rfl nonempty
  | cons piece rest ih =>
    by_cases last : rest = []
    · subst last
      have own : (['/'].intercalate [piece]) = piece := by simp
      have member := List.getLast_mem (filled piece List.mem_cons_self)
      refine ⟨piece.getLast (filled piece List.mem_cons_self), ?_, ?_⟩
      · rw [own, List.getLast?_eq_getLast_of_ne_nil]
      · intro slash
        exact uncut piece List.mem_cons_self (slash ▸ member)
    · obtain ⟨c, ends, other⟩ := ih last
        (fun other member => filled other (List.mem_cons_of_mem _ member))
        fun other member => uncut other (List.mem_cons_of_mem _ member)
      refine ⟨c, ?_, other⟩
      rw [List.intercalate_cons_of_ne_nil last, List.getLast?_append, ends]
      rfl

/-- The steps along the text of a plain path are its names. -/
theorem Path.IsPlain.stepsOf_toString (plain : path.IsPlain) (filled : path.parts ≠ []) :
    stepsOf path.toString = path.parts := by
  have named : ∀ part ∈ path.parts, (part != "") = true :=
    fun part member => bne_iff_ne.mpr (plain.names part member).ne_empty
  obtain ⟨c, ends, other⟩ : ∃ c,
      (['/'].intercalate (path.parts.map String.toList)).getLast? = some c ∧ c ≠ '/' := by
    refine getLast?_intercalate_ne_slash (by simpa using filled) ?_ ?_ <;> intro piece member <;>
      obtain ⟨part, listed, rfl⟩ := List.mem_map.mp member
    · exact mt String.toList_eq_nil_iff.mp (plain.names part listed).ne_empty
    · exact (plain.names part listed).noSlash
  have undirected : ¬ path.toString.endsWith "/" = true := by
    rw [String.endsWith, String.Slice.endsWith_string_iff, String.copy_toSlice, plain.toList_toString]
    rintro ⟨before, equal⟩
    have last := congrArg List.getLast? equal
    rw [List.getLast?_cons, ends, show "/".toList = ['/'] from rfl, List.getLast?_concat] at last
    exact other (Option.some.inj last).symm
  rw [stepsOf, plain.filter_slashPieces (by decide) named, if_neg undirected, List.append_nil]

/-! ## Walks along plain paths -/

/-- Every name of a short path is short, and so is its text. -/
structure Path.IsShort (path : Path) : Prop where
  /-- No name is too long. -/
  names : ∀ part ∈ path.parts, part.utf8ByteSize ≤ nameLimit
  /-- The text is not too long. -/
  text : path.toString.utf8ByteSize ≤ pathLimit

/-- A walk along the text of a plain path ends where its names lead, if directories lie on the way. -/
theorem Path.IsPlain.walk_eq {follow : Bool} (plain : path.IsPlain) (filled : path.parts ≠ [])
    (short : path.IsShort) (above : tree.HasAbove path.parts)
    (straight : ∀ target, tree.entry? path.parts ≠ some (.link target)) :
    walk tree start follow path.toString = .ok ⟨path.parts, tree.entry? path.parts⟩ := by
  have named : ¬ path.toString.isEmpty = true := by
    intro empty
    have nothing := plain.toList_toString
    rw [String.isEmpty_iff.mp empty] at nothing
    cases nothing
  rw [walk, if_neg named, if_neg (Nat.not_lt.mpr short.text), if_pos plain.startsWith_toString,
    plain.stepsOf_toString filled]
  exact walkFrom_names plain.names short.names above straight

/-- What lies at a plain path without links, through directories, is what the path leads to. -/
theorem Path.IsPlain.status_eq (plain : path.IsPlain) (filled : path.parts ≠ [])
    (short : path.IsShort) (above : tree.HasAbove path.parts)
    (straight : ∀ target, tree.entry? path.parts ≠ some (.link target)) :
    status tree start path.toString = (tree.entry? path.parts).elim (.error .missing) .ok := by
  rw [status, plain.walk_eq filled short above straight, Except.ok_bind]
  cases tree.entry? path.parts <;> rfl

/-- The text of a plain path holds no null character. -/
theorem Path.IsPlain.hasNull_toString (plain : path.IsPlain) : hasNull path.toString = false :=
  Path.Each.hasNull_toString fun part member => (plain.names part member).noNull

/-- A file at a plain path is read. -/
theorem Path.IsPlain.readBytes_eq {content : List UInt8} {executable : Bool} (plain : path.IsPlain)
    (filled : path.parts ≠ []) (short : path.IsShort) (above : tree.HasAbove path.parts)
    (lies : tree.entry? path.parts = some (.file content executable)) :
    readBytes tree start path.toString = .ok content := by
  have straight : ∀ target, tree.entry? path.parts ≠ some (.link target) := by
    intro target
    rw [lies]
    exact nofun
  rw [readBytes, plain.hasNull_toString, plain.status_eq filled short above straight, lies]
  rfl

/-- A name below the root makes a plain path. -/
theorem IsName.isPlain_ofParts (named : IsName name) : (Path.ofParts [name]).IsPlain := by
  refine ⟨rfl, fun part member => ?_⟩
  rwa [List.mem_singleton.mp member]

/-- A short name below the root makes a short path. -/
theorem Path.isShort_ofParts (short : name.utf8ByteSize ≤ nameLimit) :
    (Path.ofParts [name]).IsShort := by
  refine ⟨fun part member => ?_, ?_⟩
  · rwa [List.mem_singleton.mp member]
  · have text : "/".intercalate [name] = name := by simp
    rw [Path.toString, Path.ofParts, text]
    split
    · decide
    · have slash : (String.ofList (List.replicate 1 '/')).utf8ByteSize = 1 := by decide
      rw [String.utf8ByteSize_append, slash, pathLimit]
      rw [nameLimit] at short
      omega

/-! ## Trees without links -/

/-- There is no link on the way anywhere in a tree without links. -/
theorem Tree.unlinked_of_linkless (linkless : ∀ entry ∈ tree.entries, ∀ target, entry.2 ≠ .link target)
    (place : Place) : tree.Unlinked place :=
  fun above _ target => entry?_ne_link linkless above target

/-- Without links, a name by itself leads from the root to the path of that name. -/
theorem IsName.resolve_eq (named : IsName name)
    (linkless : ∀ entry ∈ tree.entries, ∀ target, entry.2 ≠ .link target) :
    resolve tree [] ⟨0, [name]⟩ = .ok (.ofParts [name]) := by
  have possible : ¬ [name].any (·.contains '\x00') = true := by
    simpa [String.contains_char_eq] using named.noNull
  have next : (⟨0, []⟩ : Path).append name = ⟨0, [name]⟩ := by
    rw [Path.append, named.ofString_eq]
    rfl
  have unlinked (text target : String) : linkStatus tree [] text ≠ .ok (.link target) := by
    intro linked
    obtain ⟨place, lies⟩ := exists_of_linkStatus linked
    exact Tree.entry?_ne_link linkless place target lies
  have followed (fuel : Nat) :
      resolveFrom tree [] (fuel + 2) ⟨0, []⟩ [] [name] = ⟨⟨0, [name]⟩, true, []⟩ := by
    rw [resolveFrom_cons named.counts named.ne_dots (unlinked _), next]
    rfl
  have relative : Path.isAbsolute ⟨0, [name]⟩ = false := rfl
  rw [resolve, if_neg possible]
  simp only [relative, Bool.false_eq_true, if_false, resolveFuel, followed]
  have normal : (⟨1, ((Path.ofParts []).join ⟨0, [name]⟩).parts⟩ : Path).normalize =
      .ofParts [name] := named.isPlain_ofParts.normalize_eq
  rw [normal]
  split
  next circular => exact absurd circular (status_ne_linkLoop linkless)
  · rfl

end Files

open Files

variable {tree : Tree} {start : Place} {path : Path} {text : String}

/-- Nothing changes in a text without carriage returns. -/
theorem Text.unifyNewlines_eq_self {text : List Char} (bare : '\r' ∉ text) :
    unifyNewlines text = text := by
  fun_induction unifyNewlines text with
  | case1 => rfl
  | case2 rest ih => exact absurd List.mem_cons_self bare
  | case3 c rest other ih =>
    rw [ih (fun member => bare (List.mem_cons_of_mem _ member))]
    have kept : c ≠ '\r' := by
      rintro rfl
      exact bare List.mem_cons_self
    rw [if_neg kept]

/-- A file that holds an encoded text without carriage returns is read as that text. -/
theorem Fragment.readText_of_file {executable : Bool} (plain : path.IsPlain)
    (filled : path.parts ≠ []) (short : path.IsShort) (above : tree.HasAbove path.parts)
    (lies : tree.entry? path.parts = some (.file (Text.encodeUtf8 text) executable))
    (bare : '\r' ∉ text.toList) : readText tree start path = .ok text := by
  rw [readText, plain.readBytes_eq filled short above lies]
  simp only [Text.decodeUtf8_encodeUtf8, Text.unifyNewlines_eq_self bare, String.ofList_toList]

/-- Where nothing lies, no fragment can be read. -/
theorem Fragment.readText_of_nothing (plain : path.IsPlain) (filled : path.parts ≠ [])
    (short : path.IsShort) (above : tree.HasAbove path.parts) (nothing : tree.entry? path.parts = none) :
    readText tree start path = .error (.annotations path none
      s!"cannot read fragment: {Refusal.message ⟨.missing, path.toString⟩}") := by
  have straight : ∀ target, tree.entry? path.parts ≠ some (.link target) := by
    intro target
    rw [nothing]
    exact nofun
  have refused : readBytes tree start path.toString =
      .error (.refusal ⟨.missing, path.toString⟩) := by
    rw [readBytes, plain.hasNull_toString, plain.status_eq filled short above straight, nothing]
    rfl
  rw [readText, refused]

end NegativeCompile
