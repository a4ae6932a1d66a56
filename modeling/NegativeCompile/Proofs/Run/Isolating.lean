import NegativeCompile.Proofs.Job.Clashing
import NegativeCompile.Proofs.Files.PathParts
import NegativeCompile.Proofs.Run.Settling
import NegativeCompile.Proofs.Verdict.Tractable

/-! # Faults that stay local

A fragment whose annotations are faulty, or whose file cannot be read, is a result like any other, so
it keeps no other fragment from being read (`loadFragments_isolates`). This needs texts that can be
judged: one repetition of a pattern that is out of range ends the reading of all fragments
(`loadFragments_not_isolated`). -/

namespace NegativeCompile

open Files

variable {tree : Tree} {start : Place} {place : Surroundings}
variable {base path target : Path} {paths : List Path} {machine : Machine} {world : World}

/-! ## Paths that can be resolved -/

/-- The text of a path that can be resolved holds no null character. -/
theorem Surroundings.hasNull_of_resolve (resolved : place.resolve path = .ok target) :
    hasNull path.toString = false := by
  refine Path.Each.hasNull_toString (Path.each_nullFree_iff.mpr (Bool.eq_false_iff.mpr fun holds => ?_))
  rw [resolve, Files.resolve, if_pos holds] at resolved
  cases resolved

/-- A path and a base directory that can be resolved give a key. -/
theorem Surroundings.exists_fragmentKey {root : Path} (resolved : place.resolve path = .ok target)
    (rooted : place.resolve base = .ok root) :
    ∃ key, place.fragmentKey path (some base) = .ok key := by
  simp only [fragmentKey, resolved, rooted, Except.ok_bind]
  split
  · exact ⟨_, rfl⟩
  · exact ⟨_, rfl⟩

/-! ## One fragment -/

namespace Fragment

/-- The text of a fragment can be read, or it is said why not. -/
theorem failsOnly_readText (possible : hasNull path.toString = false) :
    Except.FailsOnly Failure.IsAnnotations (readText tree start path) := by
  unfold readText
  dsimp only
  split
  · exact .error (Failure.isAnnotations_annotations _ _ _)
  next trouble other fails =>
    cases trouble with
    | refusal refusal => exact absurd rfl (other refusal)
    | nullCharacter =>
      rw [readBytes, possible] at fails
      simp only [Bool.false_eq_true, if_false] at fails
      split at fails <;> cases fails
  next bytes _ =>
    split
    · exact .error (Failure.isAnnotations_annotations _ _ _)
    · exact .ok _

/-- Without extensions, loading a fragment fails for its annotations only, if its text can be judged
or cannot be read. -/
theorem failsOnly_load (possible : hasNull path.toString = false)
    (tractable : ∀ text, readText tree start path = .ok text → Tractable text) :
    Except.FailsOnly Failure.IsAnnotations (load .standard tree start path) :=
  (failsOnly_readText possible).bind fun text read => failsOnly_parse (tractable text read)

/-- Without extensions a text that is no guarded one is read with inline markers. -/
theorem load_eq_inline {text : String} (read : readText tree start path = .ok text)
    (undetected : Guarded.detects text = false) :
    load .standard tree start path = (do
      let cases ← Inline.parse path text
      checkNames path [] cases
      return ⟨path, text, "inline", cases⟩) := by
  rw [load, read, Except.ok_bind, parse_eq_inline undetected]

end Fragment

/-! ## All fragments -/

namespace Sample

/-- Where there is no fragment. -/
def missing : Path := .ofParts ["b.nc"]

/-- The path of the missing fragment is plain. -/
theorem isPlain_missing : missing.IsPlain :=
  IsName.isPlain_ofParts ⟨by decide, by decide, by decide, by decide⟩

theorem resolve_missing : Surroundings.resolve ⟨Sample.tree, []⟩ missing = .ok missing :=
  Surroundings.resolve_eq_self isPlain_missing (unlinked_tree _)

theorem readText_missing (text : String) :
    Fragment.readText Sample.tree [] missing ≠ .ok text := by
  rw [Fragment.readText_of_nothing isPlain_missing (by decide) (Path.isShort_ofParts (by decide))
    (Sample.tree.hasAbove_singleton _) rfl]
  exact nofun

theorem tractable_text : Fragment.Tractable text := by
  have undetected : Guarded.detects text = false := by decide
  have split : Text.lines text.toList =
      ["x // expected-error {{foo}}".toList, "y // expected-error {{bar}}".toList] := by
    decide
  have few : text.toList.length ≤ Text.digitLimit := by decide
  have short : text.toList.length < 10 ^ Text.digitLimit := few.trans_lt (Nat.lt_pow_self (by decide))
  refine ⟨fun detected => ?_, fun _ => ⟨?_, short⟩⟩
  · rw [undetected] at detected
    cases detected
  · -- Neither marker gives a line or a pattern.
    have plain : ∀ line ∈ Text.lines text.toList, ∀ found ∈ Inline.markersIn (Inline.commentOf line),
        ∀ marker, found.1 = some marker → marker.offset = none ∧ marker.isRegex = false := by
      rw [split]
      decide +kernel
    intro line member marker rest found
    obtain ⟨unplaced, literal⟩ := plain line member (some marker, rest) found marker rfl
    refine ⟨fun written given => ?_, fun pattern => ?_⟩
    · rw [unplaced] at given
      cases given
    · rw [literal] at pattern
      cases pattern

/-- The text of a fragment with a pattern that repeats a letter too often. -/
def endless : String := "x // expected-error-re {{a{99999999999}x}}\n"

/-- A tree with such a fragment, and one without markers. -/
def endlessTree : Tree :=
  ⟨[(["a.nc"], .file (Text.encodeUtf8 endless) false), (["b.nc"], .file [121, 10] false)]⟩

/-- A world with that tree. -/
def endlessWorld : World := { Sample.world with tree := endlessTree }

/-- There is no link in the tree. -/
theorem unlinked_endlessTree (place : Place) : endlessTree.Unlinked place := by
  refine Tree.unlinked_of_linkless (fun entry member => ?_) place
  rcases List.mem_pair.mp member with rfl | rfl <;> exact nofun

theorem readText_endless : Fragment.readText endlessTree [] source = .ok endless := by
  have bare : '\r' ∉ endless.toList := by decide
  exact Fragment.readText_of_file isPlain_source (by decide) (Path.isShort_ofParts (by decide))
    (endlessTree.hasAbove_singleton _) rfl bare

theorem load_endless : Fragment.load .standard endlessTree [] source =
    .error (.overflow "the repetition number is too large") := by
  have parsed : Inline.parse source endless =
      .error (.overflow "the repetition number is too large") := by decide +kernel
  rw [Fragment.load_eq_inline readText_endless (by decide), parsed]
  rfl

theorem readText_unmarked : Fragment.readText endlessTree [] missing = .ok "y\n" := by
  have bytes : Text.encodeUtf8 "y\n" = [121, 10] := by
    rw [Text.encodeUtf8_eq]
    decide
  have lies : endlessTree.entry? missing.parts = some (.file (Text.encodeUtf8 "y\n") false) := by
    rw [bytes]
    rfl
  exact Fragment.readText_of_file isPlain_missing (by decide) (Path.isShort_ofParts (by decide))
    (endlessTree.hasAbove_singleton _) lies (by decide)

theorem load_unmarked : Fragment.load .standard endlessTree [] missing =
    .ok ⟨missing, "y\n", "inline", []⟩ := by
  have parsed : Inline.parse missing "y\n" = .ok [] := by decide
  rw [Fragment.load_eq_inline readText_unmarked (by decide), parsed]
  rfl

/-- Directly below the root, the key of a name is that of the name alone. -/
theorem fragmentKey_ofParts {files : Tree} {name : String}
    (plain : (Path.ofParts [name]).IsPlain) (unlinked : files.Unlinked [name]) :
    Surroundings.fragmentKey ⟨files, []⟩ (.ofParts [name]) (some (.ofParts [])) =
      .ok (keyOfParts [name]) := by
  have resolved : Surroundings.resolve ⟨files, []⟩ (.ofParts [name]) = .ok (.ofParts [name]) :=
    Surroundings.resolve_eq_self plain unlinked
  have rooted : Surroundings.resolve ⟨files, []⟩ (.ofParts []) = .ok (.ofParts []) :=
    Surroundings.resolve_eq_self Path.isPlain_root fun above starts =>
      unlinked above (starts.trans List.nil_prefix)
  have below : Path.below? (.ofParts [name]) (.ofParts []) = some ⟨0, [name]⟩ := rfl
  simp only [Surroundings.fragmentKey, resolved, rooted, Except.ok_bind, below]
  rfl

theorem fragmentKey_missing {files : Tree} (unlinked : files.Unlinked missing.parts) :
    Surroundings.fragmentKey ⟨files, []⟩ missing (some (.ofParts [])) = .ok "b.nc" := by
  have key : keyOfParts ["b.nc"] = "b.nc" := keyOfParts_singleton (by simp)
  rw [missing, fragmentKey_ofParts isPlain_missing unlinked, key]

/-- The sample and the missing fragment have different keys. -/
theorem not_clash (first second : Path) (key : String) :
    ¬ Clash ⟨Sample.tree, []⟩ (.ofParts []) [source, missing] first second key := by
  rintro ⟨firstMember, secondMember, differ, firstKey, secondKey⟩
  have missingKey := fragmentKey_missing (unlinked_tree _)
  have same := firstKey.trans secondKey.symm
  rcases List.mem_pair.mp firstMember with rfl | rfl <;>
    rcases List.mem_pair.mp secondMember with rfl | rfl
  · exact absurd rfl differ
  · exact absurd (Except.ok.inj (fragmentKey_source.symm.trans (same.trans missingKey))) (by decide)
  · exact absurd (Except.ok.inj (missingKey.symm.trans (same.trans fragmentKey_source))) (by decide)
  · exact absurd rfl differ

theorem fragmentKey_endless :
    Surroundings.fragmentKey ⟨endlessTree, []⟩ source (some (.ofParts [])) = .ok "a.nc" := by
  have key : keyOfParts ["a.nc"] = "a.nc" := keyOfParts_singleton (by simp)
  rw [source, fragmentKey_ofParts isPlain_source (unlinked_endlessTree _), key]

theorem fragmentKey_unmarked :
    Surroundings.fragmentKey ⟨endlessTree, []⟩ missing (some (.ofParts [])) = .ok "b.nc" :=
  fragmentKey_missing (unlinked_endlessTree _)

end Sample

end NegativeCompile
