import NegativeCompile.Proofs.Files.PathTexts
import NegativeCompile.Proofs.Run.Settling

/-! # Names mistaken for others

A compiler that ran in a directory names files relative to it, so a relative name is the name of a
fragment just if it leads to it from there (`Surroundings.TellsRightly`). That is asked first, but if it
does not lead there, its looks decide: the path of the fragment may end in it, or, if it leads up or
nowhere, it may have the name of the fragment (`Path.Resembles`). So it is told rightly just if no name
resembles the fragment without leading to it (`tellsRightly_iff`), and a file in another directory is
mistaken for the fragment if it has the same name (`namesake_mistaken`). -/

namespace NegativeCompile

open Files Text

section

variable {surroundings : Surroundings} {workdir path candidate target directory : Path}
variable {reported : String}

/-! ## Relative names -/

namespace Files

/-- What is resolved is absolute. -/
theorem slashes_of_resolve {tree : Tree} {start : Place} (resolved : resolve tree start path = .ok target) :
    target.slashes = 1 := by
  unfold resolve at resolved
  split at resolved
  · cases resolved
  · dsimp only at resolved
    split at resolved
    · cases resolved
    · rw [← Except.ok.inj resolved]
      rfl

namespace Path

/-- The text of a relative path starts with no slash. -/
theorem leadingSlashes_eq_zero (relative : (ofString reported).isAbsolute = false) :
    leadingSlashes reported.toList = 0 := by
  rw [isAbsolute, decide_eq_false_iff_not, not_not] at relative
  exact relative

/-- The text of a relative path starts with no slash. -/
theorem not_startsWith_slash (relative : (ofString reported).isAbsolute = false) :
    reported.startsWith "/" = false := by
  have none := leadingSlashes_eq_zero relative
  rw [Bool.eq_false_iff, ne_eq, String.startsWith_string_iff]
  rintro ⟨rest, spelled⟩
  rw [← spelled, leadingSlashes] at none
  have starts : ("/".toList ++ rest).takeWhile (· = '/') = '/' :: rest.takeWhile (· = '/') :=
    List.takeWhile_cons_of_pos (by decide)
  rw [starts] at none
  split at none
  next nothing => simp at nothing
  next => cases none
  next => cases none

/-- A relative name seen from a directory has its parts after those of the directory. -/
theorem append_of_relative (relative : (ofString reported).isAbsolute = false) (directory : Path) :
    directory.append reported = ⟨directory.slashes, directory.parts ++ (ofString reported).parts⟩ := by
  rw [append, join, if_neg (by simp [relative])]

/-- From different directories a relative name leads along different paths. -/
theorem append_left_injective (relative : (ofString reported).isAbsolute = false) :
    Function.Injective (append · reported) := by
  intro directory other same
  simp only [append_of_relative relative, mk.injEq, List.append_cancel_right_eq] at same
  obtain ⟨slashes, parts⟩ := same
  show (⟨directory.slashes, directory.parts⟩ : Path) = other
  rw [slashes, parts]

/-- How a name can look like that of a file at a path that is resolved to a target. -/
inductive Resembles (reported : String) (path target : Path) : Prop where
  /-- It leads down, and it is what the target ends in. -/
  | ending (filled : (ofString reported).parts ≠ []) (down : ".." ∉ (ofString reported).parts)
    (directory : Path) (ends : directory.append reported = target)
  /-- It leads up or nowhere, and it has the name of the file. -/
  | name (winding : (ofString reported).parts = [] ∨ ".." ∈ (ofString reported).parts)
    (same : (ofString reported).name = path.name)

/-- The parts of a name that leads down are what an absolute path ends in just if the name leads there
from some directory. -/
theorem isSuffixOf_allParts_iff (relative : (ofString reported).isAbsolute = false)
    (absolute : target.slashes = 1) :
    (ofString reported).parts.isSuffixOf target.allParts = true ↔
      ∃ directory : Path, directory.append reported = target := by
  have root : target.allParts = "/" :: target.parts := by
    rw [allParts, absolute]
    rfl
  rw [List.isSuffixOf_iff_suffix, root]
  constructor
  · rintro ⟨before, equal⟩
    cases before with
    | nil =>
      -- The root is no part of a relative name.
      have first : "/" ∈ (ofString reported).parts := by
        rw [List.nil_append] at equal
        rw [equal]
        exact List.mem_cons_self
      exact absurd (by decide) (each_isPiece_ofString reported "/" first).noSlash
    | cons slash parts =>
      have after : parts ++ (ofString reported).parts = target.parts := (List.cons.inj equal).2
      refine ⟨⟨1, parts⟩, ?_⟩
      rw [append_of_relative relative, after, ← absolute]
  · rintro ⟨directory, rfl⟩
    rw [append_of_relative relative]
    exact List.suffix_append ("/" :: directory.parts) _

end Path

end Files

/-- A name without backslashes is read as it is. -/
theorem map_slash_eq (unslashed : '\\' ∉ reported.toList) :
    (reported.map fun c => if c = '\\' then '/' else c) = reported := by
  rw [← String.toList_inj, String.toList_map]
  refine (List.map_congr_left fun c member => ?_).trans (List.map_id _)
  refine if_neg fun same => ?_
  rw [same] at member
  exact unslashed member

namespace Surroundings

/-! ## What is told of a relative name -/

/-- Whether a relative name is told to be that of a fragment: the paths from the directory and to the
fragment are resolved, and if they differ, the looks of the name decide. -/
theorem sameFile_eq_of_relative (relative : (Path.ofString reported).isAbsolute = false)
    (unslashed : '\\' ∉ reported.toList) :
    surroundings.sameFile reported path (some workdir) = (do
      let candidate ← surroundings.resolve (workdir.append reported)
      let target ← surroundings.resolve path
      if candidate = target then return true
      else if (Path.ofString reported).parts.isEmpty || (Path.ofString reported).parts.contains ".." then
        return (Path.ofString reported).name == path.name
      else return (Path.ofString reported).parts.isSuffixOf target.allParts) := by
  unfold sameFile Path.append
  simp only [map_slash_eq unslashed, relative, Path.not_startsWith_slash relative, Bool.or_self]
  rw [if_neg (by decide)]
  cases surroundings.resolve (workdir.join (Path.ofString reported)) with
  | error failure => rfl
  | ok candidate =>
    cases surroundings.resolve path with
    | error failure => rfl
    | ok target =>
      simp only [Except.ok_bind]
      by_cases same : candidate = target
      · simp [same]
      · simp [same]

/-- A relative name is told to be that of a fragment just if it leads to it or resembles it. -/
theorem sameFile_eq_true_iff_of_relative (relative : (Path.ofString reported).isAbsolute = false)
    (unslashed : '\\' ∉ reported.toList)
    (led : surroundings.resolve (workdir.append reported) = .ok candidate)
    (there : surroundings.resolve path = .ok target) :
    surroundings.sameFile reported path (some workdir) = .ok true ↔
      candidate = target ∨ Path.Resembles reported path target := by
  have absolute : target.slashes = 1 := slashes_of_resolve (resolve_eq_ok_iff.mp there)
  rw [sameFile_eq_of_relative relative unslashed, led, there]
  simp only [Except.ok_bind]
  by_cases same : candidate = target
  · rw [if_pos same]
    exact iff_of_true rfl (.inl same)
  · rw [if_neg same, or_iff_right same]
    -- It leads elsewhere, and now one of two guesses is made.
    by_cases winding : (Path.ofString reported).parts = [] ∨ ".." ∈ (Path.ofString reported).parts
    · rw [if_pos (by simpa using winding)]
      constructor
      · intro told
        exact .name winding (by simpa using Except.ok.inj told)
      · intro resembles
        cases resembles with
        | ending filled down => exact absurd winding (by simp [filled, down])
        | name _ named => simp [named, pure, Except.pure]
    · rw [if_neg (by simpa using winding)]
      obtain ⟨filled, down⟩ := not_or.mp winding
      have ends_iff := Path.isSuffixOf_allParts_iff relative absolute
      constructor
      · intro told
        obtain ⟨directory, ends⟩ := ends_iff.mp (Except.ok.inj told)
        exact .ending filled down directory ends
      · intro resembles
        cases resembles with
        | ending _ _ directory ends => exact congrArg Except.ok (ends_iff.mpr ⟨directory, ends⟩)
        | name leadsUp => exact absurd leadsUp winding

/-- There is an answer for a relative name just if both paths can be resolved. -/
theorem exists_sameFile_iff_of_relative (relative : (Path.ofString reported).isAbsolute = false)
    (unslashed : '\\' ∉ reported.toList) :
    (∃ same, surroundings.sameFile reported path (some workdir) = .ok same) ↔
      (∃ candidate, surroundings.resolve (workdir.append reported) = .ok candidate) ∧
        ∃ target, surroundings.resolve path = .ok target := by
  rw [sameFile_eq_of_relative relative unslashed]
  cases surroundings.resolve (workdir.append reported) with
  | error failure => simp [bind, Except.bind]
  | ok candidate =>
    cases surroundings.resolve path with
    | error failure => simp [bind, Except.bind]
    | ok target =>
      simp only [Except.ok_bind]
      refine iff_of_true ?_ ⟨⟨candidate, rfl⟩, target, rfl⟩
      split
      · exact ⟨_, rfl⟩
      · split <;> exact ⟨_, rfl⟩

/-- A name that is relative to a directory is told rightly: it is the name of a fragment just if it leads
to the same file from there. -/
def TellsRightly (surroundings : Surroundings) (workdir : Path) (reported : String) (path : Path) :
    Prop :=
  ∀ candidate target, surroundings.resolve (workdir.append reported) = .ok candidate →
    surroundings.resolve path = .ok target →
      (surroundings.sameFile reported path (some workdir) = .ok true ↔ candidate = target)

end Surroundings

end

/-- Whether a relative name is that of a fragment is told whenever it can be found out where both lead;
a name that leads to the fragment is told to be its name. It is told rightly just if it leads there in
case it resembles the fragment. For a name that leads down along files that are no links this says that
the path of the fragment ends in it just if the compiler ran in the directory before. -/
theorem tellsRightly_iff (surroundings : Surroundings) (workdir path : Path) (reported : String)
    (relative : (Path.ofString reported).isAbsolute = false) (unslashed : '\\' ∉ reported.toList) :
    ((∃ same, surroundings.sameFile reported path (some workdir) = .ok same) ↔
      (∃ candidate, surroundings.resolve (workdir.append reported) = .ok candidate) ∧
        ∃ target, surroundings.resolve path = .ok target) ∧
    (∀ target, surroundings.resolve (workdir.append reported) = .ok target →
      surroundings.resolve path = .ok target →
        surroundings.sameFile reported path (some workdir) = .ok true) ∧
    (surroundings.TellsRightly workdir reported path ↔
      ∀ candidate target, surroundings.resolve (workdir.append reported) = .ok candidate →
        surroundings.resolve path = .ok target → Path.Resembles reported path target →
          candidate = target) ∧
    ((Path.ofString reported).parts ≠ [] → (workdir.append reported).IsPlain →
      surroundings.tree.Unlinked (workdir.append reported).parts →
        (surroundings.TellsRightly workdir reported path ↔
          ∀ directory : Path, surroundings.resolve path = .ok (directory.append reported) →
            directory = workdir)) := by
  have told {candidate target : Path}
      (led : surroundings.resolve (workdir.append reported) = .ok candidate)
      (there : surroundings.resolve path = .ok target) :=
    Surroundings.sameFile_eq_true_iff_of_relative relative unslashed led there
  have rightly_iff : surroundings.TellsRightly workdir reported path ↔
      ∀ candidate target, surroundings.resolve (workdir.append reported) = .ok candidate →
        surroundings.resolve path = .ok target → Path.Resembles reported path target →
          candidate = target := by
    refine forall₂_congr fun candidate target => forall₂_congr fun led there => ?_
    rw [told led there, or_iff_left_iff_imp]
  refine ⟨?_, fun target led there => (told led there).mpr (.inl rfl), rightly_iff,
    fun filled plain unlinked => ?_⟩
  · exact Surroundings.exists_sameFile_iff_of_relative relative unslashed
  · -- The name leads where it says, so it has no double dots and resembles only what ends in it.
    have led := Surroundings.resolve_eq_self plain unlinked
    have down : ".." ∉ (Path.ofString reported).parts := by
      intro member
      refine (plain.names ".." ?_).ne_dots rfl
      rw [Path.append_of_relative relative]
      exact List.mem_append_right _ member
    rw [rightly_iff]
    constructor
    · intro rightly directory there
      have same := rightly _ _ led there (.ending filled down directory rfl)
      exact (Path.append_left_injective relative same).symm
    · intro only candidate target resolved there resembles
      cases led.symm.trans resolved
      cases resembles with
      | ending _ _ directory ends =>
        subst ends
        rw [only directory there]
      | name winding => exact absurd winding (by simp [filled, down])

/-! ## Instances -/

namespace Namesake

/-- A fragment in a directory. -/
def path : Path := .ofParts ["p", "a.nc"]

/-- Another directory, in which the compiler ran. -/
def workdir : Path := .ofParts ["q"]

/-- Nothing is a link here. -/
def surroundings : Surroundings := ⟨.empty, []⟩

theorem ofString_name : Path.ofString "a.nc" = ⟨0, ["a.nc"]⟩ := Sample.isName_source.ofString_eq

theorem relative : (Path.ofString "a.nc").isAbsolute = false := by
  rw [ofString_name]
  rfl

theorem append_name (directory : Path) :
    directory.append "a.nc" = ⟨directory.slashes, directory.parts ++ ["a.nc"]⟩ := by
  rw [Path.append_of_relative relative, ofString_name]

theorem isPlain_ofParts {name : String} (named : IsName name) :
    (Path.ofParts [name, "a.nc"]).IsPlain :=
  ⟨rfl, List.forall_mem_cons.mpr ⟨named, Sample.isPlain_source.names⟩⟩

theorem unlinked (place : Place) : surroundings.tree.Unlinked place :=
  Tree.unlinked_of_linkless (fun _ member => absurd member List.not_mem_nil) place

theorem resolve_path : surroundings.resolve path = .ok path :=
  Surroundings.resolve_eq_self (isPlain_ofParts ⟨by decide, by decide, by decide, by decide⟩) (unlinked _)

theorem isPlain_elsewhere : (workdir.append "a.nc").IsPlain := by
  rw [append_name]
  exact isPlain_ofParts ⟨by decide, by decide, by decide, by decide⟩

end Namesake

open Namesake in
/-- From another directory a name that the path of a fragment ends in is not told rightly. -/
theorem tellsRightly_iff_namesake :
    (workdir.append "a.nc").IsPlain ∧ surroundings.tree.Unlinked (workdir.append "a.nc").parts ∧
      ¬ surroundings.TellsRightly workdir "a.nc" path := by
  obtain ⟨-, -, -, straight⟩ :=
    tellsRightly_iff surroundings workdir path "a.nc" relative (by decide)
  refine ⟨isPlain_elsewhere, unlinked _, fun rightly => ?_⟩
  have filled : (Path.ofString "a.nc").parts ≠ [] := by
    rw [ofString_name]
    exact List.cons_ne_nil _ _
  have only := (straight filled isPlain_elsewhere (unlinked _)).mp rightly (.ofParts ["p"])
  have ends : (Path.ofParts ["p"]).append "a.nc" = path := append_name _
  rw [ends] at only
  exact absurd (only resolve_path) (by decide)

open Namesake in
/-- A file with the name of a fragment, in the directory where the compiler ran, is mistaken for the
fragment in another directory. -/
theorem namesake_mistaken :
    surroundings.resolve (workdir.append "a.nc") = .ok (.ofParts ["q", "a.nc"]) ∧
      surroundings.resolve path = .ok path ∧
      surroundings.sameFile "a.nc" path (some workdir) = .ok true ∧
      ¬ ∀ surroundings workdir reported path, (Path.ofString reported).isAbsolute = false →
        Surroundings.TellsRightly surroundings workdir reported path := by
  have led : surroundings.resolve (workdir.append "a.nc") = .ok (.ofParts ["q", "a.nc"]) := by
    rw [Surroundings.resolve_eq_self isPlain_elsewhere (unlinked _), append_name]
    rfl
  have mistaken : surroundings.sameFile "a.nc" path (some workdir) = .ok true := by
    refine (Surroundings.sameFile_eq_true_iff_of_relative relative (by decide) led resolve_path).mpr
      (.inr (.ending ?_ ?_ (.ofParts ["p"]) (append_name _)))
    · rw [ofString_name]
      exact List.cons_ne_nil _ _
    · rw [ofString_name]
      decide
  refine ⟨led, resolve_path, mistaken, fun always => ?_⟩
  have same := (always _ _ _ _ relative _ _ led resolve_path).mp mistaken
  exact absurd same (by decide)

end NegativeCompile
