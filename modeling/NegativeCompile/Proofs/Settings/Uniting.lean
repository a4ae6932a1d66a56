import NegativeCompile.Proofs.Lists
import NegativeCompile.Proofs.Diagnostic.Recognizing

/-! # Lists of fragments that are put together

A list of fragments stands for the union of what its entries stand for, each path where it appears
first. So a list that is put together from two stands for what the first one stands for, and after
that for what only the second one does; if one of them fails, the failure is that of the first one
that does (`PathContext.expandFragments_append`). -/

namespace NegativeCompile.PathContext

open Files

variable {context : PathContext} {entry : String} {entries others : List String}
variable {path : Path} {known more paths : List Path} {failure : Failure}

/-! ## Adding paths -/

/-- Paths may be added in two steps. -/
theorem addPaths_append (known first second : List Path) :
    addPaths known (first ++ second) = addPaths (addPaths known first) second :=
  List.foldl_append

/-- One more path is added at the end, unless it is there. -/
theorem addPaths_concat (known more : List Path) (path : Path) :
    addPaths known (more ++ [path]) =
      if path ∈ addPaths known more then addPaths known more else addPaths known more ++ [path] := by
  rw [addPaths_append]
  simp only [addPaths, List.foldl_cons, List.foldl_nil, List.contains_iff_mem]

/-- Paths are there after they were added, and those before are there still. -/
theorem mem_addPaths : path ∈ addPaths known more ↔ path ∈ known ∨ path ∈ more := by
  induction more using List.reverseRecOn with
  | nil => simp [addPaths]
  | append_singleton more last ih =>
    rw [addPaths_concat]
    split
    next present =>
      -- What is there already adds nothing.
      rw [ih, List.mem_append, List.mem_singleton, ← or_assoc, ← ih]
      exact ⟨.inl, fun either => either.elim id fun same => same ▸ present⟩
    · rw [List.mem_append, List.mem_append, ih, or_assoc]

/-- No path is there twice after paths were added. -/
theorem nodup_addPaths (distinct : known.Nodup) : (addPaths known more).Nodup := by
  induction more using List.reverseRecOn with
  | nil => exact distinct
  | append_singleton more last ih =>
    rw [addPaths_concat]
    split
    · exact ih
    next missing =>
      rw [← List.concat_eq_append]
      exact ih.concat missing

/-- To add paths is to put those of them that are missing after what is there, in their order. -/
theorem addPaths_eq (known more : List Path) :
    addPaths known more = known ++ (addPaths [] more).filter fun path => path ∉ known := by
  induction more using List.reverseRecOn with
  | nil => simp [addPaths]
  | append_singleton more last ih =>
    rw [addPaths_concat, addPaths_concat]
    simp only [mem_addPaths, List.not_mem_nil, false_or]
    by_cases repeated : last ∈ more
    · rw [if_pos (.inr repeated), if_pos repeated, ih]
    · by_cases present : last ∈ known
      · rw [if_pos (.inl present), if_neg repeated, ih, List.filter_append]
        simp [present]
      · rw [if_neg (by simp [present, repeated]), if_neg repeated, ih, List.filter_append,
          List.append_assoc]
        simp [present]

/-! ## Entries one after another -/

/-- Entries stand for what is found for each of them, added to what was known before. -/
theorem expandFrom_eq (context : PathContext) (known : List Path) (entries : List String) :
    context.expandFrom known entries =
      (fun found => addPaths known found.flatten) <$> entries.mapM context.pathsOf := by
  induction entries generalizing known with
  | nil => rfl
  | cons entry rest ih =>
    rw [expandFrom, List.mapM_cons]
    cases context.pathsOf entry with
    | error failure => rfl
    | ok found =>
      rw [Except.ok_bind, Except.ok_bind, ih]
      cases rest.mapM context.pathsOf with
      | error failure => rfl
      | ok others =>
        have both := addPaths_append known found others.flatten
        rw [← List.flatten_cons] at both
        exact congrArg Except.ok both.symm

/-- A list of fragments stands for what is found for its entries, each path where it appears first. -/
theorem expandFragments_eq_ok_iff :
    context.expandFragments entries = .ok paths ↔
      ∃ found, entries.mapM context.pathsOf = .ok found ∧ addPaths [] found.flatten = paths := by
  rw [expandFragments, expandFrom_eq, Except.map_eq_ok_iff]

/-- A list of fragments fails as looking up its entries does. -/
theorem expandFragments_eq_error_iff :
    context.expandFragments entries = .error failure ↔
      entries.mapM context.pathsOf = .error failure := by
  rw [expandFragments, expandFrom_eq, Except.map_eq_error_iff]

/-- Looking up some entries and then others fails as the first of both does that fails. -/
theorem mapM_append_eq_error_iff :
    (entries ++ others).mapM context.pathsOf = .error failure ↔
      entries.mapM context.pathsOf = .error failure ∨
        (∃ found, entries.mapM context.pathsOf = .ok found) ∧
          others.mapM context.pathsOf = .error failure := by
  have onward (found : List (List Path)) :
      (others.mapM context.pathsOf >>= fun more => pure (found ++ more)) = .error failure ↔
        others.mapM context.pathsOf = .error failure := by
    rw [bind_pure_comp, Except.map_eq_error_iff]
  rw [List.mapM_append, Except.bind_eq_error_iff]
  simp only [onward, exists_and_right]

/-- What an entry is looked up to is at least one path. -/
theorem pathsOf_ne_nil (found : context.pathsOf entry = .ok paths) : paths ≠ [] := by
  unfold pathsOf at found
  split at found
  · unfold pathsMatching at found
    dsimp only at found
    split at found
    · cases found
    · obtain ⟨targets, -, after⟩ := Except.bind_eq_ok_iff.mp found
      split at after
      · cases after
      next some =>
        obtain rfl := Except.ok.inj after
        obtain ⟨target, member⟩ := List.exists_mem_of_ne_nil targets (by simpa using some)
        exact List.ne_nil_of_mem (mem_sortPaths.mpr member)
  · obtain ⟨single, -, rfl⟩ := Except.map_eq_ok_iff.mp found
    exact List.cons_ne_nil _ _

/-- What each entry of a list of fragments is looked up to is among what the list stands for. -/
theorem exists_pathsOf_of_mem (expanded : context.expandFragments entries = .ok paths)
    (member : entry ∈ entries) :
    ∃ found, context.pathsOf entry = .ok found ∧ found ≠ [] ∧ ∀ path ∈ found, path ∈ paths := by
  obtain ⟨all, looked, rfl⟩ := expandFragments_eq_ok_iff.mp expanded
  obtain ⟨found, listed, led⟩ :=
    (Except.mapM_eq_ok_iff.mp looked).exists_of_mem_left member
  refine ⟨found, led, pathsOf_ne_nil led, fun path among => mem_addPaths.mpr (.inr ?_)⟩
  exact List.mem_flatten.mpr ⟨found, listed, among⟩

/-! ## Two lists -/

/-- A list of fragments that is put together from two stands for what the first one stands for, and
after that for those paths of the second one that are not among them, in their order. It fails just if
one of the two does, and as the first one that does. No path is there twice, and each entry stands for
paths, all of which are there. -/
theorem expandFragments_append (context : PathContext) (entries others : List String) :
    (∀ paths, context.expandFragments (entries ++ others) = .ok paths ↔
        ∃ first second, context.expandFragments entries = .ok first ∧
          context.expandFragments others = .ok second ∧
            paths = first ++ second.filter fun path => path ∉ first) ∧
      (∀ failure, context.expandFragments (entries ++ others) = .error failure ↔
        context.expandFragments entries = .error failure ∨
          (∃ first, context.expandFragments entries = .ok first) ∧
            context.expandFragments others = .error failure) ∧
      ∀ paths, context.expandFragments (entries ++ others) = .ok paths →
        paths.Nodup ∧ ∀ entry ∈ entries ++ others, ∃ found, context.pathsOf entry = .ok found ∧
          found ≠ [] ∧ ∀ path ∈ found, path ∈ paths := by
  refine ⟨fun paths => ?_, fun failure => ?_, fun paths expanded => ⟨?_, ?_⟩⟩
  · simp only [expandFragments_eq_ok_iff]
    constructor
    · rintro ⟨found, looked, rfl⟩
      rw [List.mapM_append] at looked
      obtain ⟨first, here, next⟩ := Except.bind_eq_ok_iff.mp looked
      obtain ⟨second, there, last⟩ := Except.bind_eq_ok_iff.mp next
      obtain rfl := Except.ok.inj last
      refine ⟨_, _, ⟨first, here, rfl⟩, ⟨second, there, rfl⟩, ?_⟩
      rw [← addPaths_eq, List.flatten_append, addPaths_append]
    · rintro ⟨_, _, ⟨first, here, rfl⟩, ⟨second, there, rfl⟩, rfl⟩
      refine ⟨first ++ second, ?_, ?_⟩
      · rw [List.mapM_append, here, Except.ok_bind, there]
        rfl
      · rw [← addPaths_eq, List.flatten_append, addPaths_append]
  · simp only [expandFragments_eq_error_iff, mapM_append_eq_error_iff, expandFragments_eq_ok_iff]
    simp
  · obtain ⟨found, -, rfl⟩ := expandFragments_eq_ok_iff.mp expanded
    exact nodup_addPaths List.nodup_nil
  · exact fun entry member => exists_pathsOf_of_mem expanded member

open Named in
/-- A file that is listed a second time is not there a second time, and the others keep their order. -/
theorem expandFragments_append_named :
    Named.context.expandFragments (["a:b.nc", "a.nc"] ++ ["a.nc ", "a.nc"]) = .ok [colon, plain, blank] ∧
      [colon, plain, blank].Nodup ∧
      ∀ entry ∈ ["a:b.nc", "a.nc"] ++ ["a.nc ", "a.nc"], ∃ found, Named.context.pathsOf entry =
        .ok found ∧ found ≠ [] ∧ ∀ path ∈ found, path ∈ [colon, plain, blank] := by
  have first := pathsOf_name isName_colon (by decide) (by decide_cbv) (by decide_cbv) rfl
  have second := pathsOf_name isName_plain (by decide) (by decide_cbv) (by decide_cbv) rfl
  have third := pathsOf_name isName_blank (by decide) (by decide_cbv) (by decide_cbv) rfl
  have expanded : Named.context.expandFragments (["a:b.nc", "a.nc"] ++ ["a.nc ", "a.nc"]) =
      .ok [colon, plain, blank] := by
    simp only [expandFragments, List.cons_append, List.nil_append, expandFrom, first, second, third,
      Except.ok_bind]
    rfl
  exact ⟨expanded, (expandFragments_append Named.context _ _).2.2 _ expanded⟩

end NegativeCompile.PathContext
