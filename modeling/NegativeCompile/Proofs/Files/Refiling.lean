import NegativeCompile.Proofs.Files.Rewriting

/-! # Making directories and writing files again

A step that changes files can be repeated (`Repeats`) if, in any tree that has grown since it was done,
it does no more than put the same files again. So it is with making directories
(`exists_repeats_makeDirectories`) and with writing a file (`exists_repeats_writeBytes`), and with such
steps in a row. -/

namespace NegativeCompile.Files

variable {tree before between after : Tree} {start place : Place} {text : String} {path : Path}
variable {steps : List String} {links : Nat} {arrival : Arrival}

/-! ## Walks -/

/-- A walk that does not end at a link ends there as well if links at the end are followed. -/
theorem walkFrom_true_of_false (walked : walkFrom tree false links place steps = .ok arrival)
    (straight : ∀ target, arrival.entry ≠ some (.link target)) :
    walkFrom tree true links place steps = .ok arrival := by
  fun_induction walkFrom tree false links place steps with
  | case1 => rw [walkFrom, walked]
  | case2 links place rest here ih =>
    rw [walkFrom, here]
    exact ih walked
  | case3 links place rest here _ ih =>
    rw [walkFrom, here]
    exact ih walked
  | case5 links place step rest here single double short next missing last =>
    rw [walkFrom_of_nothing here ⟨single, double, short⟩ missing, if_pos last, walked]
  | case7 links place step rest here single double short next target found last =>
    -- This is the only walk that ends at a link.
    cases walked
    exact absurd rfl (straight target)
  | case9 place step rest here single double short next target found last left origin ih =>
    have onward : ¬ (rest.isEmpty && !true) = true := by simp
    rw [walkFrom_of_link here ⟨single, double, short⟩ found, if_neg onward]
    exact ih walked
  | case10 links place step rest here single double short next other plain found ih =>
    rw [walkFrom_of_entry here ⟨single, double, short⟩ found plain]
    exact ih walked
  | case4 | case6 | case8 | case11 => cases walked

/-- Where a walk from something that is no link ends: in a directory if nothing is there, and at no link
if links are followed. -/
theorem arrival_of_walkFrom {follow : Bool} (grounded : tree.IsGrounded)
    (there : tree.entry? place ≠ none)
    (straight : ∀ target, tree.entry? place ≠ some (.link target))
    (walked : walkFrom tree follow links place steps = .ok arrival) :
    (arrival.entry = none → tree.entry? arrival.place.dropLast = some .directory) ∧
      (follow = true → ∀ target, arrival.entry ≠ some (.link target)) := by
  have directory {place : Place} (lies : tree.entry? place = some .directory) :
      tree.entry? place ≠ none ∧ ∀ target, tree.entry? place ≠ some (.link target) := by
    rw [lies]
    refine ⟨Option.some_ne_none _, fun target link => ?_⟩
    cases link
  -- The walk goes on from directories only, so it is at something that is no link before each step.
  fun_induction walkFrom tree follow links place steps with
  | case1 links place =>
    rw [← Except.ok.inj walked]
    exact ⟨fun nothing => absurd nothing there, fun _ => straight⟩
  | case2 links place rest here ih => exact ih there straight walked
  | case3 links place rest here _ ih =>
    obtain ⟨above, plain⟩ := directory (grounded.dropLast here)
    exact ih above plain walked
  | case5 links place step rest here single double short next missing last =>
    rw [← Except.ok.inj walked, List.dropLast_concat]
    refine ⟨fun _ => here, fun _ target link => ?_⟩
    cases link
  | case7 links place step rest here single double short next target found last =>
    rw [← Except.ok.inj walked]
    refine ⟨fun nothing => absurd nothing (Option.some_ne_none _), fun follows => ?_⟩
    rw [follows] at last
    simp at last
  | case9 place step rest here single double short next target found last left origin ih =>
    have begun : tree.entry? origin = some .directory := by
      unfold origin
      split
      · rfl
      · exact here
    obtain ⟨present, plain⟩ := directory begun
    exact ih present plain walked
  | case10 links place step rest here single double short next other plain found ih =>
    refine ih ?_ (fun target link => ?_) walked
    · rw [found]
      exact Option.some_ne_none _
    · rw [found] at link
      exact plain target (Option.some.inj link)
  | case4 | case6 | case8 | case11 => cases walked

/-- A walk along a text that arrives somewhere is a walk along its steps, and so is any other walk along
the text. -/
theorem walk_eq_walkFrom {follow : Bool} (walked : walk tree start follow text = .ok arrival)
    (other : Tree) (way : Bool) :
    walk other start way text =
      walkFrom other way linkLimit (if text.startsWith "/" then [] else start) (stepsOf text) := by
  rcases walk_cases start text with ⟨fault, -, refused⟩ | goes
  · rw [refused] at walked
    cases walked
  · exact goes other way

/-- There is a directory where a walk along a text starts. -/
theorem directory_of_start (here : tree.entry? start = some .directory) (text : String) :
    tree.entry? (if text.startsWith "/" then [] else start) = some .directory := by
  split
  · rfl
  · exact here

/-- A path leads to a directory that was found without following a link. -/
theorem status_of_walk_false (walked : walk tree start false text = .ok ⟨place, some .directory⟩) :
    status tree start text = .ok .directory := by
  have same := walk_eq_walkFrom walked tree
  rw [same] at walked
  have straight : ∀ target, some Entry.directory ≠ some (.link target) := by
    intro target link
    cases link
  rw [status, same, walkFrom_true_of_false walked straight]
  rfl

/-- Where a walk along a text ends there is a directory above what is missing, and there is no link if
links are followed. -/
theorem arrival_of_walk {follow : Bool} (grounded : tree.IsGrounded)
    (here : tree.entry? start = some .directory)
    (walked : walk tree start follow text = .ok arrival) :
    (arrival.entry = none → tree.entry? arrival.place.dropLast = some .directory) ∧
      (follow = true → ∀ target, arrival.entry ≠ some (.link target)) := by
  have begun := directory_of_start here text
  rw [walk_eq_walkFrom walked] at walked
  refine arrival_of_walkFrom grounded ?_ ?_ walked <;> rw [begun]
  · exact Option.some_ne_none _
  · exact fun target => nofun

/-! ## Single steps -/

/-- A step that looks at the tree goes on with it. -/
theorem run_get_bind {ε α : Type} (next : Tree → ExceptT ε (StateM Tree) α) (tree : Tree) :
    ((get >>= next).run).run tree = ((next tree).run).run tree := rfl

/-- What becomes of making a directory. -/
theorem run_makeDirectory (start : Place) (text : String) (tree : Tree) :
    ((makeDirectory start text).run).run tree =
      if hasNull text then (.error .nullCharacter, tree)
      else match walk tree start false text with
        | .error fault => (.error (troubleAt text fault), tree)
        | .ok ⟨_, some _⟩ => (.error (troubleAt text .present), tree)
        | .ok ⟨place, none⟩ => (.ok (), tree.set place .directory) := by
  unfold makeDirectory
  cases hasNull text with
  | true => rfl
  | false =>
    dsimp only
    rw [if_neg Bool.false_ne_true, if_neg Bool.false_ne_true, run_get_bind]
    rcases walk tree start false text with fault | ⟨place, _ | entry⟩ <;> rfl

/-- What becomes of writing a file. -/
theorem run_writeBytes (start : Place) (text : String) (content : List UInt8) (tree : Tree) :
    ((writeBytes start text content).run).run tree =
      if hasNull text then (.error .nullCharacter, tree)
      else match walk tree start true text with
        | .error fault => (.error (troubleAt text fault), tree)
        | .ok ⟨_, some .directory⟩ => (.error (troubleAt text .isDirectory), tree)
        | .ok ⟨place, some (.file _ executable)⟩ => (.ok (), tree.set place (.file content executable))
        | .ok ⟨place, _⟩ => (.ok (), tree.set place (.file content false)) := by
  unfold writeBytes
  cases hasNull text with
  | true => rfl
  | false =>
    dsimp only
    rw [if_neg Bool.false_ne_true, if_neg Bool.false_ne_true, run_get_bind]
    rcases walk tree start true text with fault | ⟨place, _ | _ | _ | _⟩ <;> rfl

/-- A directory that could be made was not there before. -/
theorem makeDirectory_ok (done : ((makeDirectory start text).run).run tree = (.ok (), after)) :
    hasNull text = false ∧ ∃ place, walk tree start false text = .ok ⟨place, none⟩ ∧
      after = tree.set place .directory := by
  rw [run_makeDirectory] at done
  split at done
  · cases done
  next possible =>
    refine ⟨eq_false_of_ne_true possible, ?_⟩
    split at done
    · cases done
    · cases done
    next place walked => exact ⟨place, walked, (Prod.mk.inj done).2.symm⟩

/-- If a directory could not be made nothing is changed. -/
theorem makeDirectory_error {trouble : Trouble}
    (failed : ((makeDirectory start text).run).run tree = (.error trouble, after)) : after = tree := by
  rw [run_makeDirectory] at failed
  split at failed
  · exact (Prod.mk.inj failed).2.symm
  · split at failed
    · exact (Prod.mk.inj failed).2.symm
    · exact (Prod.mk.inj failed).2.symm
    · cases failed

/-! ## Steps that can be repeated -/

/-- A step was done that put files at some places. It gives the same once more, and does no more than
put the same files again, if the tree has grown in the meantime. -/
structure Repeats {ε α : Type} (step : ExceptT ε (StateM Tree) α) (value : α) (before : Tree)
    (puts : List (Place × Entry)) (after : Tree) : Prop where
  /-- What was done. -/
  written : before.Written puts after
  /-- What is done again. -/
  again : ∀ later, after.Grows later → (step.run).run later = (.ok value, later.put puts)

/-- Two steps in a row can be repeated if each can. -/
theorem Repeats.bind {ε α β : Type} {step : ExceptT ε (StateM Tree) α}
    {next : α → ExceptT ε (StateM Tree) β} {value : α} {result : β}
    {puts more : List (Place × Entry)} (first : Repeats step value before puts between)
    (second : Repeats (next value) result between more after) :
    Repeats (step >>= next) result before (puts ++ more) after where
  written := first.written.trans second.written
  again later grows := by
    have since := second.written.grows.trans grows
    have takes := first.written.takesFiles.of_grows since
    rw [run_bind, first.again later since]
    dsimp only
    rw [second.again _ (grows.trans takes.fills.toGrows), Tree.put_append]

/-- A step can be repeated if one can that succeeds whenever it does. -/
theorem Repeats.congr {ε δ α : Type} {step : ExceptT ε (StateM Tree) α}
    {other : ExceptT δ (StateM Tree) α} {value : α} {puts : List (Place × Entry)}
    (repeats : Repeats step value before puts after)
    (succeeds : ∀ tree last, (step.run).run tree = (.ok value, last) →
      (other.run).run tree = (.ok value, last)) : Repeats other value before puts after where
  written := repeats.written
  again later grows := succeeds later _ (repeats.again later grows)

/-- The directories of a path have been made. -/
structure IsMade (start : Place) (path : Path) (before after : Tree) : Prop where
  /-- Nothing but directories was made. -/
  written : before.Written [] after
  /-- The path can be a path. -/
  possible : hasNull path.toString = false
  /-- It leads to a directory now. -/
  directory : status after start path.toString = .ok .directory

/-- Other directories may have been made before. -/
theorem IsMade.preceded (made : IsMade start path between after) (first : before.Written [] between) :
    IsMade start path before after :=
  ⟨first.trans made.written, made.possible, made.directory⟩

/-- A directory has been made where it was missing. -/
theorem isMade_of_makeDirectory (grounded : tree.IsGrounded)
    (here : tree.entry? start = some .directory)
    (done : ((makeDirectory start path.toString).run).run tree = (.ok (), after)) :
    IsMade start path tree after := by
  obtain ⟨possible, place, walked, rfl⟩ := makeDirectory_ok done
  have nothing : tree.entry? place = none := (entry_of_walk walked).symm
  have above := (arrival_of_walk grounded here walked).1 rfl
  have written : tree.Written [] (tree.set place .directory) := .directory nothing above (.done _)
  refine ⟨written, possible, ?_⟩
  have still := written.grows.walk_ok walked
  rw [Tree.Written.entry?_set_self (Tree.ne_root_of_nothing nothing)] at still
  exact status_of_walk_false still

/-- A directory is there already. -/
theorem isMade_of_testStatus
    (tested : testStatus tree start path.toString Entry.isDirectory = .ok true) :
    IsMade start path tree tree := by
  unfold testStatus at tested
  split at tested
  · cases tested
  next possible =>
    refine ⟨.done tree, eq_false_of_ne_true possible, ?_⟩
    split at tested
    next entry found =>
      have kind := Except.ok.inj tested
      cases entry with
      | directory => exact found
      | file content executable => cases kind
      | link target => cases kind
    · split at tested <;> cases tested

/-- Looking whether a directory is there succeeds only if it is. -/
theorem isMade_of_settle {trouble : Trouble}
    (settled : (((do
      match testStatus (← get) start path.toString Entry.isDirectory with
      | .ok true => return
      | .ok false => throw trouble
      | .error other => throw other : Filing Unit)).run).run tree = (.ok (), after)) :
    IsMade start path tree after := by
  rw [run_get_bind] at settled
  split at settled
  next tested =>
    cases settled
    exact isMade_of_testStatus tested
  · cases settled
  · cases settled

/-- The directories of a path that could be made have been made. -/
theorem isMade_of_makeDirectoriesFrom {fuel : Nat} (grounded : tree.IsGrounded)
    (here : tree.entry? start = some .directory)
    (done : ((makeDirectoriesFrom start fuel path).run).run tree = (.ok (), after)) :
    IsMade start path tree after := by
  induction fuel generalizing path tree after with
  | zero => exact isMade_of_makeDirectory grounded here done
  | succ fuel ih =>
    rw [makeDirectoriesFrom, run_tryCatch] at done
    split at done
    next value between made =>
      cases done
      exact isMade_of_makeDirectory grounded here made
    next trouble between failed =>
      cases makeDirectory_error failed
      dsimp only at done
      split at done
      · cases done
      next missing =>
        split at done
        · cases done
        · rw [run_bind] at done
          split at done
          next value made parent =>
            -- Whatever lies in the tree still lies in directories once those above are made.
            obtain ⟨above, -, -⟩ := ih grounded here parent
            have sound := above.isGrounded grounded
            have begun := above.grows.directory here
            rw [run_tryCatch] at done
            split at done
            next value last made =>
              cases done
              exact (isMade_of_makeDirectory sound begun made).preceded above
            next trouble last failed =>
              cases makeDirectory_error failed
              split at done
              · cases done
              · cases done
              · exact (isMade_of_settle done).preceded above
          · cases done
      · exact isMade_of_settle done

/-- Nothing is changed if the directories of a path are there. -/
theorem makeDirectories_again (possible : hasNull path.toString = false)
    (directory : status tree start path.toString = .ok .directory) :
    ((makeDirectories start path).run).run tree = (.ok (), tree) := by
  obtain ⟨other, lies⟩ := exists_linkStatus directory
  obtain ⟨last, walked⟩ := linkStatus_eq_ok_iff.mp lies
  have present : ((makeDirectory start path.toString).run).run tree =
      (.error (troubleAt path.toString .present), tree) := by
    rw [run_makeDirectory, possible, walked]
    rfl
  have tested : testStatus tree start path.toString Entry.isDirectory = .ok true := by
    rw [testStatus, possible, directory]
    rfl
  rw [makeDirectories, makeDirectoriesFrom, run_tryCatch, present]
  dsimp only [troubleAt]
  rw [run_get_bind, tested]
  rfl

/-- The directories of a path that could be made have been made. -/
theorem isMade_of_makeDirectories (grounded : tree.IsGrounded)
    (here : tree.entry? start = some .directory)
    (done : ((makeDirectories start path).run).run tree = (.ok (), after)) :
    IsMade start path tree after :=
  isMade_of_makeDirectoriesFrom grounded here done

/-- Making the directories of a path can be repeated. -/
theorem repeats_makeDirectories (grounded : tree.IsGrounded)
    (here : tree.entry? start = some .directory)
    (done : ((makeDirectories start path).run).run tree = (.ok (), after)) :
    Repeats (makeDirectories start path) () tree [] after := by
  obtain ⟨written, possible, directory⟩ := isMade_of_makeDirectories grounded here done
  refine ⟨written, fun later grows => ?_⟩
  obtain ⟨still, there, same⟩ := grows.status_ok directory
  rw [Entry.eq_directory_of_frame same] at there
  exact makeDirectories_again possible there

/-- Making the directories of a path that leads to a directory changed nothing. -/
theorem eq_of_makeDirectories (grounded : tree.IsGrounded)
    (here : tree.entry? start = some .directory)
    (directory : status tree start path.toString = .ok .directory)
    (done : ((makeDirectories start path).run).run tree = (.ok (), after)) : after = tree := by
  have possible := (isMade_of_makeDirectories grounded here done).possible
  rw [makeDirectories_again possible directory] at done
  exact (Prod.mk.inj done).2.symm

/-- Writing a file can be repeated: it is put where the path leads, and that is all that is done. -/
theorem exists_repeats_writeBytes {content : List UInt8} (grounded : tree.IsGrounded)
    (here : tree.entry? start = some .directory)
    (done : ((writeBytes start text content).run).run tree = (.ok (), after)) :
    ∃ put, Repeats (writeBytes start text content) () tree [put] after ∧ tree.Fills after ∧
      walk after start true text = .ok ⟨put.1, some put.2⟩ := by
  rw [run_writeBytes] at done
  split at done
  · cases done
  next possible =>
    -- The file is put where the walk ended; what was there before only decides whether it may be.
    have repeats {place : Place} {entry : Option Entry} {executable : Bool}
        (walked : walk tree start true text = .ok ⟨place, entry⟩)
        (free : tree.Takes place executable)
        (same : after = tree.set place (.file content executable)) :
        ∃ put, Repeats (writeBytes start text content) () tree [put] after ∧ tree.Fills after ∧
          walk after start true text = .ok ⟨put.1, some put.2⟩ := by
      subst same
      have fills := free.fills content
      have lies : Tree.entry? (tree.set place (.file content executable)) place =
          some (.file content executable) := Tree.Written.entry?_set_self free.ne_root
      have still := fills.walk_ok walked
      rw [lies] at still
      refine ⟨(place, .file content executable), ⟨.file free (.done _), fun later further => ?_⟩,
        fills, still⟩
      obtain ⟨other, there⟩ := further.file lies
      rw [run_writeBytes, if_neg possible, further.walk_ok still, there]
      rfl
    split at done
    · cases done
    · cases done
    next place old executable walked =>
      exact repeats walked (.old (entry_of_walk walked).symm) (Prod.mk.inj done).2.symm
    next place entry noDirectory noFile walked =>
      have lies := entry_of_walk walked
      obtain ⟨above, straight⟩ := arrival_of_walk grounded here walked
      cases entry with
      | none => exact repeats walked (.new lies.symm (above rfl)) (Prod.mk.inj done).2.symm
      | some entry =>
        cases entry with
        | directory => exact absurd rfl noDirectory
        | file old executable => exact absurd rfl (noFile old executable)
        | link target => exact absurd rfl (straight rfl target)

end NegativeCompile.Files
