import NegativeCompile.Proofs.Files.Reaching
import NegativeCompile.Proofs.Files.Reading

/-! # Trees that grow

A tree grows if directories and files are added to it and files are written anew (`Tree.Grows`). Walks
that arrive somewhere arrive at the same place afterwards (`Tree.Grows.walkFrom_ok`), and those that
fail for another reason than that something is missing fail for the same reason
(`Tree.Grows.walkFrom_error`). If no directory is added (`Tree.Fills`), not even links that lead round in
a circle come about, so paths are resolved as before (`Tree.Fills.resolve_eq`). -/

namespace NegativeCompile.Files

variable {before between after tree : Tree} {start place : Place} {steps : List String}
variable {follow : Bool} {links : Nat} {arrival : Arrival} {fault : Fault} {text : String}

/-! ## Single steps of walks -/

/-- A step that can be the name of something in a directory. -/
structure IsForward (step : String) : Prop where
  /-- It does not stay where it is. -/
  ne_dot : step ≠ "."
  /-- It does not lead up. -/
  ne_dots : step ≠ ".."
  /-- It is not too long. -/
  short : ¬ nameLimit < step.utf8ByteSize

section

variable {step : String} {rest : List String}

/-- Double dots lead up from a directory. -/
theorem walkFrom_dots (here : tree.entry? place = some .directory) :
    walkFrom tree follow links place (".." :: rest) =
      walkFrom tree follow links place.dropLast rest := by
  rw [walkFrom, here]
  simp only [if_neg (show ¬ ".." = "." by decide), if_true]

/-- A walk from a directory goes on or ends where a name leads if nothing is there. -/
theorem walkFrom_of_nothing (here : tree.entry? place = some .directory) (forward : IsForward step)
    (nothing : tree.entry? (place ++ [step]) = none) :
    walkFrom tree follow links place (step :: rest) =
      if rest.isEmpty then .ok ⟨place ++ [step], none⟩ else .error .missing := by
  rw [walkFrom]
  simp only [here, if_neg forward.ne_dot, if_neg forward.ne_dots, if_neg forward.short, nothing]

/-- A walk from a directory follows a link that has the name of the next step. -/
theorem walkFrom_of_link (here : tree.entry? place = some .directory) (forward : IsForward step)
    {target : String} (lies : tree.entry? (place ++ [step]) = some (.link target)) :
    walkFrom tree follow links place (step :: rest) =
      if rest.isEmpty && !follow then .ok ⟨place ++ [step], some (.link target)⟩
      else match links with
        | 0 => .error .linkLoop
        | left + 1 =>
          walkFrom tree follow left (if target.startsWith "/" then [] else place)
            (stepsOf target ++ rest) := by
  rw [walkFrom]
  simp only [here, if_neg forward.ne_dot, if_neg forward.ne_dots, if_neg forward.short]
  cases links with
  | zero => simp only [lies]
  | succ left => simp only [lies]

/-- A walk from a directory goes on from a directory or a file that has the name of the next step. -/
theorem walkFrom_of_entry (here : tree.entry? place = some .directory) (forward : IsForward step)
    {entry : Entry} (lies : tree.entry? (place ++ [step]) = some entry)
    (straight : ∀ target, entry ≠ .link target) :
    walkFrom tree follow links place (step :: rest) =
      walkFrom tree follow links (place ++ [step]) rest := by
  rw [walkFrom]
  simp only [here, if_neg forward.ne_dot, if_neg forward.ne_dots, if_neg forward.short]
  cases entry with
  | directory => simp only [lies]
  | file content executable => simp only [lies]
  | link target => exact absurd rfl (straight target)

end

/-! ## Links at the end of walks -/

/-- Where a walk arrives at something, one that does not follow a link at the end does too. -/
theorem exists_walkFrom_false {last : Place} {entry : Entry}
    (walked : walkFrom tree true links place steps = .ok ⟨last, some entry⟩) :
    ∃ last entry, walkFrom tree false links place steps = .ok ⟨last, some entry⟩ := by
  fun_induction walkFrom tree true links place steps with
  | case1 links place =>
    refine ⟨last, entry, ?_⟩
    rw [walkFrom]
    exact walked
  | case2 links place rest here ih =>
    rw [walkFrom, here]
    exact ih walked
  | case3 links place rest here _ ih =>
    rw [walkFrom_dots here]
    exact ih walked
  | case5 =>
    obtain ⟨-, nothing⟩ := Arrival.mk.inj (Except.ok.inj walked)
    cases nothing
  | case7 links place step rest here single double short next target found ends => simp at ends
  | case9 place step rest here single double short next target found ends left origin ih =>
    -- At the end the link itself is what is there; before, it is followed all the same.
    rw [walkFrom_of_link here ⟨single, double, short⟩ found]
    by_cases onward : rest = []
    · subst onward
      exact ⟨_, _, rfl⟩
    · rw [if_neg (by simp [onward])]
      exact ih walked
  | case10 links place step rest here single double short next other straight found ih =>
    rw [walkFrom_of_entry here ⟨single, double, short⟩ found straight]
    exact ih walked
  | case4 | case6 | case8 | case11 => cases walked

/-- What a path leads to lies there if a link at the end is not followed, or such a link does. -/
theorem exists_linkStatus {entry : Entry} (found : status tree start text = .ok entry) :
    ∃ lies, linkStatus tree start text = .ok lies := by
  obtain ⟨last, walked⟩ := status_eq_ok_iff.mp found
  rcases walk_cases start text with ⟨fault, -, refused⟩ | goes
  · rw [refused] at walked
    cases walked
  · rw [goes] at walked
    obtain ⟨last, lies, unfollowed⟩ := exists_walkFrom_false walked
    exact ⟨lies, linkStatus_eq_ok_iff.mpr ⟨last, (goes tree false).trans unfollowed⟩⟩

/-! ## Entries -/

/-- An entry, whatever a file holds. -/
def Entry.frame : Entry → Entry
  | .file _ executable => .file [] executable
  | other => other

namespace Entry

variable {entry later : Entry}

@[simp] theorem frame_directory : frame .directory = .directory := rfl

@[simp] theorem frame_file (content : List UInt8) (executable : Bool) :
    frame (.file content executable) = .file [] executable := rfl

@[simp] theorem frame_link (target : String) : frame (.link target) = .link target := rfl

/-- Only a directory has the frame of a directory. -/
theorem eq_directory_of_frame (same : later.frame = .directory) : later = .directory := by
  cases later with
  | directory => rfl
  | file content executable => cases same
  | link target => cases same

/-- Only a link has the frame of a link. -/
theorem eq_link_of_frame {target : String} (same : later.frame = .link target) :
    later = .link target := by
  cases later with
  | directory => cases same
  | file content executable => cases same
  | link other => exact same

/-- Only a file has the frame of a file. -/
theorem exists_file_of_frame {content : List UInt8} {executable : Bool}
    (same : later.frame = .file content executable) : ∃ other, later = .file other executable := by
  cases later with
  | directory => cases same
  | file other flag =>
    cases same
    exact ⟨other, rfl⟩
  | link target => cases same

end Entry

/-! ## Growth -/

namespace Tree

/-- A tree has grown: what was there is still there, but for what files hold, and no link was added. -/
structure Grows (before after : Tree) : Prop where
  /-- What was there is there still. -/
  kept : ∀ place entry, before.entry? place = some entry →
    ∃ later, after.entry? place = some later ∧ later.frame = entry.frame
  /-- What was added is no link. -/
  added : ∀ place, before.entry? place = none → ∀ target, after.entry? place ≠ some (.link target)
  /-- Links lead where they led. -/
  targets_eq : after.targets = before.targets

/-- A tree was filled: it has grown, and only files were added. -/
structure Fills (before after : Tree) : Prop extends Grows before after where
  /-- No directory was added. -/
  files : ∀ place, before.entry? place = none → after.entry? place ≠ some .directory

/-- Whatever lies in a tree lies in directories. -/
def IsGrounded (tree : Tree) : Prop := ∀ place, tree.entry? place ≠ none → tree.HasAbove place

/-- Above what lies below the root there is a directory. -/
theorem IsGrounded.above (grounded : tree.IsGrounded) (there : tree.entry? place ≠ none)
    (below : place ≠ []) : tree.entry? place.dropLast = some .directory := by
  refine grounded place there place.dropLast (List.dropLast_prefix place) fun same => ?_
  have shorter := congrArg List.length same
  rw [List.length_dropLast] at shorter
  have filled := List.length_pos_of_ne_nil below
  omega

/-- Above a directory there is a directory. -/
theorem IsGrounded.dropLast (grounded : tree.IsGrounded)
    (lies : tree.entry? place = some .directory) : tree.entry? place.dropLast = some .directory := by
  by_cases root : place = []
  · rw [root]
    rfl
  · refine grounded.above ?_ root
    rw [lies]
    exact Option.some_ne_none _

namespace Grows

/-- A tree that stays as it is has grown. -/
theorem refl (tree : Tree) : Grows tree tree where
  kept _ entry lies := ⟨entry, lies, rfl⟩
  added place nothing target lies := by
    rw [nothing] at lies
    cases lies
  targets_eq := rfl

/-- Growth may follow growth. -/
theorem trans (first : Grows before between) (second : Grows between after) : Grows before after where
  kept place entry lies := by
    obtain ⟨middle, there, same⟩ := first.kept place entry lies
    obtain ⟨later, last, also⟩ := second.kept place middle there
    exact ⟨later, last, also.trans same⟩
  added place nothing target lies := by
    cases there : between.entry? place with
    | none => exact second.added place there target lies
    | some middle =>
      obtain ⟨later, last, same⟩ := second.kept place middle there
      rw [lies] at last
      cases last
      have link : middle = .link target := Entry.eq_link_of_frame same.symm
      rw [link] at there
      exact first.added place nothing target there
  targets_eq := second.targets_eq.trans first.targets_eq

/-- A directory stays a directory. -/
theorem directory (grows : Grows before after) (lies : before.entry? place = some .directory) :
    after.entry? place = some .directory := by
  obtain ⟨later, there, same⟩ := grows.kept place _ lies
  rw [there, Entry.eq_directory_of_frame same]

/-- A link stays the link that it is. -/
theorem link (grows : Grows before after) {target : String}
    (lies : before.entry? place = some (.link target)) :
    after.entry? place = some (.link target) := by
  obtain ⟨later, there, same⟩ := grows.kept place _ lies
  rw [there, Entry.eq_link_of_frame same]

/-- A file stays a file, and stays executable or not. -/
theorem file (grows : Grows before after) {content : List UInt8} {executable : Bool}
    (lies : before.entry? place = some (.file content executable)) :
    ∃ later, after.entry? place = some (.file later executable) := by
  obtain ⟨later, there, same⟩ := grows.kept place _ lies
  obtain ⟨other, rfl⟩ := Entry.exists_file_of_frame same
  exact ⟨other, there⟩

/-- A link was there before. -/
theorem link_before (grows : Grows before after) {target : String}
    (lies : after.entry? place = some (.link target)) :
    before.entry? place = some (.link target) := by
  cases there : before.entry? place with
  | none => exact absurd lies (grows.added place there target)
  | some entry =>
    obtain ⟨later, last, same⟩ := grows.kept place entry there
    rw [lies] at last
    cases last
    rw [Entry.eq_link_of_frame same.symm]

/-- What is no directory stays none. -/
theorem ne_directory (grows : Grows before after) {entry : Entry}
    (lies : before.entry? place = some entry) (other : entry ≠ .directory) :
    after.entry? place ≠ some .directory := by
  intro directory
  obtain ⟨later, last, same⟩ := grows.kept place entry lies
  rw [directory] at last
  cases last
  exact other (Entry.eq_directory_of_frame same.symm)

/-! ## Walks that arrive -/

/-- A walk that arrives still arrives at the same place. -/
theorem walkFrom_ok (grows : Grows before after)
    (walked : walkFrom before follow links place steps = .ok arrival) :
    walkFrom after follow links place steps = .ok ⟨arrival.place, after.entry? arrival.place⟩ := by
  fun_induction walkFrom before follow links place steps with
  | case1 => rw [walkFrom, ← Except.ok.inj walked]
  | case2 links place rest here ih =>
    rw [walkFrom, grows.directory here]
    exact ih walked
  | case3 links place rest here _ ih =>
    rw [walkFrom, grows.directory here]
    exact ih walked
  | case5 links place step rest here single double short next missing last =>
    -- Whatever has been added there is no link, so that the walk ends at it.
    have forward : IsForward step := ⟨single, double, short⟩
    rw [← Except.ok.inj walked, List.isEmpty_iff.mp last]
    cases there : after.entry? next with
    | none => exact walkFrom_of_nothing (grows.directory here) forward there
    | some entry =>
      rw [walkFrom_of_entry (grows.directory here) forward there, walkFrom, there]
      intro target link
      rw [link] at there
      exact grows.added next missing target there
  | case7 links place step rest here single double short next target found last =>
    -- A link at the end that is not followed is still the same link.
    rw [← Except.ok.inj walked,
      walkFrom_of_link (grows.directory here) ⟨single, double, short⟩ (grows.link found), if_pos last,
      grows.link found]
  | case9 place step rest here single double short next target found last left origin ih =>
    rw [walkFrom_of_link (grows.directory here) ⟨single, double, short⟩ (grows.link found),
      if_neg last]
    exact ih walked
  | case10 links place step rest here single double short next other straight found ih =>
    -- Another entry may hold something else, but it is no link afterwards either.
    obtain ⟨later, there, same⟩ := grows.kept next other found
    rw [walkFrom_of_entry (grows.directory here) ⟨single, double, short⟩ there]
    · exact ih walked
    · rintro target rfl
      exact straight target (Entry.eq_link_of_frame same.symm)
  | case4 | case6 | case8 | case11 => cases walked

/-! ## Walks that fail -/

/-- A walk that fails, for another reason than that something is missing, fails for the same reason. If
it fails for what is no directory, there has to be something where it starts. -/
theorem walkFrom_error (grows : Grows before after)
    (walked : walkFrom before follow links place steps = .error fault) (there : fault ≠ .missing)
    (grounded : fault = .notDirectory → before.IsGrounded ∧ before.entry? place ≠ none) :
    walkFrom after follow links place steps = .error fault := by
  fun_induction walkFrom before follow links place steps with
  | case2 links place rest here ih =>
    rw [walkFrom, grows.directory here]
    exact ih walked grounded
  | case3 links place rest here _ ih =>
    rw [walkFrom, grows.directory here]
    refine ih walked fun same => ⟨(grounded same).1, ?_⟩
    rw [(grounded same).1.dropLast here]
    exact Option.some_ne_none _
  | case4 links place step rest here single double long =>
    rw [← walked, walkFrom, grows.directory here]
    simp only [if_neg single, if_neg double, if_pos long]
  | case8 place step rest here single double short next target found last =>
    rw [← walked, walkFrom_of_link (grows.directory here) ⟨single, double, short⟩ (grows.link found),
      if_neg last]
  | case9 place step rest here single double short next target found last left origin ih =>
    -- The target of a link is followed from the root or from the directory of the link.
    rw [walkFrom_of_link (grows.directory here) ⟨single, double, short⟩ (grows.link found),
      if_neg last]
    refine ih walked fun same => ⟨(grounded same).1, ?_⟩
    unfold origin
    split
    · exact Option.some_ne_none _
    · rw [here]
      exact Option.some_ne_none _
  | case10 links place step rest here single double short next other straight found ih =>
    obtain ⟨later, lies, same⟩ := grows.kept next other found
    rw [walkFrom_of_entry (grows.directory here) ⟨single, double, short⟩ lies]
    · refine ih walked fun same => ⟨(grounded same).1, ?_⟩
      rw [found]
      exact Option.some_ne_none _
    · rintro target rfl
      exact straight target (Entry.eq_link_of_frame same.symm)
  | case11 links place step rest other =>
    -- Something lies there that is no directory, and none is made of it.
    obtain ⟨-, present⟩ := grounded (Except.error.inj walked).symm
    obtain ⟨entry, lies⟩ := Option.ne_none_iff_exists'.mp present
    have still := grows.ne_directory lies fun directory => other (lies.trans (congrArg some directory))
    rw [← walked, walkFrom]
    split
    · contradiction
    · rfl
  | case6 => exact absurd (Except.error.inj walked).symm there
  | case1 | case5 | case7 => cases walked

/-! ## Paths -/

/-- A path that leads somewhere still leads to the same place. -/
theorem walk_ok (grows : Grows before after) (walked : walk before start follow text = .ok arrival) :
    walk after start follow text = .ok ⟨arrival.place, after.entry? arrival.place⟩ := by
  rcases walk_cases start text with ⟨fault, -, refused⟩ | goes
  · rw [refused] at walked
    cases walked
  · rw [goes] at walked ⊢
    exact grows.walkFrom_ok walked

/-- What a path leads to is still there, but for what files hold. -/
theorem status_ok (grows : Grows before after) {entry : Entry}
    (found : status before start text = .ok entry) :
    ∃ later, status after start text = .ok later ∧ later.frame = entry.frame := by
  obtain ⟨place, walked⟩ := status_eq_ok_iff.mp found
  obtain ⟨later, there, frame⟩ := grows.kept _ _ (entry_of_walk walked).symm
  refine ⟨later, status_eq_ok_iff.mpr ⟨place, ?_⟩, frame⟩
  rw [grows.walk_ok walked, there]

/-- A link at the end of a path is still there. -/
theorem linkStatus_link (grows : Grows before after) {target : String}
    (found : linkStatus before start text = .ok (.link target)) :
    linkStatus after start text = .ok (.link target) := by
  obtain ⟨place, walked⟩ := linkStatus_eq_ok_iff.mp found
  refine linkStatus_eq_ok_iff.mpr ⟨place, ?_⟩
  rw [grows.walk_ok walked, grows.link (entry_of_walk walked).symm]

/-- A path that leads nowhere, for another reason than that something is missing, leads nowhere for the
same reason. -/
theorem status_error (grows : Grows before after)
    (failed : status before start text = .error fault) (there : fault ≠ .missing)
    (grounded : fault = .notDirectory → before.IsGrounded ∧ before.entry? start ≠ none) :
    status after start text = .error fault := by
  rcases status_eq_error_iff.mp failed with walked | ⟨missing, -⟩
  · refine status_eq_error_iff.mpr (.inl ?_)
    rcases walk_cases start text with ⟨other, -, refused⟩ | goes
    · rw [refused] at walked ⊢
      exact walked
    · rw [goes] at walked ⊢
      refine grows.walkFrom_error walked there fun same => ?_
      obtain ⟨sound, present⟩ := grounded same
      refine ⟨sound, ?_⟩
      split
      · exact Option.some_ne_none _
      · exact present
  · exact absurd missing there

end Grows

/-! ## Trees that are filled -/

namespace Fills

/-- A tree that stays as it is has been filled. -/
theorem refl (tree : Tree) : Fills tree tree where
  toGrows := .refl tree
  files place nothing directory := by
    rw [nothing] at directory
    cases directory

/-- A tree may be filled again. -/
theorem trans (first : Fills before between) (second : Fills between after) : Fills before after where
  toGrows := first.toGrows.trans second.toGrows
  files place nothing := by
    cases there : between.entry? place with
    | none => exact second.files place there
    | some middle =>
      refine second.ne_directory there ?_
      rintro rfl
      exact first.files place nothing there

/-- A directory was there before. -/
theorem directory_before (fills : Fills before after)
    (lies : after.entry? place = some .directory) : before.entry? place = some .directory := by
  cases there : before.entry? place with
  | none => exact absurd lies (fills.files place there)
  | some entry =>
    by_cases same : entry = .directory
    · rw [same]
    · exact absurd lies (fills.ne_directory there same)

/-- A walk that ends at a link, or goes round in a circle of links, did so before: a file that was
added leads nowhere. -/
theorem walkFrom_eq (fills : Fills before after)
    (meets : ¬ MeetsNoLink (walkFrom after follow links place steps)) :
    walkFrom before follow links place steps = walkFrom after follow links place steps := by
  fun_induction walkFrom after follow links place steps with
  | case1 links place =>
    -- The walk has ended, and only a link is left to lie there.
    by_cases link : ∃ target, after.entry? place = some (.link target)
    · obtain ⟨target, there⟩ := link
      rw [walkFrom, fills.link_before there, there]
    · exact absurd (fun target there => link ⟨target, there⟩) meets
  | case2 links place rest here ih =>
    rw [walkFrom, fills.directory_before here]
    exact ih meets
  | case3 links place rest here _ ih =>
    rw [walkFrom, fills.directory_before here]
    exact ih meets
  | case7 links place step rest here single double short next target found last =>
    -- Links are as they were, those that are not followed and those that are too many.
    rw [walkFrom_of_link (fills.directory_before here) ⟨single, double, short⟩
      (fills.link_before found), if_pos last]
  | case8 place step rest here single double short next target found last =>
    rw [walkFrom_of_link (fills.directory_before here) ⟨single, double, short⟩
      (fills.link_before found), if_neg last]
  | case9 place step rest here single double short next target found last left origin ih =>
    rw [walkFrom_of_link (fills.directory_before here) ⟨single, double, short⟩
      (fills.link_before found), if_neg last]
    exact ih meets
  | case10 links place step rest here single double short next other straight found ih =>
    cases there : before.entry? next with
    | some entry =>
      obtain ⟨later, lies, same⟩ := fills.kept next entry there
      rw [walkFrom_of_entry (fills.directory_before here) ⟨single, double, short⟩ there]
      · exact ih meets
      · rintro target rfl
        rw [found] at lies
        cases lies
        exact straight target (Entry.eq_link_of_frame same)
    | none =>
      -- What was added is a file, at which a walk ends or fails.
      refine absurd ?_ meets
      cases rest with
      | nil =>
        rw [walkFrom, found]
        rintro target link
        cases link
        exact straight target rfl
      | cons further rest =>
        rw [walkFrom]
        split
        next directory => exact absurd directory (fills.files next there)
        · exact meetsNoLink_error (by decide)
  | case5 => exact absurd meetsNoLink_nothing meets
  | case4 | case6 | case11 => exact absurd (meetsNoLink_error (by decide)) meets

/-- A walk along a text that ends at a link, or goes round in a circle of links, did so before. -/
theorem walk_eq (fills : Fills before after) (meets : ¬ MeetsNoLink (walk after start follow text)) :
    walk before start follow text = walk after start follow text := by
  rcases walk_cases start text with ⟨fault, -, refused⟩ | goes
  · rw [refused, refused]
  · rw [goes] at meets
    rw [goes, goes]
    exact fills.walkFrom_eq meets

/-- There is a link at the end of a path just if there was. -/
theorem linkStatus_link_iff (fills : Fills before after) {target : String} :
    linkStatus before start text = .ok (.link target) ↔
      linkStatus after start text = .ok (.link target) := by
  constructor
  · exact fills.linkStatus_link
  · intro found
    obtain ⟨place, walked⟩ := linkStatus_eq_ok_iff.mp found
    have meets : ¬ MeetsNoLink (walk after start false text) := by
      rw [walked]
      exact fun straight => straight target rfl
    rw [linkStatus, fills.walk_eq meets]
    exact found

/-- A path leads round in a circle of links just if it did. -/
theorem status_linkLoop_iff (fills : Fills before after) :
    status before start text = .error .linkLoop ↔ status after start text = .error .linkLoop := by
  constructor
  · exact fun failed => fills.status_error failed (by decide) nofun
  · intro failed
    rcases status_eq_error_iff.mp failed with walked | ⟨missing, -⟩
    · have meets : ¬ MeetsNoLink (walk after start true text) := by
        rw [walked]
        exact fun straight => straight rfl
      rw [status, fills.walk_eq meets]
      exact failed
    · cases missing

end Fills

end Tree

end NegativeCompile.Files
