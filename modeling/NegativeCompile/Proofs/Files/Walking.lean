import NegativeCompile.Files.Access
import NegativeCompile.Proofs.Except

/-! # Where walks end

A walk ends with what lies at its last place (`entry_of_walkFrom`). If it fails, nothing is there or a
name is too long (`meansAbsent_or_longName_of_walkFrom`), and only links can lead round in a circle
(`walkFrom_ne_linkLoop`). -/

namespace NegativeCompile.Files

variable {tree : Tree} {start : Place} {text : String} {steps : List String}

/-! ## Walks that arrive -/

/-- What lies at a place is the root or an entry of the tree. -/
theorem Tree.eq_directory_or_mem_entries {place : Place} {entry : Entry}
    (found : tree.entry? place = some entry) : entry = .directory ∨ (place, entry) ∈ tree.entries := by
  unfold Tree.entry? at found
  split at found
  · exact .inl (Option.some.inj found).symm
  · obtain ⟨before, rest, equal, -⟩ := List.lookup_eq_some_iff.mp found
    exact .inr (by rw [equal]; simp)

/-- A walk ends with what lies at its last place. -/
theorem entry_of_walkFrom {follow : Bool} {links : Nat} {place : Place} {arrival : Arrival}
    (walked : walkFrom tree follow links place steps = .ok arrival) :
    arrival.entry = tree.entry? arrival.place := by
  fun_induction walkFrom tree follow links place steps with
  | case1 => rw [← Except.ok.inj walked]
  | case2 links place rest _ ih => exact ih walked
  | case3 links place rest _ _ ih => exact ih walked
  | case5 links place step rest _ _ _ next _ missing last =>
    rw [← Except.ok.inj walked, missing]
  | case7 links place step rest _ _ _ next _ target found last =>
    rw [← Except.ok.inj walked, found]
  | case9 place step rest _ _ _ next _ target found _ left origin ih => exact ih walked
  | case10 links place step rest _ _ _ next _ other _ _ ih => exact ih walked
  | case4 | case6 | case8 | case11 => cases walked

/-- A text that is empty or too long is refused, whatever the tree. Along any other one walks go step by
step. -/
theorem walk_cases (start : Place) (text : String) :
    (∃ fault, (fault = .missing ∨ fault = .longName) ∧
        ∀ tree follow, walk tree start follow text = .error fault) ∨
      ∀ tree follow, walk tree start follow text =
        walkFrom tree follow linkLimit (if text.startsWith "/" then [] else start)
          (stepsOf text) := by
  by_cases empty : text.isEmpty = true
  · exact .inl ⟨.missing, .inl rfl, fun tree follow => if_pos empty⟩
  · by_cases long : pathLimit < text.utf8ByteSize
    · exact .inl ⟨.longName, .inr rfl, fun tree follow => by rw [walk, if_neg empty, if_pos long]⟩
    · exact .inr fun tree follow => by rw [walk, if_neg empty, if_neg long]

/-- A walk along a text ends with what lies at its last place. -/
theorem entry_of_walk {follow : Bool} {arrival : Arrival}
    (walked : walk tree start follow text = .ok arrival) :
    arrival.entry = tree.entry? arrival.place := by
  rcases walk_cases start text with ⟨fault, -, refused⟩ | goes
  · rw [refused] at walked
    cases walked
  · rw [goes] at walked
    exact entry_of_walkFrom walked

/-- What a path leads to is what a walk along it arrives at. -/
theorem status_eq_ok_iff {entry : Entry} :
    status tree start text = .ok entry ↔
      ∃ place, walk tree start true text = .ok ⟨place, some entry⟩ := by
  unfold status
  rcases walk tree start true text with fault | ⟨place, lies⟩
  · rw [Except.error_bind]
    simp
  · rw [Except.ok_bind]
    cases lies <;> simp [pure, Except.pure]

/-- A path leads nowhere if the walk along it fails or arrives at nothing. -/
theorem status_eq_error_iff {fault : Fault} :
    status tree start text = .error fault ↔ walk tree start true text = .error fault ∨
      fault = .missing ∧ ∃ place, walk tree start true text = .ok ⟨place, none⟩ := by
  unfold status
  rcases walk tree start true text with other | ⟨place, lies⟩
  · rw [Except.error_bind]
    simp
  · rw [Except.ok_bind]
    cases lies <;> simp [pure, Except.pure, eq_comm]

/-- What lies at a path is what a walk arrives at that does not follow a link at the end. -/
theorem linkStatus_eq_ok_iff {entry : Entry} :
    linkStatus tree start text = .ok entry ↔
      ∃ place, walk tree start false text = .ok ⟨place, some entry⟩ := by
  unfold linkStatus
  rcases walk tree start false text with fault | ⟨place, lies⟩
  · rw [Except.error_bind]
    simp
  · rw [Except.ok_bind]
    cases lies <;> simp [pure, Except.pure]

/-- What lies at a path lies at a place of the tree. -/
theorem exists_of_linkStatus {entry : Entry} (found : linkStatus tree start text = .ok entry) :
    ∃ place, tree.entry? place = some entry := by
  obtain ⟨place, walked⟩ := linkStatus_eq_ok_iff.mp found
  exact ⟨place, (entry_of_walk walked).symm⟩

/-! ## Walks that fail -/

/-- A walk fails as if nothing was there, or for a name that is too long. -/
theorem meansAbsent_or_longName_of_walkFrom {follow : Bool} {links : Nat} {place : Place}
    {fault : Fault} (failed : walkFrom tree follow links place steps = .error fault) :
    fault.meansAbsent = true ∨ fault = .longName := by
  fun_induction walkFrom tree follow links place steps with
  | case2 links place rest _ ih => exact ih failed
  | case3 links place rest _ _ ih => exact ih failed
  | case4 => exact .inr (Except.error.inj failed).symm
  | case6 => exact .inl (by rw [← Except.error.inj failed]; rfl)
  | case8 => exact .inl (by rw [← Except.error.inj failed]; rfl)
  | case9 place step rest _ _ _ next _ target found _ left origin ih => exact ih failed
  | case10 links place step rest _ _ _ next _ other _ _ ih => exact ih failed
  | case11 => exact .inl (by rw [← Except.error.inj failed]; rfl)
  | case1 | case5 | case7 => cases failed

/-- A path leads nowhere because nothing is there, because it is too long, or because a walk fails. -/
theorem fault_of_status {fault : Fault} (failed : status tree start text = .error fault) :
    fault = .missing ∨ fault = .longName ∨
      ∃ links place steps, walkFrom tree true links place steps = .error fault := by
  rcases status_eq_error_iff.mp failed with walked | ⟨missing, -⟩
  · rcases walk_cases start text with ⟨other, reason, refused⟩ | goes
    · obtain rfl := Except.error.inj ((refused tree true).symm.trans walked)
      rcases reason with missing | long
      · exact .inl missing
      · exact .inr (.inl long)
    · rw [goes] at walked
      exact .inr (.inr ⟨_, _, _, walked⟩)
  · exact .inl missing

/-- It can be told whether a path leads to a file if no name on the way is too long. -/
theorem exists_isFile (short : status tree start text ≠ .error .longName) :
    ∃ answer, isFile tree start text = .ok answer := by
  unfold isFile testStatus
  split
  · exact ⟨false, rfl⟩
  · split
    · exact ⟨_, rfl⟩
    next fault failed =>
      have means : fault.meansAbsent = true := by
        rcases fault_of_status failed with rfl | rfl | ⟨links, place, steps, walked⟩
        · rfl
        · exact absurd failed short
        · rcases meansAbsent_or_longName_of_walkFrom walked with means | rfl
          · exact means
          · exact absurd failed short
      rw [if_pos means]
      exact ⟨false, rfl⟩

/-- No link lies anywhere in a tree without links. -/
theorem Tree.entry?_ne_link (linkless : ∀ entry ∈ tree.entries, ∀ target, entry.2 ≠ .link target)
    (place : Place) (target : String) : tree.entry? place ≠ some (.link target) := by
  intro lies
  rcases eq_directory_or_mem_entries lies with directory | listed
  · cases directory
  · exact linkless _ listed target rfl

/-- A walk in a tree without links meets no circle of links. -/
theorem walkFrom_ne_linkLoop {follow : Bool} {links : Nat} {place : Place}
    (linkless : ∀ entry ∈ tree.entries, ∀ target, entry.2 ≠ .link target) :
    walkFrom tree follow links place steps ≠ .error .linkLoop := by
  have absent := Tree.entry?_ne_link linkless
  intro circular
  fun_induction walkFrom tree follow links place steps with
  | case2 links place rest _ ih => exact ih circular
  | case3 links place rest _ _ ih => exact ih circular
  | case8 place step rest _ _ _ next _ target found _ => exact absent _ target found
  | case9 place step rest _ _ _ next _ target found _ left origin _ => exact absent _ target found
  | case10 links place step rest _ _ _ next _ other _ _ ih => exact ih circular
  | case1 | case4 | case5 | case6 | case7 | case11 => cases circular

/-- In a tree without links no path leads round in a circle. -/
theorem status_ne_linkLoop (linkless : ∀ entry ∈ tree.entries, ∀ target, entry.2 ≠ .link target) :
    status tree start text ≠ .error .linkLoop := by
  intro circular
  rcases fault_of_status circular with missing | long | ⟨links, place, steps, walked⟩
  · cases missing
  · cases long
  · exact walkFrom_ne_linkLoop linkless walked

end NegativeCompile.Files
