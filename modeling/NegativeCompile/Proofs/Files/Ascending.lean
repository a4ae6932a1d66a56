import NegativeCompile.Proofs.Files.Persisting

/-! # Directories above

A walk that ends somewhere passes a directory before its last step (`exists_walkFrom_above`). So a path
leads to a directory if it leads anywhere with one more part (`status_above`). -/

namespace NegativeCompile.Files

variable {tree : Tree} {start place : Place} {steps : List String} {name : String}

/-! ## Walks -/

/-- A walk that ends somewhere passes a directory before its last step. -/
theorem exists_walkFrom_above {follow : Bool} {links : Nat} {arrival : Arrival} (filled : steps ≠ [])
    (walked : walkFrom tree follow links place steps = .ok arrival) :
    ∃ above, walkFrom tree true links place steps.dropLast = .ok ⟨above, some .directory⟩ := by
  have nothing {links : Nat} {place : Place} (here : tree.entry? place = some .directory) :
      ∃ above, walkFrom tree true links place [] = .ok ⟨above, some .directory⟩ := by
    rw [walkFrom, here]
    exact ⟨place, rfl⟩
  -- Before the last step the shorter walk takes the same steps; a link there is followed in either walk.
  fun_induction walkFrom tree follow links place steps with
  | case1 => exact absurd rfl filled
  | case2 links place rest here ih =>
    by_cases onward : rest = []
    · rw [onward]
      exact nothing here
    · rw [List.dropLast_cons_of_ne_nil onward, walkFrom, here]
      exact ih onward walked
  | case3 links place rest here _ ih =>
    by_cases onward : rest = []
    · rw [onward]
      exact nothing here
    · rw [List.dropLast_cons_of_ne_nil onward, walkFrom_dots here]
      exact ih onward walked
  | case5 links place step rest here single double short next missing ends =>
    rw [List.isEmpty_iff.mp ends]
    exact nothing here
  | case7 links place step rest here single double short next target found ends =>
    rw [List.isEmpty_iff.mp (Bool.and_eq_true_iff.mp ends).1]
    exact nothing here
  | case9 place step rest here single double short next target found ends left origin ih =>
    by_cases onward : rest = []
    · rw [onward]
      exact nothing here
    · rw [List.dropLast_cons_of_ne_nil onward,
        walkFrom_of_link here ⟨single, double, short⟩ found, if_neg (by simp),
        ← List.dropLast_append_of_ne_nil onward]
      exact ih (List.append_ne_nil_of_right_ne_nil _ onward) walked
  | case10 links place step rest here single double short next other plain found ih =>
    by_cases onward : rest = []
    · rw [onward]
      exact nothing here
    · rw [List.dropLast_cons_of_ne_nil onward,
        walkFrom_of_entry here ⟨single, double, short⟩ found plain]
      exact ih onward walked
  | case4 | case6 | case8 | case11 => cases walked

/-! ## Texts of paths -/

/-- Between slashes alone there is nothing. -/
theorem splitOn_replicate_slash (count : Nat) :
    (List.replicate count '/').splitOn '/' = List.replicate (count + 1) [] := by
  induction count with
  | zero => rfl
  | succ count ih =>
    rw [List.replicate_succ, List.splitOn_cons_eq_if_modifyHead, if_pos BEq.rfl, ih]
    rfl

/-- The text of an absolute path without parts is its slashes. -/
theorem Path.toString_root (count : Nat) :
    (⟨count + 1, []⟩ : Path).toString = String.ofList (List.replicate (count + 1) '/') := by
  have text : String.ofList (List.replicate (count + 1) '/') ++ "/".intercalate [] =
      String.ofList (List.replicate (count + 1) '/') := String.append_empty
  rw [Path.toString, text, if_neg]
  simp [String.isEmpty_iff]

/-- The text of a path without parts is a dot if the path is relative. -/
theorem toList_toString_of_relative : (⟨0, []⟩ : Path).toString.toList = ['.'] := by
  decide

/-- The text of a path without parts is all slashes if the path is absolute. -/
theorem toList_toString_of_absolute (count : Nat) :
    (⟨count + 1, []⟩ : Path).toString.toList = List.replicate (count + 1) '/' := by
  rw [Path.toString_root, String.toList_ofList]

/-- The text of a path without parts asks for one step, which goes nowhere. -/
theorem stepsOf_toString_of_nil (slashes : Nat) :
    stepsOf (⟨slashes, []⟩ : Path).toString = ["."] := by
  rw [stepsOf, slashPieces, splitAtChar_eq]
  cases slashes with
  | zero =>
    rw [toList_toString_of_relative, if_neg]
    · decide
    · rw [String.endsWith, String.Slice.endsWith_string_iff, String.copy_toSlice,
        toList_toString_of_relative]
      decide
  | succ count =>
    rw [toList_toString_of_absolute, splitOn_replicate_slash, if_pos]
    · simp
    · rw [String.endsWith, String.Slice.endsWith_string_iff, String.copy_toSlice,
        toList_toString_of_absolute, List.replicate_succ']
      exact List.suffix_append _ _

/-- The text of a path without parts asks for the directory where the path starts. -/
theorem walk_of_nil (slashes : Nat) (tree : Tree) (start : Place) (follow : Bool) :
    walk tree start follow (⟨slashes, []⟩ : Path).toString =
      if pathLimit < (⟨slashes, []⟩ : Path).toString.utf8ByteSize then .error .longName
      else walkFrom tree follow linkLimit (Path.base start ⟨slashes, []⟩) ["."] := by
  cases slashes with
  | zero =>
    have relative : (⟨0, []⟩ : Path).toString.startsWith "/" = false := by
      rw [← Bool.not_eq_true, String.startsWith_string_iff, toList_toString_of_relative]
      decide
    rw [walk, if_neg (by decide), relative, stepsOf_toString_of_nil]
    rfl
  | succ count =>
    have named : ¬ (⟨count + 1, []⟩ : Path).toString.isEmpty = true := by
      intro empty
      have spelled := toList_toString_of_absolute count
      rw [String.isEmpty_iff.mp empty] at spelled
      cases spelled
    have absolute : (⟨count + 1, []⟩ : Path).toString.startsWith "/" = true := by
      rw [String.startsWith_string_iff, toList_toString_of_absolute, List.replicate_succ]
      exact List.prefix_append ['/'] _
    rw [walk, if_neg named, absolute, stepsOf_toString_of_nil]
    rfl

/-- A path has no longer text than one with a part added. -/
theorem Path.Each.utf8ByteSize_above {slashes : Nat} {parts : List String}
    (pieces : Path.Each IsPiece ⟨slashes, parts ++ [name]⟩) :
    (⟨slashes, parts⟩ : Path).toString.utf8ByteSize ≤
      max 1 (⟨slashes, parts ++ [name]⟩ : Path).toString.utf8ByteSize := by
  by_cases filled : parts = []
  · subst filled
    cases slashes with
    | zero => exact le_max_left 1 _
    | succ count =>
      rw [Path.toString_root, pieces.toString_eq (List.cons_ne_nil name []), String.utf8ByteSize_append]
      exact (Nat.le_add_right _ _).trans (Nat.le_max_right 1 _)
  · have longer := pieces.utf8ByteSize_le filled
    omega

/-- Above what a path leads to there is a directory. -/
theorem status_above {slashes : Nat} {parts : List String} {entry : Entry}
    (pieces : Path.Each IsPiece ⟨slashes, parts ++ [name]⟩)
    (found : status tree start (⟨slashes, parts ++ [name]⟩ : Path).toString = .ok entry) :
    status tree start (⟨slashes, parts⟩ : Path).toString = .ok .directory := by
  obtain ⟨last, walked⟩ := status_eq_ok_iff.mp found
  have added : parts ++ [name] ≠ [] := List.append_ne_nil_of_right_ne_nil parts (List.cons_ne_nil _ _)
  rw [pieces.walk_eq added] at walked
  split at walked
  · cases walked
  next short =>
    have also : ¬ pathLimit < (⟨slashes, parts⟩ : Path).toString.utf8ByteSize := by
      have longer := pieces.utf8ByteSize_above
      rw [pathLimit] at short ⊢
      omega
    obtain ⟨above, onward⟩ := exists_walkFrom_above added walked
    rw [List.dropLast_concat] at onward
    have arrives : walk tree start true (⟨slashes, parts⟩ : Path).toString =
        .ok ⟨above, some .directory⟩ := by
      by_cases filled : parts = []
      · -- The text of a path without parts asks for a directory by a dot.
        subst filled
        rw [walk_of_nil, if_neg also]
        rw [walkFrom] at onward
        obtain ⟨rfl, here⟩ := Arrival.mk.inj (Except.ok.inj onward)
        have stays : tree.entry? (Path.base start ⟨slashes, []⟩) = some .directory := here
        rw [walkFrom, stays]
        simp only [if_true]
        rw [walkFrom, stays]
        rfl
      · have first : Path.Each IsPiece ⟨slashes, parts⟩ :=
          fun part member => pieces part (List.mem_append_left _ member)
        rw [first.walk_eq filled, if_neg also]
        exact onward
    exact status_eq_ok_iff.mpr ⟨above, arrives⟩

end NegativeCompile.Files
