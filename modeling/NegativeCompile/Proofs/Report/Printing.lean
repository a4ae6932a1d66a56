import NegativeCompile.Proofs.Action

/-! # Printed lines

Codes for colours and titles start with one character. A line without this character is printed as it
is, whatever the console does with codes (`Action.perform_print`). -/

namespace NegativeCompile

/-! ## Texts without codes -/

namespace Console

variable {text : List Char} {after : List Char → Option (List Char)} {line : String} {c : Char}

theorem after?_eq_none (missing : c ∉ text) : after? c text = none := by
  cases text with
  | nil => rfl
  | cons first rest =>
    rw [List.mem_cons, not_or] at missing
    exact if_neg fun same => missing.1 same.symm

/-- What is left of a text without a character is without it. -/
theorem not_mem_afterOptional (missing : c ∉ text) (first : Char) : c ∉ afterOptional first text := by
  cases text with
  | nil => exact missing
  | cons head rest =>
    rw [afterOptional, after?]
    split
    · exact fun member => missing (List.mem_cons_of_mem _ member)
    · exact missing

/-- No plain code starts without the character for it. -/
theorem afterPlainCode?_eq_none (plain : escape ∉ text) : afterPlainCode? text = none := by
  rw [afterPlainCode?, after?_eq_none plain]
  rfl

/-- No code between markers starts without the character for it. -/
theorem afterMarkedCode?_eq_none (plain : escape ∉ text) : afterMarkedCode? text = none := by
  rw [afterMarkedCode?, after?_eq_none (not_mem_afterOptional plain _)]
  rfl

/-- No title starts without the character for it. -/
theorem titleAt?_eq_none (plain : escape ∉ text) (start : Nat) : titleAt? start text = none := by
  rw [titleAt?, after?_eq_none (not_mem_afterOptional plain _)]
  rfl

/-- Nothing is taken out of a text without codes. -/
theorem without_eq_self (finds : ∀ rest, escape ∉ rest → after rest = none) (plain : escape ∉ text) :
    without after text = text := by
  have each : ∀ (fuel : Nat) (rest : List Char), escape ∉ rest → withoutFrom after fuel rest = rest := by
    intro fuel
    induction fuel with
    | zero => exact fun rest _ => rfl
    | succ fuel ih =>
      intro rest plain
      cases rest with
      | nil => rfl
      | cons c rest =>
        rw [withoutFrom, finds _ plain]
        exact congrArg (c :: ·) (ih rest fun member => plain (List.mem_cons_of_mem _ member))
  exact each _ text plain

/-- There are no titles in a text without codes. -/
theorem titlesFrom_eq_nil (plain : escape ∉ text) (start fuel : Nat) : titlesFrom start fuel text = [] := by
  induction fuel generalizing start text with
  | zero => rfl
  | succ fuel ih =>
    cases text with
    | nil => rfl
    | cons c rest =>
      rw [titlesFrom, titleAt?_eq_none plain]
      exact ih (fun member => plain (List.mem_cons_of_mem _ member)) _

/-- A text without codes is shown as it is. -/
theorem shown?_eq_self (plain : escape ∉ line.toList) (console : Console) (isTerminal : Bool) :
    console.shown? isTerminal line = some line := by
  have untitled : withoutTitles? line.toList = some line.toList := by
    rw [withoutTitles?, titlesFrom_eq_nil plain]
    rfl
  have kept : console.filtered? line.toList = some line.toList := by
    rw [filtered?, untitled, Option.map_some,
      without_eq_self (fun _ => afterMarkedCode?_eq_none) plain, ite_self]
  rw [shown?, without_eq_self (fun _ => afterPlainCode?_eq_none) plain, kept, Option.map_some,
    String.ofList_toList, ite_self]

end Console

/-- A line without codes is printed as it is. -/
theorem Action.perform_print {line : String} (plain : Console.escape ∉ line.toList) (machine : Machine)
    (world : World) :
    (print line).perform machine world =
      (.ok (), world.withOutput (world.console.output ++ (line ++ "\n"))) := by
  have whole : Console.escape ∉ (line ++ "\n").toList := by
    rw [String.toList_append, List.mem_append]
    exact not_or.mpr ⟨plain, by decide⟩
  have printed : world.console.print? line =
      some { world.console with output := world.console.output ++ (line ++ "\n") } := by
    rw [Console.print?, Console.shown?_eq_self whole]
    rfl
  rw [print, printBy, perform_bind_of_ok perform_get]
  simp only [printed, perform_set]
  rfl

end NegativeCompile
