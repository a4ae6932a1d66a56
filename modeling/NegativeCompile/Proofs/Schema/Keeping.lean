import NegativeCompile.Proofs.Schema.Following
import NegativeCompile.Proofs.Json.Recovering
import NegativeCompile.Proofs.Run.Timing

/-! # Schemas that reading back keeps

A document that was written and read back has the same kinds of values under the same plain names. So it
follows a schema that the document follows, if the schema names plain names and texts only
(`Schema.Keeps`). The schema of reports is such a schema (`Report.keeps_schema`), and the document of a
run with proper durations can be written (`Report.isWritable_ofRun`). -/

namespace NegativeCompile

open Number Text

variable {kinds : List SchemaKind} {names texts : List String} {document : Json} {schema : Schema}
variable {rules : List Rule} {bound : Int} {known : List (String × Schema)}
variable {name value : String}

/-! ## Plain texts -/

namespace Json

/-- A text consists of ASCII characters other than the null character. -/
def IsPlain (text : String) : Prop := ∀ c ∈ text.toList, 0 < c.toNat ∧ c.toNat < 0x80

instance (text : String) : Decidable (IsPlain text) := List.decidableBAll _ text.toList

/-- Nothing but a plain character itself is read back as the character. -/
theorem eq_of_ofNat_codeOf {c plain : Char} (shown : 0 < plain.toNat)
    (same : Char.ofNat (codeOf c) = plain) : c = plain := by
  cases half : isHalf (codeOf c) with
  | false => rwa [ofNat_codeOf half] at same
  | true =>
    -- A half is no character.
    exfalso
    have invalid : ¬(codeOf c).isValidChar := by
      simp only [isHalf, Bool.and_eq_true, decide_eq_true_eq] at half
      unfold Nat.isValidChar
      omega
    rw [Char.ofNat, dif_neg invalid] at same
    rw [← same] at shown
    exact absurd shown (by decide)

/-- No pair of halves is joined to a plain character. -/
theorem joined_ne {high low : Nat} {plain : Char} (small : plain.toNat < 0x80) (isHigh : IsHigh high)
    (isLow : IsLow low) : joined high low ≠ plain := by
  intro same
  unfold IsHigh at isHigh
  unfold IsLow at isLow
  have valid : (0x10000 + (high - 0xd800) * 0x400 + (low - 0xdc00)).isValidChar := by
    unfold Nat.isValidChar
    omega
  have code : plain.toNat = 0x10000 + (high - 0xd800) * 0x400 + (low - 0xdc00) := by
    rw [← same, joined, Char.toNat_ofNat, if_pos valid]
  omega

/-- Nothing but plain characters themselves are read back as them. -/
theorem eq_of_rejoin {text plain : List Char} (shown : ∀ c ∈ plain, 0 < c.toNat ∧ c.toNat < 0x80)
    (same : rejoin text = plain) : text = plain := by
  induction text using rejoin.induct generalizing plain with
  | case1 => exact same
  | case2 c =>
    subst same
    have kept := eq_of_ofNat_codeOf (shown _ List.mem_cons_self).1 rfl
    rw [rejoin, ← kept]
  | case3 first second others pair ih =>
    rw [rejoin, if_pos pair] at same
    subst same
    exact absurd rfl (joined_ne (shown _ List.mem_cons_self).2 pair.1 pair.2)
  | case4 first second others single ih =>
    rw [rejoin, if_neg single] at same
    subst same
    have kept := eq_of_ofNat_codeOf (shown _ List.mem_cons_self).1 rfl
    have rest := ih (fun c member => shown c (List.mem_cons_of_mem _ member)) rfl
    rw [← rest, ← kept]

/-- A plain text is read back. -/
theorem IsPlain.rejoined_eq (plain : IsPlain name) : rejoined name = name := by
  refine rejoined_eq_self fun c member => ?_
  have small := (plain c member).2
  have code : codeOf c = c.toNat := by
    unfold codeOf halfOffset
    rw [if_neg]
    simp only [Bool.and_eq_true, decide_eq_true_eq, not_and]
    omega
  exact isHalf_of_lt (by omega)

/-- A string is read back as a plain text just if it is the text. -/
theorem IsPlain.rejoined_eq_iff (plain : IsPlain name) : rejoined value = name ↔ value = name := by
  refine ⟨fun same => ?_, fun same => same ▸ plain.rejoined_eq⟩
  have chars : rejoin value.toList = name.toList := by
    rw [← same, rejoined, String.toList_ofList]
  rw [← @String.ofList_toList value, eq_of_rejoin plain chars, String.ofList_toList]

/-! ## Members -/

/-- A member of a plain name is found in an object after it was read back just if it was there. -/
theorem lookup_rereadMembers (plain : IsPlain name) (members : List (String × Json)) :
    (rereadMembers members).lookup name = (members.lookup name).map reread := by
  induction members with
  | nil => rfl
  | cons member rest ih =>
    rw [rereadMembers, List.lookup_cons, List.lookup_cons, ih]
    have same : (name == rejoined member.1) = (name == member.1) := by
      rw [Bool.eq_iff_iff, beq_iff_eq, beq_iff_eq, eq_comm, plain.rejoined_eq_iff, eq_comm]
    rw [same]
    cases name == member.1 <;> rfl

/-- An object has a member just if it is found. -/
theorem mem_names_iff {members : List (String × Json)} :
    name ∈ members.map Prod.fst ↔ (members.lookup name).isSome = true := by
  rw [List.lookup_isSome_iff, List.mem_map]
  exact exists_congr fun member => and_congr_right fun _ => by rw [beq_iff_eq, eq_comm]

end Json

/-! ## Rules -/

/-- A rule that holds of a document holds of it after it was read back. -/
def Rule.Keeps (rule : Rule) : Prop :=
  ∀ document : Json, rule.Holds document → rule.Holds document.reread

/-- A schema that a document follows is followed by it after it was read back. -/
def Schema.Keeps (schema : Schema) : Prop :=
  ∀ document : Json, schema.Follows document → schema.Follows document.reread

namespace Rule

/-- Reading back keeps the kinds of values. -/
theorem keeps_kind (kinds : List SchemaKind) : (kind kinds).Keeps := by
  intro document holds
  rw [holds_kind_iff] at holds ⊢
  obtain ⟨one, listed, fits⟩ := holds
  refine ⟨one, listed, ?_⟩
  rw [← fits]
  cases one <;> cases document <;> rfl

/-- Reading back keeps numbers. -/
theorem keeps_least (bound : Int) : (least bound).Keeps := by
  intro document holds
  rw [holds_least_iff] at holds ⊢
  rw [← holds]
  cases document <;> rfl

/-- Arrays and objects are no texts. -/
theorem not_holds_oneText (other : ∀ text, Datum.sameKey document.toDatum (.text text) = false) :
    ¬(oneText texts).Holds document := by
  rw [Holds, Schema.violationsOf]
  have missing : ¬(texts.any fun text => Datum.sameKey document.toDatum (.text text)) = true := by
    simp [other]
  rw [if_neg missing]
  exact Schema.shownWith_ne_some_nil _ _ _

/-- Reading back keeps plain texts. -/
theorem keeps_oneText (plain : ∀ text ∈ texts, Json.IsPlain text) : (oneText texts).Keeps := by
  intro document holds
  cases document with
  | string value =>
    rw [holds_oneText_iff] at holds
    rw [Json.reread, holds_oneText_iff, (plain value holds).rejoined_eq]
    exact holds
  | array items => exact absurd holds (not_holds_oneText fun _ => rfl)
  | object members => exact absurd holds (not_holds_oneText fun _ => rfl)
  | _ => exact holds

/-- Reading back keeps plain names. -/
theorem keeps_required (plain : ∀ name ∈ names, Json.IsPlain name) : (required names).Keeps := by
  intro document holds
  cases document with
  | object members =>
    rw [Json.reread, holds_required_iff]
    rw [holds_required_iff] at holds
    intro name listed
    have present := holds name listed
    rw [Json.mem_names_iff, Json.lookup_rereadMembers (plain name listed), Option.isSome_map,
      ← Json.mem_names_iff]
    exact present
  | _ => rfl

/-- Reading back keeps what the members of plain names follow. -/
theorem keeps_properties (plain : ∀ entry ∈ known, Json.IsPlain entry.1)
    (each : ∀ entry ∈ known, entry.2.Keeps) : (properties known).Keeps := by
  intro document holds
  cases document with
  | object members =>
    rw [Json.reread, holds_properties_iff]
    rw [holds_properties_iff] at holds
    intro entry listed value found
    rw [Json.lookup_rereadMembers (plain entry listed), Option.map_eq_some_iff] at found
    obtain ⟨origin, was, rfl⟩ := found
    exact each entry listed origin (holds entry listed origin was)
  | _ => rfl

/-- Reading back keeps what items follow. -/
theorem keeps_items (keeps : schema.Keeps) : (items schema).Keeps := by
  intro document holds
  cases document with
  | array list =>
    rw [Json.reread, Json.rereadItems_eq_map, holds_items_iff, List.forall_mem_map]
    rw [holds_items_iff] at holds
    exact fun item member => keeps item (holds item member)
  | _ => rfl

end Rule

namespace Schema

theorem keeps_ofRules (each : ∀ rule ∈ rules, rule.Keeps) : (ofRules rules).Keeps := by
  intro document follows
  rw [follows_ofRules_iff] at follows ⊢
  exact fun rule listed => each rule listed document (follows rule listed)

/-- Reading back keeps the kind of a document. -/
theorem keeps_ofKinds (kinds : List SchemaKind) : (ofKinds kinds).Keeps :=
  keeps_ofRules (List.forall_mem_singleton.mpr (Rule.keeps_kind kinds))

theorem keeps_ofKind (kind : SchemaKind) : (ofKind kind).Keeps := keeps_ofKinds [kind]

/-- Reading back keeps what the items of a list follow. -/
theorem keeps_listOf (keeps : schema.Keeps) : (listOf schema).Keeps :=
  keeps_ofRules (List.forall_mem_cons.mpr
    ⟨Rule.keeps_kind _, List.forall_mem_singleton.mpr (Rule.keeps_items keeps)⟩)

/-- Reading back keeps a record with plain names. -/
theorem keeps_record (required : ∀ name ∈ names, Json.IsPlain name)
    (plain : ∀ entry ∈ known, Json.IsPlain entry.1) (each : ∀ entry ∈ known, entry.2.Keeps) :
    (record names known).Keeps := by
  refine keeps_ofRules ?_
  simp only [List.forall_mem_cons, List.not_mem_nil, false_implies, implies_true, and_true]
  exact ⟨Rule.keeps_kind _, Rule.keeps_required required, Rule.keeps_properties plain each⟩

end Schema

/-! ## Reports -/

namespace Report

open Schema

/-- A report that follows the schema of reports does so after it was read back. -/
theorem keeps_schema : Report.schema.Keeps := by
  have expectation : expectationSchema.Keeps := by
    refine keeps_record (by decide) (by decide) ?_
    simp [keeps_ofKind, keeps_ofKinds]
  have line : lineSchema.Keeps := by
    refine keeps_ofRules ?_
    simp [Rule.keeps_kind, Rule.keeps_least]
  have status : (Schema.ofRules [.oneText (Status.all.map (·.name))]).Keeps :=
    keeps_ofRules (List.forall_mem_singleton.mpr (Rule.keeps_oneText (by decide)))
  have case : caseSchema.Keeps := by
    refine keeps_record (by decide) (by decide) ?_
    simp only [List.forall_mem_cons, List.not_mem_nil, false_implies, implies_true, and_true]
    exact ⟨keeps_ofKind _, status, keeps_ofKind _, line, line, keeps_ofKind _,
      keeps_listOf expectation, keeps_listOf (keeps_ofKind _), keeps_ofKinds _, keeps_ofKind _⟩
  have fragment : fragmentSchema.Keeps := by
    refine keeps_record (by decide) (by decide) ?_
    simp only [List.forall_mem_cons, List.not_mem_nil, false_implies, implies_true, and_true]
    exact ⟨keeps_ofKind _, keeps_ofKind _, keeps_ofKinds _, keeps_ofKind _, keeps_ofKind _,
      keeps_ofKinds _, keeps_listOf case⟩
  have summary : summarySchema.Keeps := by
    refine keeps_record (by decide) (by decide) ?_
    simp only [List.forall_mem_cons, List.not_mem_nil, false_implies, implies_true, and_true]
    exact ⟨keeps_ofKind _, keeps_ofKind _, keeps_ofKind _, keeps_ofKind _, keeps_ofKind _,
      keeps_ofKind _, keeps_ofKind _⟩
  refine keeps_record (by decide) (by decide) ?_
  simp only [List.forall_mem_cons, List.not_mem_nil, false_implies, implies_true, and_true]
  exact ⟨keeps_ofKind _, keeps_ofKind _, summary, keeps_listOf fragment⟩

/-! ### Writing reports -/

open Json

theorem isWritable_optionalString (text : Option String) : (optionalString text).IsWritable := by
  cases text with
  | none => exact .null
  | some value => exact .string value

theorem isWritable_optionalInteger (number : Option Int) : (optionalInteger number).IsWritable := by
  cases number with
  | none => exact .null
  | some value => exact .integer value

/-- An expectation can be written. -/
theorem isWritable_ofExpectation (expectation : Expectation) :
    (ofExpectation expectation).IsWritable := by
  refine .object ?_
  simp only [List.forall_mem_cons, List.not_mem_nil, false_implies, implies_true, and_true]
  exact ⟨.string _, .boolean _, .string _, isWritable_optionalInteger _⟩

/-- Texts in a row can be written. -/
theorem isWritable_texts {α : Type} (text : α → String) (items : List α) :
    (Json.array (items.map fun item => .string (text item))).IsWritable := by
  refine .array ?_
  rw [List.forall_mem_map]
  exact fun item _ => .string _

/-- The members that a case has or not can be written. -/
theorem isWritable_otherMembers (found : CaseResult) :
    ∀ member ∈ reasonMembers found ++ unexpectedMembers found ++ outputMembers found,
      member.2.IsWritable := by
  rw [List.forall_mem_append, List.forall_mem_append]
  refine ⟨⟨?_, ?_⟩, ?_⟩
  · rw [reasonMembers]
    split
    · simp
    · exact List.forall_mem_singleton.mpr (.string _)
  · rw [unexpectedMembers]
    split
    · simp
    · split
      · simp
      · exact List.forall_mem_singleton.mpr (isWritable_texts _ _)
  · rw [outputMembers]
    split
    · simp
    · split
      · simp only [List.forall_mem_cons, List.not_mem_nil, false_implies, implies_true, and_true]
        exact ⟨isWritable_optionalInteger _, .string _⟩
      · simp

/-- A case with a duration of the format can be written. -/
theorem isWritable_ofCase {found : CaseResult} {value : Binary64}
    (took : found.duration.milliseconds = .fraction value) (proper : value.IsProper) :
    (ofCase found).IsWritable := by
  have expected : (Json.array (found.testCase.expectations.map ofExpectation)).IsWritable := by
    refine .array ?_
    rw [List.forall_mem_map]
    exact fun expectation _ => isWritable_ofExpectation expectation
  rw [ofCase, List.append_assoc, List.append_assoc, ← List.append_assoc (reasonMembers _)]
  refine .object (List.forall_mem_append.mpr ⟨?_, isWritable_otherMembers found⟩)
  simp only [List.forall_mem_cons, List.not_mem_nil, false_implies, implies_true, and_true]
  exact ⟨.string _, .string _, took ▸ .real proper, .integer _, .integer _, expected⟩

/-- A run whose durations are numbers of the format can be written. -/
theorem isWritable_ofRun {run : RunResult} (timed : run.IsTimed) (now : String) :
    (ofRun now run).IsWritable := by
  obtain ⟨total, took, proper⟩ := timed.total
  have summary : (summaryOf run).IsWritable := by
    refine .object ?_
    simp only [List.forall_mem_cons, List.not_mem_nil, false_implies, implies_true, and_true]
    exact ⟨.integer _, .integer _, .integer _, .integer _, .integer _, .integer _,
      took ▸ .real proper⟩
  have fragments : (Json.array (run.fragments.map ofFragment)).IsWritable := by
    refine .array ?_
    rw [List.forall_mem_map]
    intro result listed
    have cases : (Json.array (result.cases.map ofCase)).IsWritable := by
      refine .array ?_
      rw [List.forall_mem_map]
      intro found member
      obtain ⟨value, lasted, isProper⟩ := timed.cases result listed found member
      exact isWritable_ofCase lasted isProper
    refine .object (List.forall_mem_append.mpr ⟨?_, ?_⟩)
    · simp only [List.forall_mem_cons, List.not_mem_nil, false_implies, implies_true, and_true]
      exact ⟨.string _, .string _, isWritable_optionalString _, .boolean _,
        isWritable_optionalString _, cases⟩
    · split
      · exact List.forall_mem_singleton.mpr (.string _)
      · simp
  refine .object ?_
  simp only [List.forall_mem_cons, List.not_mem_nil, false_implies, implies_true, and_true]
  exact ⟨.string _, .string _, summary, fragments⟩

end Report

end NegativeCompile
