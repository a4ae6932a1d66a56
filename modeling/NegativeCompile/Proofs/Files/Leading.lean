import Mathlib.Data.List.FinRange
import Mathlib.Data.List.Perm.Subperm
import NegativeCompile.Proofs.Files.Ascending
import NegativeCompile.Proofs.Lists

/-! # Where steps lead

Steps lead from one place to another one, links being followed (`Leads`): a walk that arrives somewhere
has been led there (`exists_leads_of_walkFrom`). Links to links are nested on the way, and how deep they
are nested tells links apart, so that they are not nested deeper than there are links
(`Leads.height_le`). So no link is met again while it is being followed, and the names of a path are
resolved to the place where they lead (`Leads.resolveFrom_eq`, `resolve_eq_of_leads`). -/

namespace NegativeCompile.Files

/-! ## Following links -/

/-- Where a link leads from. -/
def originOf (place : Place) (target : String) : Place := if target.startsWith "/" then [] else place

/-- Steps lead from a place to another one; the height tells how deep links to links are nested on the
way. -/
inductive Leads (tree : Tree) : Place → List String → Nat → Place → Prop
  /-- No step leads anywhere else. -/
  | done (place : Place) : Leads tree place [] 0 place
  /-- Double dots lead up from a directory. -/
  | up {place last : Place} {rest : List String} {height : Nat}
      (here : tree.entry? place = some .directory)
      (onward : Leads tree place.dropLast rest height last) :
      Leads tree place (".." :: rest) height last
  /-- A name leads to what has it, if that is no link. -/
  | into {place last : Place} {step : String} {rest : List String} {height : Nat} {entry : Entry}
      (here : tree.entry? place = some .directory) (forward : IsForward step)
      (lies : tree.entry? (place ++ [step]) = some entry) (straight : ∀ target, entry ≠ .link target)
      (onward : Leads tree (place ++ [step]) rest height last) :
      Leads tree place (step :: rest) height last
  /-- The name of a link leads where the target of the link leads. -/
  | link {place between last : Place} {step target : String} {rest : List String} {more height : Nat}
      (here : tree.entry? place = some .directory) (forward : IsForward step)
      (lies : tree.entry? (place ++ [step]) = some (.link target))
      (aside : Leads tree (originOf place target) (Path.ofString target).parts more between)
      (onward : Leads tree between rest height last) :
      Leads tree place (step :: rest) (max (more + 1) height) last

variable {tree : Tree} {start place between last other : Place} {steps rest first second : List String}
variable {step name target : String} {path : Path} {height more fuel : Nat} {known : KnownLinks}

namespace Leads

/-- Steps lead to one place, and in one way. -/
theorem unique (leads : Leads tree place steps height last) (also : Leads tree place steps more other) :
    height = more ∧ last = other := by
  -- What lies at the next place, and whether the step is a double dot, tells which rule was used.
  induction leads generalizing more other with
  | done place =>
    cases also
    exact ⟨rfl, rfl⟩
  | up here _ ih =>
    cases also with
    | up _ onward => exact ih onward
    | into _ forward => exact absurd rfl forward.ne_dots
    | link _ forward => exact absurd rfl forward.ne_dots
  | into here forward lies straight _ ih =>
    cases also with
    | up => exact absurd rfl forward.ne_dots
    | into _ _ _ _ onward => exact ih onward
    | link _ _ linked => exact absurd (Option.some.inj (lies.symm.trans linked)) (straight _)
  | link here forward lies _ _ inner outer =>
    cases also with
    | up => exact absurd rfl forward.ne_dots
    | into _ _ found straight => exact absurd (Option.some.inj (found.symm.trans lies)) (straight _)
    | link _ _ found aside onward =>
      cases Option.some.inj (lies.symm.trans found)
      obtain ⟨rfl, rfl⟩ := inner aside
      obtain ⟨rfl, rfl⟩ := outer onward
      exact ⟨rfl, rfl⟩

/-- Steps that lead somewhere lead to some place on the way after the first few of them. -/
theorem split (leads : Leads tree place (first ++ second) height last) :
    ∃ between more most, Leads tree place first more between ∧ Leads tree between second most last ∧
      height = max more most := by
  induction first generalizing place height with
  | nil => exact ⟨place, 0, height, .done place, leads, (Nat.zero_max height).symm⟩
  | cons step first ih =>
    cases leads with
    | up here onward =>
      obtain ⟨between, more, most, before, after, same⟩ := ih onward
      exact ⟨between, more, most, .up here before, after, same⟩
    | into here forward lies straight onward =>
      obtain ⟨between, more, most, before, after, same⟩ := ih onward
      exact ⟨between, more, most, .into here forward lies straight before, after, same⟩
    | link here forward lies aside onward =>
      obtain ⟨between, more, most, before, after, same⟩ := ih onward
      refine ⟨between, _, most, .link here forward lies aside before, after, ?_⟩
      rw [same, Nat.max_assoc]

/-- If some steps lead to a place, then the steps from there on lead on. -/
theorem append (leads : Leads tree place first height between)
    (onward : Leads tree between second more last) :
    Leads tree place (first ++ second) (max height more) last := by
  induction leads with
  | done => rwa [Nat.zero_max]
  | up here _ ih => exact .up here (ih onward)
  | into here forward lies straight _ ih => exact .into here forward lies straight (ih onward)
  | link here forward lies aside _ _ ih =>
    rw [Nat.max_assoc]
    exact .link here forward lies aside (ih onward)

/-- A link of each height is met up to the height of the steps. -/
theorem exists_link (leads : Leads tree place steps height last) {count : Nat} (positive : 0 < count)
    (low : count ≤ height) :
    ∃ above name target last, tree.entry? (above ++ [name]) = some (.link target) ∧
      Leads tree above [name] count last := by
  induction leads with
  | done => omega
  | up _ _ ih => exact ih low
  | into _ _ _ _ _ ih => exact ih low
  | @link place between last step target rest more height here forward lies aside onward inner outer =>
    by_cases deeper : count ≤ more
    · exact inner deeper
    · by_cases own : count = more + 1
      · refine ⟨place, step, target, between, lies, ?_⟩
        have alone := Leads.link here forward lies aside (.done between)
        rwa [Nat.max_zero, ← own] at alone
      · exact outer (by omega)

end Leads

/-- The places of the links of a tree. -/
def Tree.linkPlaces (tree : Tree) : List Place :=
  (tree.entries.filter (·.2.target?.isSome)).map (·.1)

/-- A tree has as many links as their targets. -/
theorem Tree.length_linkPlaces (tree : Tree) : tree.linkPlaces.length = tree.targets.length := by
  rw [linkPlaces, targets, List.length_map, List.length_filterMap_eq_countP,
    List.countP_eq_length_filter]

/-- A link lies at the place of a link. -/
theorem Tree.mem_linkPlaces (lies : tree.entry? place = some (.link target)) :
    place ∈ tree.linkPlaces := by
  rcases tree.eq_directory_or_mem_entries lies with directory | listed
  · cases directory
  · exact List.mem_map.mpr ⟨(place, .link target), List.mem_filter.mpr ⟨listed, rfl⟩, rfl⟩

/-- Links are not nested deeper than there are links. -/
theorem Leads.height_le (leads : Leads tree place steps height last) :
    height ≤ tree.targets.length := by
  -- Links that are met at distinct heights lie at distinct places.
  have each : ∀ count : Fin height, ∃ link ∈ tree.linkPlaces, ∃ above name last,
      link = above ++ [name] ∧ Leads tree above [name] (count + 1) last := by
    intro count
    obtain ⟨above, name, target, last, lies, own⟩ :=
      leads.exists_link (Nat.succ_pos count) (Nat.succ_le_of_lt count.isLt)
    exact ⟨above ++ [name], Tree.mem_linkPlaces lies, above, name, last, rfl, own⟩
  choose link listed above name last split own using each
  have distinct : Function.Injective link := by
    intro one another same
    rw [split, split] at same
    obtain ⟨sameAbove, sameName⟩ := List.append_inj' same rfl
    have again := own another
    rw [← sameAbove, ← List.head_eq_of_cons_eq sameName] at again
    exact Fin.ext (Nat.succ.inj ((own one).unique again).1)
  have nodup : (List.ofFn link).Nodup := List.nodup_ofFn.mpr distinct
  have inside : List.ofFn link ⊆ tree.linkPlaces := by
    intro place member
    obtain ⟨count, rfl⟩ := List.mem_ofFn.mp member
    exact listed count
  have fewer := (List.Nodup.subperm nodup inside).length_le
  rwa [List.length_ofFn, tree.length_linkPlaces] at fewer

/-! ## Walks -/

/-- In a tree that is fit for paths whatever lies somewhere lies in directories, its names are proper
ones, and its path is not too long. -/
structure Tree.IsFit (tree : Tree) : Prop where
  /-- Everything lies in directories. -/
  grounded : tree.IsGrounded
  /-- Names are proper. -/
  named : ∀ place, tree.entry? place ≠ none → (Path.ofParts place).IsPlain
  /-- Neither a name nor a path is too long. -/
  short : ∀ place, tree.entry? place ≠ none → (Path.ofParts place).IsShort

/-- A last name of something is proper. -/
theorem Tree.IsFit.isName (fit : tree.IsFit) {entry : Entry}
    (lies : tree.entry? (place ++ [step]) = some entry) : IsName step :=
  (fit.named _ (lies ▸ Option.some_ne_none entry)).names step
    (List.mem_append_right _ (List.mem_singleton_self _))

/-- Directories lie above what is in a directory that they lie above. -/
theorem Tree.HasAbove.concat (above : tree.HasAbove place) (here : tree.entry? place = some .directory)
    (name : String) : tree.HasAbove (place ++ [name]) := by
  intro higher starts proper
  rcases List.prefix_concat_iff.mp starts with rfl | within
  · exact absurd rfl proper
  · by_cases whole : higher = place
    · rw [whole, here]
    · exact above higher within whole

/-- A tree is fit for paths if each of its entries is where it fits. -/
theorem Tree.isFit_of_entries (each : ∀ entry ∈ tree.entries, tree.HasAbove entry.1 ∧
    (Path.ofParts entry.1).IsPlain ∧ (Path.ofParts entry.1).IsShort) : tree.IsFit := by
  have fits {place : Place} (there : tree.entry? place ≠ none) : tree.HasAbove place ∧
      (Path.ofParts place).IsPlain ∧ (Path.ofParts place).IsShort := by
    obtain ⟨entry, lies⟩ := Option.ne_none_iff_exists'.mp there
    by_cases root : place = []
    · subst root
      refine ⟨fun above starts proper => ?_, Path.isPlain_root, nofun, by decide⟩
      exact absurd (List.prefix_nil.mp starts) proper
    · rw [Tree.entry?, if_neg (by simpa using root)] at lies
      exact each (place, entry) (List.mem_of_lookup_eq_some lies)
  exact ⟨fun _ there => (fits there).1, fun _ there => (fits there).2.1, fun _ there => (fits there).2.2⟩

/-- What stands below the root by a short name is where it fits. -/
theorem Tree.fits_singleton (tree : Tree) {name : String} (named : IsName name)
    (short : name.utf8ByteSize ≤ nameLimit) :
    tree.HasAbove [name] ∧ (Path.ofParts [name]).IsPlain ∧ (Path.ofParts [name]).IsShort :=
  ⟨tree.hasAbove_singleton name, named.isPlain_ofParts, Path.isShort_ofParts short⟩

/-- The parts of the path that a text names are the steps that count. -/
theorem filter_stepsOf (text : String) : (stepsOf text).filter isPart = (Path.ofString text).parts := by
  have dotless : (if text.endsWith "/" then ["."] else []).filter isPart = [] := by
    split <;> rfl
  rw [stepsOf, List.filter_append, dotless, List.append_nil, List.filter_filter]
  refine List.filter_congr fun piece _ => ?_
  by_cases blank : piece = ""
  · simp [isPart, blank]
  · simp [blank]

/-- Where a path leads that leads to a file. -/
theorem exists_walk_of_leadsToFile {text : String} (leads : leadsToFile tree start text = true) :
    ∃ last content executable,
      walk tree start true text = .ok ⟨last, some (.file content executable)⟩ := by
  unfold leadsToFile at leads
  split at leads
  next entry found =>
    obtain ⟨last, walked⟩ := status_eq_ok_iff.mp found
    cases entry with
    | file content executable => exact ⟨last, content, executable, walked⟩
    | directory => cases leads
    | link target => cases leads
  · cases leads

/-- A walk that follows links and arrives somewhere was led there by the steps that count. -/
theorem exists_leads_of_walkFrom (fit : tree.IsFit) {links : Nat} {entry : Entry}
    (walked : walkFrom tree true links place steps = .ok ⟨last, some entry⟩) :
    ∃ height, Leads tree place (steps.filter isPart) height last := by
  fun_induction walkFrom tree true links place steps with
  | case1 links place =>
    obtain ⟨rfl, -⟩ := Arrival.mk.inj (Except.ok.inj walked)
    exact ⟨0, .done place⟩
  | case2 links place rest here ih => exact ih walked
  | case3 links place rest here _ ih =>
    obtain ⟨height, leads⟩ := ih walked
    exact ⟨height, .up here leads⟩
  | case5 =>
    obtain ⟨-, nothing⟩ := Arrival.mk.inj (Except.ok.inj walked)
    cases nothing
  | case7 links place step rest here single double short next target found ends =>
    simp at ends
  | case9 place step rest here single double short next target found ends left origin ih =>
    -- The walk takes the steps of the target and those after the link in a row.
    obtain ⟨height, leads⟩ := ih walked
    rw [List.filter_append, filter_stepsOf] at leads
    obtain ⟨between, more, most, aside, onward, -⟩ := leads.split
    rw [List.filter_cons_of_pos (fit.isName found).counts]
    exact ⟨_, .link here ⟨single, double, short⟩ found aside onward⟩
  | case10 links place step rest here single double short next other straight found ih =>
    obtain ⟨height, leads⟩ := ih walked
    rw [List.filter_cons_of_pos (fit.isName found).counts]
    exact ⟨height, .into here ⟨single, double, short⟩ found straight leads⟩
  | case4 | case6 | case8 | case11 => cases walked

/-! ## Places -/

/-- A walk along the names of a place goes on from what lies there. -/
theorem Tree.IsFit.walkFrom_append (fit : tree.IsFit) {follow : Bool} {links : Nat}
    (here : tree.entry? place = some .directory) :
    walkFrom tree follow links [] (place ++ steps) = walkFrom tree follow links place steps := by
  have there : tree.entry? place ≠ none := here ▸ Option.some_ne_none _
  have plain := fit.named place there
  have forward : ".." ∉ place := fun member => (plain.names _ member).ne_dots rfl
  have walks : ∀ name ∈ place, IsWalked name := by
    intro name member
    refine .inr ⟨?_, (plain.names name member).ne_dots, ?_⟩
    · rintro rfl
      cases (plain.names _ member).counts
    · exact Nat.not_lt.mpr ((fit.short place there).names name member)
  have directories : ∀ above, above <+: place → tree.entry? (landing [] above) = some .directory := by
    intro above starts
    rw [landing_names fun member => forward (starts.subset member), List.nil_append]
    by_cases whole : above = place
    · rw [whole, here]
    · exact fit.grounded place there above starts whole
  rw [walkFrom_append_of_directories walks directories, landing_names forward, List.nil_append]

/-- What lies at a place is what is found at the path of that place, a link not being followed. -/
theorem Tree.IsFit.linkStatus_eq (fit : tree.IsFit) {entry : Entry}
    (lies : tree.entry? (place ++ [step]) = some entry) :
    linkStatus tree start (Path.ofParts (place ++ [step])).toString = .ok entry := by
  have there : tree.entry? (place ++ [step]) ≠ none := lies ▸ Option.some_ne_none entry
  have plain := fit.named _ there
  have short := fit.short _ there
  have named := fit.isName lies
  have here : tree.entry? place = some .directory :=
    fit.grounded _ there place (List.prefix_append place [step]) (by simp)
  have forward : IsForward step := by
    have listed : step ∈ (Path.ofParts (place ++ [step])).parts :=
      List.mem_append_right place (List.mem_singleton_self step)
    refine ⟨?_, named.ne_dots, Nat.not_lt.mpr (short.names step listed)⟩
    rintro rfl
    cases named.counts
  have pieces : Path.Each IsPiece (.ofParts (place ++ [step])) :=
    fun part member => ⟨(plain.names part member).counts, (plain.names part member).noSlash⟩
  have filled : (Path.ofParts (place ++ [step])).parts ≠ [] :=
    List.append_ne_nil_of_right_ne_nil place (List.cons_ne_nil step [])
  -- The last step is the only one that may be at a link, and there it is not followed.
  have arrives : walkFrom tree false linkLimit [] (place ++ [step]) =
      .ok ⟨place ++ [step], some entry⟩ := by
    rw [fit.walkFrom_append here]
    by_cases linked : ∃ target, entry = .link target
    · obtain ⟨target, rfl⟩ := linked
      rw [walkFrom_of_link here forward lies]
      rfl
    · rw [walkFrom_of_entry here forward lies fun target same => linked ⟨target, same⟩, walkFrom, lies]
  have walked : walk tree start false (Path.ofParts (place ++ [step])).toString =
      .ok ⟨place ++ [step], some entry⟩ := by
    rw [pieces.walk_eq filled, if_neg (Nat.not_lt.mpr short.text)]
    exact arrives
  exact linkStatus_eq_ok_iff.mpr ⟨_, walked⟩

/-- The origin of a link in a directory is a directory. -/
theorem directory_originOf (here : tree.entry? place = some .directory) (target : String) :
    tree.entry? (originOf place target) = some .directory := by
  unfold originOf
  split
  · rfl
  · exact here

/-- Steps lead from what is no link to what is none. -/
theorem Leads.straight (leads : Leads tree place steps height last) (fit : tree.IsFit) {entry : Entry}
    (lies : tree.entry? place = some entry) (plain : ∀ target, entry ≠ .link target) :
    ∃ entry, tree.entry? last = some entry ∧ ∀ target, entry ≠ .link target := by
  induction leads generalizing entry with
  | done => exact ⟨entry, lies, plain⟩
  | up here _ ih => exact ih (fit.grounded.dropLast here) nofun
  | into _ _ there straight _ ih => exact ih there straight
  | link here _ _ _ _ inner outer =>
    obtain ⟨other, there, straight⟩ := inner (directory_originOf here _) nofun
    exact outer there straight

/-! ## Resolving names -/

/-- What is known of links while steps of some height are followed: those that have been followed are
known to lead where they do, and those that are being followed are higher than the steps. -/
structure KnownLinks.Right (tree : Tree) (height : Nat) (known : KnownLinks) : Prop where
  /-- A link that has been followed leads where it is known to lead. -/
  reached : ∀ link found, known.lookup link = some (some found) → ∃ above name more last,
    link = .ofParts (above ++ [name]) ∧ found = .ofParts last ∧ Leads tree above [name] more last
  /-- A link that is being followed is higher. -/
  pending : ∀ link, known.lookup link = some none → ∃ above name more last,
    link = .ofParts (above ++ [name]) ∧ Leads tree above [name] more last ∧ height < more

namespace KnownLinks

/-- What is known of another link does not matter. -/
theorem lookup_cons_of_ne {link other : Path} {found : Option Path} (differs : link ≠ other) :
    List.lookup link ((other, found) :: known) = known.lookup link := by
  rw [List.lookup_cons, beq_false_of_ne differs]

/-- What is known of no links is right. -/
theorem right_nil (tree : Tree) (height : Nat) : Right tree height [] := ⟨nofun, nofun⟩

/-- What is known is right for steps that are not higher. -/
theorem Right.of_le (right : Right tree height known) (lower : more ≤ height) :
    Right tree more known := by
  refine ⟨right.reached, fun link found => ?_⟩
  obtain ⟨above, name, most, last, same, leads, higher⟩ := right.pending link found
  exact ⟨above, name, most, last, same, leads, lower.trans_lt higher⟩

/-- A link that is higher may be followed as well. -/
theorem Right.cons_none (right : Right tree height known) {above : Place}
    (leads : Leads tree above [name] more last) (higher : height < more) :
    Right tree height ((.ofParts (above ++ [name]), none) :: known) := by
  refine ⟨fun link found seen => ?_, fun link seen => ?_⟩
  · by_cases same : link = .ofParts (above ++ [name])
    · simp [same] at seen
    · exact right.reached link found ((lookup_cons_of_ne same).symm.trans seen)
  · by_cases same : link = .ofParts (above ++ [name])
    · exact ⟨above, name, more, last, same, leads, higher⟩
    · exact right.pending link ((lookup_cons_of_ne same).symm.trans seen)

/-- It may be known as well where a link leads, once no other links are being followed than before. -/
theorem Right.cons_some {before : KnownLinks} (right : Right tree height before)
    (after : Right tree more known) {above : Place} (leads : Leads tree above [name] fuel last)
    (kept : ∀ link, known.lookup link = some none →
      List.lookup link ((.ofParts (above ++ [name]), none) :: before) = some none) :
    Right tree height ((.ofParts (above ++ [name]), some (.ofParts last)) :: known) ∧
      ∀ link, List.lookup link ((.ofParts (above ++ [name]), some (.ofParts last)) :: known) =
        some none → before.lookup link = some none := by
  have earlier : ∀ link,
      List.lookup link ((.ofParts (above ++ [name]), some (.ofParts last)) :: known) = some none →
        before.lookup link = some none := by
    intro link seen
    by_cases same : link = .ofParts (above ++ [name])
    · simp [same] at seen
    · have there := kept link ((lookup_cons_of_ne same).symm.trans seen)
      exact (lookup_cons_of_ne same).symm.trans there
  refine ⟨⟨fun link found seen => ?_, fun link seen => right.pending link (earlier link seen)⟩, earlier⟩
  by_cases same : link = .ofParts (above ++ [name])
  · refine ⟨above, name, fuel, last, same, ?_, leads⟩
    simpa [same] using seen.symm
  · exact after.reached link found ((lookup_cons_of_ne same).symm.trans seen)

/-- What is known later is right for the steps before, if no other links are being followed. -/
theorem Right.of_kept {before : KnownLinks} (right : Right tree height before)
    (after : Right tree more known)
    (kept : ∀ link, known.lookup link = some none → before.lookup link = some none) :
    Right tree height known :=
  ⟨after.reached, fun link seen => right.pending link (kept link seen)⟩

end KnownLinks

/-- The length of the longest target of a link. -/
def Tree.longest (tree : Tree) : Nat := tree.targets.foldl (fun most target => max most target.length) 0

/-- No target of a link is longer than the longest. -/
theorem Tree.length_le_longest (lies : tree.entry? place = some (.link target)) :
    target.length ≤ tree.longest := by
  have listed : target ∈ tree.targets := by
    rcases tree.eq_directory_or_mem_entries lies with directory | member
    · cases directory
    · exact List.mem_filterMap.mpr ⟨_, member, rfl⟩
  have greatest : ∀ (targets : List String) (most : Nat),
      most ≤ targets.foldl (fun most target => max most target.length) most ∧
        ∀ target ∈ targets,
          target.length ≤ targets.foldl (fun most target => max most target.length) most := by
    intro targets
    induction targets with
    | nil => exact fun most => ⟨Nat.le_refl most, nofun⟩
    | cons first others ih =>
      intro most
      obtain ⟨more, each⟩ := ih (max most first.length)
      rw [List.foldl_cons]
      refine ⟨(Nat.le_max_left _ _).trans more, List.forall_mem_cons.mpr ⟨?_, each⟩⟩
      exact (Nat.le_max_right _ _).trans more
  exact (greatest tree.targets 0).2 target listed

/-- A text has no more pieces than characters, but for one. -/
theorem length_slashPieces_le (text : String) : (slashPieces text).length ≤ text.length + 1 := by
  rw [slashPieces, List.length_map, splitAtChar_eq, ← String.length_toList]
  induction text.toList with
  | nil => exact Nat.le_refl 1
  | cons c others ih =>
    rw [List.splitOn_cons_eq_if_modifyHead]
    split
    · simpa using ih
    · rw [List.length_modifyHead]
      exact Nat.le_succ_of_le ih

/-- One level up from a directory. -/
theorem Tree.IsFit.goUp_eq (fit : tree.IsFit) (here : tree.entry? place = some .directory) :
    goUp (.ofParts place) = .ofParts place.dropLast := by
  have names := (fit.named place (here ▸ Option.some_ne_none _)).names
  have forward : place.getLast? ≠ some ".." := fun last => (names _ (List.mem_of_getLast? last)).ne_dots rfl
  have level : ¬ ((Path.ofParts place).parts.getLast? = some ".." ||
      (Path.ofParts place).parts.isEmpty && !(Path.ofParts place).isAbsolute) = true := by
    simp [Path.ofParts, Path.isAbsolute, forward]
  rw [goUp, if_neg level]
  rfl

/-- Absolute paths with the same parts have the same last part. -/
theorem Path.ofParts_append_inj {above : Place}
    (same : Path.ofParts (place ++ [step]) = .ofParts (above ++ [name])) : place = above ∧ step = name := by
  obtain ⟨sameAbove, sameName⟩ := List.append_inj' (congrArg Path.parts same) rfl
  exact ⟨sameAbove, List.head_eq_of_cons_eq sameName⟩

/-- A link that is met is not being followed: it would have to be higher than itself. -/
theorem KnownLinks.Right.lookup_ne_none (right : known.Right tree height)
    (alone : Leads tree place [step] more between) (met : more ≤ height) :
    known.lookup (.ofParts (place ++ [step])) ≠ some none := by
  intro seen
  obtain ⟨above, name, most, ends, same, leads, higher⟩ := right.pending _ seen
  obtain ⟨rfl, rfl⟩ := Path.ofParts_append_inj same
  have equal := (leads.unique alone).1
  omega

/-- A link that has been followed is known to lead where it does. -/
theorem KnownLinks.Right.eq_of_lookup (right : known.Right tree height)
    (alone : Leads tree place [step] more between) {reached : Path}
    (seen : known.lookup (.ofParts (place ++ [step])) = some (some reached)) :
    reached = .ofParts between := by
  obtain ⟨above, name, most, ends, same, rfl, leads⟩ := right.reached _ _ seen
  obtain ⟨rfl, rfl⟩ := Path.ofParts_append_inj same
  rw [(leads.unique alone).2]

/-- The target of a link has no more pieces than the longest target has characters, but for one. -/
theorem Tree.length_slashPieces_le (lies : tree.entry? place = some (.link target)) :
    (slashPieces target).length ≤ tree.longest + 1 :=
  (Files.length_slashPieces_le target).trans (Nat.succ_le_succ (tree.length_le_longest lies))

/-- Where a link is followed from, as a path. -/
theorem ofParts_originOf (place : Place) (target : String) :
    (if target.startsWith "/" then (⟨1, []⟩ : Path) else .ofParts place) =
      .ofParts (originOf place target) := by
  unfold originOf
  split <;> rfl

/-- Names have been followed to the path of a place: all that is known of links after that is right, and
no other links are being followed than before. -/
def FollowedTo (tree : Tree) (height : Nat) (last : Place) (before : KnownLinks)
    (resolved : Resolution) : Prop :=
  ∃ after, resolved = ⟨.ofParts last, true, after⟩ ∧ after.Right tree height ∧
    ∀ link, after.lookup link = some none → before.lookup link = some none

/-- A link and what comes after it are followed if the target of the link is, the link being held back
meanwhile, and then what comes after it. -/
theorem KnownLinks.Right.followedTo_of_link (right : known.Right tree (max (more + 1) height))
    (counts : isPart step = true) (forward : step ≠ "..")
    (linked : linkStatus tree start ((Path.ofParts place).append step).toString = .ok (.link target))
    (own : (Path.ofParts place).append step = .ofParts (place ++ [step]))
    (alone : Leads tree place [step] (more + 1) between)
    (aside : FollowedTo tree more between ((.ofParts (place ++ [step]), none) :: known)
      (resolveFrom tree start fuel (.ofParts (originOf place target))
        ((.ofParts (place ++ [step]), none) :: known) (slashPieces target)))
    (onward : ∀ seen : KnownLinks, seen.Right tree height →
      FollowedTo tree height last seen (resolveFrom tree start fuel (.ofParts between) seen rest)) :
    FollowedTo tree (max (more + 1) height) last known
      (resolveFrom tree start (fuel + 1) (.ofParts place) known (step :: rest)) := by
  rw [resolveFrom_of_link counts forward linked, own]
  cases seen : known.lookup (Path.ofParts (place ++ [step])) with
  | some found =>
    cases found with
    | none => exact absurd seen (right.lookup_ne_none alone (Nat.le_max_left _ _))
    | some reached =>
      obtain rfl := right.eq_of_lookup alone seen
      obtain ⟨after, followed, right', kept⟩ := onward known (right.of_le (Nat.le_max_right _ _))
      exact ⟨after, followed, right.of_kept right' kept, kept⟩
  | none =>
    obtain ⟨during, aside', right', kept⟩ := aside
    obtain ⟨rightAfter, keptAfter⟩ := right.cons_some right' alone kept
    obtain ⟨after, followed, right'', kept'⟩ :=
      onward _ (rightAfter.of_le (Nat.le_max_right _ _))
    simp only [ofParts_originOf, aside', if_true]
    exact ⟨after, followed, rightAfter.of_kept right'' kept',
      fun link found => keptAfter link (kept' link found)⟩

/-- With enough fuel the names that lead to a place are followed to its path, and all that is known of
links after that is right. -/
theorem Leads.followedTo_resolveFrom (fit : tree.IsFit)
    (leads : Leads tree place (steps.filter isPart) height last)
    (enough : steps.length + 1 + height * (tree.longest + 2) ≤ fuel)
    (right : known.Right tree height) :
    FollowedTo tree height last known (resolveFrom tree start fuel (.ofParts place) known steps) := by
  -- Induction on the fuel: the target of a link is lower than the link, and what follows the link is
  -- shorter.
  induction fuel generalizing place known steps height last with
  | zero => omega
  | succ fuel ih =>
    cases steps with
    | nil =>
      cases leads
      exact ⟨known, rfl, right, fun _ seen => seen⟩
    | cons step rest =>
      rw [List.length_cons] at enough
      by_cases blank : isPart step = false
      · -- A step that is no part of a path is passed over.
        rw [List.filter_cons_of_neg (by simp [blank])] at leads
        rw [resolveFrom_of_not_isPart blank]
        exact ih leads (by omega) right
      have counts : isPart step = true := by simpa using blank
      rw [List.filter_cons_of_pos counts] at leads
      cases leads with
      | up here onward =>
        rw [resolveFrom_dots, fit.goUp_eq here]
        exact ih onward (by omega) right
      | into here forward lies straight onward =>
        have piece : IsPiece step := ⟨counts, (fit.isName lies).noSlash⟩
        rw [resolveFrom_cons counts forward.ne_dots, piece.append_eq]
        · exact ih onward (by omega) right
        · intro target linked
          rw [piece.append_eq] at linked
          exact straight target (Except.ok.inj ((fit.linkStatus_eq lies).symm.trans linked))
      | @link place between last step target rest more outer here forward lies aside onward =>
        have own : (Path.ofParts place).append step = .ofParts (place ++ [step]) :=
          IsPiece.append_eq ⟨counts, (fit.isName lies).noSlash⟩ _
        have linked : linkStatus tree start (Path.ofParts (place ++ [step])).toString =
            .ok (.link target) := fit.linkStatus_eq lies
        have alone : Leads tree place [step] (more + 1) between := by
          simpa using Leads.link here forward lies aside (.done between)
        -- The fuel for the height of both parts is enough for each of them.
        have lower : (more + 1) * (tree.longest + 2) ≤ max (more + 1) outer * (tree.longest + 2) :=
          Nat.mul_le_mul_right _ (Nat.le_max_left _ _)
        have later : outer * (tree.longest + 2) ≤ max (more + 1) outer * (tree.longest + 2) :=
          Nat.mul_le_mul_right _ (Nat.le_max_right _ _)
        have pieces := tree.length_slashPieces_le lies
        have below : more < max (more + 1) outer := Nat.lt_of_succ_le (Nat.le_max_left _ _)
        rw [Nat.add_mul, Nat.one_mul] at lower
        refine right.followedTo_of_link counts forward.ne_dots (own ▸ linked) own alone ?_
          fun seen known => ih onward (by omega) known
        have counted : Leads tree (originOf place target) ((slashPieces target).filter isPart) more
          between := aside
        exact ih counted (by omega) ((right.of_le below.le).cons_none alone (Nat.lt_succ_self more))

/-! ## Resolving paths -/

/-- Steps that lead somewhere hold no null character. -/
theorem Leads.nullFree (leads : Leads tree place steps height last) (fit : tree.IsFit) :
    ∀ step ∈ steps, NullFree step := by
  have free {place : Place} {step : String} {entry : Entry}
      (lies : tree.entry? (place ++ [step]) = some entry) : NullFree step := (fit.isName lies).noNull
  induction leads with
  | done => exact nofun
  | up _ _ ih => exact List.forall_mem_cons.mpr ⟨by unfold NullFree; decide, ih⟩
  | into _ _ lies _ _ ih => exact List.forall_mem_cons.mpr ⟨free lies, ih⟩
  | link _ _ lies _ _ _ ih => exact List.forall_mem_cons.mpr ⟨free lies, ih⟩

/-- There is enough fuel to follow the parts of a path to a place. -/
theorem Leads.le_resolveFuel (leads : Leads tree place path.parts height last)
    (pieces : path.Each IsPiece) :
    path.parts.length + 1 + height * (tree.longest + 2) ≤ resolveFuel tree start path := by
  have parts : path.parts.length ≤ path.toString.length + 1 := by
    by_cases filled : path.parts = []
    · simp [filled]
    · have long := length_le_length_intercalate (path.parts.map String.toList)
      have text := congrArg List.length (pieces.toList_toString filled)
      rw [List.length_append, String.length_toList] at text
      rw [List.length_map] at long
      omega
  have links : height * (tree.longest + 2) ≤
      (tree.targets.length * (start.length + 2) + 1) * (tree.longest + 2) := by
    refine Nat.mul_le_mul_right _ (leads.height_le.trans (Nat.le_succ_of_le ?_))
    exact Nat.le_mul_of_pos_right _ (Nat.succ_pos _)
  have fuel : resolveFuel tree start path = path.toString.length +
      (tree.targets.length * (start.length + 2) + 1) * (tree.longest + 2) + 2 := rfl
  omega

/-- The path of what lies somewhere and is no link meets no link. -/
theorem Tree.IsFit.unlinked (fit : tree.IsFit) {entry : Entry} (lies : tree.entry? place = some entry)
    (straight : ∀ target, entry ≠ .link target) : tree.Unlinked place := by
  intro above starts target linked
  by_cases whole : above = place
  · rw [whole, lies] at linked
    exact straight target (Option.some.inj linked)
  · rw [fit.grounded place (lies ▸ Option.some_ne_none entry) above starts whole] at linked
    cases linked

/-- An absolute path is resolved to the place where its parts lead. -/
theorem resolve_eq_of_leads (fit : tree.IsFit) (pieces : path.Each IsPiece)
    (absolute : path.isAbsolute = true) (leads : Leads tree [] path.parts height last) :
    resolve tree start path = .ok (.ofParts last) := by
  have counted : path.parts.filter isPart = path.parts :=
    List.filter_eq_self.mpr fun part member => (pieces part member).counts
  have enough : path.parts.length + 1 + height * (tree.longest + 2) ≤ resolveFuel tree start path :=
    leads.le_resolveFuel pieces
  obtain ⟨after, reached, -, -⟩ : FollowedTo tree height last []
      (resolveFrom tree start (resolveFuel tree start path) (.ofParts []) [] path.parts) :=
    Leads.followedTo_resolveFrom fit (counted.symm ▸ leads) enough (KnownLinks.right_nil tree height)
  obtain ⟨entry, lies, straight⟩ := leads.straight fit rfl nofun
  have plain := fit.named last (lies ▸ Option.some_ne_none entry)
  have origin : path.origin = .ofParts [] := by
    rw [Path.origin, if_pos absolute]
    rfl
  have followed : followed tree start path = .ofParts last := by
    rw [Files.followed, origin, reached]
    exact plain.normalize_eq
  have possible : ¬ path.parts.any (·.contains '\x00') = true := by
    rw [Path.each_nullFree_iff.mp (leads.nullFree fit)]
    exact Bool.false_ne_true
  rw [resolve_of_no_circle possible, followed]
  rw [followed]
  exact plain.status_ne_linkLoop (fit.unlinked lies straight)

/-- Where a place is, names lead there from the root. -/
theorem Tree.IsFit.leads (fit : tree.IsFit) {entry : Entry} (lies : tree.entry? place = some entry)
    (straight : ∀ target, entry ≠ .link target) : ∃ height, Leads tree [] place height place := by
  have there : tree.entry? place ≠ none := lies ▸ Option.some_ne_none entry
  have plain := fit.named place there
  have walked : walkFrom tree true 0 [] place = .ok ⟨place, some entry⟩ := by
    rw [← lies]
    refine walkFrom_names plain.names (fit.short place there).names (fit.grounded place there) ?_
    exact fun target same => straight target (Option.some.inj (lies.symm.trans same))
  have counted : place.filter isPart = place :=
    List.filter_eq_self.mpr fun part member => (plain.names part member).counts
  have leads := exists_leads_of_walkFrom fit walked
  rwa [counted] at leads

/-- A text starts with a slash just if the path that it names is absolute. -/
theorem startsWith_slash (text : String) : text.startsWith "/" = (Path.ofString text).isAbsolute := by
  rw [Bool.eq_iff_iff, String.startsWith_string_iff, Path.isAbsolute, decide_eq_true_eq, Path.ofString]
  show ['/'] <+: text.toList ↔ Path.leadingSlashes text.toList ≠ 0
  cases text.toList with
  | nil => decide
  | cons c rest =>
    rw [Path.leadingSlashes]
    by_cases slash : c = '/'
    · subst slash
      rw [List.takeWhile_cons_of_pos (by decide), List.length_cons]
      refine iff_of_true (List.prefix_append ['/'] rest) ?_
      split <;> simp_all
    · rw [List.takeWhile_cons_of_neg (by simpa using slash)]
      exact iff_of_false (fun starts => slash (List.cons_prefix_cons.mp starts).1.symm) (by simp)

/-- Whatever a text leads to, following links, the parts of its path lead there from the root, seen from
where the walk starts. -/
theorem exists_leads_of_walk (fit : tree.IsFit) (here : tree.entry? start = some .directory)
    {text : String} {entry : Entry} (walked : walk tree start true text = .ok ⟨last, some entry⟩) :
    ∃ height, Leads tree [] ((Path.ofParts start).append text).parts height last := by
  rcases walk_cases start text with ⟨fault, -, refused⟩ | goes
  · rw [refused] at walked
    cases walked
  · rw [goes, startsWith_slash] at walked
    obtain ⟨height, leads⟩ := exists_leads_of_walkFrom fit walked
    rw [filter_stepsOf] at leads
    unfold Path.append Path.join
    split
    next absolute =>
      rw [if_pos absolute] at leads
      exact ⟨height, leads⟩
    next relative =>
      rw [if_neg relative] at leads
      obtain ⟨most, above⟩ := fit.leads here nofun
      exact ⟨_, above.append leads⟩

/-- What is seen from an absolute path is absolute. -/
theorem Path.isAbsolute_append (absolute : path.isAbsolute = true) (text : String) :
    (path.append text).isAbsolute = true := by
  unfold Path.append Path.join
  split
  next other => exact other
  · exact absolute

/-- Whatever a text leads to, following links, its path is resolved to the place of that. -/
theorem resolve_of_walk (fit : tree.IsFit) (here : tree.entry? start = some .directory) {text : String}
    {entry : Entry} (walked : walk tree start true text = .ok ⟨last, some entry⟩) :
    resolve tree start ((Path.ofParts start).append text) = .ok (.ofParts last) := by
  obtain ⟨height, leads⟩ := exists_leads_of_walk fit here walked
  have names := (fit.named start (here ▸ Option.some_ne_none _)).names
  have above : (Path.ofParts start).Each IsPiece :=
    fun part member => ⟨(names part member).counts, (names part member).noSlash⟩
  exact resolve_eq_of_leads fit (above.join (each_isPiece_ofString text))
    (Path.isAbsolute_append rfl text) leads

end NegativeCompile.Files
