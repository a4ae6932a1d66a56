import NegativeCompile.Proofs.Files.Growing
import NegativeCompile.Proofs.Files.PathTexts

/-! # Paths that are resolved as before

What a path is resolved to depends on a tree through the links that are met on the way
(`AgreeAlong.resolveFrom_eq`). -/

namespace NegativeCompile.Files

variable {before after tree : Tree} {start place : Place} {path : Path} {steps rest : List String}
variable {step target : String} {fuel : Nat} {known : KnownLinks} {good : Path → Prop}
variable {proper : String → Prop}

/-! ## Following names -/

/-- Two trees agree on which names are links along good paths, and paths without links are good. -/
structure AgreeAlong (start : Place) (good : Path → Prop) (proper : String → Prop)
    (before after : Tree) : Prop where
  /-- What stands between slashes is a proper name. -/
  pieces : ∀ text, ∀ piece ∈ slashPieces text, proper piece
  /-- The root is good. -/
  root : good ⟨1, []⟩
  /-- One level up a good path is a good one. -/
  up : ∀ path, good path → good (goUp path)
  /-- The trees agree on which names are links. -/
  links : ∀ path step, good path → proper step → isPart step = true → step ≠ ".." → ∀ target,
    linkStatus before start (path.append step).toString = .ok (.link target) ↔
      linkStatus after start (path.append step).toString = .ok (.link target)
  /-- A name that is no link leads along a good path. -/
  next : ∀ path step, good path → proper step → isPart step = true → step ≠ ".." →
    (∀ target, linkStatus after start (path.append step).toString ≠ .ok (.link target)) →
      good (path.append step)

/-- Two trees that agree along good paths lead along proper names to the same path, a good one unless
there is a circle. -/
theorem AgreeAlong.resolveFrom_eq (agree : AgreeAlong start good proper before after)
    (begun : good path) (links : known.Good good) (names : ∀ step ∈ steps, proper step) :
    resolveFrom before start fuel path known steps = resolveFrom after start fuel path known steps ∧
      ((resolveFrom after start fuel path known steps).complete = true →
        good (resolveFrom after start fuel path known steps).path ∧
          (resolveFrom after start fuel path known steps).known.Good good) := by
  -- Induction on the fuel: the names of a link are followed with less of it, from a good path.
  induction fuel generalizing path known steps with
  | zero => exact ⟨rfl, nofun⟩
  | succ fuel ih =>
    cases steps with
    | nil => exact ⟨rfl, fun _ => ⟨begun, links⟩⟩
    | cons step rest =>
      obtain ⟨here, others⟩ := List.forall_mem_cons.mp names
      by_cases blank : isPart step = false
      · rw [resolveFrom_of_not_isPart blank, resolveFrom_of_not_isPart blank]
        exact ih begun links others
      have counts : isPart step = true := by simpa using blank
      by_cases dots : step = ".."
      · rw [dots, resolveFrom_dots, resolveFrom_dots]
        exact ih (agree.up path begun) links others
      by_cases linked : ∃ target,
          linkStatus after start (path.append step).toString = .ok (.link target)
      · obtain ⟨target, found⟩ := linked
        have also := (agree.links path step begun here counts dots target).mpr found
        rw [resolveFrom_of_link counts dots found, resolveFrom_of_link counts dots also]
        split
        next reached seen => exact ih (links.of_lookup seen) links others
        next => exact ⟨rfl, nofun⟩
        next =>
          have origin : good (if target.startsWith "/" then ⟨1, []⟩ else path) := by
            split
            · exact agree.root
            · exact begun
          obtain ⟨same, further⟩ := ih origin (links.cons_none _) (agree.pieces target)
          dsimp only
          rw [same]
          generalize resolveFrom after start fuel (if target.startsWith "/" then ⟨1, []⟩ else path)
            ((path.append step, none) :: known) (slashPieces target) = reached at further ⊢
          split
          next complete =>
            obtain ⟨there, seen⟩ := further complete
            exact ih there (seen.cons_some there _) others
          next => exact ⟨rfl, nofun⟩
      · have straight : ∀ target,
            linkStatus after start (path.append step).toString ≠ .ok (.link target) :=
          fun target found => linked ⟨target, found⟩
        have also : ∀ target,
            linkStatus before start (path.append step).toString ≠ .ok (.link target) :=
          fun target found =>
            straight target ((agree.links path step begun here counts dots target).mp found)
        rw [resolveFrom_cons counts dots straight, resolveFrom_cons counts dots also]
        exact ih (agree.next path step begun here counts dots straight) links others

/-! ## Resolving paths -/

/-- Where the names of a path start. -/
def Path.origin (path : Path) : Path := if path.isAbsolute then ⟨1, []⟩ else ⟨0, []⟩

/-- The absolute path to which the names of a path lead, links being followed. -/
def followed (tree : Tree) (start : Place) (path : Path) : Path :=
  (⟨1, ((Path.ofParts start).join (resolveFrom tree start (resolveFuel tree start path) path.origin []
    path.parts).path).parts⟩ : Path).normalize

/-- A path whose names lead round in a circle of links is not resolved. -/
theorem resolve_of_circle (possible : ¬ path.parts.any (·.contains '\x00') = true)
    (circle : status tree start (followed tree start path).toString = .error .linkLoop) :
    resolve tree start path = .error (.linkLoop (followed tree start path).toString) := by
  unfold followed Path.origin at circle ⊢
  rw [resolve, if_neg possible]
  simp only [circle]

/-- Any other path is resolved to where its names lead. -/
theorem resolve_of_no_circle (possible : ¬ path.parts.any (·.contains '\x00') = true)
    (straight : status tree start (followed tree start path).toString ≠ .error .linkLoop) :
    resolve tree start path = .ok (followed tree start path) := by
  unfold followed Path.origin at straight ⊢
  rw [resolve, if_neg possible]
  dsimp only
  split
  next circle => exact absurd circle straight
  · rfl

/-- A path is resolved as before if its names lead where they led, round in a circle or not. -/
theorem resolve_congr (same : followed before start path = followed after start path)
    (loops : status before start (followed after start path).toString = .error .linkLoop ↔
      status after start (followed after start path).toString = .error .linkLoop) :
    resolve after start path = resolve before start path := by
  by_cases impossible : path.parts.any (·.contains '\x00') = true
  · rw [resolve, if_pos impossible, resolve, if_pos impossible]
  · by_cases circle : status after start (followed after start path).toString = .error .linkLoop
    · rw [resolve_of_circle impossible circle, ← same, resolve_of_circle impossible]
      rw [same]
      exact loops.mpr circle
    · rw [resolve_of_no_circle impossible circle, ← same, resolve_of_no_circle impossible]
      rw [same]
      exact fun also => circle (loops.mp also)

/-- Two trees that agree along good paths lead along the names of a path to the same path. -/
theorem AgreeAlong.followed_eq (agree : AgreeAlong start good proper before after)
    (targets : after.targets = before.targets) (begun : good path.origin)
    (names : ∀ part ∈ path.parts, proper part) :
    followed before start path = followed after start path := by
  have fuel : resolveFuel after start path = resolveFuel before start path := by
    rw [resolveFuel, resolveFuel, targets]
  rw [followed, followed, fuel, (agree.resolveFrom_eq begun KnownLinks.good_nil names).1]

/-- In a tree that was filled paths are resolved as before. -/
theorem Tree.Fills.resolve_eq (fills : Fills before after) (start : Place) :
    resolve after start = resolve before start := by
  funext path
  have agree : AgreeAlong start (fun _ => True) (fun _ => True) before after :=
    ⟨fun _ _ _ => trivial, trivial, fun _ _ => trivial,
      fun _ _ _ _ _ _ _ => fills.linkStatus_link_iff, fun _ _ _ _ _ _ _ => trivial⟩
  have same : followed before start path = followed after start path :=
    agree.followed_eq fills.targets_eq trivial fun _ _ => trivial
  exact resolve_congr same fills.status_linkLoop_iff

/-! ## Straight walks -/

/-- Where steps lead from a place if there is no link on the way. -/
def landing (place : Place) : List String → Place
  | [] => place
  | step :: rest => landing (if step = ".." then place.dropLast else place ++ [step]) rest

/-- Names lead to what lies below a place under these names. -/
theorem landing_names (forward : ".." ∉ steps) : landing place steps = place ++ steps := by
  induction steps generalizing place with
  | nil => rw [landing, List.append_nil]
  | cons step rest ih =>
    have here : step ≠ ".." := fun same => forward (same ▸ List.mem_cons_self)
    have others : ".." ∉ rest := fun member => forward (List.mem_cons_of_mem _ member)
    rw [landing, if_neg here, ih others, List.append_assoc]
    rfl

/-- A step that can be walked: it leads up, or it can be the name of something in a directory. -/
def IsWalked (step : String) : Prop := step = ".." ∨ IsForward step

/-- A walk leads straight on along steps that end in directories. -/
theorem walkFrom_append_of_directories {follow : Bool} {links : Nat}
    (walks : ∀ step ∈ steps, IsWalked step)
    (directories : ∀ above, above <+: steps → tree.entry? (landing place above) = some .directory) :
    walkFrom tree follow links place (steps ++ rest) =
      walkFrom tree follow links (landing place steps) rest := by
  induction steps generalizing place with
  | nil => rfl
  | cons step more ih =>
    have here : tree.entry? place = some .directory := directories [] List.nil_prefix
    obtain ⟨walk, others⟩ := List.forall_mem_cons.mp walks
    have onward : ∀ above, above <+: more →
        tree.entry? (landing (if step = ".." then place.dropLast else place ++ [step]) above) =
          some .directory := by
      intro above starts
      exact directories (step :: above) ((List.prefix_cons_inj step).mpr starts)
    rw [List.cons_append, landing, ← ih others onward]
    rcases walk with rfl | forward
    · rw [walkFrom, here, if_pos rfl]
      simp only
      rw [if_neg (by decide), if_pos trivial]
    · rw [if_neg forward.ne_dots] at onward ⊢
      refine walkFrom_of_entry here forward (onward [] List.nil_prefix) fun target link => ?_
      cases link

/-- Only from a directory a walk goes on. -/
theorem directory_of_walkFrom {follow : Bool} {links : Nat} {arrival : Arrival}
    (walked : walkFrom tree follow links place (step :: rest) = .ok arrival) :
    tree.entry? place = some .directory := by
  rw [walkFrom] at walked
  split at walked
  next here => exact here
  · cases walked

/-- A first step that does not end at a link, and from which a walk goes on, is walked in any case. -/
theorem isWalked_and_walkFrom_eq {follow : Bool} {links : Nat} {arrival : Arrival} (counts : step ≠ ".")
    (onward : rest ≠ []) (walked : walkFrom tree follow links place (step :: rest) = .ok arrival)
    (straight : ∀ last target,
      walkFrom tree false links place [step] ≠ .ok ⟨last, some (.link target)⟩) :
    IsWalked step ∧ ∀ way further, walkFrom tree way links place (step :: further) =
      walkFrom tree way links (if step = ".." then place.dropLast else place ++ [step]) further := by
  have here : tree.entry? place = some .directory := directory_of_walkFrom walked
  by_cases dots : step = ".."
  · subst dots
    refine ⟨.inl rfl, fun way further => ?_⟩
    rw [if_pos rfl]
    exact walkFrom_dots here
  · have short : ¬ nameLimit < step.utf8ByteSize := by
      intro long
      rw [walkFrom] at walked
      simp only [here, if_neg counts, if_neg dots, if_pos long] at walked
      cases walked
    have forward : IsForward step := ⟨counts, dots, short⟩
    refine ⟨.inr forward, fun way further => ?_⟩
    rw [if_neg dots]
    cases lies : tree.entry? (place ++ [step]) with
    | none =>
      rw [walkFrom_of_nothing here forward lies, if_neg (by simpa using onward)] at walked
      cases walked
    | some entry =>
      refine walkFrom_of_entry here forward lies fun target link => ?_
      rw [link] at lies
      exact straight _ target (walkFrom_of_link here forward lies)

/-- If no step of a walk ends at a link, and the walk goes on, the steps end in directories. -/
theorem directories_of_walkFrom {follow : Bool} {links : Nat} {arrival : Arrival}
    (counts : ∀ step ∈ steps, step ≠ ".") (onward : rest ≠ [])
    (walked : walkFrom tree follow links place (steps ++ rest) = .ok arrival)
    (straight : ∀ above, above <+: steps → ∀ last target,
      walkFrom tree false links place above ≠ .ok ⟨last, some (.link target)⟩) :
    (∀ step ∈ steps, IsWalked step) ∧
      ∀ above, above <+: steps → tree.entry? (landing place above) = some .directory := by
  induction steps generalizing place with
  | nil =>
    obtain ⟨next, further, rfl⟩ := List.exists_cons_of_ne_nil onward
    refine ⟨fun _ member => absurd member List.not_mem_nil, fun above starts => ?_⟩
    rw [List.prefix_nil.mp starts]
    exact directory_of_walkFrom walked
  | cons step more ih =>
    have here : tree.entry? place = some .directory := directory_of_walkFrom walked
    obtain ⟨count, others⟩ := List.forall_mem_cons.mp counts
    obtain ⟨walk, same⟩ := isWalked_and_walkFrom_eq count (List.append_ne_nil_of_right_ne_nil more onward)
      walked (straight [step] (List.prefix_append [step] more))
    rw [List.cons_append, same] at walked
    obtain ⟨walks, directories⟩ := ih others walked fun above starts last target => by
      rw [← same]
      exact straight (step :: above) ((List.prefix_cons_inj step).mpr starts) last target
    refine ⟨List.forall_mem_cons.mpr ⟨walk, walks⟩, fun above starts => ?_⟩
    rcases List.prefix_cons_iff.mp starts with rfl | ⟨further, rfl, begins⟩
    · exact here
    · exact directories further begins

/-- A step from a directory that ends at a link leads forward to it. -/
theorem entry_of_step_to_link {links : Nat} {reached : Place}
    (here : tree.entry? place = some .directory) (single : step ≠ ".") (forward : step ≠ "..")
    (walked : walkFrom tree false links place [step] = .ok ⟨reached, some (.link target)⟩) :
    IsForward step ∧ tree.entry? (place ++ [step]) = some (.link target) := by
  have only : IsForward step := by
    refine ⟨single, forward, fun long => ?_⟩
    rw [walkFrom] at walked
    simp only [here, if_neg single, if_neg forward, if_pos long] at walked
    cases walked
  refine ⟨only, ?_⟩
  cases lies : tree.entry? (place ++ [step]) with
  | none =>
    rw [walkFrom_of_nothing here only lies] at walked
    cases walked
  | some entry =>
    by_cases link : ∃ other, entry = .link other
    · obtain ⟨other, rfl⟩ := link
      rw [walkFrom_of_link here only lies] at walked
      cases walked
      rfl
    · rw [walkFrom_of_entry here only lies fun other same => link ⟨other, same⟩, walkFrom,
        lies] at walked
      cases walked
      exact absurd ⟨target, rfl⟩ link

/-- Steps that lead up first and then along names end in directories if their last one does. -/
theorem Tree.IsGrounded.directories (grounded : tree.IsGrounded)
    (here : tree.entry? place = some .directory)
    (climbs : ∃ count names, steps = List.replicate count ".." ++ names ∧ ".." ∉ names)
    (there : tree.entry? (landing place steps) = some .directory) :
    ∀ above, above <+: steps → tree.entry? (landing place above) = some .directory := by
  obtain ⟨count, names, rfl, forward⟩ := climbs
  induction count generalizing place with
  | zero =>
    intro above starts
    have ahead : ".." ∉ above := fun member => forward (starts.subset member)
    have last := there
    rw [List.replicate_zero, List.nil_append, landing_names forward] at last
    rw [landing_names ahead]
    by_cases whole : above = names
    · rw [whole, last]
    · refine grounded (place ++ names) ?_ _ ((List.prefix_append_right_inj place).mpr starts) ?_
      · rw [last]
        exact Option.some_ne_none _
      · simpa using whole
  | succ count ih =>
    intro above starts
    rw [List.replicate_succ, List.cons_append] at starts there
    rcases List.prefix_cons_iff.mp starts with rfl | ⟨further, rfl, begins⟩
    · exact here
    · exact ih (grounded.dropLast here) there further begins

/-- From a directory double dots lead to directories. -/
theorem Tree.IsGrounded.directory_of_dots (grounded : tree.IsGrounded)
    (here : tree.entry? place = some .directory) (count : Nat) :
    tree.entry? (landing place (List.replicate count "..")) = some .directory := by
  induction count generalizing place with
  | zero => exact here
  | succ count ih =>
    rw [List.replicate_succ, landing, if_pos rfl]
    exact ih (grounded.dropLast here)

/-- A walk that leads up through directories ends at one. -/
theorem walkFrom_replicate_dots {follow : Bool} {links : Nat}
    (directories : ∀ count, tree.entry? (landing place (List.replicate count "..")) = some .directory)
    (count : Nat) :
    walkFrom tree follow links place (List.replicate count "..") =
      .ok ⟨landing place (List.replicate count ".."), some .directory⟩ := by
  induction count generalizing place with
  | zero =>
    have here : tree.entry? place = some .directory := directories 0
    rw [List.replicate_zero, walkFrom, here]
    rfl
  | succ count ih =>
    have here : tree.entry? place = some .directory := directories 0
    rw [List.replicate_succ, walkFrom_dots here, landing, if_pos rfl]
    refine ih fun more => ?_
    simpa [List.replicate_succ, landing] using directories (more + 1)

/-! ## Straight paths -/

/-- A path that leads up first, if at all, and along names after that, without any link on the way. -/
structure Path.Straight (tree : Tree) (start : Place) (path : Path) : Prop where
  /-- Its parts are those of a path that a text names. -/
  pieces : path.Each IsPiece
  /-- It leads up first. -/
  climbs : ∃ count names, path.parts = List.replicate count ".." ++ names ∧ ".." ∉ names
  /-- It does not lead up from the root. -/
  rooted : path.isAbsolute = true → ".." ∉ path.parts
  /-- There is no link on the way. -/
  unlinked : ∀ above, above <+: path.parts → above ≠ [] → ∀ target,
    linkStatus tree start (⟨path.slashes, above⟩ : Path).toString ≠ .ok (.link target)

/-- Where a path starts. -/
def Path.base (start : Place) (path : Path) : Place := if path.isAbsolute then [] else start

/-- A path without parts is straight. -/
theorem Path.straight_nil (tree : Tree) (start : Place) (slashes : Nat) :
    Path.Straight tree start ⟨slashes, []⟩ where
  pieces := Path.each_nil slashes
  climbs := ⟨0, [], rfl, List.not_mem_nil⟩
  rooted _ := List.not_mem_nil
  unlinked _ starts filled := absurd (List.prefix_nil.mp starts) filled

/-- What lies at a path of some length is a link just if a walk along its parts ends at one. -/
theorem Path.Each.linkStatus_eq_link_iff (pieces : path.Each IsPiece) (filled : path.parts ≠ []) :
    linkStatus tree start path.toString = .ok (.link target) ↔
      ¬ pathLimit < path.toString.utf8ByteSize ∧ ∃ last,
        walkFrom tree false linkLimit (path.base start) path.parts =
          .ok ⟨last, some (.link target)⟩ := by
  rw [linkStatus_eq_ok_iff, pieces.walk_eq filled]
  by_cases long : pathLimit < path.toString.utf8ByteSize
  · simp [long]
  · rw [if_neg long, Path.base, and_iff_right long]

namespace Path.Straight

/-- A path above a straight one is straight. -/
theorem of_prefix {above : List String} (straight : path.Straight tree start)
    (starts : above <+: path.parts) : Path.Straight tree start ⟨path.slashes, above⟩ where
  pieces part member := straight.pieces part (starts.subset member)
  climbs := by
    obtain ⟨count, names, equal, forward⟩ := straight.climbs
    rw [equal, List.prefix_iff_eq_take, List.take_append, List.take_replicate] at starts
    exact ⟨_, _, starts, fun member => forward (List.mem_of_mem_take member)⟩
  rooted absolute member := straight.rooted absolute (starts.subset member)
  unlinked further begins := straight.unlinked further (begins.trans starts)

/-- A straight path with a name added that is no link is straight. -/
theorem append (straight : path.Straight tree start) (piece : IsPiece step) (forward : step ≠ "..")
    (unlinked : ∀ target, linkStatus tree start (path.append step).toString ≠ .ok (.link target)) :
    (path.append step).Straight tree start := by
  rw [piece.append_eq] at unlinked ⊢
  refine ⟨straight.pieces.concat piece, ?_, ?_, ?_⟩
  · obtain ⟨count, names, equal, ahead⟩ := straight.climbs
    refine ⟨count, names ++ [step], by simp [equal], ?_⟩
    simpa [ahead] using forward.symm
  · intro absolute
    simpa [straight.rooted absolute] using forward.symm
  · intro above starts filled target
    rcases List.prefix_concat_iff.mp starts with whole | begins
    · rw [whole]
      exact unlinked target
    · exact straight.unlinked above begins filled target

/-- A path that leads up and nowhere else is straight. -/
theorem of_dots {count slashes : Nat}
    (directories : ∀ count, tree.entry? (landing start (List.replicate count "..")) = some .directory)
    (relative : Path.isAbsolute ⟨slashes, List.replicate count ".."⟩ = false) :
    Path.Straight tree start ⟨slashes, List.replicate count ".."⟩ := by
  have pieces : Path.Each IsPiece ⟨slashes, List.replicate count ".."⟩ := by
    intro part member
    rw [List.eq_of_mem_replicate member]
    exact ⟨by decide, by decide⟩
  refine ⟨pieces, ⟨count, [], by simp, List.not_mem_nil⟩, ?_, ?_⟩
  · intro absolute
    rw [relative] at absolute
    cases absolute
  · intro above starts filled target linked
    have shorter : Path.Each IsPiece ⟨slashes, above⟩ :=
      fun part member => pieces part (starts.subset member)
    obtain ⟨-, last, walked⟩ := (shorter.linkStatus_eq_link_iff filled).mp linked
    have all : above = List.replicate above.length ".." := (List.prefix_replicate_iff.mp starts).2
    have origin : Path.base start ⟨slashes, above⟩ = start := by
      have also : Path.isAbsolute ⟨slashes, above⟩ = false := relative
      rw [Path.base, also]
      rfl
    rw [origin, all, walkFrom_replicate_dots directories] at walked
    cases walked

/-- One level up a straight path is a straight one. -/
theorem goUp (straight : path.Straight tree start)
    (directories : ∀ count,
      tree.entry? (landing start (List.replicate count "..")) = some .directory) :
    (goUp path).Straight tree start := by
  unfold Files.goUp
  split
  next higher =>
    obtain ⟨count, names, equal, forward⟩ := straight.climbs
    -- A path that ends in double dots, or is empty, leads up and nowhere else.
    have climbing : names = [] ∧ path.isAbsolute = false := by
      rw [Bool.or_eq_true, Bool.and_eq_true, decide_eq_true_eq] at higher
      rcases higher with last | ⟨empty, relative⟩
      · have member : ".." ∈ path.parts := List.mem_of_getLast? last
        refine ⟨?_, ?_⟩
        · by_contra filled
          rw [equal, List.getLast?_append_of_ne_nil _ filled] at last
          exact forward (List.mem_of_getLast? last)
        · rw [Bool.eq_false_iff]
          exact fun absolute => straight.rooted absolute member
      · rw [List.isEmpty_iff, equal] at empty
        exact ⟨(List.append_eq_nil_iff.mp empty).2, by simpa using relative⟩
    obtain ⟨rfl, relative⟩ := climbing
    rw [equal, List.append_nil, ← List.replicate_succ']
    exact of_dots directories relative
  · exact straight.of_prefix (List.dropLast_prefix path.parts)

/-- A walk along a straight path, and a name that is a link after that, leads through directories. -/
theorem directories_of_link (straight : path.Straight tree start) (piece : IsPiece step)
    (forward : step ≠ "..") (here : tree.entry? (path.base start) = some .directory)
    (linked : linkStatus tree start (path.append step).toString = .ok (.link target)) :
    (∀ part ∈ path.parts, IsWalked part) ∧ IsForward step ∧
      tree.entry? (landing (path.base start) path.parts ++ [step]) = some (.link target) := by
  have pieces := straight.pieces.concat piece
  rw [piece.append_eq, pieces.linkStatus_eq_link_iff (by simp)] at linked
  obtain ⟨short, last, walked⟩ := linked
  have base : Path.base start ⟨path.slashes, path.parts ++ [step]⟩ = path.base start := rfl
  rw [base] at walked
  have dotless (part : String) (counts : IsPiece part) : part ≠ "." := by
    rintro rfl
    cases counts.counts
  obtain ⟨walks, directories⟩ := directories_of_walkFrom
    (fun part member => dotless part (straight.pieces part member)) (List.cons_ne_nil step []) walked
    fun above starts reached other ended => by
      by_cases filled : above = []
      · rw [filled, walkFrom, here] at ended
        cases ended
      · -- A path above is no longer, so that the walk is that along its text.
        have begun := (straight.of_prefix starts).pieces
        obtain ⟨tail, equal⟩ := starts
        refine straight.unlinked above ⟨tail, equal⟩ filled other
          ((begun.linkStatus_eq_link_iff filled).mpr ⟨fun long => short ?_, reached, ended⟩)
        have regroup : path.parts ++ [step] = above ++ (tail ++ [step]) := by
          rw [← equal, List.append_assoc]
        rw [regroup] at pieces ⊢
        exact Nat.lt_of_lt_of_le long (pieces.utf8ByteSize_le filled)
  rw [walkFrom_append_of_directories walks directories] at walked
  have there := directories _ (List.prefix_refl _)
  exact ⟨walks, entry_of_step_to_link there (dotless step piece) forward walked⟩

/-- Whether a name is a link does not change along a straight path when a tree grows: what was added
leads to no link. -/
theorem linkStatus_iff (straight : path.Straight after start) (grows : before.Grows after)
    (grounded : before.IsGrounded) (here : before.entry? start = some .directory)
    (piece : IsPiece step) (forward : step ≠ "..") :
    linkStatus before start (path.append step).toString = .ok (.link target) ↔
      linkStatus after start (path.append step).toString = .ok (.link target) := by
  constructor
  · exact grows.linkStatus_link
  · intro linked
    have origin : before.entry? (path.base start) = some .directory := by
      unfold Path.base
      split
      · rfl
      · exact here
    obtain ⟨walks, only, lies⟩ :=
      straight.directories_of_link piece forward (grows.directory origin) linked
    have there := grows.link_before lies
    -- The link was there, and so were the directories above it.
    have above : before.entry? (landing (path.base start) path.parts) = some .directory := by
      refine grounded _ ?_ _ (List.prefix_append _ [step]) (by simp)
      rw [there]
      exact Option.some_ne_none _
    have directories := grounded.directories origin straight.climbs above
    have pieces := straight.pieces.concat piece
    rw [piece.append_eq, pieces.linkStatus_eq_link_iff (by simp)] at linked ⊢
    refine ⟨linked.1, landing (path.base start) path.parts ++ [step], ?_⟩
    have base : Path.base start ⟨path.slashes, path.parts ++ [step]⟩ = path.base start := rfl
    rw [base, walkFrom_append_of_directories walks directories, walkFrom_of_link above only there]
    rfl

end Path.Straight

/-! ## Trees that grow -/

/-- In a tree that has grown a path is resolved as before, unless it goes round in a circle of links. -/
theorem Tree.Grows.resolve_eq (grows : before.Grows after) (grounded : before.IsGrounded)
    (here : before.entry? start = some .directory) (pieces : path.Each IsPiece)
    (uncircled : ∀ text, resolve after start path ≠ .error (.linkLoop text)) :
    resolve after start path = resolve before start path := by
  have directories (count : Nat) :
      after.entry? (landing start (List.replicate count "..")) = some .directory :=
    grows.directory (grounded.directory_of_dots here count)
  have agree : AgreeAlong start (Path.Straight after start) ('/' ∉ String.toList ·) before after :=
    ⟨fun _ _ member => slash_notMem_of_mem_slashPieces member, Path.straight_nil after start 1,
      fun _ straight => straight.goUp directories,
      fun _ _ straight noSlash counts forward _ =>
        straight.linkStatus_iff grows grounded here ⟨counts, noSlash⟩ forward,
      fun _ _ straight noSlash counts forward unlinked =>
        straight.append ⟨counts, noSlash⟩ forward unlinked⟩
  have begun : path.origin.Straight after start := by
    unfold Path.origin
    split <;> exact Path.straight_nil after start _
  have same : followed before start path = followed after start path :=
    agree.followed_eq grows.targets_eq begun fun part member => (pieces part member).noSlash
  by_cases impossible : path.parts.any (·.contains '\x00') = true
  · rw [resolve, if_pos impossible, resolve, if_pos impossible]
  · have straight : status after start (followed after start path).toString ≠ .error .linkLoop :=
      fun circle => uncircled _ (resolve_of_circle impossible circle)
    refine resolve_congr same ⟨fun circle => ?_, fun circle => absurd circle straight⟩
    refine grows.status_error circle (by decide) fun same => ?_
    cases same

end NegativeCompile.Files
