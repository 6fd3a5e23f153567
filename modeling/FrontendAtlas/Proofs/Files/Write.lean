import FrontendAtlas.Proofs.Files.Tree

namespace FrontendAtlas

def PathPart.stops : Location → List PathPart → List Location
  | _, [] => []
  | place, part :: rest => part.follow place :: stops (part.follow place) rest

namespace FileTree

variable {tree made later : FileTree} {place other final : Location} {entry : Entry} {content : Content}
  {parts : List PathPart} {name : String}

theorem Closed.put_directory (closed : tree.Closed)
    (above : tree.entry? place = some .directory) :
    (tree.put (place ++ [name]) .directory).Closed := by
  intro other entry found
  rw [put_apply _ (by simp)] at found ⊢
  split
  · rfl
  case isFalse differs =>
    split at found
    case isTrue same => rw [same, List.dropLast_concat]; exact above
    case isFalse => exact closed _ _ found

structure Grows (parts : List PathPart) (tree made : FileTree) : Prop where
  kept : ∀ {place entry}, tree.entry? place = some entry → made.entry? place = some entry
  added : ∀ {place entry}, made.entry? place = some entry → tree.entry? place = some entry ∨
    tree.entry? place = none ∧ entry = .directory ∧ ∃ front name, .name name ∈ parts ∧ place = front ++ [name]

theorem Grows.refl (tree : FileTree) : Grows [] tree tree :=
  ⟨id, .inl⟩

theorem Grows.cons (grows : Grows parts tree made) (part : PathPart) :
    Grows (part :: parts) tree made := by
  refine ⟨grows.kept, fun found => ?_⟩
  refine (grows.added found).imp_right fun ⟨absent, directory, front, name, member, place⟩ => ?_
  exact ⟨absent, directory, front, name, List.mem_cons_of_mem _ member, place⟩

theorem Grows.cons_put (absent : tree.entry? (place ++ [name]) = none)
    (grows : Grows parts (tree.put (place ++ [name]) .directory) made) :
    Grows (.name name :: parts) tree made := by
  have proper : place ++ [name] ≠ [] := by simp
  have put := tree.put_apply proper .directory
  constructor
  · intro other entry found
    apply grows.kept
    rw [put, if_neg, found]
    rintro rfl
    rw [found] at absent
    cases absent
  · intro other entry found
    rcases grows.cons (.name name) |>.added found with before | ⟨none, directory, created⟩
    · rw [put] at before
      split at before
      case isTrue same =>
        cases before
        subst same
        exact .inr ⟨absent, rfl, place, name, List.mem_cons_self, rfl⟩
      case isFalse => exact .inl before
    · rw [put] at none
      split at none
      · cases none
      · exact .inr ⟨none, directory, created⟩

theorem grows_of_makeDirs?
    (h : tree.makeDirs? place parts = some (made, final)) : Grows parts tree made := by
  induction parts generalizing tree place with
  | nil =>
    cases h
    exact .refl _
  | cons part parts ih =>
    cases part with
    | name name =>
      simp only [makeDirs?] at h
      split at h
      · exact (ih h).cons _
      · cases h
      case h_3 absent => exact .cons_put absent (ih h)
    | _ => exact (ih h).cons _

theorem follow_of_makeDirs?
    (h : tree.makeDirs? place parts = some (made, final)) : final = parts.foldl PathPart.follow place := by
  induction parts generalizing tree place with
  | nil =>
    cases h
    rfl
  | cons part parts ih =>
    cases part with
    | name name =>
      simp only [makeDirs?] at h
      split at h
      · exact ih h
      · cases h
      · exact ih h
    | _ => exact ih h

theorem makeDirs?_again
    (h : tree.makeDirs? place parts = some (made, final))
    (kept : ∀ place, made.entry? place = some .directory → later.entry? place = some .directory) :
    later.makeDirs? place parts = some (later, final) := by
  induction parts generalizing tree place with
  | nil =>
    cases h
    rfl
  | cons part parts ih =>
    cases part with
    | name name =>
      simp only [makeDirs?] at h ⊢
      split at h
      case h_1 directory =>
        rw [kept _ ((grows_of_makeDirs? h).kept directory)]
        exact ih h
      case h_2 => cases h
      case h_3 =>
        have created : made.entry? (place ++ [name]) = some .directory :=
          (grows_of_makeDirs? h).kept (by simp [put_apply])
        rw [kept _ created]
        exact ih h
    | _ => exact ih h

theorem exists_makeDirs?_iff (closed : tree.Closed) (start : tree.entry? place = some .directory) :
    (∃ made final, tree.makeDirs? place parts = some (made, final)) ↔
      ∀ stop ∈ PathPart.stops place parts, tree.content? stop = none := by
  induction parts generalizing tree place with
  | nil => simp [makeDirs?, PathPart.stops]
  | cons part parts ih =>
    rw [PathPart.stops, List.forall_mem_cons]
    have known {next : Location} (directory : tree.entry? next = some .directory) :
        (∃ made final, tree.makeDirs? next parts = some (made, final)) ↔
          tree.content? next = none ∧ ∀ stop ∈ PathPart.stops next parts, tree.content? stop = none := by
      simp [ih closed directory, content?, directory]
    cases part with
    | root => exact known rfl
    | current => exact known start
    | parent => exact known (closed _ _ start)
    | name name =>
      simp only [makeDirs?, PathPart.follow]
      cases held : tree.entry? (place ++ [name]) with
      | none =>
        have proper : place ++ [name] ≠ [] := by simp
        have put := tree.put_apply proper .directory
        have same (stop : Location) :
            FileTree.content? (tree.put (place ++ [name]) .directory) stop = tree.content? stop := by
          rw [content?, content?, put]
          by_cases here : stop = place ++ [name]
          · rw [if_pos here, here, held]
          · rw [if_neg here]
        have created : FileTree.entry? (tree.put (place ++ [name]) .directory) (place ++ [name]) =
            some .directory := by simp [put]
        have absent : tree.content? (place ++ [name]) = none := by simp [content?, held]
        simp only [ih (closed.put_directory start) created, same, absent, true_and]
      | some entry =>
        cases entry with
        | directory => exact known held
        | file content => simp [content?, held]

theorem directory_of_makeDirs?_iff (closed : tree.Closed) (start : tree.entry? place = some .directory)
    (h : tree.makeDirs? place parts = some (made, final)) : made.entry? other = some .directory ↔
      tree.entry? other = some .directory ∨ other ∈ PathPart.stops place parts := by
  induction parts generalizing tree place with
  | nil =>
    cases h
    simp [PathPart.stops]
  | cons part parts ih =>
    rw [PathPart.stops, List.mem_cons]
    -- A stop that was a directory before adds nothing.
    have known {next : Location} (directory : tree.entry? next = some .directory)
        (later : made.entry? other = some .directory ↔
          tree.entry? other = some .directory ∨ other ∈ PathPart.stops next parts) :
        made.entry? other = some .directory ↔
          tree.entry? other = some .directory ∨ other = next ∨ other ∈ PathPart.stops next parts := by
      have absorbed : (tree.entry? other = some .directory ∨ other = next) ↔ tree.entry? other = some .directory :=
        or_iff_left_of_imp fun same => same ▸ directory
      rw [later, ← or_assoc, absorbed]
    cases part with
    | root => exact known rfl (ih closed rfl h)
    | current => exact known start (ih closed start h)
    | parent => exact known (closed _ _ start) (ih closed (closed _ _ start) h)
    | name name =>
      simp only [makeDirs?] at h
      split at h
      case h_1 directory => exact known directory (ih closed directory h)
      case h_2 => cases h
      case h_3 absent =>
        have proper : place ++ [name] ≠ [] := by simp
        have put := tree.put_apply proper .directory
        rw [ih (closed.put_directory start) (by simp [put]) h, put, ← or_assoc, PathPart.follow]
        split
        case isTrue here => simp [here]
        case isFalse elsewhere => simp [elsewhere]

theorem foldlM_step?_of_makeDirs? {segments : List String}
    (closed : tree.Closed) (start : tree.entry? place = some .directory)
    (h : tree.makeDirs? place (Path.inner segments) = some (made, final))
    (kept : ∀ place, made.entry? place = some .directory → later.entry? place = some .directory) :
    segments.foldlM later.step? place = some final ∧ made.entry? final = some .directory := by
  induction segments generalizing tree place with
  | nil =>
    cases h
    exact ⟨rfl, start⟩
  | cons segment segments ih =>
    have here : later.entry? place = some .directory := kept _ ((grows_of_makeDirs? h).kept start)
    rw [List.foldlM_cons, Option.bind_eq_bind]
    rcases Path.ofSegment?_cases segment with ⟨-, part⟩ | ⟨-, part⟩ | ⟨-, part⟩
    · have step : later.step? place segment = some place :=
        step?_eq_some_iff.2 ⟨here, by simp [part], by simp [part]⟩
      rw [Path.inner, List.filterMap_cons, part] at h
      rw [step]
      exact ih closed start h
    · have step : later.step? place segment = some place.dropLast :=
        step?_eq_some_iff.2 ⟨here, by simp [part, PathPart.follow], by simp [part]⟩
      rw [Path.inner, List.filterMap_cons, part] at h
      rw [step]
      exact ih closed (closed _ _ start) h
    · have step (created : later.entry? (place ++ [segment]) = some .directory) :
          later.step? place segment = some (place ++ [segment]) :=
        step?_eq_some_iff.2 ⟨here, by simp [part, PathPart.follow], fun _ _ => by simp [has, created]⟩
      rw [Path.inner, List.filterMap_cons, part] at h
      simp only [makeDirs?] at h
      split at h
      case h_1 directory =>
        rw [step (kept _ ((grows_of_makeDirs? h).kept directory))]
        exact ih closed directory h
      case h_2 => cases h
      case h_3 =>
        have created : FileTree.entry? (tree.put (place ++ [segment]) .directory) (place ++ [segment]) =
            some .directory := by simp [put_apply]
        rw [step (kept _ ((grows_of_makeDirs? h).kept created))]
        exact ih (closed.put_directory start) created h

theorem makeDirs?_lead {path : String} {lead : List PathPart} {start : Location}
    (begins : Path.isAbsolute path = true ∧ lead = [.root] ∨
      Path.isAbsolute path = false ∧ (lead = [.current] ∨ lead = [])) :
    tree.makeDirs? start (lead ++ parts) = tree.makeDirs? (Path.origin path start) parts := by
  rcases begins with ⟨absolute, rfl⟩ | ⟨relative, rfl | rfl⟩
  · simp [Path.origin, absolute, makeDirs?]
  · simp [Path.origin, relative, makeDirs?]
  · simp [Path.origin, relative]

/-- What writing a file does to a tree: the file is there, and else there are new directories only,
whose names are among the parts of a path. -/
structure Writes (parts : List PathPart) (file : Location) (content : Content) (tree later : FileTree) :
    Prop where
  held : later.entry? file = some (.file content)
  free : tree.entry? file ≠ some .directory
  kept : ∀ {place entry}, place ≠ file → tree.entry? place = some entry → later.entry? place = some entry
  added : ∀ {place entry}, place ≠ file → later.entry? place = some entry →
    tree.entry? place = some entry ∨
      tree.entry? place = none ∧ entry = .directory ∧ ∃ front name, .name name ∈ parts ∧ place = front ++ [name]

theorem Writes.covers {file : Location}
    (writes : Writes parts file content tree later) : later.Covers tree := by
  constructor
  · intro place directory
    apply writes.kept _ directory
    rintro rfl
    exact writes.free directory
  · intro place present
    obtain ⟨entry, found⟩ := Option.isSome_iff_exists.1 present
    by_cases same : place = file
    · simp [has, same, writes.held]
    · simp [has, writes.kept same found]

theorem directory_put (free : made.entry? (place ++ [name]) ≠ some .directory)
    (content : Content) (directory : made.entry? other = some .directory) :
    FileTree.entry? (made.put (place ++ [name]) (.file content)) other = some .directory := by
  rw [put_apply _ (by simp), if_neg, directory]
  rintro rfl
  exact free directory

theorem writes_put (grows : Grows parts tree made)
    (free : made.entry? (place ++ [name]) ≠ some .directory) (content : Content) :
    Writes parts (place ++ [name]) content tree (made.put (place ++ [name]) (.file content)) := by
  have proper : place ++ [name] ≠ [] := by simp
  have put := made.put_apply proper (.file content)
  refine ⟨by simp [put], fun directory => free (grows.kept directory), ?_, ?_⟩
  · intro other entry differs found
    rw [put, if_neg differs]
    exact grows.kept found
  · intro other entry differs found
    rw [put, if_neg differs] at found
    exact grows.added found

theorem write?_eq_some_iff {start : Location} {path : String} :
    tree.write? start path content = some later ↔ ∃ name made place, Path.lastName? path = some name ∧
      tree.makeDirs? start (Path.parts path).dropLast = some (made, place) ∧
      made.entry? (place ++ [name]) ≠ some .directory ∧ later = made.put (place ++ [name]) (.file content) := by
  simp only [write?, Option.bind_eq_bind, Option.bind_eq_some_iff, Prod.exists, Option.ite_none_left_eq_some,
    pure, Option.some.injEq]
  constructor
  · rintro ⟨made, place, makes, name, named, free, rfl⟩
    exact ⟨name, made, place, named, makes, free, rfl⟩
  · rintro ⟨name, made, place, named, makes, free, rfl⟩
    exact ⟨made, place, makes, name, named, free, rfl⟩

end FileTree

namespace Workspace

variable {space : Workspace} {path name : String} {content : Content} {later : FileTree}

theorem place_of_lastName? (space : Workspace) (named : Path.lastName? path = some name) :
    space.place path = (Path.parts path).dropLast.foldl PathPart.follow space.directory ++ [name] := by
  have last : (Path.parts path).getLast? = some (.name name) :=
    Path.fileName?_eq_some_iff.1 (Option.filter_eq_some_iff.1 named).1
  obtain ⟨front, split⟩ := List.getLast?_eq_some_iff.1 last
  rw [place, split, List.dropLast_concat, List.foldl_concat]
  rfl

/-- Nothing is in the way of a file: no file where a directory has to be, and no directory at its place. -/
structure Writable (space : Workspace) (path : String) : Prop where
  named : (Path.lastName? path).isSome = true
  clear : ∀ stop ∈ PathPart.stops space.directory (Path.parts path).dropLast, space.tree.content? stop = none
  free : space.tree.entry? (space.place path) ≠ some .directory
  apart : space.place path ∉ PathPart.stops space.directory (Path.parts path).dropLast

theorem exists_write?_iff (wellFormed : space.WellFormed) (content : Content) :
    (∃ later, space.tree.write? space.directory path content = some later) ↔ space.Writable path := by
  simp only [FileTree.write?_eq_some_iff]
  constructor
  · rintro ⟨_, name, made, place, named, makes, free, -⟩
    have clear := (FileTree.exists_makeDirs?_iff wellFormed.closed wellFormed.directory).1 ⟨made, place, makes⟩
    rw [FileTree.follow_of_makeDirs? makes, ← space.place_of_lastName? named, ne_eq,
      FileTree.directory_of_makeDirs?_iff wellFormed.closed wellFormed.directory makes, not_or] at free
    exact ⟨by simp [named], clear, free.1, free.2⟩
  · rintro ⟨named, clear, free, apart⟩
    obtain ⟨name, named⟩ := Option.isSome_iff_exists.1 named
    obtain ⟨made, place, makes⟩ :=
      (FileTree.exists_makeDirs?_iff wellFormed.closed wellFormed.directory).2 clear
    refine ⟨_, name, made, place, named, makes, ?_, rfl⟩
    rw [FileTree.follow_of_makeDirs? makes, ← space.place_of_lastName? named, ne_eq,
      FileTree.directory_of_makeDirs?_iff wellFormed.closed wellFormed.directory makes, not_or]
    exact ⟨free, apart⟩

theorem writes_of_write? (h : space.tree.write? space.directory path content = some later) :
    FileTree.Writes (Path.parts path).dropLast (space.place path) content space.tree later := by
  obtain ⟨name, made, place, named, makes, free, rfl⟩ := FileTree.write?_eq_some_iff.1 h
  rw [space.place_of_lastName? named, ← FileTree.follow_of_makeDirs? makes]
  exact FileTree.writes_put (FileTree.grows_of_makeDirs? makes) free content

theorem found_of_write? (wellFormed : space.WellFormed)
    (h : space.tree.write? space.directory path content = some later) :
    Workspace.entry? ⟨later, space.directory⟩ path = some (.file content) := by
  obtain ⟨name, made, place, named, makes, free, rfl⟩ := FileTree.write?_eq_some_iff.1 h
  obtain ⟨front, ends, part⟩ := Path.lastName?_eq_some_iff.1 named
  obtain ⟨lead, split, begins⟩ := Path.parts_eq path
  have way : (Path.parts path).dropLast = lead ++ Path.inner front := by
    simp [split, ends, Path.inner, part, ← List.append_assoc]
  rw [way, FileTree.makeDirs?_lead begins] at makes
  have kept (other : Location) : made.entry? other = some .directory →
      FileTree.entry? (made.put (place ++ [name]) (.file content)) other = some .directory :=
    FileTree.directory_put free content
  obtain ⟨followed, last⟩ :=
    FileTree.foldlM_step?_of_makeDirs? wellFormed.closed (wellFormed.origin _) makes kept
  have held : FileTree.entry? (made.put (place ++ [name]) (.file content)) (place ++ [name]) =
      some (.file content) := by
    simp [FileTree.put_apply]
  have step : (made.put (place ++ [name]) (.file content)).step? place name = some (place ++ [name]) := by
    apply FileTree.step?_eq_some_iff.2
    exact ⟨kept _ last, by simp [part, PathPart.follow], fun _ _ => by simp [FileTree.has, held]⟩
  have nonempty : path ≠ "" := by
    rintro rfl
    simp [Path.lastName?, show Path.fileName? "" = none by decide] at named
  have located : Workspace.locate? ⟨made.put (place ++ [name]) (.file content), space.directory⟩ path =
      some (place ++ [name]) := by
    rw [Workspace.locate?, FileTree.locate?_eq nonempty, ends, List.foldlM_append, followed,
      Option.bind_eq_bind, Option.bind_some, List.foldlM_cons, step]
    rfl
  rw [Workspace.entry?, located, Option.bind_some, held]

theorem write?_again (h : space.tree.write? space.directory path content = some later) (content' : Content) :
    later.write? space.directory path content' = some (later.put (space.place path) (.file content')) := by
  have writes := writes_of_write? h
  obtain ⟨name, made, place, named, makes, free, rfl⟩ := FileTree.write?_eq_some_iff.1 h
  rw [space.place_of_lastName? named, ← FileTree.follow_of_makeDirs? makes] at writes ⊢
  refine FileTree.write?_eq_some_iff.2 ⟨name, _, place, named, ?_, ?_, rfl⟩
  · apply FileTree.makeDirs?_again makes
    exact fun other => FileTree.directory_put free content
  · rw [writes.held]
    simp

end Workspace

end FrontendAtlas
