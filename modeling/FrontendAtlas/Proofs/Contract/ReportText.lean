import FrontendAtlas.Proofs.Contract.Breach
import FrontendAtlas.Settings.Basic

/-! What a reader of a report is told.  A section lists violations of its check in order and says how many
it leaves out; it leaves out no failure.  Each check marks what it finds with its own name, so every
violation of a verification belongs to one section. -/

namespace FrontendAtlas.Contract

def Violation.line (violation : Violation) : String :=
  "    " ++ violation.severity.sign ++ " " ++ violation.subject ++ ": " ++ violation.message

theorem Violation.line_eq : Violation.line = fun violation => "    " ++ violation.text := by
  funext violation
  simp only [line, text, String.append_assoc]

def unlines (lines : List String) : String :=
  String.join (lines.map (· ++ "\n"))

def IsWorst (found : List Violation) (severity : Severity) : Prop :=
  (∃ violation ∈ found, violation.severity = severity) ∧
    ∀ violation ∈ found, severity.rank ≤ violation.severity.rank

theorem Severity.worse_cases (a b : Severity) :
    a.worse b = a ∧ a.rank ≤ b.rank ∨ a.worse b = b ∧ b.rank ≤ a.rank := by
  by_cases order : a.rank ≤ b.rank
  · exact .inl ⟨if_pos order, order⟩
  · exact .inr ⟨if_neg order, Nat.le_of_not_le order⟩

theorem IsWorst.cons {found : List Violation} {severity : Severity} (worst : IsWorst found severity)
    {violation : Violation} (milder : severity.rank ≤ violation.severity.rank) :
    IsWorst (violation :: found) severity := by
  obtain ⟨⟨witness, member, same⟩, least⟩ := worst
  exact ⟨⟨witness, List.mem_cons_of_mem _ member, same⟩, List.forall_mem_cons.2 ⟨milder, least⟩⟩

theorem isWorst_foldl (first : Violation) (rest : List Violation) :
    IsWorst (first :: rest) (rest.foldl (fun worst v => worst.worse v.severity) first.severity) := by
  induction rest generalizing first with
  | nil => exact ⟨⟨first, by simp⟩, by simp⟩
  | cons second rest ih =>
    rw [List.foldl_cons]
    obtain ⟨worse, order⟩ | ⟨worse, order⟩ := first.severity.worse_cases second.severity
    · rw [worse]
      have worst := ih first
      have both := worst.cons ((worst.2 first List.mem_cons_self).trans order)
      simpa only [IsWorst, List.mem_cons, or_left_comm] using both
    · rw [worse]
      have worst := ih second
      exact worst.cons ((worst.2 second List.mem_cons_self).trans order)

theorem worst?_eq_none_iff {found : List Violation} : Report.worst? found = none ↔ found = [] := by
  cases found <;> simp [Report.worst?]

theorem isWorst_of_worst? {found : List Violation} {severity : Severity}
    (worst : Report.worst? found = some severity) : IsWorst found severity := by
  cases found with
  | nil => cases worst
  | cons first rest =>
    cases worst
    exact isWorst_foldl first rest

namespace Report

section Listing

variable {listed : Nat} {violation : Violation} {found rest : List Violation}

def LeftOut (listed : Nat) (violation : Violation) : Prop :=
  violation.severity ≠ .fail ∧ maxListed ≤ listed

instance : Decidable (LeftOut listed violation) :=
  inferInstanceAs (Decidable (violation.severity ≠ .fail ∧ maxListed ≤ listed))

theorem listing_leftOut (out : LeftOut listed violation) :
    listing listed (violation :: rest) = ((listing listed rest).1, (listing listed rest).2 + 1) := by
  rw [listing]
  exact if_pos out

theorem listing_shown (shown : ¬ LeftOut listed violation) :
    listing listed (violation :: rest) =
      (violation :: (listing (listed + 1) rest).1, (listing (listed + 1) rest).2) := by
  rw [listing]
  exact if_neg shown

def positions : (listed : Nat) → (found : List Violation) → List (Fin found.length)
  | _, [] => []
  | listed, violation :: rest =>
    if LeftOut listed violation then (positions listed rest).map Fin.succ
    else 0 :: (positions (listed + 1) rest).map Fin.succ

theorem listing_eq_positions (listed : Nat) (found : List Violation) :
    (listing listed found).1 = (positions listed found).map found.get := by
  induction found generalizing listed with
  | nil => rfl
  | cons violation rest ih =>
    by_cases out : LeftOut listed violation
    · rw [listing_leftOut out, positions, if_pos out, ih, List.map_map]
      rfl
    · rw [listing_shown out, positions, if_neg out, ih, List.map_cons, List.map_map]
      rfl

theorem length_listing (listed : Nat) (found : List Violation) :
    (listing listed found).1.length + (listing listed found).2 = found.length := by
  induction found generalizing listed with
  | nil => rfl
  | cons violation rest ih =>
    by_cases out : LeftOut listed violation
    · rw [listing_leftOut out, List.length_cons, ← ih listed]
      rfl
    · rw [listing_shown out, List.length_cons, List.length_cons, ← ih (listed + 1)]
      omega

theorem pairwise_positions (listed : Nat) (found : List Violation) :
    (positions listed found).Pairwise (· < ·) := by
  induction found generalizing listed with
  | nil => exact .nil
  | cons violation rest ih =>
    have later (count : Nat) : ((positions count rest).map Fin.succ).Pairwise (· < ·) :=
      List.Pairwise.map _ (fun _ _ => Fin.succ_lt_succ_iff.2) (ih count)
    rw [positions]
    split
    · exact later listed
    · refine List.Pairwise.cons ?_ (later (listed + 1))
      intro position member
      obtain ⟨earlier, -, rfl⟩ := List.mem_map.1 member
      exact Fin.succ_pos earlier

def countBefore {n : Nat} (shown : List (Fin n)) (position : Fin n) : Nat :=
  (shown.filter (· < position)).length

section Count

variable {n : Nat} (later : List (Fin n)) (position : Fin n)

theorem countBefore_succ : countBefore (later.map Fin.succ) position.succ = countBefore later position := by
  simp [countBefore, List.filter_map, Function.comp_def]

theorem countBefore_cons_succ :
    countBefore (0 :: later.map Fin.succ) position.succ = countBefore later position + 1 := by
  rw [countBefore, List.filter_cons_of_pos (by simp), List.length_cons]
  exact congrArg (· + 1) (countBefore_succ later position)

theorem countBefore_zero (shown : List (Fin (n + 1))) : countBefore shown 0 = 0 := by
  simp [countBefore]

end Count

theorem mem_positions_iff (listed : Nat) (found : List Violation) (position : Fin found.length) :
    position ∈ positions listed found ↔
      ¬ LeftOut (listed + countBefore (positions listed found) position) (found.get position) := by
  induction found generalizing listed with
  | nil => exact position.elim0
  | cons violation rest ih =>
    rw [positions]
    by_cases out : LeftOut listed violation
    · rw [if_pos out]
      cases position using Fin.cases with
      | zero =>
        have start := countBefore_zero ((positions listed rest).map Fin.succ)
        simpa [start] using out
      | succ position =>
        have same := countBefore_succ (positions listed rest) position
        simpa [same] using ih listed position
    · rw [if_neg out]
      cases position using Fin.cases with
      | zero =>
        have start := countBefore_zero (0 :: (positions (listed + 1) rest).map Fin.succ)
        simpa [start] using out
      | succ position =>
        have more := countBefore_cons_succ (positions (listed + 1) rest) position
        have shifted := ih (listed + 1) position
        rw [Nat.add_right_comm, Nat.add_assoc] at shifted
        simpa [more] using shifted

theorem failures_sublist_listing (listed : Nat) (found : List Violation) :
    (found.filter (·.severity == .fail)).Sublist (listing listed found).1 := by
  induction found generalizing listed with
  | nil => exact .slnil
  | cons violation rest ih =>
    by_cases out : LeftOut listed violation
    · rw [listing_leftOut out, List.filter_cons_of_neg (by simpa using out.1)]
      exact ih listed
    · rw [listing_shown out]
      by_cases fails : violation.severity = .fail
      · rw [List.filter_cons_of_pos (by simpa using fails)]
        exact (ih (listed + 1)).cons_cons violation
      · rw [List.filter_cons_of_neg (by simpa using fails)]
        exact (ih (listed + 1)).cons violation

end Listing

def heading (found : List Violation) : String :=
  match worst? found with
  | none => "  ✓ PASS"
  | some worst => "  " ++ worst.name ++ " (" ++ toString found.length ++ " findings)"

theorem heading_eq_pass_iff {found : List Violation} : heading found = "  ✓ PASS" ↔ found = [] := by
  rw [← worst?_eq_none_iff, heading]
  cases worst? found with
  | none => simp
  | some worst =>
    simp only [reduceCtorEq, iff_false]
    intro same
    have letter := congrArg (fun text : String => text.toList[2]?) same
    cases worst <;> simp [Severity.name] at letter

theorem exists_isWorst_heading {found : List Violation} (some_found : found ≠ []) :
    ∃ severity, IsWorst found severity ∧
      heading found = "  " ++ severity.name ++ " (" ++ toString found.length ++ " findings)" := by
  cases worst : worst? found with
  | none => exact absurd (worst?_eq_none_iff.1 worst) some_found
  | some severity =>
    refine ⟨severity, isWorst_of_worst? worst, ?_⟩
    rw [heading, worst]

end Report

/-- What a section says of the violations of its check: a heading, the line of each violation at certain
positions, and the number of those that have none. -/
structure Account (found : List Violation) where
  heading : String
  shown : List (Fin found.length)
  hidden : Nat
  ordered : shown.Pairwise (· < ·)
  complete : shown.length + hidden = found.length
  failure : ∀ position, (found.get position).severity = .fail → position ∈ shown
  other : ∀ position, (found.get position).severity ≠ .fail →
    (position ∈ shown ↔ Report.countBefore shown position < 10)
  pass : heading = "  ✓ PASS" ↔ found = []
  worst : found ≠ [] → ∃ severity, IsWorst found severity ∧
    heading = "  " ++ severity.name ++ " (" ++ toString found.length ++ " findings)"

namespace Account

variable {found : List Violation}

def moreLines (hidden : Nat) : List String :=
  if hidden = 0 then [] else ["    ... and " ++ toString hidden ++ " more"]

def lines (account : Account found) : List String :=
  [account.heading] ++ (account.shown.map fun position => (found.get position).line) ++ moreLines account.hidden

def ofFound (found : List Violation) : Account found where
  heading := Report.heading found
  shown := Report.positions 0 found
  hidden := (Report.listing 0 found).2
  ordered := Report.pairwise_positions 0 found
  complete := by
    have total := Report.length_listing 0 found
    rwa [Report.listing_eq_positions, List.length_map] at total
  failure position fails := by
    rw [Report.mem_positions_iff]
    exact fun out => out.1 fails
  other position mild := by
    rw [Report.mem_positions_iff, Report.LeftOut, Nat.zero_add, and_iff_right mild, Nat.not_le]
    rfl
  pass := Report.heading_eq_pass_iff
  worst := Report.exists_isWorst_heading

theorem map_line_shown (found : List Violation) :
    (ofFound found).shown.map (fun position => (found.get position).line) =
      (Report.listing 0 found).1.map Violation.line := by
  rw [Report.listing_eq_positions, List.map_map]
  rfl

theorem lines_ofFound (found : List Violation) : (ofFound found).lines = Report.findingLines found := by
  rw [lines, map_line_shown, Violation.line_eq, Report.findingLines]
  cases worst : Report.worst? found with
  | none =>
    rw [worst?_eq_none_iff.1 worst]
    rfl
  | some severity =>
    have title : (ofFound found).heading =
        "  " ++ severity.name ++ " (" ++ toString found.length ++ " findings)" := by
      simp [ofFound, Report.heading, worst]
    rw [title]
    rfl

theorem failures_sublist_findingLines (found : List Violation) :
    ((found.filter (·.severity == .fail)).map Violation.line).Sublist (Report.findingLines found) := by
  have listed := (Report.failures_sublist_listing 0 found).map Violation.line
  rw [← map_line_shown] at listed
  rw [← lines_ofFound, lines]
  refine List.Sublist.trans ?_ (List.sublist_append_left _ _)
  exact listed.trans (List.sublist_append_right _ _)

end Account

namespace Report

variable (report : Report)

def sectionTitle (number : Nat) (check : CheckSummary) : List String :=
  ["", "Check " ++ toString number ++ ": " ++ check.title, singleRule]

theorem sectionsFrom_eq (number : Nat) (checks : List CheckSummary) :
    report.sectionsFrom number checks = (checks.mapIdx fun index check =>
      sectionTitle (index + number) check ++ findingLines (report.forCheck check.id)).flatten := by
  induction checks generalizing number with
  | nil => rfl
  | cons check rest ih =>
    rw [sectionsFrom, ih, List.mapIdx_cons, List.flatten_cons, Nat.zero_add]
    simp only [Nat.add_right_comm _ 1 number, ← Nat.add_assoc]
    rfl

theorem failures_sublist_sectionsFrom (number : Nat) (checks : List CheckSummary) :
    (checks.flatMap fun check => ((report.forCheck check.id).filter (·.severity == .fail)).map Violation.line).Sublist
      (report.sectionsFrom number checks) := by
  induction checks generalizing number with
  | nil => exact .slnil
  | cons check rest ih =>
    rw [List.flatMap_cons, sectionsFrom, sectionLines]
    exact ((Account.failures_sublist_findingLines _).trans (List.sublist_append_right _ _)).append (ih (number + 1))

end Report

theorem Check.exists_marks {allowed : List String} {check : Check} (member : check ∈ Check.all allowed) :
    ∃ severity, check.Marks severity := by
  simp only [Check.all, List.mem_cons, List.not_mem_nil, or_false] at member
  rcases member with rfl | rfl | rfl | rfl | rfl | rfl
  · exact ⟨_, Check.responseEnvelope_marks⟩
  · exact ⟨_, Check.numericId_marks⟩
  · exact ⟨_, Check.idKeyRoute_marks⟩
  · exact ⟨_, Check.hookWrapping_marks⟩
  · exact ⟨_, Check.typeAlignment_marks allowed⟩
  · exact ⟨_, Check.unresolvedReference_marks⟩

theorem Check.nodup_ids (allowed : List String) : ((Check.all allowed).map Check.id).Nodup := by
  change (["response_envelope", "numeric_id", "idkey_route", "hook_wrapping", "type_alignment",
    "unresolved_reference"] : List String).Nodup
  decide

theorem Check.Marks.filter_run {check : Check} {severity : Severity} (marks : check.Marks severity)
    (snapshot : Snapshot) (id : String) :
    (check.run snapshot).filter (·.checkId == id) = if check.id = id then check.run snapshot else [] := by
  apply filter_eq_ite
  intro violation found
  rw [(marks snapshot violation found).2, beq_eq_decide]

theorem Check.filter_flatMap_run {snapshot : Snapshot} {checks : List Check}
    (marks : ∀ check ∈ checks, ∃ severity, check.Marks severity) (distinct : (checks.map Check.id).Nodup)
    {check : Check} (member : check ∈ checks) :
    (checks.flatMap fun check => check.run snapshot).filter (·.checkId == check.id) = check.run snapshot := by
  induction checks with
  | nil => cases member
  | cons first rest ih =>
    rw [List.forall_mem_cons] at marks
    obtain ⟨⟨severity, marks⟩, later⟩ := marks
    rw [List.map_cons, List.nodup_cons] at distinct
    rw [List.flatMap_cons, List.filter_append, marks.filter_run]
    rcases List.mem_cons.1 member with rfl | member
    · have others : (rest.flatMap fun other => other.run snapshot).filter (·.checkId == check.id) = [] := by
        rw [List.filter_eq_nil_iff]
        intro violation found same
        obtain ⟨other, listed, found⟩ := List.mem_flatMap.1 found
        obtain ⟨_, marks⟩ := later other listed
        have named : other.id = check.id := (marks snapshot violation found).2.symm.trans (beq_iff_eq.1 same)
        exact distinct.1 (named ▸ List.mem_map_of_mem listed)
      rw [if_pos rfl, others, List.append_nil]
    · have differs : first.id ≠ check.id := by
        intro same
        exact distinct.1 (same ▸ List.mem_map_of_mem member)
      rw [if_neg differs, List.nil_append]
      exact ih later distinct.2 member

section Verification

variable (snapshot : Snapshot) (allowed : List String)

theorem Report.violations_ofSnapshot : (ofSnapshot snapshot allowed).violations =
    (ofSnapshot snapshot allowed).checks.flatMap fun check => (ofSnapshot snapshot allowed).forCheck check.id := by
  have own (check : Check) (member : check ∈ Check.all allowed) :
      (ofSnapshot snapshot allowed).forCheck check.id = check.run snapshot :=
    Check.filter_flatMap_run (fun _ => Check.exists_marks) (Check.nodup_ids allowed) member
  calc (ofSnapshot snapshot allowed).violations
    _ = (Check.all allowed).flatMap fun check => (ofSnapshot snapshot allowed).forCheck check.id :=
        List.flatMap_congr fun check member => (own check member).symm
    _ = _ := by rw [ofSnapshot, List.flatMap_map]

theorem Report.failures_sublist_lines (passed : Bool) :
    (((ofSnapshot snapshot allowed).violations.filter (·.severity == .fail)).map Violation.line).Sublist
      ((ofSnapshot snapshot allowed).linesStating passed) := by
  rw [violations_ofSnapshot, List.filter_flatMap, List.map_flatMap, linesStating]
  refine List.Sublist.trans ?_ (List.sublist_append_left _ _)
  exact (failures_sublist_sectionsFrom _ 1 _).trans (List.sublist_append_right _ _)

end Verification

end FrontendAtlas.Contract
