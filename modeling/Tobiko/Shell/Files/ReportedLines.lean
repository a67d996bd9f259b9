import Mathlib.Data.List.Induction
import Tobiko.Shell.Files.LogFileDigger

/-!
Contract: the lines that a `LogFileDigger` finds and reports as new.

Owns: what one call adds to the found lines, what they are after any calls, and when no line is
reported twice.

Does not own: the digger.

A line that a search gives twice before it was found is reported twice, since the lines of a
search are compared with the found ones before any of them is added.
-/

namespace Tobiko.Shell.Files

open Tobiko.Foundation

section Lines

variable {Line Exc : Type} [DecidableEq Line]

/-! ### One call -/

theorem unseen_filter {seen lines : List Line} :
    unseen id seen (lines.filter fun line => decide (line ∉ seen)) = unseen id seen lines := by
  have kept : ∀ more : List Line, seen ⊆ more →
      unseen id more (lines.filter fun line => decide (line ∉ seen)) = unseen id more lines := by
    induction lines with
    | nil => exact fun _ _ => rfl
    | cons line lines inductionHypothesis =>
        intro more subset
        rw [unseen_cons, id_eq]
        by_cases before : line ∈ seen
        · rw [List.filter_cons_of_neg (by simpa using before), if_pos (subset before)]
          exact inductionHypothesis more subset
        · rw [List.filter_cons_of_pos (by simpa using before), unseen_cons, id_eq,
            inductionHypothesis more subset,
            inductionHypothesis (line :: more) (List.subset_cons_of_subset _ subset)]
  exact kept seen (List.Subset.refl seen)

theorem foundLines_add (digger : LogFileDigger Line) (lines : List Line) :
    (digger.add (digger.newLines lines)).foundLines =
      digger.foundLines ++ unseen id digger.foundLines lines := by
  have names : ((digger.newLines lines).map fun line => (line, ())).map Prod.fst =
      digger.newLines lines := by
    rw [List.map_map]
    exact List.map_id _
  show (((digger.newLines lines).map fun line => (line, ())).foldl _ digger.found).keys = _
  rw [Dict.keys_foldl_set, names]
  congr 1
  exact unseen_filter

/-- What a call leaves: the lines of its search are found, and the others stay. -/
theorem findLines_spec (digger : LogFileDigger Line) (grepLines : String → Grepped Line Exc)
    (pattern : Option String) (newLines : Bool) :
    (digger.findLines grepLines pattern newLines).2.pattern = digger.pattern ∧
      (digger.findLines grepLines pattern newLines).2.foundLines = digger.foundLines ++
        unseen id digger.foundLines (greppedLines digger.pattern grepLines pattern) := by
  have nothing : digger.foundLines = digger.foundLines ++ unseen id digger.foundLines [] :=
    (List.append_nil _).symm
  unfold LogFileDigger.findLines greppedLines
  cases (searchPattern digger.pattern pattern : Except (DiggerError Exc) String) with
  | error error => exact ⟨rfl, nothing⟩
  | ok pattern =>
      dsimp only
      cases grepLines pattern with
      | raises error => exact ⟨rfl, nothing⟩
      | noMatchingLinesFound => exact ⟨rfl, nothing⟩
      | lines lines => exact ⟨rfl, foundLines_add digger lines⟩

theorem returnedAsNew_eq (digger : LogFileDigger Line) (grepLines : String → Grepped Line Exc)
    (pattern : Option String) :
    Call.returnedAsNew digger (.findNewLines grepLines pattern) =
      digger.newLines (greppedLines digger.pattern grepLines pattern) := by
  unfold Call.returnedAsNew
  dsimp only
  unfold LogFileDigger.findNewLines LogFileDigger.findLines greppedLines
  cases (searchPattern digger.pattern pattern : Except (DiggerError Exc) String) with
  | error error => rfl
  | ok pattern =>
      dsimp only
      cases grepLines pattern with
      | raises error => rfl
      | noMatchingLinesFound => rfl
      | lines lines => rfl

theorem setupFixture_spec (digger : LogFileDigger Line) (grepLines : String → Grepped Line Exc) :
    (digger.setupFixture grepLines).2.pattern = digger.pattern ∧
      (digger.setupFixture grepLines).2.foundLines = digger.foundLines ++
        unseen id digger.foundLines (greppedLines digger.pattern grepLines none) := by
  unfold LogFileDigger.setupFixture
  cases own : digger.pattern with
  | none => exact ⟨own, (List.append_nil _).symm⟩
  | some pattern =>
      have found := findLines_spec digger grepLines none false
      rw [own] at found
      exact found

/-! ### Any calls -/

omit [DecidableEq Line] in
theorem greppedSince_concat (own : Option String) (calls : List (Call Line Exc))
    (call : Call Line Exc) :
    greppedSince own (calls ++ [call]) =
      match call with
      | .cleanUp => []
      | call => greppedSince own calls ++ call.greppedLines own := by
  rw [greppedSince, List.foldl_append]
  rfl

theorem run_concat (history : History Line) (calls : List (Call Line Exc))
    (call : Call Line Exc) : history.run (calls ++ [call]) = (history.run calls).step call := by
  rw [History.run, List.foldl_append]
  rfl

theorem mem_firstOccurrences {lines : List Line} {line : Line} :
    line ∈ firstOccurrences id lines ↔ line ∈ lines := by
  have same := @mem_keys_firstOccurrences _ _ _ id lines line
  rwa [List.map_id, List.map_id] at same

theorem firstOccurrences_search {found grepped lines : List Line}
    (same : found = firstOccurrences id grepped) :
    found ++ unseen id found lines = firstOccurrences id (grepped ++ lines) := by
  rw [firstOccurrences_append, same]
  congr 1
  apply unseen_congr
  intro line _
  rw [id_eq, mem_firstOccurrences, List.map_id]

/-- The found lines are the first occurrences of those that searches gave. -/
theorem foundLines_run (own : Option String) (calls : List (Call Line Exc)) :
    ((History.new own).run calls).digger.pattern = own ∧
      ((History.new own).run calls).digger.foundLines =
        firstOccurrences id (greppedSince own calls) := by
  induction calls using List.reverseRecOn with
  | nil => exact ⟨rfl, rfl⟩
  | append_singleton calls call inductionHypothesis =>
      obtain ⟨pattern, found⟩ := inductionHypothesis
      rw [run_concat, greppedSince_concat]
      cases call with
      | cleanUp => exact ⟨pattern, rfl⟩
      | findLines grepLines given =>
          obtain ⟨kept, added⟩ :=
            findLines_spec ((History.new own).run calls).digger grepLines given false
          rw [pattern] at kept added
          exact ⟨kept, added.trans (firstOccurrences_search found)⟩
      | findNewLines grepLines given =>
          obtain ⟨kept, added⟩ :=
            findLines_spec ((History.new own).run calls).digger grepLines given true
          rw [pattern] at kept added
          exact ⟨kept, added.trans (firstOccurrences_search found)⟩
      | setUp grepLines =>
          obtain ⟨kept, added⟩ :=
            setupFixture_spec ((History.new own).run calls).digger grepLines
          rw [pattern] at kept added
          exact ⟨kept, added.trans (firstOccurrences_search found)⟩

theorem mem_foundLines_run (own : Option String) (calls : List (Call Line Exc)) {line : Line} :
    line ∈ ((History.new own).run calls).digger.foundLines ↔ line ∈ greppedSince own calls := by
  rw [(foundLines_run own calls).2, mem_firstOccurrences]

/-- The lines of a search that no search gave before. -/
def freshLines (own : Option String) (calls : List (Call Line Exc))
    (grepLines : String → Grepped Line Exc) (given : Option String) : List Line :=
  (greppedLines own grepLines given).filter fun line => decide (line ∉ greppedSince own calls)

theorem returnedAsNew_run (own : Option String) (calls : List (Call Line Exc))
    (grepLines : String → Grepped Line Exc) (given : Option String) :
    Call.returnedAsNew ((History.new own).run calls).digger (.findNewLines grepLines given) =
      freshLines own calls grepLines given := by
  rw [returnedAsNew_eq, (foundLines_run own calls).1]
  unfold LogFileDigger.newLines freshLines
  apply List.filter_congr
  intro line _
  have same : line ∈ ((History.new own).run calls).digger.found.keys ↔
      line ∈ greppedSince own calls := mem_foundLines_run own calls
  exact decide_eq_decide.mpr (not_congr same)

/-- What was reported was found. -/
theorem reported_subset (own : Option String) (calls : List (Call Line Exc)) :
    ((History.new own).run calls).reported ⊆ greppedSince own calls := by
  induction calls using List.reverseRecOn with
  | nil => exact List.Subset.refl []
  | append_singleton calls call inductionHypothesis =>
      rw [run_concat, greppedSince_concat]
      have nothing : ∀ more, ((History.new own).run calls).reported ++ [] ⊆
          greppedSince own calls ++ more := by
        intro more line member
        rw [List.append_nil] at member
        exact List.mem_append_left _ (inductionHypothesis member)
      cases call with
      | cleanUp => exact List.Subset.refl []
      | findLines grepLines given => exact nothing _
      | setUp grepLines => exact nothing _
      | findNewLines grepLines given =>
          show ((History.new own).run calls).reported ++
            Call.returnedAsNew _ (.findNewLines grepLines given) ⊆ _
          rw [returnedAsNew_run]
          intro line member
          rcases List.mem_append.mp member with before | now
          · exact List.mem_append_left _ (inductionHypothesis before)
          · exact List.mem_append_right _ (List.mem_of_mem_filter now)

/-! ### The verdict -/

/-- After each call the found lines are those of the searches, no line was reported twice, and
none as new that had been found. -/
structure ReportsOnce (own : Option String) (calls : List (Call Line Exc)) : Prop where
  found : ((History.new own).run calls).digger.foundLines =
    firstOccurrences id (greppedSince own calls)
  reported : ((History.new own).run calls).reported.Nodup
  fresh : ∀ call : Call Line Exc, ∀ line ∈ call.returnedAsNew ((History.new own).run calls).digger,
    line ∉ greppedSince own calls

/-- No search for new lines gives a line twice that none gave before. -/
def SearchesOnce (own : Option String) (calls : List (Call Line Exc)) : Prop :=
  ∀ before grepLines given, before ++ [.findNewLines grepLines given] <+: calls →
    (freshLines own before grepLines given).Nodup

theorem returnedAsNew_fresh (own : Option String) (calls : List (Call Line Exc))
    (call : Call Line Exc) :
    ∀ line ∈ call.returnedAsNew ((History.new own).run calls).digger,
      line ∉ greppedSince own calls := by
  cases call with
  | cleanUp => exact fun _ member => absurd member List.not_mem_nil
  | findLines grepLines given => exact fun _ member => absurd member List.not_mem_nil
  | setUp grepLines => exact fun _ member => absurd member List.not_mem_nil
  | findNewLines grepLines given =>
      rw [returnedAsNew_run]
      intro line member
      simpa using (List.mem_filter.mp member).2

theorem nodup_reported (own : Option String) (calls : List (Call Line Exc))
    (once : SearchesOnce own calls) : ((History.new own).run calls).reported.Nodup := by
  induction calls using List.reverseRecOn with
  | nil => exact List.nodup_nil
  | append_singleton calls call inductionHypothesis =>
      have before := inductionHypothesis fun earlier grepLines given isPrefix =>
        once earlier grepLines given (isPrefix.trans (List.prefix_append _ _))
      rw [run_concat]
      cases call with
      | cleanUp => exact List.nodup_nil
      | findLines grepLines given =>
          show (_ ++ []).Nodup
          rwa [List.append_nil]
      | setUp grepLines =>
          show (_ ++ []).Nodup
          rwa [List.append_nil]
      | findNewLines grepLines given =>
          show (_ ++ Call.returnedAsNew _ (.findNewLines grepLines given)).Nodup
          rw [returnedAsNew_run]
          apply List.nodup_append'.mpr
          refine ⟨before, once calls grepLines given (List.prefix_refl _), ?_⟩
          intro line reported fresh
          have notBefore : line ∉ greppedSince own calls := by
            simpa using (List.mem_filter.mp fresh).2
          exact notBefore (reported_subset own calls reported)

/-- **The reports of a digger.** After every call of a history the found lines are, in the order
of their first appearance, those that searches gave since the last clean up, and no line was
reported twice or after it was found, if and only if no search for new lines gives a line twice
that none gave before. -/
theorem logFileDigger_reportsOnce_iff (own : Option String) (calls : List (Call Line Exc)) :
    (∀ before, before <+: calls → ReportsOnce own before) ↔ SearchesOnce own calls := by
  constructor
  · intro reports before grepLines given isPrefix
    have after := (reports _ isPrefix).reported
    rw [run_concat] at after
    change (_ ++ Call.returnedAsNew _ (.findNewLines grepLines given)).Nodup at after
    rw [returnedAsNew_run] at after
    exact after.of_append_right
  · intro once before isPrefix
    refine ⟨(foundLines_run own before).2, ?_, returnedAsNew_fresh own before⟩
    apply nodup_reported own before
    exact fun earlier grepLines given within => once earlier grepLines given (within.trans isPrefix)

end Lines

/-- A line that is twice in the log. -/
theorem logFileDigger_reports_twice :
    ¬ReportsOnce (some "error")
      [(.findNewLines (fun _ => .lines ["an error", "an error"]) none : Call String Unit)] := by
  intro reports
  have once := reports.reported
  revert once
  decide

end Tobiko.Shell.Files
