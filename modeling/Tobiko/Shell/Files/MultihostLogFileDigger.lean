import Tobiko.Shell.Files.ReportedLines

/-!
Contract: `MultihostLogFileDigger` of `tobiko/shell/files/_logs.py`.

Owns: one digger for each host, their set up, `find_lines` over all of them, and what it finds
in logs to which lines are only appended.

Does not own: the diggers, and what a search gives on a host.
-/

namespace Tobiko.Shell.Files

open Tobiko.Foundation

section Multihost

variable {Host Line Exc : Type}

/-- The items of `diggers`, one for each host. -/
abbrev Diggers (Host Line : Type) := List (Host × LogFileDigger Line)

/-- `add_host`: a host that has a digger keeps it. -/
def addHost [DecidableEq Host] (pattern : Option String) (diggers : Diggers Host Line)
    (host : Host) : Diggers Host Line :=
  if host ∈ diggers.map Prod.fst then diggers else diggers ++ [(host, .new pattern)]

variable [DecidableEq Line] (grepLines : Host → String → Grepped Line Exc)

/-- `useFixture` of each digger. -/
def setUpDiggers : Diggers Host Line → Except (DiggerError Exc) Unit × Diggers Host Line
  | [] => (.ok (), [])
  | (host, digger) :: diggers =>
      match digger.setupFixture (grepLines host) with
      | (.error error, after) => (.error error, (host, after) :: diggers)
      | (.ok (), after) =>
          let (result, others) := setUpDiggers diggers
          (result, (host, after) :: others)

/-- The loop of `find_lines`. -/
def findHostLines (pattern : Option String) (newLines : Bool) :
    Diggers Host Line → Except (DiggerError Exc) (List (Host × Line)) × Diggers Host Line
  | [] => (.ok [], [])
  | (host, digger) :: diggers =>
      match digger.findLines (grepLines host) pattern newLines with
      | (.error error, after) => (.error error, (host, after) :: diggers)
      | (.ok lines, after) =>
          let (result, others) := findHostLines pattern newLines diggers
          (result.map fun found => lines.map (Prod.mk host) ++ found, (host, after) :: others)

end Multihost

/-! ### Searches of logs -/

section Logs

variable {Host Line Exc : Type}

/-- The search of a log, which gives its matching lines. -/
def grepLog (matching : Line → Bool) (log : List Line) (_pattern : String) : Grepped Line Exc :=
  if (log.filter matching).isEmpty then .noMatchingLinesFound else .lines (log.filter matching)

/-- Each digger has the pattern and has found the lines of its host. -/
def Found (pattern : String) (lines : Host → List Line) (diggers : Diggers Host Line) : Prop :=
  ∀ entry ∈ diggers, entry.2.pattern = some pattern ∧ entry.2.foundLines = lines entry.1

theorem greppedLines_grepLog (matching : Line → Bool) (log : List Line) (pattern : String) :
    greppedLines (some pattern) (grepLog matching log : String → Grepped Line Exc) none =
      log.filter matching := by
  have searched : (searchPattern (some pattern) none : Except (DiggerError Exc) String) =
      .ok pattern := rfl
  unfold greppedLines
  rw [searched]
  dsimp only
  unfold grepLog
  split
  · rename_i lines found
    split at found
    · cases found
    · cases found
      rfl
  · rename_i other
    cases matched : log.filter matching with
    | nil => rfl
    | cons first others =>
        rw [matched] at other
        exact absurd rfl (other (first :: others))

variable [DecidableEq Line]

theorem unseen_nil_of_nodup {lines : List Line} (distinct : lines.Nodup) {seen : List Line}
    (fresh : ∀ line ∈ lines, line ∉ seen) : unseen id seen lines = lines := by
  induction lines generalizing seen with
  | nil => rfl
  | cons line lines inductionHypothesis =>
      obtain ⟨absent, rest⟩ := List.nodup_cons.mp distinct
      rw [unseen_cons, id_eq, if_neg (fresh line List.mem_cons_self)]
      congr 1
      apply inductionHypothesis rest
      intro other member
      rw [List.mem_cons, not_or]
      refine ⟨fun same => absent (same ▸ member), ?_⟩
      exact fresh other (List.mem_cons_of_mem _ member)

theorem findLines_result (matching : Line → Bool) (log : List Line) {digger : LogFileDigger Line}
    {pattern : String} (own : digger.pattern = some pattern) (newLines : Bool) :
    (digger.findLines (grepLog matching log : String → Grepped Line Exc) none newLines).1 =
      .ok (if newLines then digger.newLines (log.filter matching)
        else (digger.findLines (grepLog matching log : String → Grepped Line Exc) none
          newLines).2.foundLines) := by
  unfold LogFileDigger.findLines
  rw [own]
  cases matched : log.filter matching with
  | nil =>
      have nothing : (grepLog matching log pattern : Grepped Line Exc) = .noMatchingLinesFound := by
        unfold grepLog
        rw [matched]
        rfl
      simp only [searchPattern, nothing]
      rfl
  | cons first others =>
      have something : (grepLog matching log pattern : Grepped Line Exc) =
          .lines (first :: others) := by
        unfold grepLog
        rw [matched]
        rfl
      simp only [searchPattern, something]

/-- A search of a log that begins with the found lines adds the rest of them. -/
theorem findLines_grepLog {matching : Line → Bool} {log before rest : List Line}
    (matched : log.filter matching = before ++ rest) (distinct : (before ++ rest).Nodup)
    {digger : LogFileDigger Line} {pattern : String} (own : digger.pattern = some pattern)
    (found : digger.foundLines = before) (newLines : Bool) :
    ∃ after, digger.findLines (grepLog matching log : String → Grepped Line Exc) none newLines =
        (.ok (if newLines then rest else before ++ rest), after) ∧
      after.pattern = some pattern ∧ after.foundLines = before ++ rest := by
  have parts := List.nodup_append'.mp distinct
  have searched : greppedLines (some pattern)
      (grepLog matching log : String → Grepped Line Exc) none = log.filter matching :=
    greppedLines_grepLog matching log pattern
  obtain ⟨kept, added⟩ := findLines_spec digger
    (grepLog matching log : String → Grepped Line Exc) none newLines
  have result : (digger.findLines (grepLog matching log : String → Grepped Line Exc) none
      newLines).1 = _ := findLines_result matching log own newLines
  have whole : (digger.findLines (grepLog matching log : String → Grepped Line Exc) none
      newLines).2.foundLines = before ++ rest := by
    have fresh : unseen id before rest = rest :=
      unseen_nil_of_nodup parts.2.1 fun line inRest inBefore => parts.2.2 inBefore inRest
    have again : unseen id before before = [] := unseen_eq_nil fun line member => member
    have together : unseen id before (before ++ rest) = unseen id before before ++
        unseen id before rest := unseen_append fun line _ => by simp
    rw [added, own, searched, matched, found, together, again, fresh, List.nil_append]
  have new : digger.newLines (log.filter matching) = rest := by
    have old : before.filter (fun line => decide (line ∉ before)) = [] := by
      apply List.filter_eq_nil_iff.mpr
      intro line member
      simpa using member
    have kept : rest.filter (fun line => decide (line ∉ before)) = rest := by
      apply List.filter_eq_self.mpr
      intro line inRest
      simpa using fun inBefore => parts.2.2 inBefore inRest
    change digger.found.keys = before at found
    unfold LogFileDigger.newLines
    rw [matched, found, List.filter_append, old, kept, List.nil_append]
  rw [new, whole] at result
  exact ⟨_, Prod.ext result rfl, kept.trans own, whole⟩

/-! ### Searches on all the hosts -/

section Hosts

variable {matching : Line → Bool} {logs before rest : Host → List Line} {pattern : String}

/-- What the logs have is what was found and the rest. -/
def Continues (matching : Line → Bool) (logs before rest : Host → List Line)
    (hosts : List Host) : Prop :=
  ∀ host ∈ hosts, (logs host).filter matching = before host ++ rest host ∧
    (before host ++ rest host).Nodup

theorem findHostLines_eq {diggers : Diggers Host Line} (found : Found pattern before diggers)
    (continues : Continues matching logs before rest (diggers.map Prod.fst)) (newLines : Bool) :
    ∃ after, findHostLines (fun host =>
        (grepLog matching (logs host) : String → Grepped Line Exc)) none newLines diggers =
        (.ok ((diggers.map Prod.fst).flatMap fun host =>
          (if newLines then rest host else before host ++ rest host).map (Prod.mk host)), after) ∧
      after.map Prod.fst = diggers.map Prod.fst ∧
      Found pattern (fun host => before host ++ rest host) after := by
  induction diggers with
  | nil => exact ⟨[], rfl, rfl, fun _ member => absurd member List.not_mem_nil⟩
  | cons entry diggers inductionHypothesis =>
      obtain ⟨host, digger⟩ := entry
      obtain ⟨own, foundHere⟩ := found (host, digger) List.mem_cons_self
      obtain ⟨matched, distinct⟩ := continues host List.mem_cons_self
      obtain ⟨digger', searched, own', found'⟩ : ∃ after,
          digger.findLines (grepLog matching (logs host) : String → Grepped Line Exc) none newLines =
            (.ok (if newLines then rest host else before host ++ rest host), after) ∧
          after.pattern = some pattern ∧ after.foundLines = before host ++ rest host :=
        findLines_grepLog matched distinct own foundHere newLines
      obtain ⟨others, searchedOthers, names, foundOthers⟩ := inductionHypothesis
        (fun other member => found other (List.mem_cons_of_mem _ member))
        (fun other member => continues other (List.mem_cons_of_mem _ member))
      refine ⟨(host, digger') :: others, ?_, ?_, ?_⟩
      · rw [findHostLines, searched, searchedOthers]
        rfl
      · rw [List.map_cons, names, List.map_cons]
      · intro other member
        rcases List.mem_cons.mp member with rfl | inOthers
        · exact ⟨own', found'⟩
        · exact foundOthers other inOthers

/-- The set up of new diggers finds all that the logs have. -/
theorem setUpDiggers_eq {diggers : Diggers Host Line} (found : Found pattern (fun _ => []) diggers)
    (distinct : ∀ host ∈ diggers.map Prod.fst, ((logs host).filter matching).Nodup) :
    ∃ after, setUpDiggers (fun host =>
        (grepLog matching (logs host) : String → Grepped Line Exc)) diggers = (.ok (), after) ∧
      after.map Prod.fst = diggers.map Prod.fst ∧
      Found pattern (fun host => (logs host).filter matching) after := by
  induction diggers with
  | nil => exact ⟨[], rfl, rfl, fun _ member => absurd member List.not_mem_nil⟩
  | cons entry diggers inductionHypothesis =>
      obtain ⟨host, digger⟩ := entry
      obtain ⟨own, foundHere⟩ := found (host, digger) List.mem_cons_self
      have distinctHere := distinct host List.mem_cons_self
      obtain ⟨digger', searched, own', found'⟩ : ∃ after,
          digger.findLines (grepLog matching (logs host) : String → Grepped Line Exc) none false =
            (.ok (if false then (logs host).filter matching
              else [] ++ (logs host).filter matching), after) ∧
          after.pattern = some pattern ∧ after.foundLines = [] ++ (logs host).filter matching :=
        findLines_grepLog rfl distinctHere own foundHere false
      obtain ⟨others, setUpOthers, names, foundOthers⟩ := inductionHypothesis
        (fun other member => found other (List.mem_cons_of_mem _ member))
        (fun other member => distinct other (List.mem_cons_of_mem _ member))
      have setUp : digger.setupFixture (grepLog matching (logs host) :
          String → Grepped Line Exc) = (.ok (), digger') := by
        unfold LogFileDigger.setupFixture
        rw [own]
        dsimp only
        rw [searched]
        rfl
      refine ⟨(host, digger') :: others, ?_, ?_, ?_⟩
      · rw [setUpDiggers, setUp, setUpOthers]
      · rw [List.map_cons, names, List.map_cons]
      · intro other member
        rcases List.mem_cons.mp member with rfl | inOthers
        · exact ⟨own', found'⟩
        · exact foundOthers other inOthers

end Hosts

omit [DecidableEq Line] in
/-- The hosts of the added diggers, each one once. -/
theorem names_addHosts [DecidableEq Host] (pattern : Option String) (hosts : List Host)
    (diggers : Diggers Host Line) :
    (hosts.foldl (addHost pattern) diggers).map Prod.fst =
      diggers.map Prod.fst ++ unseen id (diggers.map Prod.fst) hosts := by
  induction hosts generalizing diggers with
  | nil => exact (List.append_nil _).symm
  | cons host hosts inductionHypothesis =>
      rw [List.foldl_cons, inductionHypothesis, unseen_cons, id_eq]
      unfold addHost
      by_cases known : host ∈ diggers.map Prod.fst
      · rw [if_pos known, if_pos known]
      · rw [if_neg known, if_neg known, List.map_append, List.append_assoc]
        show _ ++ ([host] ++ _) = _
        rw [List.singleton_append]
        congr 2
        apply unseen_congr
        intro other _
        simp [or_comm]

omit [DecidableEq Line] in
theorem found_addHosts [DecidableEq Host] (pattern : String) (hosts : List Host)
    {diggers : Diggers Host Line} (found : Found pattern (fun _ => []) diggers) :
    Found pattern (fun _ => []) (hosts.foldl (addHost (some pattern)) diggers) := by
  induction hosts generalizing diggers with
  | nil => exact found
  | cons host hosts inductionHypothesis =>
      rw [List.foldl_cons]
      apply inductionHypothesis
      unfold addHost
      split
      · exact found
      · intro entry member
        rcases List.mem_append.mp member with old | new
        · exact found entry old
        · rw [List.mem_singleton.mp new]
          exact ⟨rfl, rfl⟩

end Logs

end Tobiko.Shell.Files
