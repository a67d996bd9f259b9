import Tobiko.Shell.Ping.LossChecks

/-!
Contract: the check of the logs of custom scripts, as `check_results` makes it, and the limit that it
shares with the checks of pings.

Owns: which lines of such a log are failures, and exactly when the checks of logs fail the test if and
only if the limit is exceeded.

Does not own: the loop over the logs and the checks of pings.

`jsonutils.loads` of oslo.serialization, which reads a line of such a log, is `json.loads` on a text.
-/

namespace Tobiko.Shell.CustomScript

open Tobiko.Foundation

def resultOk : Text := "OK".toList

structure LogFile where
  filename : Text
  lines : List Text

/-- `value[key] = item` on a `dict`. -/
def setItem (value : Json) (key : Text) (item : Json) : Json :=
  match value with
  | .object members => .object (members ++ [(Json.codes key, item)])
  | other => other

/-- The body of the loop over the lines of a file. -/
def checkScriptLine (filename : Text) : LineCheck := fun failuresList logLine =>
  match Json.loads (Text.rstrip logLine) with
  | none => .error .jsonDecodeError
  | some logLineJson => do
      let response ← logLineJson.getItem .access "response".toList
      if response ≠ .string (Json.codes resultOk) then
        .ok (failuresList ++
          [setItem logLineJson "filename".toList (.string (Json.codes filename))])
      else .ok failuresList

def checkResults (failureLimit : Int) (logFiles : List LogFile) : Except LogError Unit :=
  checkLogs (fun file =>
    checkLog (checkScriptLine file.filename) "filename".toList failureLimit file.lines) logFiles

/-- A line that a custom script may have written. -/
def ScriptEntry (line : Text) (failed : Bool) : Prop :=
  ∃ members response, Json.loads (Text.rstrip line) = some (.object members) ∧
    Json.member members "response".toList = some response ∧
    failed = decide (response ≠ .string (Json.codes resultOk))

theorem ScriptEntry.entry {line : Text} {failed : Bool} (entry : ScriptEntry line failed)
    (filename : Text) : Entry (checkScriptLine filename) "filename".toList line failed := by
  obtain ⟨members, response, loaded, hasResponse, rfl⟩ := entry
  refine ⟨setItem (.object members) "filename".toList (.string (Json.codes filename)),
    fun failures => ?_, .string (Json.codes filename), ?_⟩
  · unfold checkScriptLine
    rw [loaded]
    dsimp only [Json.getItem, bind, Except.bind]
    rw [hasResponse]
    dsimp only
    by_cases fine : response = .string (Json.codes resultOk)
    · rw [if_neg (not_not.mpr fine), decide_eq_false (not_not.mpr fine)]
      rfl
    · rw [if_pos fine, decide_eq_true fine]
      rfl
  · unfold setItem Json.getItem Json.member
    dsimp only
    rw [List.reverse_append, List.reverse_singleton, List.singleton_append, List.find?_cons_of_pos]
    · rfl
    · exact decide_eq_true rfl

/-- The lines of a log are well formed, and so many of them failed. -/
def HasFailures (IsEntry : Text → Bool → Prop) (lines : List Text) (count : Nat) : Prop :=
  ∃ failed, List.Forall₂ IsEntry lines failed ∧ failed.count true = count

theorem HasFailures.logged {IsEntry : Text → Bool → Prop} {checkLine : LineCheck} {nameKey : Text}
    (entry : ∀ {line failed}, IsEntry line failed → Entry checkLine nameKey line failed)
    {lines : List Text} {count : Nat} (failures : HasFailures IsEntry lines count) :
    Logged checkLine nameKey lines count := by
  obtain ⟨failed, entries, same⟩ := failures
  exact ⟨failed, entries.imp fun _ _ => entry, same⟩

theorem checkPingStatistics_iff {failureLimit : Int} (nonneg : 0 ≤ failureLimit)
    {files : List (List Text)} {counts : List Nat} (nonempty : files ≠ [])
    (failures : List.Forall₂ (HasFailures Ping.PingEntry) files counts) :
    FailsAbove failureLimit counts (Ping.checkPingStatistics failureLimit files) ↔
      BoundaryFree failureLimit counts := by
  have same : Ping.checkPingStatistics failureLimit files =
      checkLogs (checkLog Ping.checkPingLine "destination".toList failureLimit) files := by
    unfold Ping.checkPingStatistics
    rw [if_neg nonempty]
    cases checkLogs (checkLog Ping.checkPingLine "destination".toList failureLimit) files with
    | error error => rfl
    | ok checked => rfl
  rw [same]
  apply failsAbove_iff nonneg
  refine failures.imp fun lines count hasFailures => ?_
  have checked := @checkLog_logged Ping.checkPingLine _ failureLimit _ _
    (hasFailures.logged Ping.PingEntry.entry)
  exact ⟨checked.1, checked.2.1, checked.2.2⟩

theorem checkResults_iff {failureLimit : Int} (nonneg : 0 ≤ failureLimit)
    {logFiles : List LogFile} {counts : List Nat}
    (failures : List.Forall₂ (fun file => HasFailures ScriptEntry file.lines) logFiles counts) :
    FailsAbove failureLimit counts (checkResults failureLimit logFiles) ↔
      BoundaryFree failureLimit counts := by
  apply failsAbove_iff nonneg
  refine failures.imp fun file count hasFailures => ?_
  have checked := @checkLog_logged (checkScriptLine file.filename) _ failureLimit _ _
    (hasFailures.logged fun entry => ScriptEntry.entry entry file.filename)
  exact ⟨checked.1, checked.2.1, checked.2.2⟩

/-- **The checks of logs compare the failures with the limit as `check_ping_results` compares the
lost packets, exactly as long as no log reaches the limit only.** -/
theorem lossChecks_agree_iff {failureLimit : Int} (nonneg : 0 ≤ failureLimit) :
    (∀ (files : List (List Text)) (counts : List Nat), files ≠ [] →
      List.Forall₂ (HasFailures Ping.PingEntry) files counts →
      (FailsAbove failureLimit counts (Ping.checkPingStatistics failureLimit files) ↔
        BoundaryFree failureLimit counts)) ∧
    (∀ (logFiles : List LogFile) (counts : List Nat),
      List.Forall₂ (fun file => HasFailures ScriptEntry file.lines) logFiles counts →
      (FailsAbove failureLimit counts (checkResults failureLimit logFiles) ↔
        BoundaryFree failureLimit counts)) ∧
    (∀ (Address AddressError : Type) (ipAddress : Text → Except AddressError Address)
      (isPreventCreate : Bool) (pingLogRaw : Text),
      0 < (Ping.parsePingStatistics ipAddress pingLogRaw none none).transmitted →
      0 < (Ping.parsePingStatistics ipAddress pingLogRaw none none).received →
      pingLogRaw ≠ [] →
      Ping.checkPingResults ipAddress failureLimit false isPreventCreate (some pingLogRaw) =
        if failureLimit < (Ping.parsePingStatistics ipAddress pingLogRaw none none).transmitted -
            (Ping.parsePingStatistics ipAddress pingLogRaw none none).received then
          .error .loss
        else .ok ()) :=
  ⟨fun _ _ nonempty failures => checkPingStatistics_iff nonneg nonempty failures,
    fun _ _ failures => checkResults_iff nonneg failures,
    fun _ _ _ _ _ transmitted received nonempty =>
      Ping.checkPingResults_eq nonempty transmitted received⟩

/-- The line of a ping that was not answered. -/
def lostLine : Text :=
  "\x7b\"destination\": \"10.0.0.5\", \"transmitted\": 1, \"received\": 0\x7d\n".toList

theorem lostLine_entry : Ping.PingEntry lostLine true :=
  ⟨[(Json.codes "destination".toList, .string (Json.codes "10.0.0.5".toList)),
      (Json.codes "transmitted".toList, .number (.finite 1)),
      (Json.codes "received".toList, .number (.finite 0))], _, _, _,
    by decide +kernel, rfl, rfl, rfl, by decide +kernel⟩

theorem lossChecks_agree_ofTwo :
    FailsAbove 1 [2] (Ping.checkPingStatistics 1 [[lostLine, lostLine]]) ↔ BoundaryFree 1 [2] :=
  (lossChecks_agree_iff (by decide)).1 _ _ (List.cons_ne_nil _ _)
    (.cons ⟨[true, true], .cons lostLine_entry (.cons lostLine_entry .nil), rfl⟩ .nil)

/-- One lost ping fails the test although one is allowed, and no failure at all is an `IndexError`
where none is allowed. -/
theorem lossChecks_disagree :
    HasFailures Ping.PingEntry [lostLine] 1 ∧
      ¬FailsAbove 1 [1] (Ping.checkPingStatistics 1 [[lostLine]]) ∧
      ¬FailsAbove 0 [0] (checkResults 0 [⟨"http_ping.log".toList, []⟩]) := by
  refine ⟨⟨[true], .cons lostLine_entry .nil, rfl⟩, ?_, ?_⟩
  · intro above
    have failed : Ping.checkPingStatistics 1 [[lostLine]] =
        .error (.failure 1 (.string (Json.codes "10.0.0.5".toList))) := by
      decide +kernel
    obtain ⟨count, member, exceeds⟩ := above.fails.mp ⟨_, _, failed⟩
    rw [List.mem_singleton.mp member] at exceeds
    exact absurd exceeds (by decide)
  · intro above
    obtain ⟨_, _, same⟩ := above.nothingElse .indexError rfl
    cases same

end Tobiko.Shell.CustomScript
