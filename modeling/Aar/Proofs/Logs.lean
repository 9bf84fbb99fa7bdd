import Aar.Proofs.Projections

/-! The event log of an operation determines its record, as long as no event is written untruly. -/

namespace Aar

open Guarded Table Registry

section Expiries

variable {H : Hashing} {rules : Rules} {db : Db} {operation : String} {record : OpRecord} {now : Nat}

/-- A listed expired lease names its operation, which is running. -/
theorem expiredLeases_mem {lease : ExpiredLease}
    (listed : lease ∈ expiredLeases now operation record) :
    lease.operation = operation ∧ record.row.state = .running := by
  unfold expiredLeases at listed
  split at listed
  · split at listed
    · rename_i runs
      obtain ⟨_, -, rfl⟩ := List.mem_map.mp listed
      exact ⟨rfl, runs.1⟩
    · cases listed
  · cases listed

/-- At most one expired lease of an operation is listed. -/
theorem expiredLeases_one (owned : Owned record) (operation : String) (now : Nat) :
    (expiredLeases now operation record).length ≤ 1 := by
  unfold expiredLeases
  split
  · split
    · rename_i attemptNo _ _
      -- Expired leases are held ones, and an operation holds at most one.
      rw [List.length_map, ← List.countP_eq_length_filter]
      refine Nat.le_trans (List.countP_mono_left fun row _ expired => ?_)
        owned.leases.countP_le_one
      simp only [decide_eq_true_eq] at expired ⊢
      exact expired.2.1
    · exact Nat.zero_le _
  · exact Nat.zero_le _

/-- In a reachable database no operation is listed twice among the expired leases. -/
theorem expiredIn_distinct (reached : db.Reachable H) :
    ((expiredIn now db).map ExpiredLease.operation).Nodup := by
  have perm := List.perm_insertionSort ExpiredLease.Before
    (db.operations.flatMap fun entry => expiredLeases now entry.1 entry.2)
  refine ((perm.map ExpiredLease.operation).nodup_iff).mpr ?_
  rw [List.map_flatMap, List.nodup_flatMap]
  refine ⟨fun entry member => ?_, ?_⟩
  · have owned : Owned entry.2 :=
      owned_invariant.reachable reached entry.1 entry.2 (Db.lookup_of_mem member)
    have one := expiredLeases_one owned entry.1 now
    match expiredLeases now entry.1 entry.2, one with
    | [], _ => exact List.nodup_nil
    | [lease], _ => exact List.nodup_singleton _
  · -- Leases of different entries name different operations.
    refine (List.pairwise_map.mp db.primaryKey).imp fun {first second} differ name => ?_
    intro here there
    obtain ⟨lease, listed, rfl⟩ := List.mem_map.mp here
    obtain ⟨other, listed', same⟩ := List.mem_map.mp there
    have named := (expiredLeases_mem listed).1
    have named' := (expiredLeases_mem listed').1
    exact differ (named.symm.trans (same.symm.trans named'))

/-- Fencing leases of different running operations is allowed when that of running ones is. -/
theorem FencesAllowed.of_running
    (running : ∀ record, record.row.state = .running → rules.expiry record)
    {expired : List ExpiredLease} (distinct : (expired.map ExpiredLease.operation).Nodup)
    (runs : ∀ lease ∈ expired, ∀ record, db.lookup lease.operation = some record →
      record.row.state = .running) : FencesAllowed rules now expired db := by
  induction expired generalizing db with
  | nil => trivial
  | cons lease rest ih =>
    simp only [List.map_cons, List.nodup_cons, List.mem_map, not_exists, not_and] at distinct
    refine ⟨fun record found => running record (runs lease List.mem_cons_self record found), ?_⟩
    refine ih distinct.2 fun later member record found => ?_
    -- The lease that was fenced belongs to another operation.
    have differ : later.operation ≠ lease.operation := distinct.1 later member
    have still : (fenceEach now [lease] db).lookup later.operation = db.lookup later.operation := by
      simp only [fenceEach]
      cases db.lookup lease.operation with
      | none => rfl
      | some record => simp only [Db.lookup_commit, if_neg differ]
    rw [still] at found
    exact runs later (List.mem_cons_of_mem _ member) record found

end Expiries

section Determined

variable {H : Hashing} {db : Db} {events : List Event} {operation : String} {record : OpRecord}

/-- Every call is truthful about the record it writes beside. -/
def TruthfulCalls : Rules where
  call _ call s := call.Truthful s
  visit _ _ := True
  expiry _ := True

/-- Calls are truthful, and only leases of running operations are fenced. -/
def TruthfulSteps : Rules where
  call _ call s := call.Truthful s
  visit _ _ := True
  expiry record := record.row.state = .running

/-- In a reachable database every event whose call is truthful takes truthful steps only. -/
theorem Event.Allowed.truthful {event : Event} (reached : db.Reachable H)
    (allow : event.Allowed H TruthfulCalls db) : event.Allowed H TruthfulSteps db where
  call := allow.call
  visit _ _ _ _ _ _ := trivial
  expiry generation called := by
    refine .of_running (fun _ running => running) (expiredIn_distinct reached) ?_
    intro lease listed record found
    have perm := List.perm_insertionSort ExpiredLease.Before
      (db.operations.flatMap fun entry => expiredLeases (event.clock 0) entry.1 entry.2)
    obtain ⟨entry, member, listed'⟩ := List.mem_flatMap.mp (perm.mem_iff.mp listed)
    obtain ⟨name, running⟩ := expiredLeases_mem listed'
    cases found.symm.trans (name ▸ Db.lookup_of_mem member)
    exact running

theorem AllowedRun.truthful (allow : AllowedRun H TruthfulCalls events Db.empty) :
    AllowedRun H TruthfulSteps events Db.empty :=
  fun before event after split => (allow before event after split).truthful ⟨before, rfl⟩

/-- Along truthful steps every event log tells the truth about its record. -/
theorem truthful_invariant :
    Invariant H TruthfulSteps fun s => Journal.Truthful operationLog s.log where
  new s new := by
    obtain ⟨_, _, _, -, ⟨_, _, rows⟩, event, events, sequence, shows⟩ := new
    have coherent : s.row.Coherent := by
      rw [rows]
      exact .of_known (by simp [acceptedRecord, acceptedRow]) rfl rfl
    have behind : event.recordRevision = s.row.recordRevision :=
      congrArg Shown.recordRevision shows
    constructor
    · exact coherent
    · simp only [Scope.log, events, List.pairwise_singleton]
    · simp only [Scope.log, events, List.mem_singleton]
      rintro _ rfl
      exact Nat.le_of_eq sequence
    · simp only [Scope.log, events, List.mem_singleton]
      rintro _ rfl
      exact ⟨Nat.le_of_eq behind, fun _ => shows⟩
    · exact ⟨event, by simp only [Scope.log, events, List.getLast?_singleton], shows⟩
  step clock s s' step truthful := by
    have recorded : Recorded True s s' :=
      step.recorded (fun _ => truthful.sound) (fun _ _ allow => allow) fun _ allow => allow
    exact recorded.truthful trivial truthful

/-- As long as every call is truthful, the last event of an operation shows its record; revisions
never decrease along the log and repeat only what they showed; and an operation is indeterminate in
its state, in its certainty, and in its need of reconciliation alike. -/
theorem events_determine_record (allow : AllowedRun H TruthfulCalls events Db.empty)
    (found : (Runs.run (Event.step H) events Db.empty).lookup operation = some record) :
    (∃ event ∈ record.events, ∀ other ∈ record.events, other.sequence ≤ event.sequence) ∧
      (∀ event ∈ record.events, (∀ other ∈ record.events, other.sequence ≤ event.sequence) →
        event.state = record.row.state ∧ event.certainty = record.row.certainty ∧
          event.recordRevision = record.row.recordRevision) ∧
      (∀ first second, [first, second].Sublist record.events →
        first.recordRevision ≤ second.recordRevision ∧
          (first.recordRevision = second.recordRevision →
            first.state = second.state ∧ first.certainty = second.certainty)) ∧
      (record.row.state = .indeterminate ↔ record.row.certainty = .indeterminate) ∧
      (record.row.state = .indeterminate ↔ record.row.reconciliationRequired = true) := by
  have truthful := truthful_invariant.run allow.truthful Db.each_empty operation record found
  refine ⟨?_, fun event member highest => ?_, fun first second before => ?_, ?_, ?_⟩
  · exact truthful.last_highest
  · have shows := truthful.highest member highest
    exact ⟨congrArg Shown.state shows, congrArg Shown.certainty shows,
      congrArg Shown.recordRevision shows⟩
  · obtain ⟨below, same⟩ := truthful.pairwise before
    refine ⟨below, fun equal => ?_⟩
    have shows := same equal
    exact ⟨congrArg Shown.state shows, congrArg Shown.certainty shows⟩
  · exact truthful.sound.certainty
  · exact truthful.sound.reconciliation

/-- The event makes a call that writes the event of a running operation. -/
def Event.writesRunning (event : Event) : Bool :=
  match event.call with
  | .on _ (.registry (.commitWorkbenchRebind ..)) => true
  | .on _ (.registry (.acknowledgeWorkbenchRebind ..)) => true
  | .on _ (.registry (.bindWorkbenchRecoveryAuthority ..)) => true
  | _ => false

/-- Every other event is truthful wherever it is made. -/
theorem Event.truthful_of {event : Event} (plain : event.writesRunning = false) (db : Db) :
    event.Allowed H TruthfulCalls db where
  call operation call _ _ called _ _ := by
    simp only [Event.writesRunning, called] at plain
    cases call with
    | registry call =>
      show RegistryCall.Truthful _ call
      cases call <;> trivial
    | ticket | workbench => trivial
  visit _ _ _ _ _ _ := trivial
  expiry _ _ := .of_all (fun _ => trivial) _ _ _

end Determined

section Sample

/-- The checkpoint that a cell starts from. -/
def Sample.checkpoint : WorkspaceCheckpointManifest :=
  { contentDigest := "checkpoint", creationOperation := "op", sourceHandle := Sample.workspace
    environmentDigest := "environment", exclusionCount := 0, exclusionsDigest := "exclusions"
    artifactsDigest := "artifacts" }

/-- The worker that holds the workspace. -/
def Sample.worker : WorkerIdentity := ⟨1, "worker"⟩

/-- The first cell of a job. -/
def Sample.cellStart : Workbench.CellStart :=
  { cellIndex := 0, directive := .executeCell "code" none, checkpoint := Sample.checkpoint
    handle := Sample.workspace, worker := Sample.worker }

/-- The running job of the service suspends its first cell on a ticket. -/
def Sample.suspendedCell : List Event :=
  Sample.running "op" .serviceManaged ++
    [(Call.on "op" (.workbench
      (.executeCellStart (Sample.fence "op") Sample.cellStart))).atTime 3,
    (Call.on "op" (.registry (.suspendWorkbenchAttempt (Sample.fence "op")
      ⟨"owner@1.1", "op.0.cell code", "checkpoint"⟩
      { Sample.plannerTicket "op" with owner := .cell "op.0.cell code" 0 }))).atTime 3]

/-- The ticket of the suspended cell is settled, and its successor is claimed. -/
def Sample.claimedCell : List Event :=
  Sample.suspendedCell ++
    [(Call.on "op" (.ticket (.claim (Sample.claimTicket "op") "claim" "physical"))).atTime 4,
    Sample.mark, (Call.on "op" (.ticket (.commit (Sample.commitTicket "op")))).atTime 6,
    (Call.on "op" (.registry (.requestDispatch .rlmWorkbenchExecute))).atTime 6,
    (Call.claimNext Sample.claim).atTime 7]

/-- The successor takes the cell over. -/
def Sample.rebind : Event :=
  (Call.on "op" (.registry
    (.commitWorkbenchRebind Sample.successorFence "op.1.1" Sample.worker))).atTime 9

/-- A successor that takes a cell over while its operation runs leaves a log that shows it. -/
theorem events_determine_record_sample :
    ∃ record event, (Sample.db (Sample.claimedCell ++ [Sample.rebind])).lookup "op" = some record ∧
      event ∈ record.events ∧ event.note = "workbench_rebind_committed" ∧
      event.state = record.row.state := by
  have allow : AllowedRun .readable TruthfulCalls Sample.claimedCell Db.empty :=
    .of_each fun event member => Event.truthful_of
      ((by decide +kernel : ∀ event ∈ Sample.claimedCell, event.writesRunning = false) event member)
  have last : Sample.rebind.Allowed .readable TruthfulCalls (Sample.db Sample.claimedCell) := by
    constructor
    case visit => rintro _ _ _ ⟨⟩
    case expiry => rintro _ ⟨⟩
    intro operation call record _ called found _
    cases called
    have runs : ((Sample.db Sample.claimedCell).lookup "op").all
        fun record => record.row.state = .running := by
      decide +kernel
    rw [found] at runs
    exact fun _ _ _ => of_decide_eq_true runs
  have shown : ((Sample.db (Sample.claimedCell ++ [Sample.rebind])).lookup "op").any
      fun record => record.events.any fun event =>
        (∀ other ∈ record.events, other.sequence ≤ event.sequence) ∧
          event.note = "workbench_rebind_committed" := by
    decide +kernel
  simp only [Option.any_eq_true, List.any_eq_true, decide_eq_true_eq] at shown
  obtain ⟨record, found, event, member, highest, note⟩ := shown
  have determined := events_determine_record (allow.snoc last) found
  exact ⟨record, event, found, member, note, (determined.2.1 event member highest).1⟩

/-- A successor that takes the cell of an ended operation over leaves an event of a running one. -/
theorem events_determine_record_not :
    (Sample.db (Sample.claimedCell ++
      [(Call.on "op" (.registry (.succeed "result" 1 false))).atTime 8, Sample.rebind])).Reachable
        .readable ∧
    ∃ record event, (Sample.db (Sample.claimedCell ++
        [(Call.on "op" (.registry (.succeed "result" 1 false))).atTime 8, Sample.rebind])).lookup
          "op" = some record ∧
      event ∈ record.events ∧ (∀ other ∈ record.events, other.sequence ≤ event.sequence) ∧
      record.row.state = .succeeded ∧ event.state = .running := by
  refine ⟨Sample.reachable _, ?_⟩
  have shows : ((Sample.db (Sample.claimedCell ++
      [(Call.on "op" (.registry (.succeed "result" 1 false))).atTime 8, Sample.rebind])).lookup
        "op").any fun record => record.events.any fun event =>
          (∀ other ∈ record.events, other.sequence ≤ event.sequence) ∧
            record.row.state = .succeeded ∧ event.state = .running := by
    decide +kernel
  simp only [Option.any_eq_true, List.any_eq_true, decide_eq_true_eq] at shows
  obtain ⟨record, found, event, member, highest, ended, runs⟩ := shows
  exact ⟨record, event, found, member, highest, ended, runs⟩

end Sample

end Aar
