import Mathlib
import SnapshotRules.Http.Routes
import SnapshotRules.Proofs.Batch.Unchanging
import SnapshotRules.Proofs.Record.Reporting
import SnapshotRules.Proofs.Snapshot.Latest

/-! # Reports on posted batches

The documents of a posted batch are stored and fetched under one collection, so every fetch of a
posted id finds what was posted for it. The report on the batch is therefore decided by its rules
and documents alone.
-/

namespace SnapshotRules.Http

namespace PostedBatch

variable {batch : PostedBatch} {body : String} {id collection rule : String} {v : Value}
  {now : Int64} {config : Config}

/-! ## Documents -/

/-- How a posted document is stored. -/
def stored (collection : String) (now : Int64) (entry : String × Value) : Document where
  snapshotId := entry.1
  collection
  checksum := entry.2.checksum
  timestamp := now
  json := entry.2

theorem store_eq (batch : PostedBatch) (collection : String) (now : Int64) :
    batch.store collection now =
      (batch.snapshots.entries.map (stored collection now)).foldl MemoryStore.insert .empty := by
  rw [List.foldl_map]
  rfl

theorem fetch_store (h : batch.snapshots.get? id = some v) :
    (MemoryStore.source.fetch (batch.store collection now) id collection).1 =
      .found (stored collection now (id, v)) := by
  have hf : (stored collection now (id, v)).IsFor id collection := ⟨rfl, rfl⟩
  have hm := List.mem_map_of_mem (Entries.mem_of_get? h) (f := stored collection now)
  obtain ⟨d, hd, hlatest⟩ := MemoryStore.exists_found hm hf
  obtain ⟨⟨id', v'⟩, hentry, rfl⟩ := List.mem_map.mp hlatest.mem
  obtain rfl : id' = id := hlatest.isFor.1
  obtain rfl := Option.some.inj (h.symm.trans (Mapping.get?_of_mem hentry))
  rw [store_eq, hd]

def documents (batch : PostedBatch) (id : String) : Value := (batch.snapshots.get? id).getD .null

theorem document?_fetch_store
    (h : (batch.context config).collections.get? id = some collection) :
    ((batch.context config).source.fetch (batch.store config.defaultCollection now) id
      collection).1.document? = some (batch.documents id) := by
  have hg := Entries.get?_map batch.snapshots.entries (fun _ => config.defaultCollection) id
  have hc : (batch.context config).collections =
      batch.snapshots.entries.map fun entry => (entry.1, config.defaultCollection) := rfl
  rw [hc, hg] at h
  split at h
  · next hk =>
    obtain rfl := Option.some.inj h
    obtain ⟨v, hv⟩ := Option.isSome_iff_exists.mp hk
    have hfetch : ((batch.context config).source.fetch (batch.store config.defaultCollection now)
        id config.defaultCollection).1 = _ := fetch_store hv
    rw [hfetch, documents, Mapping.get?, hv]
    rfl
  · exact absurd h (by simp)

/-! ## Outcomes -/

def scope (batch : PostedBatch) : Scope := ⟨.builtins, batch.snapshots.entries, batch.document⟩

def outcome (batch : PostedBatch) (rule : String) : Except RuleError Evaluation :=
  match parse rule with
  | .error e => .error (.ofSyntax e)
  | .ok e => e.evaluateIn batch.scope false rule

/-- The report on a batch, which neither a way of running it nor a configuration enters. -/
def report (batch : PostedBatch) : Report :=
  ⟨batch.cases.map fun case => .ofOutcome case (batch.outcome case.rule), none⟩

theorem fullScope_context :
    (batch.context config).fullScope .builtins batch.documents = batch.scope := by
  have hd : (batch.context config).collections.map
      (fun entry => (entry.1, batch.documents entry.1)) = batch.snapshots.entries := by
    rw [context, List.map_map]
    refine (List.map_congr_left fun entry he => ?_).trans (List.map_id _)
    have hg : batch.snapshots.get? entry.1 = some entry.2 := Mapping.get?_of_mem he
    simp [documents, hg]
  rw [Context.fullScope, hd]
  rfl

theorem reportOver_context :
    (batch.context config).reportOver .builtins batch.documents batch.cases = batch.report := by
  rw [Context.reportOver, List.zipWith_map_right, List.zipWith_self, report]
  simp only [Context.outcomeOver, fullScope_context]
  rfl

/-- Whether there can be permits for a batch: it runs in order, or its tasks are not too many. -/
def HasPermits (batch : PostedBatch) (config : Config) : Prop :=
  batch.sequential = true ∨ config.concurrency.toNat ≤ maxPermits

theorem isSome_run_iff : (batch.run config now).isSome ↔ batch.HasPermits config := by
  rw [run, HasPermits]
  split
  · next hs => simp [hs]
  · next hs => rw [Option.isSome_map, Context.isSome_runConcurrent?_iff, or_iff_right hs]

theorem run_eq_report (hp : batch.HasPermits config) (now : Int64) :
    batch.run config now = some batch.report := by
  have hr : (batch.context config).Rests (batch.store config.defaultCollection now) :=
    MemoryStore.source_fetch_snd _
  have hd (id collection : String)
      (h : (batch.context config).collections.get? id = some collection) :
      ((batch.context config).source.fetch (batch.store config.defaultCollection now) id
        collection).1.document? = some (batch.documents id) := document?_fetch_store h
  have hreport : (batch.context config).reportOver .builtins batch.documents batch.cases =
      batch.report := reportOver_context
  rw [run, ← hreport]
  split
  · exact congrArg some (Context.run_of_rests hr hd .builtins batch.cases)
  · next hs => exact Context.runConcurrent?_of_rests hr hd .builtins (hp.resolve_left hs) _

theorem isInvalidRule_of_outcome {e : RuleError} (h : batch.outcome rule = .error e) :
    e.isInvalidRule = true := by
  rw [outcome] at h
  split at h
  · next error _ =>
    obtain rfl := Except.error.inj h
    cases error <;> rfl
  · next expression _ =>
    obtain ⟨error, rfl⟩ := expression.exists_call_error h
    rfl

theorem getElem?_results_report {i : Nat} (h : batch.rules[i]? = some rule) :
    batch.report.results[i]? =
      some (.ofOutcome ⟨decimalText (i + 1), rule⟩ (batch.outcome rule)) := by
  rw [report, cases, List.getElem?_map, List.getElem?_mapIdx, h]
  rfl

end PostedBatch

section Answers

variable {config : Config} {stamp : RunStamp} {now : Int64} {r : Request} {batch : PostedBatch}
  (hmethod : r.method = "POST") (hpath : path r.target = "/api/evaluate")

include hmethod hpath

theorem respond_evaluate : respond config stamp now r = evaluate config stamp now r := by
  rw [respond, if_neg (by simp [hmethod]), hpath]
  exact if_pos hmethod

theorem respond_of_not_json (h : r.contentType.any isJson = false) :
    respond config stamp now r = some (.empty 415) := by
  rw [respond_evaluate hmethod hpath, evaluate, h, if_neg Bool.false_ne_true]

variable (htype : r.contentType.any isJson = true)

include htype

theorem respond_of_long (h : maxBodySize < r.body.utf8ByteSize) :
    respond config stamp now r = some (.empty 413) := by
  rw [respond_evaluate hmethod hpath, evaluate, if_pos htype, if_pos h]

theorem respond_of_batch (hsize : r.body.utf8ByteSize ≤ maxBodySize)
    (hbody : PostedBatch.ofBody r.body = .ok batch) :
    respond config stamp now r = answerBatch config stamp now batch := by
  rw [respond_evaluate hmethod hpath, evaluate, if_pos htype, if_neg (Nat.not_lt.mpr hsize), hbody]

end Answers

/-- What is answered to posted rules, as long as they are declared as JSON and not too long, and
there can be permits for them. The body is a written report. It has a result for every rule, in
order and numbered from one, which tells how the rule is evaluated over the posted documents. None
is cancelled, and a path that starts with a posted id leads into the document posted for it.
Neither the way of running the rules nor the configuration enters the report. -/
theorem respond_to_batch (config : Config) (stamp : RunStamp) (now : Int64) (r : Request)
    (batch : PostedBatch) (hmethod : r.method = "POST") (hpath : path r.target = "/api/evaluate")
    (htype : r.contentType.any isJson = true) (hsize : r.body.utf8ByteSize ≤ maxBodySize)
    (hbody : PostedBatch.ofBody r.body = .ok batch) (hrules : batch.rules ≠ [])
    (hpermits : batch.HasPermits config) :
    ∃ (report : Report) (fields : Entries Value),
      respond config stamp now r = some ⟨200, some (.mapping fields)⟩ ∧
      report.WrittenAs stamp fields ∧
      report.aborted = none ∧ report.results.length = batch.rules.length ∧
      (∀ (i : Nat) rule, batch.rules[i]? = some rule → ∃ result,
        report.results[i]? = some result ∧ result.id = decimalText (i + 1) ∧ result.rule = rule ∧
          result.Tells (batch.outcome rule)) ∧
      (∀ result ∈ report.results, result.status ≠ .cancelled) ∧
      (∀ id document segments, batch.snapshots.get? id = some document →
        (Operand.path (some id) segments).resolve batch.scope false =
          .ok (document.pathOrNull segments)) ∧
      ∀ config' now' sequential, { batch with sequential }.HasPermits config' →
        { batch with sequential }.run config' now' = some report := by
  have hresult (i : Nat) (rule : String) (h : batch.rules[i]? = some rule) : ∃ result,
      batch.report.results[i]? = some result ∧ result.id = decimalText (i + 1) ∧
        result.rule = rule ∧ result.Tells (batch.outcome rule) :=
    ⟨_, PostedBatch.getElem?_results_report h, CaseReport.ofOutcome_id, CaseReport.ofOutcome_rule,
      CaseReport.tells_ofOutcome fun _ => PostedBatch.isInvalidRule_of_outcome⟩
  have hlength : batch.report.results.length = batch.rules.length := by
    rw [PostedBatch.report, List.length_map, PostedBatch.cases, List.length_mapIdx]
  refine ⟨batch.report, batch.report.fields stamp, ?_, Report.writtenAs_fields stamp _, rfl,
    hlength, hresult, ?_, ?_, ?_⟩
  · rw [respond_of_batch hmethod hpath htype hsize hbody, answerBatch, if_neg hrules,
      PostedBatch.run_eq_report hpermits]
    rfl
  · intro result hm
    obtain ⟨i, hi, rfl⟩ := List.getElem_of_mem hm
    have hrule := List.getElem?_eq_getElem (hlength ▸ hi)
    obtain ⟨result, hr, -, -, htells⟩ := hresult i _ hrule
    rw [List.getElem?_eq_getElem hi] at hr
    exact Option.some.inj hr ▸ htells.not_cancelled
  · intro id document segments h
    rw [Mapping.get?] at h
    simp [Operand.resolve, Scope.lookup, PostedBatch.scope, h]
  · intro config' now' sequential hpermits'
    exact PostedBatch.run_eq_report hpermits' now'

/-- A rule that passes and one that cannot be read, posted with one document. -/
theorem respond_to_batch_of_two :
    let r : Request := ⟨"POST", "/api/evaluate", some "application/json",
      "[[\"S1\",\"S1 =\"],\x7b\"S1\":true\x7d]"⟩
    let batch : PostedBatch := ⟨["S1", "S1 ="], Mapping.empty.set "S1" (.bool true), none, false⟩
    let stamp : RunStamp := ⟨"r1", "t1", "t2"⟩
    r.method = "POST" ∧ path r.target = "/api/evaluate" ∧ r.contentType.any isJson = true ∧
      r.body.utf8ByteSize ≤ maxBodySize ∧ PostedBatch.ofBody r.body = .ok batch ∧
      batch.rules ≠ [] ∧ batch.HasPermits .default ∧
      ∃ (report : Report) (fields : Entries Value),
        respond .default stamp 0 r = some ⟨200, some (.mapping fields)⟩ ∧
        fields.get? "runId" = some (.string "r1") ∧ fields.get? "aborted" = none ∧
        report.results.length = 2 ∧
        (∃ result, report.results[1]? = some result ∧ result.id = "2" ∧ result.rule = "S1 =" ∧
          result.Tells (.error (.lex ⟨3, .halfOperator '='⟩))) ∧
        PostedBatch.run { batch with sequential := true } .default 0 = some report := by
  intro r batch stamp
  have hpath : path r.target = "/api/evaluate" := by cbv
  have htype : r.contentType.any isJson = true := by cbv
  have hsize : r.body.utf8ByteSize ≤ maxBodySize := by decide +kernel
  have hbody : PostedBatch.ofBody r.body = .ok batch := by cbv
  have hrules : batch.rules ≠ [] := by simp [batch]
  have hpermits : batch.HasPermits .default := .inr (by decide)
  obtain ⟨report, fields, hrespond, hwritten, haborted, hlength, hresult, -, -, hrun⟩ :=
    respond_to_batch .default stamp 0 r batch rfl hpath htype hsize hbody hrules hpermits
  refine ⟨rfl, hpath, htype, hsize, hbody, hrules, hpermits, report, fields, hrespond,
    hwritten.runId, ?_, hlength, ?_, hrun .default 0 true (.inl rfl)⟩
  · rw [hwritten.aborted, haborted]
    rfl
  obtain ⟨result, hget, hid, hrule, htells⟩ := hresult 1 "S1 =" rfl
  have hparse : parse "S1 =" = .error (.lex ⟨3, .halfOperator '='⟩) := by cbv
  have hfault : batch.outcome "S1 =" = .error (.lex ⟨3, .halfOperator '='⟩) := by
    rw [PostedBatch.outcome, hparse]
    rfl
  have htwo : decimalText (1 + 1) = "2" := by cbv
  exact ⟨result, hget, hid.trans htwo, hrule, hfault ▸ htells⟩

/-! ## Long bodies -/

def indented (n : Nat) (text : String) : String := String.ofList (List.replicate n ' ') ++ text

theorem utf8Len_spaces (n : Nat) : String.utf8Len (List.replicate n ' ') = n := by
  induction n with
  | zero => rfl
  | succ n ih =>
    rw [List.replicate_succ, String.utf8Len_cons, ih]
    rfl

theorem utf8ByteSize_indented (n : Nat) (text : String) :
    (indented n text).utf8ByteSize = n + text.utf8ByteSize := by
  rw [indented, String.utf8ByteSize_append, String.utf8ByteSize_ofList, utf8Len_spaces]

theorem scan_spaces (isSkipped : Nat → String → Bool) (skipping : Option Nat) (opened : List Bool)
    (expected : Json.Expected) (n : Nat) (cs : List Char) :
    Json.scan isSkipped skipping opened expected (List.replicate n ' ' ++ cs) =
      Json.scan isSkipped skipping opened expected cs := by
  induction n with
  | zero => rfl
  | succ n ih =>
    rw [List.replicate_succ, List.cons_append, Json.scan.eq_def]
    exact (if_pos (by decide)).trans ih

theorem ofBody_indented (n : Nat) (text : String) :
    PostedBatch.ofBody (indented n text) = PostedBatch.ofBody text := by
  rw [PostedBatch.ofBody, PostedBatch.ofBody, Json.eventsSkipping, Json.eventsSkipping, indented,
    String.toList_append, String.toList_ofList, scan_spaces]

/-- Requests with one rule that get no report: the body is not declared as JSON, it is too long, or
there are no permits for as many tasks as are configured. -/
theorem respond_to_batch_without_report :
    let text := "\x7b\"rules\":[\"1 == 1\"]\x7d"
    let long := indented maxBodySize text
    let batch : PostedBatch := ⟨["1 == 1"], .empty, none, false⟩
    let stamp : RunStamp := ⟨"r1", "t1", "t2"⟩
    let config : Config := { Config.default with concurrency := 2305843009213693952 }
    let post (type body : String) : Request := ⟨"POST", "/api/evaluate", some type, body⟩
    PostedBatch.ofBody text = .ok batch ∧ PostedBatch.ofBody long = .ok batch ∧
      config.fault? = none ∧
      respond .default stamp 0 (post "text/plain" text) = some (.empty 415) ∧
      respond .default stamp 0 (post "application/json" long) = some (.empty 413) ∧
      respond config stamp 0 (post "application/json" text) = none ∧
      (PostedBatch.run { batch with sequential := true } config 0).isSome := by
  intro text long batch stamp config post
  have hpath : path "/api/evaluate" = "/api/evaluate" := by cbv
  have htext : PostedBatch.ofBody text = .ok batch := by cbv
  have hjson : (some "application/json").any isJson = true := by cbv
  have hplain : (some "text/plain").any isJson = false := by cbv
  have hsize : text.utf8ByteSize ≤ maxBodySize := by decide +kernel
  have hlong : maxBodySize < long.utf8ByteSize := by
    rw [utf8ByteSize_indented]
    exact Nat.lt_add_of_pos_right (by decide +kernel)
  have hcrowded : ¬ batch.HasPermits config := by
    rw [PostedBatch.HasPermits]
    decide
  have hnone : batch.run config 0 = none :=
    Option.not_isSome_iff_eq_none.mp (mt PostedBatch.isSome_run_iff.mp hcrowded)
  have hrespond : respond config stamp 0 (post "application/json" text) =
      answerBatch config stamp 0 batch := respond_of_batch rfl hpath hjson hsize htext
  refine ⟨htext, ?_, by decide, respond_of_not_json rfl hpath hplain,
    respond_of_long rfl hpath hjson hlong, ?_, PostedBatch.isSome_run_iff.mpr (.inl rfl)⟩
  · rw [ofBody_indented]
    exact htext
  · rw [hrespond, answerBatch, if_neg (by simp [batch]), hnone]
    rfl

end SnapshotRules.Http
