import Mathlib
import SnapshotRules.Config
import SnapshotRules.Definition.Snapshots
import SnapshotRules.Definition.Tests
import SnapshotRules.Proofs.Record.Parts
import SnapshotRules.Record.Evaluation

/-! # Records survive rewriting

What is read from JSON data as a record is written with all declared fields in their order and read
as the same record again.
-/

namespace SnapshotRules

namespace Value

variable {α : Type}

theorem optionalString?_ofOptionalString (s : Option String) :
    optionalString? (ofOptionalString s) = some s := by
  cases s <;> rfl

theorem int64?_ofInt64 (i : Int64) : int64? (ofInt64 i) = some i := by
  change (if i.toInt < 2 ^ 63 then some (Int64.ofInt i.toInt) else none) = some i
  rw [if_pos i.toInt_lt, Int64.ofInt_toInt]

theorem natural?_ofNat {limit n : ℕ} (h : n < limit) (hlimit : limit ≤ 2 ^ 64) :
    natural? limit (ofNat n) = some n := by
  unfold ofNat Number.ofNat
  rw [dif_pos (by omega), natural?, if_pos (by omega), Int.toNat_natCast]

theorem list_map {read : Value → Option α} {write : α → Value} (h : ∀ a, read (write a) = some a)
    (as : List α) : format.list read (.sequence (as.map write)) = some as := by
  change (as.map write).mapM read = some as
  induction as with
  | nil => rfl
  | cons a as ih =>
    rw [List.map_cons, List.mapM_cons, h, ih]
    rfl

end Value

namespace Part

abbrev text (name : String) : Part String := required name Value.string? .string fun _ => rfl

/-- A field with a text or nothing. -/
abbrev optionalText (name : String) : Part (Option String) :=
  optional name none Value.optionalString? .ofOptionalString
    Value.optionalString?_ofOptionalString

abbrev data (name : String) : Part Value := required name some id fun _ => rfl

abbrev list {α : Type} (name : String) (read : Value → Option α) (write : α → Value)
    (h : ∀ a, read (write a) = some a) : Part (List α) :=
  optional name [] (Value.format.list read) (fun as => .sequence (as.map write)) (Value.list_map h)

end Part

namespace Document

def part : Part Document :=
  ((Part.text "snapshotId").pair ((Part.text "collection").pair ((Part.text "checksum").pair
    ((Part.required "timestamp" Value.int64? .ofInt64 Value.int64?_ofInt64).pair
      (Part.data "json") (by decide)) (by decide)) (by decide)) (by decide)).map
    (fun (snapshotId, collection, checksum, timestamp, json) =>
      ⟨snapshotId, collection, checksum, timestamp, json⟩)
    (fun d => (d.snapshotId, d.collection, d.checksum, d.timestamp, d.json)) fun _ => rfl

theorem roundTrips : RoundTrips fieldNames [] ofValue? toValue := by
  apply part.roundTrips
  · intro v
    unfold ofValue?
    simp only [part, Part.map, Part.pair, Part.required, Format.required, Option.bind_fun_some,
      bind_assoc, pure_bind]
    rfl
  · intro d
    rfl

end Document

namespace Evaluation

def part : Part Evaluation :=
  ((Part.text "rule").pair
    ((Part.required "verdict" Value.boolean? .bool fun _ => rfl).pair
      ((Part.data "resolved_left").pair
        ((Part.required "operator" Operator.ofValue? Operator.toValue
            Operator.ofValue?_toValue).pair
          ((Part.data "resolved_right").pair (Part.text "diagnostics") (by decide))
            (by decide)) (by decide)) (by decide)) (by decide)).map
    (fun (rule, verdict, left, operator, right, diagnostics) =>
      ⟨rule, verdict, left, operator, right, diagnostics⟩)
    (fun e => (e.rule, e.verdict, e.left, e.operator, e.right, e.diagnostics)) fun _ => rfl

theorem roundTrips : RoundTrips fieldNames [] ofValue? toValue := by
  apply part.roundTrips
  · intro v
    unfold ofValue?
    simp only [part, Part.map, Part.pair, Part.required, Format.required, Option.bind_fun_some,
      bind_assoc, pure_bind]
    rfl
  · intro e
    rfl

end Evaluation

namespace SnapshotNode

def part : Part SnapshotNode :=
  ((Part.text "snapshotId").pair ((Part.optionalText "collection").pair
    (Part.optionalText "path") (by decide)) (by decide)).map
    (fun (snapshotId, collection, path) => ⟨snapshotId, collection, path⟩)
    (fun n => (n.snapshotId, n.collection, n.path)) fun _ => rfl

theorem roundTrips : RoundTrips fieldNames [("collection", .null), ("path", .null)]
    (read? Value.format) toValue := by
  apply part.roundTrips
  · intro v
    unfold read?
    simp only [part, Part.map, Part.pair, Part.optional, bind_assoc, pure_bind]
    rfl
  · intro n
    rfl

end SnapshotNode

namespace SnapshotGroup

def part : Part SnapshotGroup :=
  ((Part.optionalText "source").pair
    (Part.list "nodes" (SnapshotNode.read? Value.format) SnapshotNode.toValue
      SnapshotNode.roundTrips.recovered) (by decide)).map
    (fun (source, nodes) => ⟨source, nodes⟩) (fun g => (g.source, g.nodes)) fun _ => rfl

theorem roundTrips : RoundTrips fieldNames [("source", .null), ("nodes", .sequence [])]
    (read? Value.format) toValue := by
  apply part.roundTrips
  · intro v
    unfold read?
    simp only [part, Part.map, Part.pair, Part.optional, bind_assoc, pure_bind]
    rfl
  · intro g
    rfl

end SnapshotGroup

namespace SnapshotFile

def part : Part SnapshotFile :=
  (Part.list "snapshots" (SnapshotGroup.read? Value.format) SnapshotGroup.toValue
    SnapshotGroup.roundTrips.recovered).map SnapshotFile.mk SnapshotFile.groups fun _ => rfl

theorem roundTrips : RoundTrips fieldNames [("snapshots", .sequence [])]
    (read? Value.format) toValue := by
  apply part.roundTrips
  · intro v
    rfl
  · intro file
    rfl

end SnapshotFile

namespace TestCase

def part : Part TestCase :=
  ((Part.optionalText "testId").pair (Part.text "rule") (by decide)).map
    (fun (testId, rule) => ⟨testId, rule⟩) (fun c => (c.testId, c.rule)) fun _ => rfl

theorem roundTrips : RoundTrips fieldNames [("testId", .null)] (read? Value.format) toValue := by
  apply part.roundTrips
  · intro v
    unfold read?
    simp only [part, Part.map, Part.pair, Part.optional, bind_assoc, pure_bind]
    rfl
  · intro c
    rfl

end TestCase

namespace TestSet

def part : Part TestSet :=
  ((Part.optionalText "testName").pair
    (Part.list "cases" (TestCase.read? Value.format) TestCase.toValue
      TestCase.roundTrips.recovered) (by decide)).map
    (fun (testName, cases) => ⟨testName, cases⟩) (fun s => (s.testName, s.cases)) fun _ => rfl

theorem roundTrips : RoundTrips fieldNames [("testName", .null), ("cases", .sequence [])]
    (read? Value.format) toValue := by
  apply part.roundTrips
  · intro v
    unfold read?
    simp only [part, Part.map, Part.pair, Part.optional, bind_assoc, pure_bind]
    rfl
  · intro s
    rfl

end TestSet

namespace TestFile

def part : Part TestFile :=
  ((Part.optionalText "snapshot").pair
    (Part.list "testSet" (TestSet.read? Value.format) TestSet.toValue
      TestSet.roundTrips.recovered) (by decide)).map
    (fun (snapshot, testSets) => ⟨snapshot, testSets⟩)
    (fun file => (file.snapshot, file.testSets)) fun _ => rfl

theorem roundTrips : RoundTrips fieldNames [("snapshot", .null), ("testSet", .sequence [])]
    (read? Value.format) toValue := by
  apply part.roundTrips
  · intro v
    unfold read?
    simp only [part, Part.map, Part.pair, Part.optional, bind_assoc, pure_bind]
    rfl
  · intro file
    rfl

end TestFile

namespace Config

theorem natural?_uint64 (n : UInt64) :
    (Value.natural? (2 ^ 64) (.ofNat n.toNat)).map UInt64.ofNat = some n := by
  rw [Value.natural?_ofNat n.toNat_lt le_rfl, Option.map_some, UInt64.ofNat_toNat]

theorem natural?_uint16 (n : UInt16) :
    (Value.natural? (2 ^ 16) (.ofNat n.toNat)).map UInt16.ofNat = some n := by
  rw [Value.natural?_ofNat n.toNat_lt (by decide), Option.map_some, UInt16.ofNat_toNat]

/-- A field with a natural number below 2^64. -/
abbrev number64 (name : String) (absent : UInt64) : Part UInt64 :=
  Part.optional name absent (fun v => (Value.natural? (2 ^ 64) v).map .ofNat)
    (fun n => .ofNat n.toNat) natural?_uint64

def part : Part Config :=
  ((number64 "fetch_timeout_ms" default.fetchTimeout).pair
    ((Part.optional "default_collection" default.defaultCollection Value.string? .string
        fun _ => rfl).pair
      ((number64 "concurrency" default.concurrency).pair
        (Part.optional "port" default.port (fun v => (Value.natural? (2 ^ 16) v).map .ofNat)
          (fun n => .ofNat n.toNat) natural?_uint16) (by decide)) (by decide)) (by decide)).map
    (fun (fetchTimeout, defaultCollection, concurrency, port) =>
      ⟨fetchTimeout, defaultCollection, concurrency, port⟩)
    (fun c => (c.fetchTimeout, c.defaultCollection, c.concurrency, c.port)) fun _ => rfl

theorem optional_map {α β : Type} {absent : α} {absent' : β} {f : α → β} (h : f absent = absent')
    (read : Value → Option α) (field : Option Value) :
    Format.optional absent' (fun data => (read data).map f) field =
      Format.optional absent read field >>= fun a => return f a := by
  cases field with
  | none => exact congrArg some h.symm
  | some data => exact Option.map_eq_bind

theorem roundTrips : RoundTrips fieldNames [("fetch_timeout_ms", .ofNat 30000),
    ("default_collection", .string "resources"), ("concurrency", .ofNat 16),
    ("port", .ofNat 8080)] (read? Value.format) toValue := by
  apply part.roundTrips
  · intro v
    unfold read?
    simp only [part, Part.map, Part.pair, Part.optional,
      optional_map (@UInt64.ofNat_toNat default.fetchTimeout),
      optional_map (@UInt64.ofNat_toNat default.concurrency),
      optional_map (@UInt16.ofNat_toNat default.port), bind_assoc, pure_bind]
    rfl
  · intro c
    rfl

end Config

namespace Operator

theorem ofName?_eq_some_iff {name : String} {op : Operator} :
    ofName? name = some op ↔ name = op.name := by
  constructor
  · intro h
    have hname := List.find?_some h
    exact (of_decide_eq_true hname).symm
  · rintro rfl
    exact ofName?_name op

theorem ofValue?_eq_some_iff {v : Value} {op : Operator} :
    ofValue? v = some op ↔ v = op.toValue ∨ v = .mapping [(op.name, .null)] := by
  rw [toValue]
  constructor
  · intro h
    unfold ofValue? at h
    split at h
    · next name =>
      rw [ofName?_eq_some_iff.mp h]
      exact .inl rfl
    · next name =>
      rw [ofName?_eq_some_iff.mp h]
      exact .inr rfl
    · exact absurd h (by simp)
  · rintro (rfl | rfl) <;> exact ofName?_name op

end Operator

/-- Whatever a record is read from, it is written as a mapping of its declared fields in their
order, which is read as the record again, and no record is lost by writing it. Fields are read by
name in any order, or by position in a list. -/
theorem records_survive_rewriting :
    RoundTrips Document.fieldNames [] Document.ofValue? Document.toValue ∧
    RoundTrips Evaluation.fieldNames [] Evaluation.ofValue? Evaluation.toValue ∧
    (∀ v op, Operator.ofValue? v = some op ↔
      v = op.toValue ∨ v = .mapping [(op.name, .null)]) ∧
    RoundTrips SnapshotFile.fieldNames [("snapshots", .sequence [])]
      (SnapshotFile.read? Value.format) SnapshotFile.toValue ∧
    RoundTrips SnapshotGroup.fieldNames [("source", .null), ("nodes", .sequence [])]
      (SnapshotGroup.read? Value.format) SnapshotGroup.toValue ∧
    RoundTrips SnapshotNode.fieldNames [("collection", .null), ("path", .null)]
      (SnapshotNode.read? Value.format) SnapshotNode.toValue ∧
    RoundTrips TestFile.fieldNames [("snapshot", .null), ("testSet", .sequence [])]
      (TestFile.read? Value.format) TestFile.toValue ∧
    RoundTrips TestSet.fieldNames [("testName", .null), ("cases", .sequence [])]
      (TestSet.read? Value.format) TestSet.toValue ∧
    RoundTrips TestCase.fieldNames [("testId", .null)]
      (TestCase.read? Value.format) TestCase.toValue ∧
    RoundTrips Config.fieldNames [("fetch_timeout_ms", .ofNat 30000),
      ("default_collection", .string "resources"), ("concurrency", .ofNat 16),
      ("port", .ofNat 8080)] (Config.read? Value.format) Config.toValue := by
  refine ⟨Document.roundTrips, Evaluation.roundTrips, ?_, SnapshotFile.roundTrips,
    SnapshotGroup.roundTrips, SnapshotNode.roundTrips, TestFile.roundTrips, TestSet.roundTrips,
    TestCase.roundTrips, Config.roundTrips⟩
  intro v op
  exact Operator.ofValue?_eq_some_iff

/-- A file of one group, with a node by position, one by name in another order, and fields left
out. -/
theorem records_survive_rewriting_from_lists :
    let node : Value :=
      .mapping [("other", .bool true), ("path", .null), ("snapshotId", .string "b")]
    let v : Value := .sequence [.sequence [.mapping [("nodes",
      .sequence [.sequence [.string "a", .string "c"], node])]]]
    ∃ file : SnapshotFile, file.nodes = [⟨"a", some "c", none⟩, ⟨"b", none, none⟩] ∧
      SnapshotFile.read? Value.format v = some file ∧
      ∃ fields : Entries Value, file.toValue = .mapping fields ∧ fields.keys = ["snapshots"] ∧
        SnapshotFile.read? Value.format (.mapping fields) = some file := by
  intro node v
  have hread : SnapshotFile.read? Value.format v =
      some ⟨[⟨none, [⟨"a", some "c", none⟩, ⟨"b", none, none⟩]⟩]⟩ := by decide +kernel
  obtain ⟨-, -, -, hfile, -⟩ := records_survive_rewriting
  exact ⟨_, rfl, hread, hfile.rewritten v _ hread⟩

end SnapshotRules
