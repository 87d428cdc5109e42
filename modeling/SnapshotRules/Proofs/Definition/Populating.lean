import Mathlib
import SnapshotRules.Definition.Loading
import SnapshotRules.Proofs.Snapshot.Latest

/-! # Populated stores

The collections of a definition and the documents that it puts into a store are found in two
passes over its nodes. Both agree on which node of an id counts: the last one, as long as the
clock does not go backwards.
-/

namespace SnapshotRules.SnapshotFile

variable {file : SnapshotFile} {files : String → FileEntry} {directory defaultCollection : String}
  {collections : Entries String} {clock : Nat → Int64} {position : Nat} {node : SnapshotNode}
  {nodes : List SnapshotNode} {id collection : String}

/-! ## Collections -/

def collectionOf (defaultCollection : String) (node : SnapshotNode) : String :=
  collectionName (node.collection.getD defaultCollection)

/-- The node is the last one of the id. -/
def IsLast (nodes : List SnapshotNode) (id : String) (node : SnapshotNode) : Prop :=
  ∃ before after, nodes = before ++ node :: after ∧ node.snapshotId = id ∧
    ∀ later ∈ after, later.snapshotId ≠ id

theorem contains_collections :
    (file.collections defaultCollection).contains id = true ↔
      ∃ node ∈ file.nodes, node.snapshotId = id := by
  rw [collections, Entries.contains_foldl_set SnapshotNode.snapshotId]
  exact or_iff_left (by simp [Entries.contains])

theorem get?_collections_of_isLast (h : IsLast file.nodes id node) :
    (file.collections defaultCollection).get? id =
      some (collectionOf defaultCollection node) := by
  obtain ⟨before, after, hn, rfl, hlast⟩ := h
  rw [collections, hn]
  exact Entries.get?_foldl_set_last SnapshotNode.snapshotId (collectionOf defaultCollection) before
    hlast []

/-! ## Documents -/

/-- The document that a node declares: the JSON in its file, and without that an empty mapping. -/
inductive Declares (files : String → FileEntry) (directory : String) (node : SnapshotNode) :
    Value → Prop
  | json {path text : String} {v : Value} (hp : node.path = some path)
      (ht : (files (joinPath directory path)).text = .ok text) (hv : Json.read? text = some v) :
      Declares files directory node v
  | empty (h : ∀ path text v, node.path = some path →
      (files (joinPath directory path)).text = .ok text → Json.read? text ≠ some v) :
      Declares files directory node (.mapping [])

theorem declares_nodeDocument (files : String → FileEntry) (directory : String)
    (node : SnapshotNode) :
    Declares files directory node ((nodeDocument directory node).answer files) := by
  rw [nodeDocument]
  split
  · next hp => exact .empty fun path _ _ hpath => absurd (hp.symm.trans hpath) (by simp)
  · next path hp =>
    rw [Reading.answer_bind, Reading.answer_entry, Reading.answer_pure, documentOf]
    split
    · next text ht =>
      cases hv : Json.read? text with
      | some v => exact .json hp ht hv
      | none =>
        refine .empty fun path' text' v hp' ht' => ?_
        obtain rfl := Option.some.inj (hp.symm.trans hp')
        obtain rfl := Except.ok.inj (ht.symm.trans ht')
        simp [hv]
    · next e he =>
      refine .empty fun path' text' v hp' ht' => ?_
      obtain rfl := Option.some.inj (hp.symm.trans hp')
      exact absurd (he.symm.trans ht') (by simp)

/-- How a node is stored that is read at a position. -/
def storedAs (files : String → FileEntry) (directory : String) (collections : Entries String)
    (clock : Nat → Int64) (position : Nat) (node : SnapshotNode) : Document :=
  let json := (nodeDocument directory node).answer files
  { snapshotId := node.snapshotId
    collection := (collections.get? node.snapshotId).getD ""
    checksum := json.checksum
    timestamp := clock position
    json }

theorem answer_readNodes (h : ∀ node ∈ nodes, collections.contains node.snapshotId = true) :
    (readNodes directory collections clock position nodes).answer files =
      nodes.mapIdx fun i => storedAs files directory collections clock (position + i) := by
  induction nodes generalizing position with
  | nil => rfl
  | cons node nodes ih =>
    obtain ⟨hnode, hnodes⟩ := List.forall_mem_cons.mp h
    obtain ⟨collection, hc⟩ := Option.isSome_iff_exists.mp hnode
    rw [readNodes, hc, List.mapIdx_cons]
    simp only [Reading.answer_bind, Reading.answer_pure, ih hnodes, storedAs, hc, Option.getD_some,
      Nat.add_zero]
    simp only [Nat.add_assoc, Nat.add_comm 1]

def documents (file : SnapshotFile) (files : String → FileEntry)
    (directory defaultCollection : String) (clock : Nat → Int64) : List Document :=
  file.nodes.mapIdx (storedAs files directory (file.collections defaultCollection) clock)

theorem answer_populate (store : MemoryStore) :
    (file.populate directory defaultCollection clock store).answer files =
      (file.nodes.length,
        (file.documents files directory defaultCollection clock).foldl MemoryStore.insert
          store) := by
  have hr : (readNodes directory (file.collections defaultCollection) clock 0 file.nodes).answer
      files = file.documents files directory defaultCollection clock := by
    rw [answer_readNodes fun node hn => contains_collections.mpr ⟨node, hn, rfl⟩]
    simp only [Nat.zero_add, documents]
  simp only [populate, Reading.answer_bind, Reading.answer_pure, hr]
  rw [documents, List.length_mapIdx]

/-- The newest document of a declared id is that of its last node. -/
theorem exists_isLast_of_isLatest (hclock : ∀ i j, i ≤ j → clock i ≤ clock j)
    (hc : (file.collections defaultCollection).get? id = some collection) {d : Document}
    (h : MemoryStore.IsLatest (file.documents files directory defaultCollection clock) id collection
      d) :
    ∃ node position, IsLast file.nodes id node ∧
      d = storedAs files directory (file.collections defaultCollection) clock position node := by
  obtain ⟨before, after, hs, -, hafter⟩ := h.exists_split
  obtain ⟨before, rest, hn, -, hrest⟩ := List.mapIdx_eq_append_iff.mp hs
  obtain ⟨node, later, rfl, rfl, rfl⟩ := List.mapIdx_eq_cons_iff.mp hrest
  refine ⟨node, _, ⟨before, later, hn, h.isFor.1, fun x hx hid => ?_⟩, rfl⟩
  obtain ⟨i, hi, rfl⟩ := List.getElem_of_mem hx
  have hlt := hafter _ (List.mem_mapIdx.mpr ⟨i, hi, rfl⟩) ⟨hid, by simp [storedAs, hid, hc]⟩
  exact absurd hlt (Int64.not_lt.mpr (hclock _ _ (by omega)))

/-! ## Populated stores -/

/-- A definition whose ids are repeated in other collections, with files of all kinds, fills an
empty store with one document a node. Exactly the ids of its nodes are known. What the store has
for such an id in its collection is the document of its last node, so this is what a context over
the store supplies. -/
theorem populate_serves_last (file : SnapshotFile) (files : String → FileEntry)
    (directory defaultCollection : String) (clock : Nat → Int64)
    (hclock : ∀ i j, i ≤ j → clock i ≤ clock j) :
    let collections := file.collections defaultCollection
    let populated := (file.populate directory defaultCollection clock .empty).answer files
    populated.1 = file.nodes.length ∧
    (∀ id, collections.contains id = true ↔ ∃ node ∈ file.nodes, node.snapshotId = id) ∧
    ∀ id, collections.contains id = true → ∃ node collection v d,
      IsLast file.nodes id node ∧ Declares files directory node v ∧
      collections.get? id = some collection ∧
      collection = collectionName (node.collection.getD defaultCollection) ∧
      MemoryStore.source.fetch populated.2 id collection = (.found d, populated.2) ∧
      d.json = v ∧ d.checksum = v.checksum ∧
      ∀ defaultDocument timeout,
        (Context.document ⟨MemoryStore.source, collections, defaultDocument, timeout⟩ id
          (.start populated.2)).1 = .ok v := by
  intro collections populated
  have hp : populated = _ := answer_populate .empty
  refine ⟨by rw [hp], fun id => contains_collections, fun id hid => ?_⟩
  obtain ⟨collection, hc⟩ := Option.isSome_iff_exists.mp hid
  obtain ⟨declared, hm, hdeclared⟩ := contains_collections.mp hid
  obtain ⟨i, hi, rfl⟩ := List.getElem_of_mem hm
  have hfor : (storedAs files directory collections clock i file.nodes[i]).IsFor id collection :=
    ⟨hdeclared, by simp [storedAs, hdeclared, hc]⟩
  obtain ⟨d, hf, hlatest⟩ :=
    MemoryStore.exists_found (List.mem_mapIdx.mpr ⟨i, hi, rfl⟩) hfor
  obtain ⟨node, position, hlast, hd⟩ := exists_isLast_of_isLatest hclock hc hlatest
  have hf : MemoryStore.source.fetch populated.2 id collection = (.found d, populated.2) := by
    rw [hp]
    exact hf
  refine ⟨node, collection, _, d, hlast, declares_nodeDocument files directory node, hc, ?_, hf,
    by rw [hd, storedAs], by rw [hd, storedAs], fun defaultDocument timeout => ?_⟩
  · exact Option.some.inj (hc.symm.trans (get?_collections_of_isLast hlast))
  · simp [Context.document, Context.ask, Session.start, hc, hf, hd, storedAs]

/-- The last node of the id is in another collection than the first. Both are stored in the same
millisecond, and only the last one has a file. -/
theorem populate_serves_last_of_two :
    let file : SnapshotFile := ⟨[⟨none, [⟨"S1", some "A.b", none⟩]⟩,
      ⟨none, [⟨"S1", some "C.d", some "b.json"⟩]⟩]⟩
    let files (path : String) : FileEntry :=
      if path = "docs/b.json" then .file "true".toUTF8 else .missing
    let clock (_ : Nat) : Int64 := 5
    let populated := (file.populate "docs" "resources" clock .empty).answer files
    (∀ i j, i ≤ j → clock i ≤ clock j) ∧ populated.1 = 2 ∧
      ∃ d, MemoryStore.source.fetch populated.2 "S1" "cd" = (.found d, populated.2) ∧
        d.json = .bool true := by
  intro file files clock populated
  have hclock : ∀ i j, i ≤ j → clock i ≤ clock j := fun _ _ _ => Int64.le_refl 5
  obtain ⟨hcount, -, hall⟩ := populate_serves_last file files "docs" "resources" clock hclock
  have hknown : (file.collections "resources").contains "S1" = true :=
    contains_collections.mpr ⟨_, List.mem_cons_self .., rfl⟩
  obtain ⟨node, collection, v, d, ⟨before, after, hn, -, hlater⟩, hv, -, hc, hf, hd, -⟩ :=
    hall "S1" hknown
  obtain rfl : node = ⟨"S1", some "C.d", some "b.json"⟩ := by
    rcases before with _ | ⟨first, _ | ⟨second, before⟩⟩
    · obtain ⟨-, rfl⟩ := List.cons.inj hn
      exact absurd rfl (hlater _ (List.mem_cons_self ..))
    · exact (List.cons.inj (List.cons.inj hn).2).1.symm
    · exact absurd (congrArg List.length hn) (by simp [file, nodes])
  have hname : collectionName "C.d" = "cd" := by cbv
  have hplace : joinPath "docs" "b.json" = "docs/b.json" := by cbv
  have htext : (files (joinPath "docs" "b.json")).text = .ok "true" := by
    rw [hplace]
    cbv
  have hjson : Json.read? "true" = some (.bool true) := by cbv
  refine ⟨hclock, hcount, d, ?_, ?_⟩
  · rw [← hname]
    exact hc ▸ hf
  · rw [hd]
    cases hv with
    | json hp ht hv =>
      obtain rfl := Option.some.inj hp
      obtain rfl := Except.ok.inj (htext.symm.trans ht)
      exact Option.some.inj (hv.symm.trans hjson)
    | empty h => exact absurd hjson (h _ _ _ rfl htext)

end SnapshotRules.SnapshotFile
