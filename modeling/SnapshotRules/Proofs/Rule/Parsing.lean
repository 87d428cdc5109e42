import Mathlib
import SnapshotRules.Proofs.Rule.Grammar

/-! # Parsing and derivations

The parser takes the tokens of a derived operand to the state that holds the operand, and
every accepted sequence of tokens begins with the tokens of one. So the parser accepts what the
grammar derives, with the same expression.
-/

namespace SnapshotRules

open Grammar

namespace Parser

/-- The state after some tokens, unless one of them is at fault. -/
def feed (s : State) : List TokenKind → Option State
  | [] => some s
  | kind :: kinds =>
    match advance s kind with
    | .ok s => feed s kinds
    | .error _ => none

@[simp] theorem feed_nil (s : State) : feed s [] = some s := rfl

theorem feed_cons {s s' : State} {kind : TokenKind} (h : advance s kind = .ok s')
    (kinds : List TokenKind) : feed s (kind :: kinds) = feed s' kinds := by
  rw [feed, h]

theorem feed_cons_error {s : State} {kind : TokenKind} {expected : Expectation}
    (h : advance s kind = .error expected) (kinds : List TokenKind) :
    feed s (kind :: kinds) = none := by
  rw [feed, h]

theorem exists_advance {s s' : State} {kind : TokenKind} {kinds : List TokenKind}
    (h : feed s (kind :: kinds) = some s') :
    ∃ next, advance s kind = .ok next ∧ feed next kinds = some s' := by
  cases ha : advance s kind with
  | ok next => exact ⟨next, rfl, by rwa [feed_cons ha] at h⟩
  | error expected => rw [feed_cons_error ha] at h; exact absurd h (by simp)

theorem feed_append (s : State) (kinds kinds' : List TokenKind) :
    feed s (kinds ++ kinds') = (feed s kinds).bind fun s' => feed s' kinds' := by
  induction kinds generalizing s with
  | nil => rfl
  | cons kind kinds ih =>
    rw [List.cons_append]
    cases ha : advance s kind with
    | ok next => rw [feed_cons ha, feed_cons ha, ih]
    | error expected => rw [feed_cons_error ha, feed_cons_error ha]; rfl

theorem run_eq_ok_iff {s : State} {tokens : List Token} {e : Expression} :
    run s tokens = .ok e ↔ feed s (tokens.map Token.kind) = some (.accepted e) := by
  induction tokens generalizing s with
  | nil => cases s <;> simp [run]
  | cons t ts ih =>
    rw [run, List.map_cons]
    cases ha : advance s t.kind with
    | ok next => rw [feed_cons ha]; exact ih
    | error expected => rw [feed_cons_error ha]; simp

theorem parse_eq_ok_iff {rule : String} {tokens : List Token} (h : tokenize rule = .ok tokens)
    {e : Expression} : parse rule = .ok e ↔
      feed (.operand .left []) (tokens.map Token.kind) = some (.accepted e) := by
  rw [parse, h, ← run_eq_ok_iff]
  change (parseTokens tokens).mapError SyntaxError.parse = .ok e ↔ parseTokens tokens = .ok e
  cases parseTokens tokens <;> simp [Except.mapError]

/-! ## Derived operands are read -/

def Frame.addAll (frame : Frame) (os : List Operand) : Frame :=
  os.foldl (fun frame o => frame.add o) frame

@[simp] theorem Frame.addAll_nil (frame : Frame) : frame.addAll [] = frame := rfl

@[simp] theorem Frame.addAll_cons (frame : Frame) (o : Operand) (os : List Operand) :
    frame.addAll (o :: os) = (frame.add o).addAll os := rfl

theorem Frame.addAll_call (name : String) (xs os : List Operand) :
    (Frame.call name xs).addAll os = .call name (xs ++ os) := by
  induction os generalizing xs with
  | nil => simp
  | cons o os ih => rw [addAll_cons, add, ih, List.append_assoc, List.singleton_append]

theorem Frame.addAll_list (xs os : List Operand) :
    (Frame.list xs).addAll os = .list (xs ++ os) := by
  induction os generalizing xs with
  | nil => simp
  | cons o os ih => rw [addAll_cons, add, ih, List.append_assoc, List.singleton_append]

/-- Calls and lists, whose parts are operands. -/
def Frame.HoldsItems : Frame → Prop
  | .call _ _ | .list _ => True
  | .map _ _ => False

theorem Frame.holdsItems_call (name : String) (xs : List Operand) :
    (Frame.call name xs).HoldsItems := trivial

theorem Frame.holdsItems_list (xs : List Operand) : (Frame.list xs).HoldsItems := trivial

theorem Frame.HoldsItems.add {frame : Frame} (h : frame.HoldsItems) (o : Operand) :
    (frame.add o).HoldsItems := by
  cases frame <;> first | exact trivial | exact h

@[simp] theorem Frame.close_add (frame : Frame) (o : Operand) :
    (frame.add o).close = frame.close := by
  cases frame <;> rfl

@[simp] theorem complete_cons (side : Side) (frame : Frame) (opened : List Frame) (o : Operand) :
    complete side (frame :: opened) o = .separator side (frame.add o) opened := rfl

theorem isClosing_close (frame : Frame) : IsClosing frame.close := by
  cases frame <;> simp [Frame.close, IsClosing]

theorem advance_close (side : Side) (frame : Frame) (opened : List Frame) :
    advance (.separator side frame opened) (.punctuation frame.close) =
      .ok (complete side opened frame.operand) := by
  cases frame <;> simp [advance, Frame.close]

theorem advance_comma {frame : Frame} (h : frame.HoldsItems) (side : Side)
    (opened : List Frame) :
    advance (.separator side frame opened) (.punctuation .comma) =
      .ok (.operand side (frame :: opened)) := by
  cases frame <;> first | rfl | exact h.elim

/-- The parser reads the operand of a derivation wherever it expects one. -/
def Reads (t : Tree) : Prop := ∀ (side : Side) (opened : List Frame) (rest : List TokenKind),
  feed (.operand side opened) (t.kinds ++ rest) = feed (complete side opened t.operand) rest

theorem feed_following {frame : Frame} (hf : frame.HoldsItems) {ts : List Tree}
    (ht : ∀ t ∈ ts, Reads t) (side : Side) (opened : List Frame) (rest : List TokenKind) :
    feed (.separator side frame opened) (following frame.close (ts.map Tree.kinds) ++ rest) =
      feed (complete side opened (frame.addAll (ts.map Tree.operand)).operand) rest := by
  induction ts generalizing frame with
  | nil => exact feed_cons (advance_close side frame opened) rest
  | cons t ts ih =>
    obtain ⟨ht, hts⟩ := List.forall_mem_cons.mp ht
    rw [List.map_cons, following_cons, List.cons_append, feed_cons (advance_comma hf side opened),
      List.append_assoc, ht, complete_cons, ← Frame.close_add frame t.operand,
      ih (hf.add t.operand) hts]
    rfl

/-- Unless the innermost frame is closed at once, its first part is read as any operand. -/
theorem feed_firstItem {side : Side} {frame : Frame} {opened : List Frame}
    {kind : TokenKind} (h : kind ≠ .punctuation frame.close) (kinds : List TokenKind) :
    feed (.firstItem side frame opened) (kind :: kinds) =
      feed (.operand side (frame :: opened)) (kind :: kinds) := by
  have ha : advance (.firstItem side frame opened) kind =
      advance (.operand side (frame :: opened)) kind := by
    simp only [advance, if_neg h]
  rw [feed, feed, ha]

theorem feed_enclosed {frame : Frame} (hf : frame.HoldsItems) {ts : List Tree}
    (ht : ∀ t ∈ ts, Reads t) (side : Side) (opened : List Frame) (rest : List TokenKind) :
    feed (.firstItem side frame opened) (enclosed frame.close (ts.map Tree.kinds) ++ rest) =
      feed (complete side opened (frame.addAll (ts.map Tree.operand)).operand) rest := by
  cases ts with
  | nil => exact feed_cons (by simp [advance]) rest
  | cons t ts =>
    obtain ⟨ht, hts⟩ := List.forall_mem_cons.mp ht
    obtain ⟨kind, kinds, hk⟩ := t.exists_kinds
    have hne : kind ≠ .punctuation frame.close := by
      rintro rfl
      exact t.kinds_append_ne (isClosing_close frame) [] kinds (by rw [hk, List.append_nil])
    rw [List.map_cons, enclosed, List.append_assoc, hk, List.cons_append, feed_firstItem hne,
      ← List.cons_append, ← hk, ht, complete_cons, ← Frame.close_add frame t.operand,
      feed_following (hf.add t.operand) hts]
    rfl

def ReadsEntry (entry : Key × Tree) : Prop :=
  ∀ (side : Side) (opened : List Frame) (done : List (String × Operand))
    (rest : List TokenKind), feed (.key side done opened) (Tree.kindsOfEntry entry ++ rest) =
      feed (.separator side
        (.map (done ++ [Tree.operandOfEntry entry]) entry.1.text) opened) rest

theorem Reads.entry {t : Tree} (h : Reads t) (k : Key) : ReadsEntry (k, t) := by
  intro side opened done rest
  have hk : advance (.key side done opened) k.kind = .ok (.colon side done k.text opened) := by
    cases k <;> rfl
  have hc : advance (.colon side done k.text opened) (.punctuation .colon) =
      .ok (.operand side (.map done k.text :: opened)) := rfl
  rw [Tree.kindsOfEntry, List.cons_append, feed_cons hk, List.cons_append, feed_cons hc, h]
  rfl

theorem feed_following_entries {es : List (Key × Tree)} (he : ∀ e ∈ es, ReadsEntry e)
    (side : Side) (opened : List Frame) (done : List (String × Operand)) (key : String)
    (rest : List TokenKind) :
    feed (.separator side (.map done key) opened)
        (following .closeBrace (es.map Tree.kindsOfEntry) ++ rest) =
      feed (complete side opened
        (.map (done ++ es.map Tree.operandOfEntry))) rest := by
  induction es generalizing done key with
  | nil =>
    rw [List.map_nil, List.map_nil, List.append_nil]
    exact feed_cons (advance_close side (.map done key) opened) rest
  | cons entry es ih =>
    obtain ⟨he, hes⟩ := List.forall_mem_cons.mp he
    have hc : advance (.separator side (.map done key) opened) (.punctuation .comma) =
        .ok (.key side done opened) := rfl
    rw [List.map_cons, following_cons, List.cons_append, feed_cons hc, List.append_assoc, he,
      ih hes, List.append_assoc]
    rfl

theorem feed_enclosed_entries {es : List (Key × Tree)} (he : ∀ e ∈ es, ReadsEntry e)
    (side : Side) (opened : List Frame) (rest : List TokenKind) :
    feed (.firstKey side opened)
        (enclosed .closeBrace (es.map Tree.kindsOfEntry) ++ rest) =
      feed (complete side opened
        (.map (es.map Tree.operandOfEntry))) rest := by
  cases es with
  | nil => exact feed_cons rfl rest
  | cons entry es =>
    obtain ⟨he, hes⟩ := List.forall_mem_cons.mp he
    have hk : ∀ kinds, feed (.firstKey side opened) (entry.1.kind :: kinds) =
        feed (.key side [] opened) (entry.1.kind :: kinds) := by
      intro kinds
      cases entry.1 <;> rfl
    rw [List.map_cons, enclosed, List.append_assoc, Tree.kindsOfEntry, List.cons_append, hk,
      ← List.cons_append, ← Tree.kindsOfEntry, he, feed_following_entries hes]
    rfl

mutual

theorem reads : ∀ t : Tree, Reads t
  | .string _, _, _, rest => feed_cons rfl rest
  | .number _, _, _, rest => feed_cons rfl rest
  | .boolean _, _, _, rest => feed_cons rfl rest
  | .null, _, _, rest => feed_cons rfl rest
  | .path _ _ hp, _, _, rest => feed_cons (by simp [advance, begin, path?_dotted hp]; rfl) rest
  | .call name ts, side, opened, rest => by
    have hp : advance (.arguments side name opened) (.punctuation .openParenthesis) =
        .ok (.firstItem side (.call name []) opened) := rfl
    rw [Tree.kinds, Tree.kindsOfItems_eq_map, List.cons_append, feed_cons rfl, List.cons_append,
      feed_cons hp, ← show Frame.close (.call name []) = .closeParenthesis from rfl,
      feed_enclosed (show (Frame.call name []).HoldsItems from trivial) (reads_items ts),
      Frame.addAll_call, Tree.operand, Tree.operandOfItems_eq_map]
    rfl
  | .list ts, side, opened, rest => by
    rw [Tree.kinds, Tree.kindsOfItems_eq_map, List.cons_append, feed_cons rfl,
      ← show Frame.close (.list []) = .closeBracket from rfl,
      feed_enclosed (show (Frame.list []).HoldsItems from trivial) (reads_items ts),
      Frame.addAll_list, Tree.operand, Tree.operandOfItems_eq_map]
    rfl
  | .map es, side, opened, rest => by
    rw [Tree.kinds, Tree.kindsOfEntries_eq_map, List.cons_append, feed_cons rfl,
      feed_enclosed_entries (reads_entries es), Tree.operand, Tree.operandOfEntries_eq_map]

theorem reads_items : ∀ (ts : List Tree), ∀ t ∈ ts, Reads t
  | [] => fun _ ht => absurd ht List.not_mem_nil
  | t :: ts => List.forall_mem_cons.mpr ⟨reads t, reads_items ts⟩

theorem reads_entries : ∀ (es : List (Key × Tree)), ∀ e ∈ es, ReadsEntry e
  | [] => fun _ he => absurd he List.not_mem_nil
  | (k, t) :: es => List.forall_mem_cons.mpr ⟨(reads t).entry k, reads_entries es⟩

end

/-- The tokens of a derivation lead to its expression. -/
theorem feed_derivation (d : Derivation) :
    feed (.operand .left []) d.kinds = some (.accepted d.expression) := by
  cases d with
  | lone t => rw [Derivation.kinds, reads]; rfl
  | comparison l op r =>
    have ho : advance (complete .left [] l.operand) (.operator op) =
        .ok (.operand (.right l.operand op) []) := rfl
    rw [Derivation.kinds, reads, feed_cons ho, reads]
    rfl

/-! ## Accepted tokens are derived -/

theorem exists_cons_of_feed {s : State} {kinds : List TokenKind} {e : Expression}
    (hs : s ≠ .accepted e) (h : feed s kinds = some (.accepted e)) :
    ∃ kind rest next, kinds = kind :: rest ∧ advance s kind = .ok next ∧
      feed next rest = some (.accepted e) := by
  cases kinds with
  | nil => exact absurd (Option.some.inj h) hs
  | cons kind rest =>
    obtain ⟨next, ha, hn⟩ := exists_advance h
    exact ⟨kind, rest, next, rfl, ha, hn⟩

theorem advance_operand_cases {side : Side} {opened : List Frame} {kind : TokenKind} {s : State}
    (h : advance (.operand side opened) kind = .ok s) :
    (∃ t : Tree, t.kinds = [kind] ∧ s = complete side opened t.operand) ∨
    (∃ name, kind = .function name ∧ s = .arguments side name opened) ∨
    (kind = .punctuation .openBracket ∧ s = .firstItem side (.list []) opened) ∨
    (kind = .punctuation .openBrace ∧ s = .firstKey side opened) := by
  simp only [advance, begin] at h
  split at h
  case h_1 value => exact .inl ⟨.string value, rfl, (Except.ok.inj h).symm⟩
  case h_2 value => exact .inl ⟨.number value, rfl, (Except.ok.inj h).symm⟩
  case h_3 value => exact .inl ⟨.boolean value, rfl, (Except.ok.inj h).symm⟩
  case h_4 => exact .inl ⟨.null, rfl, (Except.ok.inj h).symm⟩
  case h_5 name => exact .inr (.inl ⟨name, rfl, (Except.ok.inj h).symm⟩)
  case h_6 name =>
    split at h
    · next o ho =>
      obtain ⟨reference, segments, hp, rfl, rfl⟩ := path?_eq_some ho
      exact .inl ⟨.path reference segments hp, rfl, (Except.ok.inj h).symm⟩
    · exact absurd h (by simp)
  case h_7 => exact .inr (.inr (.inl ⟨rfl, (Except.ok.inj h).symm⟩))
  case h_8 => exact .inr (.inr (.inr ⟨rfl, (Except.ok.inj h).symm⟩))
  case h_9 => exact absurd h (by simp)

theorem advance_separator_cases {side : Side} {frame : Frame} {opened : List Frame}
    {kind : TokenKind} {s : State} (h : advance (.separator side frame opened) kind = .ok s) :
    kind = .punctuation .comma ∨
    (kind = .punctuation frame.close ∧ s = complete side opened frame.operand) := by
  by_cases hc : kind = .punctuation .comma
  · exact .inl hc
  · by_cases hk : kind = .punctuation frame.close
    · subst hk
      rw [advance_close] at h
      exact .inr ⟨rfl, (Except.ok.inj h).symm⟩
    · simp [advance, hc, hk] at h

theorem advance_key_eq_ok {side : Side} {opened : List Frame} {done : List (String × Operand)}
    {kind : TokenKind} {s : State} (h : advance (.key side done opened) kind = .ok s) :
    ∃ k : Key, kind = k.kind ∧ s = .colon side done k.text opened := by
  simp only [advance, readKey] at h
  split at h
  · next text => exact ⟨.string text, rfl, (Except.ok.inj h).symm⟩
  · next name => exact ⟨.word name, rfl, (Except.ok.inj h).symm⟩
  · exact absurd h (by simp)

variable {side : Side} {e : Expression}

-- Every part is found in a shorter sequence of tokens, on whose length the induction is.
mutual

theorem exists_operand {opened : List Frame} {kinds : List TokenKind}
    (h : feed (.operand side opened) kinds = some (.accepted e)) :
    ∃ (t : Tree) (rest : List TokenKind), kinds = t.kinds ++ rest ∧
      feed (complete side opened t.operand) rest = some (.accepted e) := by
  obtain ⟨kind, rest, next, rfl, ha, hn⟩ := exists_cons_of_feed (by simp) h
  obtain ⟨t, ht, rfl⟩ | ⟨name, rfl, rfl⟩ | ⟨rfl, rfl⟩ | ⟨rfl, rfl⟩ := advance_operand_cases ha
  · exact ⟨t, rest, by rw [ht]; rfl, hn⟩
  · obtain ⟨kind, rest, next, rfl, ha, hn⟩ := exists_cons_of_feed (by simp) hn
    simp only [advance] at ha
    split at ha
    · next hk =>
      obtain rfl := Except.ok.inj ha
      obtain ⟨ts, rest', rfl, hr⟩ := exists_items_of_first (Frame.holdsItems_call name []) hn
      rw [Frame.addAll_call] at hr
      refine ⟨.call name ts, rest', ?_, ?_⟩
      · rw [hk, Tree.kinds, Tree.kindsOfItems_eq_map]; rfl
      · rwa [Tree.operand, Tree.operandOfItems_eq_map]
    · exact absurd ha (by simp)
  · obtain ⟨ts, rest', rfl, hr⟩ := exists_items_of_first (Frame.holdsItems_list []) hn
    rw [Frame.addAll_list] at hr
    refine ⟨.list ts, rest', ?_, ?_⟩
    · rw [Tree.kinds, Tree.kindsOfItems_eq_map]; rfl
    · rwa [Tree.operand, Tree.operandOfItems_eq_map]
  · obtain ⟨es, rest', rfl, hr⟩ := exists_entries_of_first hn
    refine ⟨.map es, rest', ?_, ?_⟩
    · rw [Tree.kinds, Tree.kindsOfEntries_eq_map]; rfl
    · rwa [Tree.operand, Tree.operandOfEntries_eq_map]
termination_by 2 * kinds.length

theorem exists_items_of_first {opened : List Frame} {frame : Frame} {kinds : List TokenKind}
    (hf : frame.HoldsItems)
    (h : feed (.firstItem side frame opened) kinds = some (.accepted e)) :
    ∃ (ts : List Tree) (rest : List TokenKind),
      kinds = enclosed frame.close (ts.map Tree.kinds) ++ rest ∧
      feed (complete side opened (frame.addAll (ts.map Tree.operand)).operand) rest =
        some (.accepted e) := by
  obtain ⟨kind, rest, next, rfl, ha, hn⟩ := exists_cons_of_feed (by simp) h
  by_cases hk : kind = .punctuation frame.close
  · subst hk
    simp only [advance, if_true] at ha
    obtain rfl := Except.ok.inj ha
    exact ⟨[], rest, rfl, hn⟩
  · rw [feed_firstItem hk] at h
    obtain ⟨t, rest', hk, ht⟩ := exists_operand h
    have hl : rest'.length ≤ (kind :: rest).length := by rw [hk, List.length_append]; omega
    obtain ⟨ts, rest'', rfl, hr⟩ := exists_items (hf.add t.operand) ht
    refine ⟨t :: ts, rest'', ?_, hr⟩
    rw [hk, Frame.close_add, List.map_cons, enclosed, List.append_assoc]
termination_by 2 * kinds.length + 1

theorem exists_items {opened : List Frame} {frame : Frame} {kinds : List TokenKind}
    (hf : frame.HoldsItems)
    (h : feed (.separator side frame opened) kinds = some (.accepted e)) :
    ∃ (ts : List Tree) (rest : List TokenKind),
      kinds = following frame.close (ts.map Tree.kinds) ++ rest ∧
      feed (complete side opened (frame.addAll (ts.map Tree.operand)).operand) rest =
        some (.accepted e) := by
  obtain ⟨kind, rest, next, rfl, ha, hn⟩ := exists_cons_of_feed (by simp) h
  obtain rfl | ⟨rfl, rfl⟩ := advance_separator_cases ha
  · rw [advance_comma hf] at ha
    obtain rfl := Except.ok.inj ha
    obtain ⟨t, rest', rfl, ht⟩ := exists_operand hn
    obtain ⟨ts, rest'', rfl, hr⟩ := exists_items (hf.add t.operand) ht
    refine ⟨t :: ts, rest'', ?_, hr⟩
    rw [Frame.close_add, List.map_cons, following_cons, List.cons_append, List.append_assoc]
  · exact ⟨[], rest, rfl, hn⟩
termination_by 2 * kinds.length

theorem exists_entries_of_first {opened : List Frame} {kinds : List TokenKind}
    (h : feed (.firstKey side opened) kinds = some (.accepted e)) :
    ∃ (es : List (Key × Tree)) (rest : List TokenKind),
      kinds = enclosed .closeBrace (es.map Tree.kindsOfEntry) ++ rest ∧
      feed (complete side opened (.map (es.map Tree.operandOfEntry))) rest =
        some (.accepted e) := by
  obtain ⟨kind, rest, next, hks, ha, hn⟩ := exists_cons_of_feed (by simp) h
  by_cases hk : kind = .punctuation .closeBrace
  · subst hk
    obtain rfl := Except.ok.inj ha
    exact ⟨[], rest, hks, hn⟩
  · have hf : feed (.key side [] opened) kinds = some (.accepted e) := by
      rw [hks, feed_cons (by simpa only [advance, if_neg hk] using ha) rest, hn]
    obtain ⟨entry, rest', hk, ht⟩ := exists_entry hf
    have hl : rest'.length ≤ kinds.length := by rw [hk, List.length_append]; omega
    obtain ⟨es, rest'', rfl, hr⟩ := exists_entries ht
    refine ⟨entry :: es, rest'', ?_, hr⟩
    rw [hk, List.map_cons, enclosed, List.append_assoc]
termination_by 2 * kinds.length + 1

theorem exists_entry {opened : List Frame} {done : List (String × Operand)}
    {kinds : List TokenKind} (h : feed (.key side done opened) kinds = some (.accepted e)) :
    ∃ (entry : Key × Tree) (rest : List TokenKind), kinds = Tree.kindsOfEntry entry ++ rest ∧
      feed (.separator side (.map (done ++ [Tree.operandOfEntry entry]) entry.1.text) opened)
        rest = some (.accepted e) := by
  obtain ⟨kind, rest, next, rfl, ha, hn⟩ := exists_cons_of_feed (by simp) h
  obtain ⟨k, rfl, rfl⟩ := advance_key_eq_ok ha
  obtain ⟨kind, rest, next, rfl, ha, hn⟩ := exists_cons_of_feed (by simp) hn
  simp only [advance] at ha
  split at ha
  · next hk =>
    obtain rfl := Except.ok.inj ha
    obtain ⟨t, rest', rfl, ht⟩ := exists_operand hn
    exact ⟨(k, t), rest', by rw [hk]; rfl, ht⟩
  · exact absurd ha (by simp)
termination_by 2 * kinds.length

theorem exists_entries {opened : List Frame} {done : List (String × Operand)} {key : String}
    {kinds : List TokenKind}
    (h : feed (.separator side (.map done key) opened) kinds = some (.accepted e)) :
    ∃ (es : List (Key × Tree)) (rest : List TokenKind),
      kinds = following .closeBrace (es.map Tree.kindsOfEntry) ++ rest ∧
      feed (complete side opened (.map (done ++ es.map Tree.operandOfEntry))) rest =
        some (.accepted e) := by
  obtain ⟨kind, rest, next, rfl, ha, hn⟩ := exists_cons_of_feed (by simp) h
  obtain rfl | ⟨rfl, rfl⟩ := advance_separator_cases ha
  · obtain rfl := Except.ok.inj ha
    obtain ⟨entry, rest', rfl, ht⟩ := exists_entry hn
    obtain ⟨es, rest'', rfl, hr⟩ := exists_entries ht
    refine ⟨entry :: es, rest'', ?_, ?_⟩
    · rw [List.map_cons, following_cons, List.cons_append, List.append_assoc]
    · rwa [List.append_assoc] at hr
  · refine ⟨[], rest, rfl, ?_⟩
    rwa [List.map_nil, List.append_nil]
termination_by 2 * kinds.length

end

theorem exists_derivation {kinds : List TokenKind}
    (h : feed (.operand .left []) kinds = some (.accepted e)) :
    ∃ d : Derivation, d.kinds = kinds ∧ d.expression = e := by
  obtain ⟨l, rest, rfl, hl⟩ := exists_operand h
  obtain ⟨kind, rest, next, rfl, ha, hn⟩ := exists_cons_of_feed (by simp [complete]) hl
  cases kind <;> simp only [complete, advance, reduceCtorEq, Except.ok.injEq] at ha
  case endOfRule =>
    subst ha
    cases rest with
    | nil =>
      exact ⟨.lone l, rfl, by simpa [Derivation.expression] using hn⟩
    | cons kind rest => exact absurd hn (by simp [feed, advance])
  case operator op =>
    subst ha
    obtain ⟨r, rest, rfl, hr⟩ := exists_operand hn
    obtain ⟨kind, rest, next, rfl, ha, hn⟩ := exists_cons_of_feed (by simp [complete]) hr
    cases kind <;> simp only [complete, advance, reduceCtorEq, Except.ok.injEq] at ha
    subst ha
    cases rest with
    | nil =>
      exact ⟨.comparison l op r, rfl, by simpa [Derivation.expression] using hn⟩
    | cons kind rest => exact absurd hn (by simp [feed, advance])

/-! ## Rules that never parse -/

theorem feed_logical (s : State) (word : String) (kinds : List TokenKind) :
    feed s (.logical word :: kinds) = none := by
  cases s <;> simp [feed, advance, begin, readKey]

theorem feed_comma_close (s : State) {mark : Punctuation} (hm : IsClosing mark)
    (kinds : List TokenKind) :
    feed s (.punctuation .comma :: .punctuation mark :: kinds) = none := by
  cases s with
  | separator side frame opened =>
    rcases hm with rfl | rfl | rfl <;> cases frame <;> simp [feed, advance, begin, readKey]
  | firstItem side frame opened => cases frame <;> simp [feed, advance, begin, Frame.close]
  | _ => simp [feed, advance, begin, readKey]

theorem eq_endOfRule_of_feed_finish {e e' : Expression} {kinds : List TokenKind}
    (h : feed (.finish e) kinds = some (.accepted e')) : kinds = [.endOfRule] := by
  obtain ⟨kind, rest, next, rfl, ha, hn⟩ := exists_cons_of_feed (by simp) h
  cases kind <;> simp only [advance, reduceCtorEq, Except.ok.injEq] at ha
  subst ha
  cases rest with
  | nil => rfl
  | cons kind rest => exact absurd hn (by simp [feed, advance])

theorem feed_append_eq_none {kinds : List TokenKind} (h : ∀ s, feed s kinds = none)
    (before : List TokenKind) (s : State) : feed s (before ++ kinds) = none := by
  rw [feed_append]
  cases feed s before with
  | none => rfl
  | some s' => exact h s'

end Parser

open SnapshotRules.Parser

/-- The parser accepts the tokens that the grammar derives, in one way each, and so neither a
logical word, nor a comma before a closing mark, nor anything after the right operand. -/
theorem parse_eq_ok_iff_exists_derivation {rule : String} {tokens : List Token}
    (h : tokenize rule = .ok tokens) :
    (∀ e, parse rule = .ok e ↔
      ∃ d : Derivation, d.kinds = tokens.map Token.kind ∧ d.expression = e) ∧
    (∀ d d' : Derivation, d.kinds = d'.kinds → d = d') ∧
    ∀ e, parse rule = .ok e →
      (∀ word, .logical word ∉ tokens.map Token.kind) ∧
      (∀ mark, IsClosing mark →
        ¬ [.punctuation .comma, .punctuation mark] <:+: tokens.map Token.kind) ∧
      ∀ (left right : Tree) (operator : Operator) (rest : List TokenKind),
        tokens.map Token.kind = left.kinds ++ .operator operator :: (right.kinds ++ rest) →
          rest = [.endOfRule] := by
  refine ⟨fun e => ?_, fun _ _ => Derivation.kinds_inj, fun e he => ?_⟩
  · rw [parse_eq_ok_iff h]
    constructor
    · exact exists_derivation
    · rintro ⟨d, hd, rfl⟩
      rw [← hd, feed_derivation]
  · rw [parse_eq_ok_iff h] at he
    refine ⟨fun word hw => ?_, fun mark hm hi => ?_, fun left right operator rest hk => ?_⟩
    · obtain ⟨before, after, hk⟩ := List.append_of_mem hw
      rw [hk, feed_append_eq_none (feed_logical · word after)] at he
      exact absurd he (by simp)
    · obtain ⟨before, after, hk⟩ := hi
      rw [← hk, List.append_assoc, List.cons_append, List.cons_append, List.nil_append,
        feed_append_eq_none (feed_comma_close · hm after)] at he
      exact absurd he (by simp)
    · have ho : advance (complete .left [] left.operand) (.operator operator) =
          .ok (.operand (.right left.operand operator) []) := rfl
      rw [hk, reads, feed_cons ho, reads] at he
      exact eq_endOfRule_of_feed_finish he

theorem exists_derivation_of_call_in_map :
    ∃ tokens, tokenize "f(a.b) in \x7bk: []\x7d" = .ok tokens ∧
      ∃ d : Derivation, d.kinds = tokens.map Token.kind ∧ d.expression =
        ⟨.call "f" [.path (some "a") ["b"]], .memberOf, .map [("k", .list [])]⟩ := by
  have h : tokenize "f(a.b) in \x7bk: []\x7d" = .ok [
      ⟨.function "f", "f", 0⟩, ⟨.punctuation .openParenthesis, "(", 1⟩,
      ⟨.identifier "a.b", "a.b", 2⟩, ⟨.punctuation .closeParenthesis, ")", 5⟩,
      ⟨.operator .memberOf, "in", 7⟩, ⟨.punctuation .openBrace, "\x7b", 10⟩,
      ⟨.identifier "k", "k", 11⟩, ⟨.punctuation .colon, ":", 12⟩,
      ⟨.punctuation .openBracket, "[", 14⟩, ⟨.punctuation .closeBracket, "]", 15⟩,
      ⟨.punctuation .closeBrace, "\x7d", 16⟩, ⟨.endOfRule, "", 17⟩] := by cbv
  exact ⟨_, h, ((parse_eq_ok_iff_exists_derivation h).1 _).mp ((parse_eq_ok_iff h).mpr (by cbv))⟩

end SnapshotRules
