import LogFilter.Clause
import LogFilter.Proofs.Phrase.Recognition
import LogFilter.Proofs.Traversal

/-!
# Tilings of queries

A query is tiled by its clauses and by the gaps before, between and after them. Every clause starts
as early as any clause can, and after the last gap no clause starts at all. Reading a query gives the
clauses of its tiling or an error, so no condition is dropped in silence.
-/

namespace LogFilter

open Text

/-- A clause starts at this position of the text. -/
def ClauseAt (cs : List Char) (i : Nat) : Prop :=
  ∃ clause, IsClause clause ∧ clause <+: cs.drop i

/-- A clause, and the gap between it and the clause before it. -/
structure Tile where
  gap : List Char
  phrase : Phrase

/-- The tiles of a text and the gap after the last clause. Each clause is the one that is read at
the earliest position, after the clause before it, where any clause starts. -/
inductive Tiling : List Char → List Tile → List Char → Prop
  | stop {cs : List Char} (free : ∀ i, ¬ ClauseAt cs i) : Tiling cs [] cs
  | step {cs gap rest tail : List Char} {p : Phrase} {tiles : List Tile}
      (text : cs = gap ++ (p.text.toList ++ rest))
      (earliest : ∀ i < gap.length, ¬ ClauseAt cs i)
      (reads : Phrase.Reads (p.text.toList ++ rest) p rest)
      (more : Tiling rest tiles tail) : Tiling cs (⟨gap, p⟩ :: tiles) tail

/-- The gaps before, between and after the clauses. -/
def gaps (tiles : List Tile) (tail : List Char) : List (List Char) := tiles.map Tile.gap ++ [tail]

/-! ### Positions of clauses -/

/-- A clause after a gap stands at the end of the gap. -/
theorem ClauseAt.of_append {gap clause rest : List Char} (h : IsClause clause) :
    ClauseAt (gap ++ (clause ++ rest)) gap.length :=
  ⟨clause, h, by simp⟩

/-- A clause starts at the head exactly when a phrase is recognised there. -/
theorem clauseAt_zero_iff {cs : List Char} : ¬ ClauseAt cs 0 ↔ Phrase.atHead? cs = none := by
  rw [Phrase.atHead?_eq_none_iff, ClauseAt, List.drop_zero]
  constructor
  · intro h clause rest hcs hclause
    exact h ⟨clause, hclause, rest, hcs.symm⟩
  · rintro h ⟨clause, hclause, rest, hcs⟩
    exact h clause rest hcs.symm hclause

/-- No clause stands in the empty text. -/
theorem not_clauseAt_nil (i : Nat) : ¬ ClauseAt [] i := by
  rintro ⟨clause, ⟨p, -, rfl⟩, hpre⟩
  have hpos := p.length_text_pos
  rw [List.drop_nil, List.prefix_nil] at hpre
  rw [hpre] at hpos
  cases hpos

/-- Some position starts a clause exactly when some part of the text is one. -/
theorem clauseAt_iff_infix {cs : List Char} :
    (∀ i, ¬ ClauseAt cs i) ↔ ∀ clause, clause <:+: cs → ¬ IsClause clause := by
  constructor
  · rintro h clause ⟨front, back, rfl⟩ hclause
    apply h front.length
    rw [List.append_assoc]
    exact ClauseAt.of_append hclause
  · rintro h i ⟨clause, hclause, hpre⟩
    exact h clause (hpre.isInfix.trans (List.drop_suffix i cs).isInfix) hclause

/-! ### The tiling of a text -/

namespace Tiling

/-- The tiles and the last gap make up the text. -/
theorem text_eq {cs tail : List Char} {tiles : List Tile} (h : Tiling cs tiles tail) :
    cs = tiles.flatMap (fun tile => tile.gap ++ tile.phrase.text.toList) ++ tail := by
  induction h with
  | stop free => rfl
  | step text earliest reads more ih =>
    rw [text, ih]
    simp

/-- The clauses of a tiling are well formed. -/
theorem wellFormed {cs tail : List Char} {tiles : List Tile} (h : Tiling cs tiles tail) :
    ∀ p ∈ tiles.map Tile.phrase, p.WellFormed := by
  induction h with
  | stop free => simp
  | step text earliest reads more ih => exact List.forall_mem_cons.mpr ⟨reads.wellFormed, ih⟩

/-- Exactly a text without clauses has no tiles. -/
theorem tiles_eq_nil_iff {cs tail : List Char} {tiles : List Tile} (h : Tiling cs tiles tail) :
    tiles = [] ↔ ∀ clause, clause <:+: cs → ¬ IsClause clause := by
  rw [← clauseAt_iff_infix]
  cases h with
  | stop free => exact ⟨fun _ => free, fun _ => rfl⟩
  | step text earliest reads more =>
    constructor
    · intro hnil
      cases hnil
    · intro hfree
      rw [text] at hfree
      exact absurd (ClauseAt.of_append reads.wellFormed.isClause) (hfree _)

/-- A text has one tiling. -/
theorem unique {cs tail tail' : List Char} {tiles tiles' : List Tile} (h : Tiling cs tiles tail)
    (h' : Tiling cs tiles' tail') : tiles = tiles' ∧ tail = tail' := by
  induction h generalizing tiles' tail' with
  | stop free =>
    cases h' with
    | stop free' => exact ⟨rfl, rfl⟩
    | step text' earliest' reads' more' =>
      subst text'
      exact absurd (ClauseAt.of_append reads'.wellFormed.isClause) (free _)
  | @step cs gap rest tail p tiles text earliest reads more ih =>
    subst text
    cases h' with
    | stop free' => exact absurd (ClauseAt.of_append reads.wellFormed.isClause) (free' _)
    | @step _ gap' rest' tail' p' tiles' text' earliest' reads' more' =>
      -- Neither clause starts before the other, so the gaps are equally long.
      have hle : gap'.length ≤ gap.length := Nat.le_of_not_lt fun hlt =>
        earliest' _ hlt (ClauseAt.of_append reads.wellFormed.isClause)
      have hge : gap.length ≤ gap'.length := by
        apply Nat.le_of_not_lt
        intro hlt
        apply earliest _ hlt
        rw [text']
        exact ClauseAt.of_append reads'.wellFormed.isClause
      obtain ⟨rfl, hrest⟩ := List.append_inj text' (by omega)
      have hp := Phrase.atHead?_eq_some_iff_reads.mpr reads
      rw [hrest, Phrase.atHead?_eq_some_iff_reads.mpr reads'] at hp
      cases hp
      obtain ⟨rfl, rfl⟩ := ih more'
      exact ⟨rfl, rfl⟩

/-- A character at which no clause starts widens the first gap. -/
theorem cons {c : Char} {cs tail : List Char} {tiles : List Tile} (hc : ¬ ClauseAt (c :: cs) 0)
    (h : Tiling cs tiles tail) :
    ∃ tiles' tail', Tiling (c :: cs) tiles' tail' ∧
      tiles'.map Tile.phrase = tiles.map Tile.phrase ∧
      (gaps tiles' tail').flatten = c :: (gaps tiles tail).flatten := by
  cases h with
  | stop free =>
    refine ⟨[], c :: cs, .stop ?_, rfl, by simp [gaps]⟩
    intro i
    cases i with
    | zero => exact hc
    | succ i => exact free i
  | @step _ gap rest _ p tiles text earliest reads more =>
    refine ⟨⟨c :: gap, p⟩ :: tiles, tail, .step (by rw [text]; rfl) ?_ reads more, rfl,
      by simp [gaps]⟩
    intro i hi
    cases i with
    | zero => exact hc
    | succ i => exact earliest i (Nat.lt_of_succ_lt_succ hi)

end Tiling

/-- Cutting a text into pieces gives its tiling. -/
theorem Piece.exists_tiling (cs : List Char) :
    ∃ tiles tail, Tiling cs tiles tail ∧
      (split cs).filterMap phrase? = tiles.map Tile.phrase ∧
      (split cs).filterMap gap? = (gaps tiles tail).flatten := by
  induction cs using split.induct with
  | case1 => exact ⟨[], [], .stop not_clauseAt_nil, by simp [split], by simp [split, gaps]⟩
  | case2 c cs p rest h ih =>
    obtain ⟨tiles, tail, htiling, hphrases, hgaps⟩ := ih
    have hreads := Phrase.reads_of_atHead? h
    refine ⟨⟨[], p⟩ :: tiles, tail, .step hreads.text (by simp) (hreads.text ▸ hreads) htiling,
      ?_, ?_⟩
    · simp only [split_of_some h, List.filterMap_cons, phrase?, hphrases, List.map_cons]
    · simp only [split_of_some h, List.filterMap_cons, gap?, hgaps]
      rfl
  | case3 c cs h ih =>
    obtain ⟨tiles, tail, htiling, hphrases, hgaps⟩ := ih
    obtain ⟨tiles', tail', htiling', hphrases', hgaps'⟩ := htiling.cons (clauseAt_zero_iff.mpr h)
    refine ⟨tiles', tail', htiling', ?_, ?_⟩
    · simp only [split_of_none h, List.filterMap_cons, phrase?, hphrases, hphrases']
    · simp only [split_of_none h, List.filterMap_cons, gap?, hgaps, hgaps']

/-! ### Clauses of phrases -/

namespace Clause

/-- A phrase becomes the clause of its parts with the operator that its keyword names. -/
theorem ofPhrase_eq_ok_iff {p : Phrase} {clause : Clause} :
    ofPhrase p = .ok clause ↔
      clause.toPhrase = p ∧ Operator.ofKeyword? clause.keyword = some clause.operator := by
  unfold ofPhrase
  constructor
  · intro h
    split at h
    · next op hop =>
      cases h
      exact ⟨rfl, hop⟩
    · cases h
  · rintro ⟨rfl, hop⟩
    rw [hop]

/-- A phrase whose keyword names no operator is reported, with its text. -/
theorem ofPhrase_eq_error_iff {p : Phrase} {e : QueryError} :
    ofPhrase p = .error e ↔ Operator.ofKeyword? p.keyword = none ∧ e = .malformedClause p.text := by
  unfold ofPhrase
  cases Operator.ofKeyword? p.keyword with
  | none => simp [eq_comm]
  | some op => simp

/-- The clauses of phrases are the phrases with the operators that their keywords name. -/
theorem mapM_ofPhrase_eq_ok_iff {phrases : List Phrase} {clauses : List Clause} :
    phrases.mapM ofPhrase = .ok clauses ↔ clauses.map toPhrase = phrases ∧
      ∀ clause ∈ clauses, Operator.ofKeyword? clause.keyword = some clause.operator := by
  induction phrases generalizing clauses with
  | nil => cases clauses <;> simp [pure, Except.pure]
  | cons p phrases ih =>
    rw [mapM_cons_eq_ok_iff]
    constructor
    · rintro ⟨clause, clauses, hp, hrest, rfl⟩
      obtain ⟨rfl, hop⟩ := ofPhrase_eq_ok_iff.mp hp
      obtain ⟨rfl, hops⟩ := ih.mp hrest
      exact ⟨rfl, List.forall_mem_cons.mpr ⟨hop, hops⟩⟩
    · rintro ⟨hmap, hops⟩
      cases clauses with
      | nil => cases hmap
      | cons clause clauses =>
        obtain ⟨hp, hrest⟩ := List.cons.inj hmap
        obtain ⟨hop, hops⟩ := List.forall_mem_cons.mp hops
        exact ⟨clause, clauses, ofPhrase_eq_ok_iff.mpr ⟨hp, hop⟩, ih.mpr ⟨hrest, hops⟩, rfl⟩

/-- Well-formed phrases have clauses exactly when their keywords are ASCII. -/
theorem exists_mapM_ofPhrase_iff {phrases : List Phrase} (h : ∀ p ∈ phrases, p.WellFormed) :
    (∃ clauses, phrases.mapM ofPhrase = .ok clauses) ↔
      ∀ p ∈ phrases, IsAscii p.keyword.toList := by
  constructor
  · rintro ⟨clauses, hclauses⟩ p hp
    obtain ⟨rfl, hops⟩ := mapM_ofPhrase_eq_ok_iff.mp hclauses
    obtain ⟨clause, hclause, rfl⟩ := List.mem_map.mp hp
    exact (isAscii_iff_ofKeyword? (h _ hp).keyword).mpr ⟨_, hops clause hclause⟩
  · intro hascii
    cases hm : phrases.mapM ofPhrase with
    | ok clauses => exact ⟨clauses, rfl⟩
    | error e =>
      obtain ⟨front, p, back, -, rfl, -, hp⟩ := mapM_eq_error_iff.mp hm
      have hmem : p ∈ front ++ p :: back := by simp
      obtain ⟨op, hop⟩ := (isAscii_iff_ofKeyword? (h p hmem).keyword).mp (hascii p hmem)
      rw [(ofPhrase_eq_error_iff.mp hp).1] at hop
      cases hop

/-- Phrases without clauses never count as unknown text. -/
theorem mapM_ofPhrase_ne_unknownTokens (phrases : List Phrase) :
    phrases.mapM ofPhrase ≠ .error .unknownTokens := by
  intro h
  obtain ⟨front, p, back, -, -, -, hp⟩ := mapM_eq_error_iff.mp h
  cases (ofPhrase_eq_error_iff.mp hp).2

/-- When the pieces of a query are read. -/
theorem ofPieces_eq_ok_iff {pieces : List Piece} {clauses : List Clause} :
    ofPieces pieces = .ok clauses ↔ (pieces.filterMap Piece.phrase?).mapM ofPhrase = .ok clauses ∧
      (clauses = [] ∨ ∀ d ∈ pieces.filterMap Piece.gap?, isBlank d = true) := by
  unfold ofPieces
  cases (pieces.filterMap Piece.phrase?).mapM ofPhrase with
  | error e => simp
  | ok clauses' =>
    rw [← List.all_eq_true, ← List.isEmpty_iff, ← Bool.or_eq_true, Except.ok.injEq]
    by_cases hcond : (clauses'.isEmpty || (pieces.filterMap Piece.gap?).all isBlank) = true
    · simp only [hcond, if_true, Except.ok.injEq]
      constructor
      · rintro rfl
        exact ⟨rfl, hcond⟩
      · exact And.left
    · simp only [hcond, if_false, Bool.false_eq_true]
      constructor
      · intro h
        cases h
      · rintro ⟨rfl, hcond'⟩
        exact absurd hcond' hcond

private theorem all_blank_iff {tiles : List Tile} {tail : List Char} :
    (gaps tiles tail).flatten.all isBlank = true ↔
      ∀ gap ∈ gaps tiles tail, ∀ c ∈ gap, isBlank c = true := by
  rw [List.all_eq_true]
  constructor
  · intro h gap hgap c hc
    exact h c (List.mem_flatten.mpr ⟨gap, hgap, hc⟩)
  · intro h c hc
    obtain ⟨gap, hgap, hc⟩ := List.mem_flatten.mp hc
    exact h gap hgap c hc

section

variable {query : String} {tiles : List Tile} {tail : List Char}

/-- A phrase without a clause fails the whole query. -/
theorem scan_of_error (h : Tiling query.toList tiles tail) {e : QueryError}
    (hm : (tiles.map Tile.phrase).mapM ofPhrase = .error e) : scan query = .error e := by
  obtain ⟨tiles', tail', h', hphrases, hgaps⟩ := Piece.exists_tiling query.toList
  obtain ⟨rfl, rfl⟩ := h.unique h'
  rw [scan, ofPieces, hphrases, hm]

/-- If every phrase has a clause, only the gaps decide. -/
theorem scan_of_ok (h : Tiling query.toList tiles tail) {clauses : List Clause}
    (hm : (tiles.map Tile.phrase).mapM ofPhrase = .ok clauses) :
    scan query = if clauses.isEmpty || (gaps tiles tail).flatten.all isBlank then .ok clauses
      else .error .unknownTokens := by
  obtain ⟨tiles', tail', h', hphrases, hgaps⟩ := Piece.exists_tiling query.toList
  obtain ⟨rfl, rfl⟩ := h.unique h'
  rw [scan, ofPieces, hphrases, hm, hgaps]

/-- A query is read when its phrases have clauses and its gaps are blank, or when it has no phrase.
-/
theorem scan_eq_ok_iff (h : Tiling query.toList tiles tail) {clauses : List Clause} :
    scan query = .ok clauses ↔ (tiles.map Tile.phrase).mapM ofPhrase = .ok clauses ∧
      (clauses = [] ∨ ∀ gap ∈ gaps tiles tail, ∀ c ∈ gap, isBlank c = true) := by
  obtain ⟨tiles', tail', h', hphrases, hgaps⟩ := Piece.exists_tiling query.toList
  obtain ⟨rfl, rfl⟩ := h.unique h'
  rw [scan, ofPieces_eq_ok_iff, hphrases, hgaps, ← List.all_eq_true, all_blank_iff]

/-- The clauses that a query is read as are its phrases, with the operators that their keywords
name. -/
theorem phrases_of_scan {clauses : List Clause} (h : scan query = .ok clauses) :
    clauses.map toPhrase = (Piece.split query.toList).filterMap Piece.phrase? ∧
      ∀ clause ∈ clauses, Operator.ofKeyword? clause.keyword = some clause.operator :=
  mapM_ofPhrase_eq_ok_iff.mp (ofPieces_eq_ok_iff.mp h).1

/-- The clauses that a query is read as are well formed. -/
theorem wellFormed_of_scan {clauses : List Clause} (h : scan query = .ok clauses) :
    ∀ clause ∈ clauses, clause.WellFormed := by
  obtain ⟨tiles, tail, htiling, hphrases, -⟩ := Piece.exists_tiling query.toList
  intro clause hclause
  apply htiling.wellFormed
  rw [← hphrases, ← (phrases_of_scan h).1]
  exact List.mem_map_of_mem hclause

/-- The clauses that a query is read as have the operators that their keywords name. -/
theorem operator_of_scan {clauses : List Clause} (h : scan query = .ok clauses) :
    ∀ clause ∈ clauses, Operator.ofKeyword? clause.keyword = some clause.operator :=
  (phrases_of_scan h).2

/-- A query has unknown tokens when its phrases, at least one, have clauses and some gap is not
blank. -/
theorem scan_eq_unknownTokens_iff (h : Tiling query.toList tiles tail) :
    scan query = .error .unknownTokens ↔
      tiles ≠ [] ∧ (∃ clauses, (tiles.map Tile.phrase).mapM ofPhrase = .ok clauses) ∧
      ∃ gap ∈ gaps tiles tail, ∃ c ∈ gap, isBlank c = false := by
  have hgap : (∃ gap ∈ gaps tiles tail, ∃ c ∈ gap, isBlank c = false) ↔
      (gaps tiles tail).flatten.all isBlank = false := by
    rw [← Bool.not_eq_true, all_blank_iff]
    simp
  rw [hgap]
  cases hm : (tiles.map Tile.phrase).mapM ofPhrase with
  | error e =>
    rw [scan_of_error h hm]
    constructor
    · intro he
      cases he
      exact absurd hm (mapM_ofPhrase_ne_unknownTokens _)
    · rintro ⟨-, ⟨clauses, hok⟩, -⟩
      cases hok
  | ok clauses =>
    have hempty : clauses.isEmpty = tiles.isEmpty := by
      have hmap := (mapM_ofPhrase_eq_ok_iff.mp hm).1
      rw [← List.isEmpty_map (f := toPhrase), hmap, List.isEmpty_map]
    rw [scan_of_ok h hm, hempty, Ne, ← List.isEmpty_iff]
    cases tiles.isEmpty <;> cases (gaps tiles tail).flatten.all isBlank <;> simp

end

/-- Reading a query drops no condition. The query has exactly one tiling by clauses and gaps. It is
read as having no clause exactly when no part of it is one; otherwise it is read exactly when all
keywords are ASCII and all gaps blank, and it gives the clauses of the tiling in order; and it has
unknown tokens exactly when there are clauses, all keywords are ASCII and some gap is not blank. -/
theorem scan_tiling (query : String) :
    ∃ tiles tail,
      (∀ tiles' tail', Tiling query.toList tiles' tail' ↔ tiles' = tiles ∧ tail' = tail) ∧
      query.toList = tiles.flatMap (fun tile => tile.gap ++ tile.phrase.text.toList) ++ tail ∧
      (scan query = .ok [] ↔ ∀ clause, clause <:+: query.toList → ¬ IsClause clause) ∧
      (∀ clauses ≠ [], scan query = .ok clauses ↔
        clauses.map toPhrase = tiles.map Tile.phrase ∧
        (∀ clause ∈ clauses, Operator.ofKeyword? clause.keyword = some clause.operator) ∧
        ∀ gap ∈ gaps tiles tail, ∀ c ∈ gap, isBlank c = true) ∧
      (scan query = .error .unknownTokens ↔ tiles ≠ [] ∧
        (∀ tile ∈ tiles, IsAscii tile.phrase.keyword.toList) ∧
        ∃ gap ∈ gaps tiles tail, ∃ c ∈ gap, isBlank c = false) := by
  obtain ⟨tiles, tail, h, -, -⟩ := Piece.exists_tiling query.toList
  refine ⟨tiles, tail, ?_, h.text_eq, ?_, ?_, ?_⟩
  · intro tiles' tail'
    constructor
    · exact fun h' => h'.unique h
    · rintro ⟨rfl, rfl⟩
      exact h
  · rw [scan_eq_ok_iff h, ← h.tiles_eq_nil_iff, mapM_ofPhrase_eq_ok_iff, List.map_nil,
      @eq_comm _ [], List.map_eq_nil_iff]
    simp
  · intro clauses hne
    rw [scan_eq_ok_iff h, mapM_ofPhrase_eq_ok_iff, or_iff_right hne, and_assoc]
  · rw [scan_eq_unknownTokens_iff h, exists_mapM_ofPhrase_iff h.wellFormed]
    simp only [List.forall_mem_map]

end Clause

end LogFilter
