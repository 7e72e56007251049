import LogFilter.Proofs.Fragment.Written
import LogFilter.Request.Where

/-!
# Refused queries

A query goes through four passes: its keywords are read, the text beside its clauses is looked at, its
fragments are written, and their columns are resolved. Each pass stops at its first failure, so that
an early pass over a late clause wins over a late pass over an early clause.
-/

namespace LogFilter

open Text

/-- The keyword is written with a long s, and so names no operator. -/
def Phrase.HasLongS (p : Phrase) : Prop := 'ſ' ∈ p.keyword.toList

/-- The phrase searches in text for nothing but spaces. -/
def Phrase.SearchesSpaces (p : Phrase) : Prop :=
  p.shape = .textSearch ∧ ∀ c ∈ p.operand.toList, c = ' '

/-- There are clauses, and beside them a character that is not blank. -/
def HasStrayText (tiles : List Tile) (tail : List Char) : Prop :=
  tiles ≠ [] ∧ ∃ gap ∈ gaps tiles tail, ∃ c ∈ gap, isBlank c = false

/-- The column is the body, a selected field or an interesting one. -/
def Catalog.Resolves (catalog : Catalog) (column : String) : Prop :=
  catalog.IsPhysical column ∨ (catalog.interestingField? column).isSome = true

/-- The fragment is about a column that the catalog does not have. -/
def Catalog.Misses (catalog : Catalog) (fragment : String) : Prop :=
  ∃ column, Fragment.column fragment = .ok column ∧ ¬ catalog.Resolves column

/-- Why a query with this tiling is refused. The rules are in order of priority: each one asks that none
before it applies. -/
inductive Refusal (catalog : Catalog) (query : String) (tiles : List Tile) (tail : List Char) :
    QueryError → Prop
  /-- A keyword has a long s. -/
  | longS {p : Phrase} (first : IsFirst Phrase.HasLongS (tiles.map Tile.phrase) p) :
      Refusal catalog query tiles tail (.malformedClause p.text)
  /-- There is text beside the clauses. -/
  | strayText (spelled : ∀ p ∈ tiles.map Tile.phrase, ¬ p.HasLongS)
      (stray : HasStrayText tiles tail) : Refusal catalog query tiles tail .unknownTokens
  /-- A text search has nothing to search for. -/
  | emptySearch {p : Phrase} (spelled : ∀ p ∈ tiles.map Tile.phrase, ¬ p.HasLongS)
      (clean : ¬ HasStrayText tiles tail)
      (first : IsFirst Phrase.SearchesSpaces (tiles.map Tile.phrase) p) :
      Refusal catalog query tiles tail (.malformedClause p.text)
  /-- The column of a fragment is not in the catalog. -/
  | unknownColumn {fragments : List String} {fragment column : String}
      (spelled : ∀ p ∈ tiles.map Tile.phrase, ¬ p.HasLongS) (clean : ¬ HasStrayText tiles tail)
      (searches : ∀ p ∈ tiles.map Tile.phrase, ¬ p.SearchesSpaces)
      (written : Fragment.ofQuery query = .ok fragments)
      (first : IsFirst catalog.Misses fragments fragment)
      (named : Fragment.column fragment = .ok column) :
      Refusal catalog query tiles tail (.unresolvableColumn column)

/-! ### Keywords and gaps -/

namespace Clause

variable {query : String} {tiles : List Tile} {tail : List Char} {p : Phrase}

private theorem ofPhrase_of_longS (hp : p.WellFormed) (hlong : p.HasLongS) :
    ofPhrase p = .error (.malformedClause p.text) := by
  rw [ofPhrase_eq_error_iff]
  refine ⟨?_, rfl⟩
  cases hop : Operator.ofKeyword? p.keyword with
  | none => rfl
  | some op =>
    have hascii := (isAscii_iff_ofKeyword? hp.keyword).mpr ⟨op, hop⟩
    exact absurd hlong hascii.longS_not_mem

private theorem exists_ofPhrase (hp : p.WellFormed) (hlong : ¬ p.HasLongS) :
    ∃ clause, ofPhrase p = .ok clause := by
  have hascii := (isAscii_iff_longS_not_mem hp.keyword).mpr hlong
  obtain ⟨op, hop⟩ := (isAscii_iff_ofKeyword? hp.keyword).mp hascii
  exact ⟨⟨p, op⟩, ofPhrase_eq_ok_iff.mpr ⟨rfl, hop⟩⟩

/-- The first keyword with a long s fails the query, whatever else is wrong with it. -/
theorem scan_of_longS (h : Tiling query.toList tiles tail)
    (hfirst : IsFirst Phrase.HasLongS (tiles.map Tile.phrase) p) :
    scan query = .error (.malformedClause p.text) := by
  apply scan_of_error h
  apply hfirst.mapM_eq_error
  · exact fun q hq => exists_ofPhrase (h.wellFormed q hq)
  · exact ofPhrase_of_longS (h.wellFormed p hfirst.mem) hfirst.1

variable (h : Tiling query.toList tiles tail)
  (hspelled : ∀ p ∈ tiles.map Tile.phrase, ¬ p.HasLongS)

include h hspelled

private theorem exists_mapM_ofPhrase :
    ∃ clauses, (tiles.map Tile.phrase).mapM ofPhrase = .ok clauses :=
  exists_mapM fun p hp => exists_ofPhrase (h.wellFormed p hp) (hspelled p hp)

private theorem scan_of_strayText (hstray : HasStrayText tiles tail) :
    scan query = .error .unknownTokens :=
  (scan_eq_unknownTokens_iff h).mpr ⟨hstray.1, exists_mapM_ofPhrase h hspelled, hstray.2⟩

/-- A query whose keywords are spelled out, with nothing beside its clauses, is read. -/
theorem exists_scan (hclean : ¬ HasStrayText tiles tail) :
    ∃ clauses, scan query = .ok clauses ∧ clauses.map toPhrase = tiles.map Tile.phrase := by
  obtain ⟨clauses, hclauses⟩ := exists_mapM_ofPhrase h hspelled
  have hmap := (mapM_ofPhrase_eq_ok_iff.mp hclauses).1
  refine ⟨clauses, (scan_eq_ok_iff h).mpr ⟨hclauses, ?_⟩, hmap⟩
  by_cases hnil : tiles = []
  · left
    simpa [hnil] using hmap
  · right
    intro gap hgap c hc
    apply Decidable.byContradiction
    intro hblank
    exact hclean ⟨hnil, gap, hgap, c, hc, by simpa using hblank⟩

end Clause

/-! ### Searches -/

/-- A text search that is read is blank exactly when it searches for spaces only. -/
theorem Clause.searchesBlank_iff {clause : Clause} (h : clause.WellFormed)
    (hop : Operator.ofKeyword? clause.keyword = some clause.operator) :
    clause.searchesBlank = true ↔ clause.SearchesSpaces := by
  have hshape := Operator.shape_of_ofKeyword? h.keyword hop
  rw [searchesBlank, Bool.and_eq_true, List.isEmpty_iff, trimChars_eq_nil_iff,
    Operator.isTextSearch, beq_iff_eq, hshape, Phrase.SearchesSpaces]
  apply and_congr_right
  intro hsearch
  have hoperand := h.operand
  rw [hsearch] at hoperand
  constructor
  · intro hblank c hc
    have hinline := hoperand.2 c hc
    simpa [isInline, hblank c hc] using hinline
  · intro hspaces c hc
    rw [hspaces c hc, isBlank_space]

namespace Fragment

variable {query : String} {clauses : List Clause} (hscan : Clause.scan query = .ok clauses)

include hscan

private theorem ofClause_of_searchesSpaces {clause : Clause} (hmem : clause ∈ clauses)
    (h : clause.SearchesSpaces) : ofClause clause = .error (.malformedClause clause.text) := by
  have hblank := (Clause.searchesBlank_iff (Clause.wellFormed_of_scan hscan clause hmem)
    (Clause.operator_of_scan hscan clause hmem)).mpr h
  rw [ofClause_eq, if_pos hblank]

private theorem exists_ofClause {clause : Clause} (hmem : clause ∈ clauses)
    (h : ¬ clause.SearchesSpaces) : ∃ fragment, ofClause clause = .ok fragment := by
  have hblank := (Clause.searchesBlank_iff (Clause.wellFormed_of_scan hscan clause hmem)
    (Clause.operator_of_scan hscan clause hmem)).not.mpr h
  exact ⟨clause.written, by rw [ofClause_eq, if_neg hblank]⟩

/-- The first empty search fails the fragments of a query. -/
theorem ofQuery_of_emptySearch {p : Phrase}
    (hfirst : IsFirst Phrase.SearchesSpaces (clauses.map Clause.toPhrase) p) :
    ofQuery query = .error (.malformedClause p.text) := by
  obtain ⟨clause, hclause, rfl⟩ := hfirst.of_map
  rw [ofQuery_of_clauses hscan (List.ne_nil_of_mem hclause.mem)]
  apply hclause.mapM_eq_error
  · exact fun other hmem => exists_ofClause hscan hmem
  · exact ofClause_of_searchesSpaces hscan hclause.mem hclause.1

/-- A query that is read and has no empty search gives fragments. -/
theorem exists_ofQuery (h : ∀ p ∈ clauses.map Clause.toPhrase, ¬ p.SearchesSpaces) :
    ∃ fragments, ofQuery query = .ok fragments := by
  by_cases hnil : clauses = []
  · subst hnil
    exact ⟨[ofText query], by rw [ofQuery, hscan]⟩
  · rw [ofQuery_of_clauses hscan hnil]
    exact exists_mapM fun clause hmem => exists_ofClause hscan hmem
      (h clause.toPhrase (List.mem_map_of_mem hmem))

end Fragment

/-! ### Columns -/

namespace Catalog

variable {catalog : Catalog} {fragment column : String}

/-- A fragment whose column the catalog has is resolved. -/
theorem exists_resolveFragment (hcolumn : Fragment.column fragment = .ok column)
    (h : catalog.Resolves column) : ∃ resolved, catalog.resolveFragment fragment = .ok resolved := by
  by_cases hphysical : catalog.IsPhysical column
  · have hcond : (decide (column = bodyColumn) || catalog.isSelected column) = true := by
      rwa [Bool.or_eq_true, decide_eq_true_eq]
    refine ⟨fragment, ?_⟩
    simp only [resolveFragment, hcolumn, if_pos hcond]
  · obtain ⟨field, hfield⟩ := Option.isSome_iff_exists.mp (h.resolve_left hphysical)
    exact ⟨_, resolveFragment_of_interesting hcolumn hphysical hfield⟩

/-- A fragment whose column the catalog does not have is refused. -/
theorem resolveFragment_of_not_resolves (hcolumn : Fragment.column fragment = .ok column)
    (h : ¬ catalog.Resolves column) :
    catalog.resolveFragment fragment = .error (.unresolvableColumn column) := by
  obtain ⟨hphysical, hfield⟩ := not_or.mp h
  have hcond : ¬ (decide (column = bodyColumn) || catalog.isSelected column) = true := by
    rwa [Bool.or_eq_true, decide_eq_true_eq]
  rw [Bool.not_eq_true, Option.isSome_eq_false_iff, Option.isNone_iff_eq_none] at hfield
  simp only [resolveFragment, hcolumn, if_neg hcond, hfield]

variable {query : String} {fragments : List String} (hquery : Fragment.ofQuery query = .ok fragments)

include hquery

private theorem exists_resolveFragment_of_not_misses (hmem : fragment ∈ fragments)
    (h : ¬ catalog.Misses fragment) : ∃ resolved, catalog.resolveFragment fragment = .ok resolved := by
  obtain ⟨column, hcolumn⟩ := Fragment.exists_column_of_ofQuery hquery fragment hmem
  apply exists_resolveFragment hcolumn
  exact Classical.byContradiction fun hnot => h ⟨column, hcolumn, hnot⟩

/-- The first fragment with a column that the catalog does not have fails all of them. -/
theorem resolve_of_misses (hfirst : IsFirst catalog.Misses fragments fragment)
    (hcolumn : Fragment.column fragment = .ok column) :
    catalog.resolve fragments = .error (.unresolvableColumn column) := by
  obtain ⟨other, hother, hnot⟩ := hfirst.1
  obtain rfl := Except.ok.inj (hcolumn.symm.trans hother)
  apply hfirst.mapM_eq_error
  · exact fun other hmem => exists_resolveFragment_of_not_misses hquery hmem
  · exact resolveFragment_of_not_resolves hcolumn hnot

end Catalog

/-! ### Requests -/

namespace ListingRequest

variable {request : ListingRequest} {catalog : Catalog}

/-- The predicate of a request with a query joins its bounds to the resolved fragments. -/
theorem whereBody_eq (hquery : request.query ≠ "") :
    request.whereBody catalog = ((Fragment.ofQuery request.query).bind catalog.resolve).map
      fun fragments => String.join (joinBounds fragments request.bounds) := by
  unfold whereBody fragments queryFragments
  rw [if_neg hquery]
  cases Fragment.ofQuery request.query with
  | error e => rfl
  | ok fragments => cases hres : catalog.resolve fragments <;> simp [Except.bind, Except.map, hres]

/-- The predicate of a request without a query joins its bounds. -/
theorem exists_whereBody_of_empty (hquery : request.query = "") :
    ∃ body, request.whereBody catalog = .ok body := by
  unfold whereBody fragments queryFragments
  rw [if_pos hquery]
  exact ⟨_, rfl⟩

end ListingRequest

namespace Refusal

variable {catalog : Catalog} {query : String} {tiles : List Tile} {tail : List Char} {e : QueryError}

/-- A query without clauses is not refused. -/
theorem tiles_ne_nil (h : Refusal catalog query tiles tail e)
    (htiling : Tiling query.toList tiles tail) : tiles ≠ [] := by
  rintro rfl
  cases h with
  | longS first => cases first.mem
  | strayText spelled stray => exact stray.1 rfl
  | emptySearch spelled clean first => cases first.mem
  | unknownColumn spelled clean searches written first named =>
    -- Its only fragment is about the body, which every catalog has.
    have hscan : Clause.scan query = .ok [] := (Clause.scan_eq_ok_iff htiling).mpr ⟨rfl, .inl rfl⟩
    rw [Fragment.ofQuery, hscan] at written
    cases written
    obtain ⟨column, hcolumn, hnot⟩ := first.1
    rw [List.mem_singleton.mp first.mem, Fragment.column_ofText] at hcolumn
    cases hcolumn
    exact hnot (.inl (.inl rfl))

/-- A refused query has text. -/
theorem query_ne_empty (h : Refusal catalog query tiles tail e)
    (htiling : Tiling query.toList tiles tail) : query ≠ "" := by
  rintro rfl
  have hnil := (htiling.unique (.stop not_clauseAt_nil)).1
  exact h.tiles_ne_nil htiling hnil

/-- A query is refused with one of three kinds of error. -/
theorem kind (h : Refusal catalog query tiles tail e) : e = .unknownTokens ∨
    (∃ clause, e = .malformedClause clause) ∨ ∃ column, e = .unresolvableColumn column := by
  cases h with
  | longS => exact .inr (.inl ⟨_, rfl⟩)
  | strayText => exact .inl rfl
  | emptySearch => exact .inr (.inl ⟨_, rfl⟩)
  | unknownColumn => exact .inr (.inr ⟨_, rfl⟩)

/-- A query to which a rule applies fails with the error of the rule. -/
theorem whereBody_eq_error (h : Refusal catalog query tiles tail e)
    (htiling : Tiling query.toList tiles tail) {request : ListingRequest}
    (hrequest : request.query = query) : request.whereBody catalog = .error e := by
  have hquery := h.query_ne_empty htiling
  subst hrequest
  rw [ListingRequest.whereBody_eq hquery]
  cases h with
  | longS first =>
    rw [Fragment.ofQuery, Clause.scan_of_longS htiling first]
    rfl
  | strayText spelled stray =>
    rw [Fragment.ofQuery, Clause.scan_of_strayText htiling spelled stray]
    rfl
  | emptySearch spelled clean first =>
    obtain ⟨clauses, hscan, hmap⟩ := Clause.exists_scan htiling spelled clean
    rw [← hmap] at first
    rw [Fragment.ofQuery_of_emptySearch hscan first]
    rfl
  | unknownColumn spelled clean searches written first named =>
    rw [written, Except.bind, Catalog.resolve_of_misses written first named]
    rfl

end Refusal

namespace ListingRequest

variable {request : ListingRequest} {catalog : Catalog} {tiles : List Tile} {tail : List Char}

/-- A query to which no rule applies has a predicate. -/
theorem exists_whereBody (htiling : Tiling request.query.toList tiles tail)
    (h : ∀ e, ¬ Refusal catalog request.query tiles tail e) :
    ∃ body, request.whereBody catalog = .ok body := by
  by_cases hquery : request.query = ""
  · exact exists_whereBody_of_empty hquery
  -- Each pass in turn either has a first failure, which a rule describes, or none.
  have hspelled : ∀ p ∈ tiles.map Tile.phrase, ¬ p.HasLongS :=
    (exists_isFirst_or_forall _ _).resolve_left fun ⟨p, hp⟩ => h _ (.longS hp)
  have hclean : ¬ HasStrayText tiles tail := fun hstray => h _ (.strayText hspelled hstray)
  have hsearches : ∀ p ∈ tiles.map Tile.phrase, ¬ p.SearchesSpaces :=
    (exists_isFirst_or_forall _ _).resolve_left fun ⟨p, hp⟩ => h _ (.emptySearch hspelled hclean hp)
  obtain ⟨clauses, hscan, hmap⟩ := Clause.exists_scan htiling hspelled hclean
  obtain ⟨fragments, hwritten⟩ := Fragment.exists_ofQuery hscan (by rwa [hmap])
  have hmisses : ∀ fragment ∈ fragments, ¬ catalog.Misses fragment := by
    apply (exists_isFirst_or_forall _ _).resolve_left
    rintro ⟨fragment, hfirst⟩
    obtain ⟨column, hcolumn, -⟩ := hfirst.1
    exact h _ (.unknownColumn hspelled hclean hsearches hwritten hfirst hcolumn)
  obtain ⟨resolved, hresolved⟩ := exists_mapM fun fragment hmem =>
    Catalog.exists_resolveFragment_of_not_misses hwritten hmem (hmisses fragment hmem)
  have hresolve : catalog.resolve fragments = .ok resolved := hresolved
  rw [whereBody_eq hquery, hwritten, Except.bind, hresolve]
  exact ⟨_, rfl⟩

/-- A request fails exactly with the error of a rule that applies to its query. -/
theorem whereBody_eq_error_iff (htiling : Tiling request.query.toList tiles tail) {e : QueryError} :
    request.whereBody catalog = .error e ↔ Refusal catalog request.query tiles tail e := by
  constructor
  · intro herror
    by_cases hany : ∃ e', Refusal catalog request.query tiles tail e'
    · obtain ⟨e', he'⟩ := hany
      obtain rfl := Except.error.inj (herror.symm.trans (he'.whereBody_eq_error htiling rfl))
      exact he'
    · obtain ⟨body, hbody⟩ := exists_whereBody htiling (not_exists.mp hany)
      rw [hbody] at herror
      cases herror
  · exact fun he => he.whereBody_eq_error htiling rfl

/-- A request fails exactly when its query is refused, with the error of the first rule that applies,
and its bounds do not matter. A query without clauses is not refused, nor is the empty one; every
fragment of a query has a column; and no other kind of error occurs. -/
theorem whereBody_refusals (catalog : Catalog) (query : String) :
    ∃ tiles tail, Tiling query.toList tiles tail ∧
      (∀ request : ListingRequest, request.query = query →
        (∀ e, request.whereBody catalog = .error e ↔ Refusal catalog query tiles tail e) ∧
        ((∃ body, request.whereBody catalog = .ok body) ↔
          ∀ e, ¬ Refusal catalog query tiles tail e)) ∧
      (query = "" ∨ tiles = [] → ∀ e, ¬ Refusal catalog query tiles tail e) ∧
      (∀ fragments, Fragment.ofQuery query = .ok fragments →
        ∀ fragment ∈ fragments, ∃ column, Fragment.column fragment = .ok column) ∧
      ∀ e, Refusal catalog query tiles tail e → e = .unknownTokens ∨
        (∃ clause, e = .malformedClause clause) ∨ ∃ column, e = .unresolvableColumn column := by
  obtain ⟨tiles, tail, htiling, -, -⟩ := Piece.exists_tiling query.toList
  refine ⟨tiles, tail, htiling, ?_, ?_, ?_, ?_⟩
  · rintro request rfl
    refine ⟨fun e => whereBody_eq_error_iff htiling, ?_, exists_whereBody htiling⟩
    rintro ⟨body, hbody⟩ e he
    rw [he.whereBody_eq_error htiling rfl] at hbody
    cases hbody
  · rintro (hempty | hnil) e he
    · exact he.query_ne_empty htiling hempty
    · exact he.tiles_ne_nil htiling hnil
  · exact fun fragments hquery => Fragment.exists_column_of_ofQuery hquery
  · exact fun e he => he.kind

/-- An empty search in the second clause comes before an unknown column in the first. -/
example : ({ query := "nope gt 1 and body contains  " } : ListingRequest).whereBody .builtIn =
    .error (.malformedClause "and body contains  ") := by decide +kernel

end ListingRequest

end LogFilter
