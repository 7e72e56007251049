import LogFilter.Proofs.Fragment.Written
import LogFilter.Request.Where

/-!
# Joining of predicates

The fragments of a predicate are joined when the first does not start with a conjunction and every
later one does. Bounds always join. The fragment of a clause starts with the conjunction that the
clause has, unless the look-up of its column is written there, so a query can leave its fragments
unjoined.
-/

namespace LogFilter

open Text

/-- The fragments form a predicate: the first has no conjunction, and every later one has. -/
def Fragment.Joined : List String → Prop
  | [] => True
  | first :: later => ¬ Joins first ∧ ∀ fragment ∈ later, Joins fragment

instance : DecidablePred Fragment.Joined
  | [] => inferInstanceAs (Decidable True)
  | _ :: _ => inferInstanceAs (Decidable (_ ∧ _))

namespace Clause

/-- The name of the column, in lower case, occurs in the conjunction before it and is replaced
there. -/
def LosesConjunction (clause : Clause) (catalog : Catalog) : Prop :=
  clause.operator.isTextSearch = false ∧ ¬ catalog.IsPhysical (lowercase clause.column) ∧
    (lowercase clause.column).toList <:+: clause.lead.toList

/-- The fragment of the clause starts with `and`: the clause has a conjunction and keeps it, or it
has none and its column is called `and`. -/
def Joins (clause : Clause) (catalog : Catalog) : Prop :=
  if clause.conjunction then ¬ clause.LosesConjunction catalog
  else IsAndWord clause.column.toList

/-- Clauses whose fragments form a predicate: the first does not join, and every later one does. -/
def Joinable (clauses : List Clause) (catalog : Catalog) : Prop :=
  (∀ clause ∈ clauses.head?, ¬ clause.Joins catalog) ∧ ∀ clause ∈ clauses.tail, clause.Joins catalog

end Clause

/-! ### Fragments of clauses -/

private theorem IsConjunction.toLower_mem {lead : List Char} (h : IsConjunction lead) {c : Char}
    (hc : c ∈ lead) : c.toLower ∈ "and ".toList := by
  obtain ⟨word, spaces, hand, rfl⟩ := h
  rcases List.mem_append.mp hc with hc | hc
  · have hmem : c.toLower ∈ word.map Char.toLower := List.mem_map_of_mem hc
    rw [hand] at hmem
    exact List.mem_append_left [' '] hmem
  · rw [List.eq_of_mem_replicate hc]
    decide

namespace Operator

/-- The first word of the symbol, in lower case, does not occur in a conjunction. -/
theorem not_infix_conjunction (op : Operator) {lead : List Char} (h : IsConjunction lead) :
    ¬ op.symbolWord.map Char.toLower <:+: lead := by
  have hletter : (op.symbolWord.map Char.toLower).any
      (fun c => decide (c.toLower ∉ "and ".toList)) = true := by
    cases op <;> decide
  obtain ⟨c, hc, hnot⟩ := List.any_eq_true.mp hletter
  exact not_infix_of_not_mem hc fun hmem => of_decide_eq_true hnot (h.toLower_mem hmem)

end Operator

namespace Clause

variable {clause : Clause} {catalog : Catalog} {fragment resolved : String}

/-- The fragment of a clause joins, once it is resolved, exactly when the clause does. -/
theorem joins_resolved_iff (hclause : clause.WellFormed)
    (hfragment : Fragment.ofClause clause = .ok fragment)
    (h : catalog.resolveFragment fragment = .ok resolved) :
    Fragment.Joins resolved ↔ clause.Joins catalog := by
  have htext := Fragment.ofClause_parts hfragment
  have hcol := isRun_writtenColumn hclause
  unfold Joins
  split
  · next hconj =>
    cases hsearch : clause.operator.isTextSearch with
    | false =>
      have hlead := hclause.lead.resolve_left (Phrase.conjunction_eq_true_iff.mp hconj)
      rw [writtenLead, writtenColumn, hsearch] at htext
      rw [Fragment.joins_resolved_iff hlead hclause.column.plain htext h, LosesConjunction,
        lowercase_column hclause, String.toList_ofList, and_iff_right hsearch]
    | true =>
      have hlead : IsConjunction "AND ".toList := ⟨['A', 'N', 'D'], 0, by decide, by decide⟩
      rw [writtenLead, hsearch, if_pos rfl, if_pos hconj] at htext
      rw [Fragment.joins_resolved_iff hlead hcol htext h, LosesConjunction, hsearch]
      have hnot := not_infix_capitals hcol
      exact iff_of_true (fun hlost => hnot hlost.2) fun hlost => Bool.noConfusion hlost.1
  · next hconj =>
    have hlead : clause.writtenLead = "" := by
      rw [writtenLead, if_neg hconj, Phrase.conjunction_eq_false_iff.mp (by simpa using hconj),
        ite_self]
    rw [hlead, String.toList_empty, List.nil_append] at htext
    rw [← isAndWord_writtenColumn hclause]
    by_cases hand : IsAndWord clause.writtenColumn.toList
    · -- The column is read as a conjunction, and the symbol after it as the column.
      obtain ⟨more, hsymbol⟩ := clause.operator.symbol_append (clause.writtenOperand.toList ++ [' '])
      have hconj : IsConjunction (clause.writtenColumn.toList ++ [' ']) := ⟨_, 0, hand, rfl⟩
      rw [hsymbol, List.append_cons] at htext
      rw [Fragment.joins_resolved_iff hconj clause.operator.isRun_symbolWord htext h]
      have hnot := clause.operator.not_infix_conjunction hconj
      exact iff_of_true (fun hlost => hnot hlost.2) hand
    · exact iff_of_false (Fragment.not_joins_resolved hcol hand htext h) hand

/-- Resolved fragments of clauses join exactly as the clauses do. -/
theorem map_joins_resolved {clauses : List Clause} {fragments results : List String}
    (hclauses : ∀ clause ∈ clauses, clause.WellFormed)
    (hfragments : clauses.mapM Fragment.ofClause = .ok fragments)
    (h : catalog.resolve fragments = .ok results) :
    results.map Fragment.Joins = clauses.map (Joins · catalog) := by
  induction clauses generalizing fragments results with
  | nil =>
    cases hfragments
    cases h
    rfl
  | cons clause clauses ih =>
    obtain ⟨hclause, hclauses⟩ := List.forall_mem_cons.mp hclauses
    obtain ⟨fragment, fragments, hfragment, hlater, rfl⟩ := mapM_cons_eq_ok_iff.mp hfragments
    obtain ⟨result, results, hresult, hresults, rfl⟩ := mapM_cons_eq_ok_iff.mp h
    have hhead := joins_resolved_iff hclause hfragment hresult
    rw [List.map_cons, List.map_cons, ih hclauses hlater hresults, propext hhead]

/-- Fragments that join as clauses do are joined exactly when the clauses are joinable. -/
theorem joined_iff_joinable {fragments : List String} {clauses : List Clause}
    (h : fragments.map Fragment.Joins = clauses.map (Joins · catalog)) :
    Fragment.Joined fragments ↔ Joinable clauses catalog := by
  cases fragments with
  | nil =>
    obtain rfl := List.map_eq_nil_iff.mp h.symm
    simp [Fragment.Joined, Joinable]
  | cons first later =>
    cases clauses with
    | nil => cases h
    | cons clause clauses =>
      obtain ⟨hfirst, hlater⟩ := List.cons.inj h
      have hmem : (∀ fragment ∈ later, Fragment.Joins fragment) ↔
          ∀ clause ∈ clauses, clause.Joins catalog := by
        calc (∀ fragment ∈ later, Fragment.Joins fragment)
          _ ↔ ∀ joins ∈ later.map Fragment.Joins, joins :=
            (List.forall_mem_map (P := fun joins => joins)).symm
          _ ↔ ∀ joins ∈ clauses.map (Joins · catalog), joins := by rw [hlater]
          _ ↔ ∀ clause ∈ clauses, clause.Joins catalog := List.forall_mem_map
      rw [Fragment.Joined, hfirst, hmem]
      simp [Joinable]

end Clause

/-- The fragment of a query without clauses starts with the column of the body. -/
theorem Fragment.not_joins_ofText {catalog : Catalog} {query resolved : String}
    (h : catalog.resolveFragment (ofText query) = .ok resolved) : ¬ Joins resolved := by
  have htext : (ofText query).toList =
      "body".toList ++ ' ' :: ("ILIKE '%" ++ query ++ "%' ").toList := by
    simp [ofText, bodyColumn]
  exact not_joins_resolved (by decide) (by decide) htext h

/-! ### Bounds -/

namespace Fragment

/-- A bound that is joined to fragments leaves them as well joined as they are. -/
theorem joined_append_bound {fragments : List String} {bound : String} (h : ¬ Joins bound) :
    Joined (fragments ++ [if fragments.isEmpty then bound else "and " ++ bound]) ↔
      Joined fragments := by
  cases fragments with
  | nil => simp [Joined, h]
  | cons first later =>
    have htext : ("and " ++ bound).toList = ['a', 'n', 'd'] ++ ' ' :: bound.toList := by
      rw [String.toList_append]
      rfl
    have hjoins : Joins ("and " ++ bound) := (joins_iff (by decide) htext).mpr (by decide)
    rw [List.cons_append, Joined, Joined, List.forall_mem_append, List.forall_mem_singleton,
      List.isEmpty_cons, if_neg Bool.false_ne_true, and_iff_left hjoins]

/-- Bounds leave fragments as well joined as they are. -/
theorem joined_joinBounds {fragments bounds : List String} (h : ∀ bound ∈ bounds, ¬ Joins bound) :
    Joined (joinBounds fragments bounds) ↔ Joined fragments := by
  induction bounds generalizing fragments with
  | nil => rfl
  | cons bound bounds ih =>
    obtain ⟨hbound, hbounds⟩ := List.forall_mem_cons.mp h
    rw [joinBounds, ih hbounds, joined_append_bound hbound]

/-- Every bound adds one fragment. -/
theorem length_joinBounds (fragments bounds : List String) :
    (joinBounds fragments bounds).length = fragments.length + bounds.length := by
  induction bounds generalizing fragments with
  | nil => rfl
  | cons bound bounds ih =>
    rw [joinBounds, ih, List.length_append, List.length_cons, List.length_cons, List.length_nil]
    omega

end Fragment

/-- A time bound starts with the column of times. -/
theorem not_joins_timeBound {comparison fragment : String} {bound : Option UInt64}
    (h : timeBound comparison bound = some fragment) : ¬ Fragment.Joins fragment := by
  obtain ⟨t, -, rfl⟩ := Option.map_eq_some_iff.mp h
  have htext : ("timestamp " ++ comparison ++ " '" ++ decimal t.toNat ++ "' ").toList =
      "timestamp".toList ++ ' ' :: (comparison ++ " '" ++ decimal t.toNat ++ "' ").toList := by
    simp
  rw [Fragment.joins_iff (by decide) htext]
  decide

/-- An id bound starts with the column of ids. -/
theorem not_joins_idBound {comparison fragment : String} {bound : Option String}
    (h : idBound comparison bound = some fragment) : ¬ Fragment.Joins fragment := by
  obtain ⟨t, -, rfl⟩ := Option.map_eq_some_iff.mp h
  have htext : ("id " ++ comparison ++ " '" ++ t ++ "' ").toList =
      "id".toList ++ ' ' :: (comparison ++ " '" ++ t ++ "' ").toList := by
    simp
  rw [Fragment.joins_iff (by decide) htext]
  decide

namespace ListingRequest

variable {request : ListingRequest} {catalog : Catalog}

/-- No bound has a conjunction of its own. -/
theorem not_joins_bounds (request : ListingRequest) :
    ∀ bound ∈ request.bounds, ¬ Fragment.Joins bound := by
  intro bound hbound
  obtain ⟨active, hactive, hsome⟩ := List.mem_filterMap.mp hbound
  simp only [List.mem_cons, List.not_mem_nil, or_false] at hactive
  rcases hactive with rfl | rfl | rfl | rfl
  · exact not_joins_timeBound hsome
  · exact not_joins_timeBound hsome
  · exact not_joins_idBound hsome
  · exact not_joins_idBound hsome

/-! ### Requests -/

/-- The fragments of a query, one for each clause, are joined exactly when its clauses are joinable.
The fragment of a query without clauses is joined. -/
theorem queryFragments_joined_iff {fragments : List String}
    (h : request.queryFragments catalog = .ok fragments) :
    ∃ clauses, Clause.scan request.query = .ok clauses ∧
      fragments.length = (if request.query = "" then 0 else max 1 clauses.length) ∧
      (Fragment.Joined fragments ↔ Clause.Joinable clauses catalog) := by
  unfold queryFragments at h
  split at h
  · next hquery =>
    cases h
    have htiling : Tiling request.query.toList [] [] := by
      rw [hquery, String.toList_empty]
      exact .stop not_clauseAt_nil
    have hscan := (Clause.scan_eq_ok_iff htiling).mpr ⟨rfl, .inl rfl⟩
    exact ⟨[], hscan, by simp [hquery], Clause.joined_iff_joinable rfl⟩
  · next hquery =>
    simp only [if_neg hquery]
    split at h
    · cases h
    · next written hwritten =>
      unfold Fragment.ofQuery at hwritten
      split at hwritten
      · cases hwritten
      · next hscan =>
        cases hwritten
        obtain ⟨resolved, rest, hresolved, hrest, rfl⟩ := mapM_cons_eq_ok_iff.mp h
        cases hrest
        have hnot := Fragment.not_joins_ofText hresolved
        exact ⟨[], hscan, rfl, by simp [Fragment.Joined, Clause.Joinable, hnot]⟩
      · next clauses hne hscan =>
        have hmap := Clause.map_joins_resolved (Clause.wellFormed_of_scan hscan) hwritten h
        have hlen := congrArg List.length hmap
        rw [List.length_map, List.length_map] at hlen
        have hpos : 0 < clauses.length := List.length_pos_iff.mpr hne
        exact ⟨clauses, hscan, by omega, Clause.joined_iff_joinable hmap⟩

/-- A predicate is the concatenation of its fragments: one for each clause of the query, or one if
the query has text but no clause, and one for each active bound. The fragments are joined exactly
when the first clause does not start with a conjunction and every later one does and keeps it. -/
theorem whereBody_joined_iff {body : String} (h : request.whereBody catalog = .ok body) :
    ∃ clauses fragments, Clause.scan request.query = .ok clauses ∧
      request.fragments catalog = .ok fragments ∧ body = String.join fragments ∧
      fragments.length =
        (if request.query = "" then 0 else max 1 clauses.length) + request.bounds.length ∧
      (Fragment.Joined fragments ↔ Clause.Joinable clauses catalog) := by
  unfold whereBody fragments at *
  cases hquery : request.queryFragments catalog with
  | error e =>
    rw [hquery] at h
    cases h
  | ok queried =>
    rw [hquery] at h
    cases h
    obtain ⟨clauses, hscan, hlen, hjoined⟩ := queryFragments_joined_iff hquery
    refine ⟨clauses, joinBounds queried request.bounds, hscan, rfl, rfl, ?_, ?_⟩
    · rw [Fragment.length_joinBounds, hlen]
    · rw [Fragment.joined_joinBounds request.not_joins_bounds, hjoined]

/-- A query of two clauses with a time bound. -/
theorem whereBody_joined_iff_two_clauses :
    let request : ListingRequest := { query := "id gt 1 and id lt 5", timestampStart := some 7 }
    let body := "id > 1 and id < 5 and timestamp >= '7' "
    request.whereBody .builtIn = .ok body ∧
    ∃ clauses fragments, Clause.scan request.query = .ok clauses ∧
      request.fragments .builtIn = .ok fragments ∧ body = String.join fragments ∧
      fragments.length =
        (if request.query = "" then 0 else max 1 clauses.length) + request.bounds.length ∧
      (Fragment.Joined fragments ↔ Clause.Joinable clauses .builtIn) := by
  intro request body
  have h : request.whereBody .builtIn = .ok body := by decide +kernel
  exact ⟨h, whereBody_joined_iff h⟩

/-- Two clauses without a conjunction between them are accepted and give fragments that are not
joined, and so does a first clause with a conjunction. -/
theorem whereBody_unjoined :
    ({ query := "id gt 1 id lt 5" } : ListingRequest).whereBody .builtIn = .ok "id > 1 id < 5 " ∧
    ({ query := "id gt 1 id lt 5" } : ListingRequest).fragments .builtIn =
      .ok ["id > 1 ", "id < 5 "] ∧ ¬ Fragment.Joined ["id > 1 ", "id < 5 "] ∧
    ({ query := "and id gt 1" } : ListingRequest).fragments .builtIn = .ok ["and id > 1 "] ∧
    ¬ Fragment.Joined ["and id > 1 "] := by
  decide +kernel

end ListingRequest

end LogFilter
