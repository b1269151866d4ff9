import PageSearch.Plan.Clause

/-!
# Reading rendered queries

A query that was rendered for the engine can be read again, list by list and clause by clause. The lists are
those of the query, without the empty ones (`exists_of_listOf`), and the phrases are those of its clauses
(`exists_of_asksForPhrase`).
-/

namespace PageSearch

namespace BoolQuery

/-! ### Lists -/

/-- One of the lists of a query as the engine reads it. -/
def listOf (query : Value) (name : String) : Option Value := (query.get? "bool").bind (·.get? name)

theorem listOf_toValue (bool : BoolQuery) (name : String) :
    listOf bool.toValue name = Fields.get? (part "must" bool.must ++ part "should" bool.should
      ++ part "filter" bool.filter ++ part "must_not" bool.mustNot) name := rfl

theorem lookup_part (name name' : String) (clauses : List Clause) :
    (part name clauses).lookup name' =
      if name' = name ∧ clauses ≠ [] then some (Clause.listValue clauses) else none := by
  rw [part]
  cases clauses with
  | nil => simp
  | cons clause clauses => by_cases h : name' = name <;> simp [h]

/-- What must match is in the query, unless there is nothing. -/
theorem listOf_must (bool : BoolQuery) :
    listOf bool.toValue "must" = if bool.must = [] then none else some (Clause.listValue bool.must) := by
  rw [listOf_toValue, Fields.get?]
  simp [List.lookup_append, lookup_part]

/-- What counts without having to match is in the query, unless there is nothing. -/
theorem listOf_should (bool : BoolQuery) :
    listOf bool.toValue "should" = if bool.should = [] then none else some (Clause.listValue bool.should) := by
  rw [listOf_toValue, Fields.get?]
  simp [List.lookup_append, lookup_part]

/-- The filters are in the query, unless there are none. -/
theorem listOf_filter (bool : BoolQuery) :
    listOf bool.toValue "filter" = if bool.filter = [] then none else some (Clause.listValue bool.filter) := by
  rw [listOf_toValue, Fields.get?]
  simp [List.lookup_append, lookup_part]

/-- What must not match is in the query, unless there is nothing. -/
theorem listOf_mustNot (bool : BoolQuery) :
    listOf bool.toValue "must_not" =
      if bool.mustNot = [] then none else some (Clause.listValue bool.mustNot) := by
  rw [listOf_toValue, Fields.get?]
  simp [List.lookup_append, lookup_part]

/-- The clauses of a query. -/
def clauses (bool : BoolQuery) : List Clause := bool.must ++ bool.should ++ bool.filter ++ bool.mustNot

/-- Whatever list is read has clauses of the query. -/
theorem exists_of_listOf {bool : BoolQuery} {name : String} {v : Value} (h : listOf bool.toValue name = some v) :
    ∃ cs, v = Clause.listValue cs ∧ cs ⊆ bool.clauses := by
  have hpart : ∀ name' cs, (part name' cs).lookup name = some v → v = Clause.listValue cs := by
    intro name' cs hlookup
    rw [lookup_part] at hlookup
    split at hlookup
    · exact (Option.some.inj hlookup).symm
    · cases hlookup
  rw [listOf_toValue, Fields.get?, List.lookup_append, List.lookup_append, List.lookup_append] at h
  simp only [Option.or_eq_some_iff] at h
  rcases h with ((h | ⟨-, h⟩) | ⟨-, h⟩) | ⟨-, h⟩
  · exact ⟨bool.must, hpart _ _ h, fun c hc => by simp [clauses, hc]⟩
  · exact ⟨bool.should, hpart _ _ h, fun c hc => by simp [clauses, hc]⟩
  · exact ⟨bool.filter, hpart _ _ h, fun c hc => by simp [clauses, hc]⟩
  · exact ⟨bool.mustNot, hpart _ _ h, fun c hc => by simp [clauses, hc]⟩

/-! ### Phrases -/

/-- A query asks for a phrase if one of its clauses does, in any of its lists and in any field. The phrase is
what the clause says of the field: the words, the slop and the weight. -/
def AsksForPhrase (query phrase : Value) : Prop :=
  ∃ name clauses clause fields field, listOf query name = some (.list clauses) ∧ clause ∈ clauses ∧
    clause.get? "match_phrase" = some (.obj fields) ∧ (field, phrase) ∈ fields

theorem exists_of_get?_matchPhrase {clause : Clause} {fields : Fields} {field : String} {phrase : Value}
    (h : clause.toValue.get? "match_phrase" = some (.obj fields)) (hphrase : (field, phrase) ∈ fields) :
    ∃ text slop boost, clause = .phrase field text slop boost ∧ phrase.get? "slop" = some (.int slop) := by
  cases clause with
  | phrase name text slop boost =>
    obtain rfl : [(name, _)] = fields := Value.obj.inj (Option.some.inj h)
    obtain ⟨rfl, rfl⟩ := Prod.mk.inj (List.mem_singleton.1 hphrase)
    exact ⟨text, slop, boost, rfl, rfl⟩
  | _ => cases h

/-- **The phrases** that a rendered query asks for are those of its clauses. -/
theorem exists_of_asksForPhrase {bool : BoolQuery} {phrase : Value} (h : AsksForPhrase bool.toValue phrase) :
    ∃ field text slop boost, Clause.phrase field text slop boost ∈ bool.clauses ∧
      phrase.get? "slop" = some (.int slop) := by
  obtain ⟨name, values, value, fields, field, hlist, hvalue, hfields, hphrase⟩ := h
  obtain ⟨cs, hcs, hsubset⟩ := exists_of_listOf hlist
  obtain rfl : values = cs.map Clause.toValue := Value.list.inj hcs
  obtain ⟨clause, hclause, rfl⟩ := List.mem_map.1 hvalue
  obtain ⟨text, slop, boost, rfl, hslop⟩ := exists_of_get?_matchPhrase hfields hphrase
  exact ⟨field, text, slop, boost, hsubset hclause, hslop⟩

end BoolQuery

end PageSearch
