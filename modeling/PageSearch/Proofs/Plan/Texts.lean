import PageSearch.Proofs.Plan.Body

/-!
# Texts in a request

The text of a query is put into the clauses that match words, and nowhere else. So the requests that two texts are
compiled to differ in these places only (`body_of_compile`): a user can choose the words, but not the structure of
a query. Each step of a plan says this for its own clauses (`withText`), and the places are found in the body by
their names (`Body.putText`), whatever the names of the searched fields are.
-/

namespace PageSearch

/-! ### Clauses with another text -/

/-- The clause with another text, if it matches words. -/
def Clause.withText (text : Value) : Clause → Clause
  | words _ fields flags minimum => words text fields flags minimum
  | someWords field _ boost => someWords field text boost
  | phrase field _ slop boost => phrase field text slop boost
  | c => c

/-- The query with another text in all its clauses. -/
def BoolQuery.withText (text : Value) (bool : BoolQuery) : BoolQuery where
  must := bool.must.map (Clause.withText text)
  should := bool.should.map (Clause.withText text)
  filter := bool.filter.map (Clause.withText text)
  mustNot := bool.mustNot.map (Clause.withText text)

/-- The parts of a plan with another text in both stages. -/
def Plan.Compiled.withText (text : Value) (c : Compiled) : Compiled :=
  { c with
    preQuery := c.preQuery.withText text
    rescoreQuery := c.rescoreQuery.map (BoolQuery.withText text) }

/-- The query with another text. -/
def RawQuery.withText (text : Value) (q : RawQuery) : RawQuery := { q with text := text }

namespace Plan

open Outcome

variable {settings : Settings} {q : RawQuery} {text : Value}

/-! ### Steps without words -/

theorem map_withText_eq_self {cs : List Clause} (h : ∀ c ∈ cs, c.withText text = c) :
    cs.map (Clause.withText text) = cs := by
  rw [List.map_congr_left h, List.map_id']

theorem map_withText_termFilters {terms : List Clause} (h : termFilters settings q = .ok terms) :
    terms.map (Clause.withText text) = terms := by
  refine map_withText_eq_self fun c hc => ?_
  simp only [termFilters, bind_eq_ok, pure_eq_ok] at h
  obtain ⟨demands, -, rfl⟩ := h
  rcases List.mem_append.1 hc with hc | hc
  · obtain ⟨demand, -, rfl⟩ := List.mem_map.1 hc
    rfl
  · rw [List.mem_singleton.1 hc]
    rfl

theorem map_withText_rangeFilters {negate : Bool} {ranges : List Clause}
    (h : rangeFilters settings q negate = .ok ranges) : ranges.map (Clause.withText text) = ranges := by
  refine map_withText_eq_self fun c hc => ?_
  simp only [rangeFilters, bind_eq_ok, pure_eq_ok] at h
  obtain ⟨found, hfound, rfl⟩ := h
  obtain ⟨spec, -, hspec⟩ := exists_of_mem_of_mapM hfound (by simpa using hc)
  unfold rangeClause? at hspec
  split at hspec
  · cases hspec
  · obtain ⟨name, -, hname⟩ := by simpa only [bind_eq_ok, pure_eq_ok] using hspec
    cases hname
    rfl

/-! ### Steps of a query with another text -/

theorem localize_withText (name : String) : localize (q.withText text) name = localize q name := rfl

theorem fieldNames_withText (specs : List FieldSpec) (weighted : Bool) :
    fieldNames (q.withText text) specs weighted = fieldNames q specs weighted := rfl

theorem termFilters_withText : termFilters settings (q.withText text) = termFilters settings q := rfl

theorem rangeFilters_withText (negate : Bool) :
    rangeFilters settings (q.withText text) negate = rangeFilters settings q negate := rfl

/-- The filters do not depend on the text. -/
theorem addFilters_withText (bool : BoolQuery) :
    addFilters settings (q.withText text) (bool.withText text) =
      (addFilters settings q bool).map (BoolQuery.withText text) := by
  unfold addFilters
  rw [rangeFilters_withText, rangeFilters_withText, termFilters_withText]
  cases hinside : rangeFilters settings q false with
  | error fault => rfl
  | ok inside =>
    cases houtside : rangeFilters settings q true with
    | error fault => rfl
    | ok outside =>
      cases hterms : termFilters settings q with
      | error fault => rfl
      | ok terms =>
        have hinside' : inside.map (Clause.withText text) = inside := map_withText_rangeFilters hinside
        have houtside' : outside.map (Clause.withText text) = outside := map_withText_rangeFilters houtside
        have hterms' : terms.map (Clause.withText text) = terms := map_withText_termFilters hterms
        simp only [bind, Except.bind, pure, Except.pure, Except.map, BoolQuery.withText, List.map_append, hinside',
          houtside', hterms']

theorem wordsClause_withText (specs : List FieldSpec) (flags : List String) (weighted : Bool) (minimum : Value) :
    wordsClause (q.withText text) specs flags weighted minimum =
      (wordsClause q specs flags weighted minimum).map (Clause.withText text) := by
  unfold wordsClause
  rw [fieldNames_withText]
  cases fieldNames q specs weighted with
  | error fault => rfl
  | ok names => rfl

theorem writtenHostBoosts_withText :
    writtenHostBoosts settings (q.withText text) =
      (writtenHostBoosts settings q).map (List.map (Clause.withText text)) := by
  unfold writtenHostBoosts Value.afterWriting
  rw [RawQuery.withText]
  split
  · rfl
  · rfl

theorem proximityClauses_withText :
    proximityClauses settings (q.withText text) =
      (proximityClauses settings q).map (List.map (Clause.withText text)) := by
  unfold proximityClauses
  rw [← mapM_map_result]
  refine congrArg (List.mapM · _) (funext fun spec => ?_)
  rw [localize_withText]
  cases localize q spec.name with
  | error fault => rfl
  | ok name => rfl

theorem phraseClauses_withText (slop : Int) :
    phraseClauses settings (q.withText text) slop =
      (phraseClauses settings q slop).map (List.map (Clause.withText text)) := by
  unfold phraseClauses
  rw [← mapM_map_result]
  refine congrArg (List.mapM · _) (funext fun spec => ?_)
  rw [localize_withText]
  cases localize q spec.name with
  | error fault => rfl
  | ok name => rfl

/-- The words in a field that is not excluded. -/
def recallClause? (q : RawQuery) (excluded : Value) (spec : FieldSpec) : Outcome (Option Clause) := do
  let name ← localize q spec.name
  return if ← excluded.holds name then none else some (.someWords name q.text spec.boost)

theorem recallClauses_eq (excluded : Value) :
    recallClauses settings q excluded = (settings.mainFields.mapM (recallClause? q excluded)).map (·.filterMap id) := by
  show (settings.mainFields.mapM (recallClause? q excluded) >>= fun clauses => pure (clauses.filterMap id)) = _
  cases settings.mainFields.mapM (recallClause? q excluded) with
  | error fault => rfl
  | ok clauses => rfl

theorem recallClause?_withText (excluded : Value) (spec : FieldSpec) :
    recallClause? (q.withText text) excluded spec =
      (recallClause? q excluded spec).map (Option.map (Clause.withText text)) := by
  unfold recallClause?
  rw [localize_withText]
  cases localize q spec.name with
  | error fault => rfl
  | ok name =>
    simp only [bind, Except.bind]
    cases excluded.holds name with
    | error fault => rfl
    | ok holds => cases holds <;> rfl

theorem recallClauses_withText (excluded : Value) :
    recallClauses settings (q.withText text) excluded =
      (recallClauses settings q excluded).map (List.map (Clause.withText text)) := by
  rw [recallClauses_eq, recallClauses_eq, funext (recallClause?_withText excluded), mapM_map_result]
  cases settings.mainFields.mapM (recallClause? q excluded) with
  | error fault => rfl
  | ok clauses =>
    show Except.ok ((clauses.map (Option.map (Clause.withText text))).filterMap id) =
      Except.ok ((clauses.filterMap id).map (Clause.withText text))
    rw [List.filterMap_map, List.map_filterMap]
    rfl

/-! ### Stages -/

/-- If there are no phrases to look for, with another text there are none either. -/
theorem map_withText_phrases (phrases : List Clause) :
    (if (phrases.map (Clause.withText text)).isEmpty then [.matchAll] else phrases.map (Clause.withText text)) =
      (if phrases.isEmpty then [.matchAll] else phrases).map (Clause.withText text) := by
  cases phrases <;> rfl

theorem preQuery_withText (hwords : q.isEmpty = .ok false) (hwords' : (q.withText text).isEmpty = .ok false)
    (plan : Plan) :
    plan.preQuery settings (q.withText text) = (plan.preQuery settings q).map (BoolQuery.withText text) := by
  cases plan with
  | simple =>
    -- The filters are added to an empty query, in which another text changes nothing.
    have hfilters : addFilters settings (q.withText text) {} =
        (addFilters settings q {}).map (BoolQuery.withText text) := addFilters_withText {}
    show simplePreQuery settings (q.withText text) = (simplePreQuery settings q).map _
    unfold simplePreQuery
    rw [hfilters, hwords, hwords', wordsClause_withText]
    cases addFilters settings q {} with
    | error fault => rfl
    | ok filtered =>
      cases wordsClause q settings.mainFields preQueryFlags false .null with
      | error fault => rfl
      | ok words => rfl
  | phrase slop =>
    -- The fields of the phrases, in which no single words are looked for, depend on the language alone.
    have hnames : phraseNames settings (q.withText text) = phraseNames settings q := rfl
    show phrasePreQuery settings (q.withText text) slop = (phrasePreQuery settings q slop).map _
    unfold phrasePreQuery
    rw [hwords, hwords', phraseClauses_withText, hnames, writtenHostBoosts_withText]
    simp only [bind, Except.bind, Bool.false_eq_true, if_false]
    cases phraseClauses settings q slop with
    | error fault => rfl
    | ok phrases =>
      cases phraseNames settings q with
      | error fault => rfl
      | ok names =>
        simp only [Except.map, recallClauses_withText]
        cases recallClauses settings q (.strings names) with
        | error fault => rfl
        | ok loose =>
          cases writtenHostBoosts settings q with
          | error fault => rfl
          | ok boosts =>
            simp only [map_withText_phrases, ← List.map_append]
            exact addFilters_withText { must := _, should := loose ++ boosts }
  | bare => rfl

theorem rescoreQuery_withText (plan : Plan) :
    plan.rescoreQuery settings (q.withText text) =
      (plan.rescoreQuery settings q).map (Option.map (BoolQuery.withText text)) := by
  cases plan with
  | simple =>
    unfold rescoreQuery
    rw [wordsClause_withText, proximityClauses_withText, writtenHostBoosts_withText]
    cases wordsClause q settings.mainFields rescoreFlags true rescoreMinimum with
    | error fault => rfl
    | ok words =>
      cases proximityClauses settings q with
      | error fault => rfl
      | ok near =>
        cases writtenHostBoosts settings q with
        | error fault => rfl
        | ok boosts =>
          simp only [bind, Except.bind, pure, Except.pure, Except.map, Option.map, BoolQuery.withText, List.map_append]
          rfl
  | phrase slop => rfl
  | bare => rfl

theorem highlightSizes_withText (plan : Plan) :
    plan.highlightSizes settings (q.withText text) = plan.highlightSizes settings q := by
  cases plan <;> rfl

/-- What a plan makes of a query with another text is the same with the other text. Only whether there are words in
the text matters to a plan. -/
theorem IsCompiled.withText {plan : Plan} {c : Compiled} (h : IsCompiled settings plan q c)
    (hwords : q.isEmpty = .ok false) (hwords' : (q.withText text).isEmpty = .ok false) :
    IsCompiled settings plan (q.withText text) (c.withText text) where
  indices := h.indices
  preQuery := by rw [preQuery_withText hwords hwords', h.preQuery]; rfl
  rescoreQuery := by rw [rescoreQuery_withText, h.rescoreQuery]; rfl
  collapseField := h.collapseField
  highlightSizes := (highlightSizes_withText plan).trans h.highlightSizes
  nodeLimit := h.nodeLimit
  sourceFields := h.sourceFields
  rescoreWindow := h.rescoreWindow
  timeout := h.timeout

end Plan

/-! ### Texts in a body -/

/-- The clause with another text, if it matches words: in some of the fields, or in any one field. The text is put in
even if there was none, so that a clause that this does not change has the text already. -/
def Clause.putText (text : Value) (clause : Value) : Value :=
  ((clause.changeField "simple_query_string" (Value.putField "query" text)).changeField "match"
    (Value.changeValues (Value.putField "query" text))).changeField "match_phrase"
      (Value.changeValues (Value.putField "query" text))

/-- The query with another text in all clauses of its lists. -/
def BoolQuery.putText (text : Value) (query : Value) : Value :=
  query.changeField "bool" (Value.changeValues (Value.changeItems (Clause.putText text)))

/-- The body with another text in both stages. -/
def Body.putText (text : Value) (body : Fields) : Fields :=
  Fields.change "rescore" (Value.changeField "query" (Value.changeField "rescore_query" (BoolQuery.putText text)))
    (Fields.change "query" (BoolQuery.putText text) body)

variable {text : Value}

theorem Clause.toValue_withText (c : Clause) : (c.withText text).toValue = Clause.putText text c.toValue := by
  cases c with
  | words old fields flags minimum =>
    simp only [withText, toValue]
    split <;> rfl
  | _ => rfl

theorem Clause.listValue_withText (clauses : List Clause) :
    listValue (clauses.map (withText text)) = Value.changeItems (putText text) (listValue clauses) := by
  rw [listValue, listValue, Value.changeItems, List.map_map, List.map_map]
  exact congrArg Value.list (List.map_congr_left fun c _ => toValue_withText c)

theorem BoolQuery.part_withText (name : String) (clauses : List Clause) :
    part name (clauses.map (Clause.withText text)) =
      (part name clauses).map fun (k, v) => (k, Value.changeItems (Clause.putText text) v) := by
  rw [part, part, Clause.listValue_withText, List.isEmpty_map]
  split <;> rfl

theorem BoolQuery.toValue_withText (bool : BoolQuery) :
    (bool.withText text).toValue = BoolQuery.putText text bool.toValue := by
  rw [toValue, toValue, withText, part_withText, part_withText, part_withText, part_withText, ← List.map_append,
    ← List.map_append, ← List.map_append]
  rfl

theorem Body.putText_put {name : String} (hquery : name ≠ "query") (hrescore : name ≠ "rescore") (body : Fields)
    (v : Value) : putText text (body.put name v) = (putText text body).put name v := by
  rw [putText, Fields.change_put_of_ne hquery, Fields.change_put_of_ne hrescore, putText]

theorem Body.putText_setExplain (body : Fields) (explain : Value) :
    putText text (setExplain body explain) = setExplain (putText text body) explain := by
  rw [setExplain, setExplain]
  split
  · exact putText_put (by decide) (by decide) body _
  · rfl

theorem Body.setTimeout_putText (body : Fields) (timeout : Option String) :
    setTimeout (putText text body) (.ofOption .str timeout) =
      (setTimeout body (.ofOption .str timeout)).map (putText text) := by
  cases timeout with
  | none => rfl
  | some s => exact congrArg Except.ok (putText_put (by decide) (by decide) body (.str s)).symm

namespace Plan

variable {settings : Settings} {plan : Plan} {q : RawQuery} {start size explain : Value} {request : Request}

/-- The other parts have other names than the two stages. -/
theorem Compiled.bodyParts_withText (c : Compiled) (start size : Value) :
    (c.withText text).bodyParts start size = Body.putText text (c.bodyParts start size) := by
  obtain ⟨indices, preQuery, rescoreQuery, collapseField, sizes, limit, names, window, timeout⟩ := c
  cases rescoreQuery with
  | none =>
    simp only [bodyParts, Compiled.request, Compiled.withText, BoolQuery.toValue_withText]
    cases names <;> cases sizes <;> cases collapseField <;> rfl
  | some query =>
    simp only [bodyParts, Compiled.request, Compiled.withText, Option.map, Value.ofOption, Request.rescore,
      BoolQuery.toValue_withText]
    cases names <;> cases sizes <;> cases collapseField <;> rfl

theorem request_body_withText (c : Compiled) (start size explain : Value) :
    ((c.withText text).request start size explain).body =
      (c.request start size explain).body.map (Body.putText text) := by
  have hlimit : ((c.withText text).bodyParts start size).put "terminate_after" (.int (c.withText text).nodeLimit) =
      Body.putText text ((c.bodyParts start size).put "terminate_after" (.int c.nodeLimit)) := by
    rw [Body.putText_put (by decide) (by decide), c.bodyParts_withText]
    rfl
  have htimeout : (c.withText text).timeout = c.timeout := rfl
  rw [request_body, request_body, hlimit, htimeout, Body.setTimeout_putText]
  cases Body.setTimeout ((c.bodyParts start size).put "terminate_after" (.int c.nodeLimit))
    (.ofOption .str c.timeout) with
  | error fault => rfl
  | ok body => exact congrArg Except.ok (Body.putText_setExplain body explain).symm

theorem isEmpty_withText_str {t : String} (ht : Text.isAllBlank t = false) :
    (q.withText (.str t)).isEmpty = .ok false := by
  rw [← ht]
  rfl

/-- **The text of a query** is in the clauses that match words, and nowhere else: if a query with one text is
compiled, then with any other text that has words it is, too, and the bodies of both requests are the same but for
the texts of these clauses. In one body all of these have the one text, and in the other body the other text. -/
theorem body_of_compile {t u : String} (ht : Text.isAllBlank t = false) (hu : Text.isAllBlank u = false)
    (h : plan.compile settings (q.withText (.str t)) start size explain = .ok request) :
    ∃ request' body body', plan.compile settings (q.withText (.str u)) start size explain = .ok request' ∧
      request'.indices = request.indices ∧ request.body = .ok body ∧ request'.body = .ok body' ∧
      Body.putText (.str t) body = body ∧ Body.putText (.str u) body = body' := by
  obtain ⟨c, hc, rfl⟩ := isCompiled_of_compile h
  have hwords := isEmpty_withText_str (q := q) ht
  have hwords' := isEmpty_withText_str (q := q) hu
  -- With its own text, too, the query is compiled to parts that have the text in them.
  have hown : IsCompiled settings plan (q.withText (.str t)) (c.withText (.str t)) := hc.withText hwords hwords
  have hsame : c.withText (.str t) = c := Except.ok.inj (hown.parts_eq.symm.trans hc.parts_eq)
  have hother : IsCompiled settings plan (q.withText (.str u)) (c.withText (.str u)) := hc.withText hwords hwords'
  obtain ⟨body, hbody, -⟩ := exists_body c start (pageSize settings size) explain
  have hput (text : Value) : ((c.withText text).request start (pageSize settings size) explain).body =
      .ok (Body.putText text body) := by
    rw [request_body_withText, hbody]
    rfl
  have hfixed := hput (.str t)
  rw [hsame, hbody] at hfixed
  exact ⟨_, body, _, hother.compile_eq start size explain, rfl, hbody, hput _, (Except.ok.inj hfixed).symm, rfl⟩

/-- A simple search for owls in the titles, and near each other, is the search for moles with other words. -/
theorem body_of_compile_owls :
    let settings : Settings := { mainFields := [{ name := "title_lang.%lang%", proximityMatching := true }] }
    let q (text : String) : RawQuery := { text := .str text, language := .str "en" }
    ∃ owls moles body, simple.compile settings (q "barn owls") (.int 0) .null (.bool false) = .ok owls ∧
      simple.compile settings (q "moles") (.int 0) .null (.bool false) = .ok moles ∧
      owls.body = .ok body ∧ moles.body = .ok (Body.putText (.str "moles") body) := by
  intro settings q
  obtain ⟨owls, howls⟩ : ∃ owls, simple.compile settings (q "barn owls") (.int 0) .null (.bool false) = .ok owls :=
    ⟨_, rfl⟩
  obtain ⟨moles, body, body', hmoles, -, hbody, hbody', -, rfl⟩ :=
    body_of_compile (q := q "") (t := "barn owls") (u := "moles") (by decide) (by decide) howls
  exact ⟨owls, moles, body, howls, hmoles, hbody, hbody'⟩

end Plan

end PageSearch
