import PageSearch.Hit.Result
import PageSearch.Proofs.Document.Narrowing
import PageSearch.Proofs.Value.Change
import PageSearch.Proofs.Value.Writing

/-!
# What results are made from

A result is made from a hit and from the values of some fields of its stored document, named by
`fieldsRead`. Nothing else of the document is looked at: if every document of an answer gives way to one
that agrees with it on these names, the results stay the same (`read_withSources`).
-/

namespace PageSearch.Hit

open Document

/-! ### The stored document of a hit -/

/-- The names of the fields that a result is made from. -/
def fieldsRead (settings : Settings) (language : Value) : Outcome (List String) := do
  let title ← Field.localizeIn Plan.titleField language
  let body ← Field.localizeIn Plan.bodyField language
  let description ← Field.localizeIn Plan.descriptionField language
  return [Plan.trecIdField, settings.hostnameField, Plan.targetUriField, Plan.pageRankField,
    Plan.spamRankField, title, body, description]

/-- The hit with its stored document changed. -/
def withSource (f : Value → Value) : Value → Value := Value.changeField "_source" f

/-- The answer of an engine with the stored documents of all hits changed. -/
def withSources (f : Value → Value) : Value → Value :=
  Value.changeField "hits" (Value.changeField "hits" (Value.changeItems (withSource f)))

/-- What stands for the stored document of a hit. -/
def sourceOf (stored : Value) : Value := if stored.isTruthy then stored else .obj []

theorem get?_of_not_truthy {v : Value} (h : ¬ v.isTruthy) (key : String) : v.get? key = none := by
  cases v with
  | obj fields =>
    cases fields with
    | nil => rfl
    | cons field fields => exact absurd rfl h
  | _ => rfl

/-- What does not count as true has as few values as the empty document. -/
theorem find?_sourceOf (stored : Value) (name : String) : find? (sourceOf stored) name = find? stored name := by
  rw [sourceOf]
  split
  · rfl
  · next h =>
    have hempty : ∀ key, Value.get? (.obj []) key = none := fun key => rfl
    cases hpath : path name with
    | nil => exact absurd hpath (path_ne_nil name)
    | cons key rest => simp only [find?, hpath, follow, hempty, get?_of_not_truthy h]

theorem textAt_sourceOf (stored : Value) (name : String) : textAt (sourceOf stored) name = textAt stored name := by
  rw [textAt, textAt, find?_sourceOf]

/-! ### Hits with another document -/

section Frame

variable {f : Value → Value} {names : List String} {settings : Settings} {language : Value}

theorem agreeOn_sourceOf_change (hf : ∀ d, AgreeOn names (f d) d) (fields : Fields) :
    AgreeOn names (sourceOf ((Fields.change "_source" f fields).getD "_source"))
      (sourceOf (fields.getD "_source")) := by
  intro name hname
  rw [find?_sourceOf, find?_sourceOf, Fields.getD, Fields.getD, Fields.lookup_change]
  cases fields.lookup "_source" with
  | none => rfl
  | some v => simpa using hf v name hname

theorem singleHighlight_withSource (f : Value → Value) (hit field : Value) :
    singleHighlight (withSource f hit) field = singleHighlight hit field := by
  cases hit with
  | obj fields =>
    have hhighlight := Fields.getD_change_of_ne (by decide : "highlight" ≠ "_source") f fields
    change singleHighlight (.obj (Fields.change "_source" f fields)) field = _
    simp only [singleHighlight, Value.fields, hhighlight, bind, Except.bind]
  | _ => rfl

section Documents

variable {s s' : Value} (h : AgreeOn names s' s)
include h

theorem title_withSource (settings : Settings) (f : Value → Value) {field : String}
    (hfield : Field.localizeIn Plan.titleField language = .ok field) (hmem : field ∈ names) (hit : Value) :
    title settings (withSource f hit) s' language = title settings hit s language := by
  simp only [title, hfield, singleHighlight_withSource, h.writtenAt field hmem, bind, Except.bind]

theorem summarySource_congr {body description : String}
    (hbody : Field.localizeIn Plan.bodyField language = .ok body) (hbodyMem : body ∈ names)
    (hdescription : Field.localizeIn Plan.descriptionField language = .ok description)
    (hdescriptionMem : description ∈ names) : summarySource s' language = summarySource s language := by
  simp only [summarySource, hbody, hdescription, h.writtenAt body hbodyMem,
    h.writtenAt description hdescriptionMem, bind, Except.bind]

theorem snippet_withSource (settings : Settings) (f : Value → Value) {body description : String}
    (hbody : Field.localizeIn Plan.bodyField language = .ok body) (hbodyMem : body ∈ names)
    (hdescription : Field.localizeIn Plan.descriptionField language = .ok description)
    (hdescriptionMem : description ∈ names) (hit : Value) :
    snippet settings (withSource f hit) s' language = snippet settings hit s language := by
  have hsummary := summarySource_congr h hbody hbodyMem hdescription hdescriptionMem
  simp only [snippet, hbody, singleHighlight_withSource, hsummary, bind, Except.bind]

end Documents

/-- The result of a hit with a stored document. -/
def parseWith (settings : Settings) (language : Value) (fields : Fields) (source : Value) : Outcome Result := do
  let trecId ← writtenAt source Plan.trecIdField
  let title ← title settings (.obj fields) source language
  let hostname ← writtenAt source settings.hostnameField
  let uri ← writtenAt source Plan.targetUriField
  let snippet ← snippet settings (.obj fields) source language
  let pageRank ← numberAt? Value.toFloat source Plan.pageRankField
  let spamRank ← numberAt? Value.toInt source Plan.spamRankField
  return {
    score := fields.getD "_score"
    documentId := orEmpty (fields.getD "_id")
    index := orEmpty (fields.getD "_index")
    explanation := fields.getD "_explanation"
    trecId, title, hostname, uri, snippet, pageRank, spamRank }

theorem parse_obj (settings : Settings) (language : Value) (fields : Fields) :
    parse settings language (.obj fields) = parseWith settings language fields (sourceOf (fields.getD "_source")) :=
  rfl

/-- **A result** depends on the values of the named fields only. -/
theorem parse_withSource (hread : fieldsRead settings language = .ok names)
    (hf : ∀ d, AgreeOn names (f d) d) (hit : Value) :
    parse settings language (withSource f hit) = parse settings language hit := by
  simp only [fieldsRead, Outcome.bind_eq_ok, Outcome.pure_eq_ok] at hread
  obtain ⟨titleName, htitle, bodyName, hbody, descriptionName, hdescription, rfl⟩ := hread
  cases hit with
  | obj fields =>
    have h := agreeOn_sourceOf_change hf fields
    have htitle' := title_withSource h settings f htitle (by simp) (.obj fields)
    have hsnippet := snippet_withSource h settings f hbody (by simp) hdescription (by simp) (.obj fields)
    have hother : ∀ name, name ≠ "_source" →
        Fields.getD (Fields.change "_source" f fields) name = Fields.getD fields name :=
      fun name hname => Fields.getD_change_of_ne hname f fields
    change title settings (.obj (Fields.change "_source" f fields)) _ language = _ at htitle'
    change snippet settings (.obj (Fields.change "_source" f fields)) _ language = _ at hsnippet
    change parse settings language (.obj (Fields.change "_source" f fields)) = _
    rw [parse_obj, parse_obj, parseWith, parseWith, htitle', hsnippet,
      h.numberAt? Value.toFloat Plan.pageRankField (by simp), h.numberAt? Value.toInt Plan.spamRankField (by simp),
      h.writtenAt Plan.trecIdField (by simp), h.writtenAt settings.hostnameField (by simp),
      h.writtenAt Plan.targetUriField (by simp),
      hother "_score" (by decide), hother "_id" (by decide), hother "_index" (by decide),
      hother "_explanation" (by decide)]
  | _ => rfl

/-! ### Answers -/

theorem hitsOf_withSources (f : Value → Value) (res : Value) :
    hitsOf (withSources f res) = (hitsOf res).map (Fields.change "hits" (Value.changeItems (withSource f))) := by
  cases res with
  | obj fields =>
    have hhits : Fields.getD (Fields.change "hits" _ fields) "hits" =
        Value.changeField "hits" (Value.changeItems (withSource f)) (Fields.getD fields "hits") :=
      Fields.getD_change_self "hits" rfl fields
    change (Fields.getD (Fields.change "hits" _ fields) "hits").fieldsOrNone = _
    rw [hhits, Value.fieldsOrNone_changeField]
    rfl
  | _ => rfl

theorem total_withSources (f : Value → Value) (res : Value) : total (withSources f res) = total res := by
  rw [total, total, hitsOf_withSources]
  cases hitsOf res with
  | error fault => rfl
  | ok hits =>
    have htotal := Fields.getD_change_of_ne (by decide : "total" ≠ "hits") (Value.changeItems (withSource f)) hits
    simp only [Except.map, bind, Except.bind, htotal]

/-- What is noted about an answer does not depend on its hits. -/
theorem noteOf_change (f : Value → Value) (fields : Fields) (results : Nat) (total : Value) :
    noteOf (Fields.change "hits" f fields) results total = noteOf fields results total := by
  rw [noteOf, noteOf, Fields.get?_change_of_ne (by decide : "took" ≠ "hits"),
    Fields.get?_change_of_ne (by decide : "timed_out" ≠ "hits")]

/-- **The results of an answer** depend on the values of the named fields only. -/
theorem parseAll_withSources {q : RawQuery} (hread : fieldsRead settings q.language = .ok names)
    (hf : ∀ d, AgreeOn names (f d) d) (res : Value) :
    parseAll settings q (withSources f res) = parseAll settings q res := by
  rw [parseAll, parseAll, hitsOf_withSources]
  cases hitsOf res with
  | error fault => rfl
  | ok hits =>
    have hhits := Fields.getD_change_self "hits" (f := Value.changeItems (withSource f)) rfl hits
    have hitems := Value.itemsOrNone_changeItems (f := withSource f) (fun s => rfl) (hits.getD "hits")
    simp only [Except.map, bind, Except.bind, hhits, hitems]
    cases (hits.getD "hits").itemsOrNone with
    | error fault => rfl
    | ok items =>
      have hparse : items.mapM (parse settings q.language ∘ withSource f) = items.mapM (parse settings q.language) :=
        congrArg (items.mapM ·) (funext (parse_withSource hread hf))
      simp only [List.mapM_map, hparse]

/-- **An answer** whose documents give way to others that agree on the named fields is read in the same
way. -/
theorem read_withSources [Terminal] {q : RawQuery} (hread : fieldsRead settings q.language = .ok names)
    (hf : ∀ d, AgreeOn names (f d) d) (res : Value) (noting : Bool) :
    read settings q (withSources f res) noting = read settings q res noting := by
  rw [read, read, parseAll_withSources hread hf, total_withSources]
  cases parseAll settings q res with
  | error fault => rfl
  | ok results =>
    cases total res with
    | error fault => rfl
    | ok total =>
      cases noting with
      | false => rfl
      | true =>
        cases res with
        | obj fields =>
          simp only [withSources, Value.changeField, Value.fields, bind, Except.bind, noteOf_change]
        | _ => rfl

end Frame

/-! ### Answers with one hit -/

section OneHit

variable {settings : Settings} {language : Value}

/-- A hit without highlights and with a stored document. -/
def hitOf (source : Value) : Value := .obj [("_source", source)]

/-- An answer with one such hit. -/
def answerOf (source : Value) : Value := .obj [("hits", .obj [("hits", .list [hitOf source])])]

theorem withSources_answerOf (f : Value → Value) (source : Value) :
    withSources f (answerOf source) = answerOf (f source) := rfl

theorem singleHighlight_hitOf (source : Value) (field : String) :
    singleHighlight (hitOf source) (.str field) = .ok .null := rfl

theorem excerpt_empty (limit : Int) : excerpt "" limit = .ok (Snippet.escape "") := rfl

/-- The host of a result is the value of its field. -/
theorem hostname_of_parse {source : Value} {r : Result} (h : parse settings language (hitOf source) = .ok r) :
    r.hostname = textAt source settings.hostnameField := by
  rw [hitOf, parse_obj, parseWith] at h
  simp only [Outcome.bind_eq_ok, Outcome.pure_eq_ok] at h
  obtain ⟨trecId, -, title, -, hostname, hhostname, uri, -, snippet, -, pageRank, -, spamRank, -, rfl⟩ := h
  obtain ⟨-, rfl⟩ := writtenAt_eq_ok.1 hhostname
  exact textAt_sourceOf source settings.hostnameField

theorem title_hitOf (settings : Settings) {source : Value} {field : String}
    (hfield : Field.localizeIn Plan.titleField language = .ok field) (hempty : writtenAt source field = .ok "") :
    ∃ t, title settings (hitOf source) source language = .ok t := by
  simp only [title, hfield, singleHighlight_hitOf, hempty, excerpt_empty, bind, Except.bind]
  exact ⟨_, rfl⟩

theorem snippet_hitOf (settings : Settings) {source : Value} {body description : String}
    (hbody : Field.localizeIn Plan.bodyField language = .ok body) (hbodyEmpty : writtenAt source body = .ok "")
    (hdescription : Field.localizeIn Plan.descriptionField language = .ok description)
    (hdescriptionEmpty : writtenAt source description = .ok "") :
    ∃ t, snippet settings (hitOf source) source language = .ok t := by
  simp only [snippet, summarySource, hbody, hdescription, singleHighlight_hitOf, hbodyEmpty, hdescriptionEmpty,
    bind, Except.bind]
  exact ⟨_, rfl⟩

/-- Every field of a document with a single text has a text. -/
theorem hasTextAt_single (key name s : String) : hasTextAt (.obj [(key, .str s)]) name = true := by
  rw [hasTextAt]
  by_cases h : name = key
  · rw [h, find?_single_self]
    rfl
  · rw [find?_single_of_ne h]
    rfl

/-- A document with only a host has a result, if the host is not read as another field. -/
theorem exists_parse_of_host {title body description : String}
    (htitle : Field.localizeIn Plan.titleField language = .ok title)
    (hbody : Field.localizeIn Plan.bodyField language = .ok body)
    (hdescription : Field.localizeIn Plan.descriptionField language = .ok description)
    (hother : settings.hostnameField ∉ [Plan.pageRankField, Plan.spamRankField, title, body, description])
    (host : String) :
    ∃ r, parse settings language (hitOf (.obj [(settings.hostnameField, .str host)])) = .ok r := by
  have hnone : ∀ name ∈ [Plan.pageRankField, Plan.spamRankField, title, body, description],
      find? (.obj [(settings.hostnameField, .str host)]) name = none := by
    intro name hname
    refine find?_single_of_ne ?_ host
    rintro rfl
    exact hother hname
  have hwritten : ∀ name, writtenAt (.obj [(settings.hostnameField, .str host)]) name = .ok _ :=
    fun name => writtenAt_of_hasTextAt (hasTextAt_single settings.hostnameField name host)
  have hempty : ∀ name ∈ [Plan.pageRankField, Plan.spamRankField, title, body, description],
      writtenAt (.obj [(settings.hostnameField, .str host)]) name = .ok "" :=
    fun name hname => by rw [hwritten, textAt, hnone name hname]
  have hsource : sourceOf (Fields.getD [("_source", .obj [(settings.hostnameField, .str host)])] "_source") =
      .obj [(settings.hostnameField, .str host)] := rfl
  obtain ⟨t, ht⟩ := title_hitOf settings htitle (hempty title (by simp))
  obtain ⟨b, hb⟩ := snippet_hitOf settings hbody (hempty body (by simp)) hdescription
    (hempty description (by simp))
  rw [hitOf] at ht hb
  rw [hitOf, parse_obj, parseWith, hsource, ht, hb, hwritten, hwritten, hwritten, numberAt?, numberAt?,
    hnone Plan.pageRankField (by simp), hnone Plan.spamRankField (by simp)]
  exact ⟨_, rfl⟩

/-- An answer with one hit has its result only. -/
theorem read_answerOf [Terminal] (settings : Settings) (q : RawQuery) (source : Value) :
    read settings q (answerOf source) false =
      (parse settings q.language (hitOf source)).map fun r => (marked [r] q.groupingBlocked.isTruthy, .int 0) := by
  have hresults : [hitOf source].mapM (parse settings q.language) =
      (parse settings q.language (hitOf source)).map fun r => [r] := by
    rw [List.mapM_cons, List.mapM_nil]
    cases parse settings q.language (hitOf source) <;> rfl
  have hall : parseAll settings q (answerOf source) =
      (parse settings q.language (hitOf source)).map fun r => marked [r] q.groupingBlocked.isTruthy := by
    change [hitOf source].mapM (parse settings q.language) >>= _ = _
    rw [hresults]
    cases parse settings q.language (hitOf source) <;> rfl
  rw [read, hall]
  cases parse settings q.language (hitOf source) <;> rfl

/-- Answers with one hit that are read in the same way have the same host. -/
theorem hostname_eq_of_read_eq [Terminal] {source source' : Value} {q : RawQuery} {r : Result}
    (hr : parse settings q.language (hitOf source) = .ok r)
    (h : read settings q (answerOf source') false = read settings q (answerOf source) false) :
    textAt source' settings.hostnameField = textAt source settings.hostnameField := by
  rw [read_answerOf, read_answerOf, hr] at h
  obtain ⟨r', hr', heq⟩ := Outcome.map_eq_ok.1 h
  have hhosts := congrArg (fun answer => answer.1.map Result.hostname) heq
  rw [← hostname_of_parse hr, ← hostname_of_parse hr']
  exact List.head_eq_of_cons_eq hhosts

end OneHit

end PageSearch.Hit
