import PageSearch.External.Outline
import PageSearch.Proofs.Hit.Grouping
import PageSearch.Proofs.Hit.Sources
import PageSearch.Proofs.Hit.Visible
import PageSearch.Proofs.Settings.Range

/-!
# Malformed documents

The fields of a stored document can have values of any kind or be missing. Texts are made from whatever is there, and
a rank that cannot be read as a number is none (`Tolerates`). But there are two ways in which a document spoils an
answer (`Spoils`). A value with a whole number of too many digits cannot be written, neither as a text of the result nor
for the note that a rank is no number (`HasTexts`). And a rank may be too large for its type: a whole number beyond the
floats among all pages, and an infinity among the pages that are no spam (`RanksFit`). One such document leaves the
whole answer without results (`read_malformed`).
-/

namespace PageSearch

open Outcome

/-! ### Fields of a document -/

namespace Document

/-- A field that is missing, or that holds nothing. -/
def Lacks (source : Value) (name : String) : Prop := find? source name = none ∨ find? source name = some .null

variable {α : Type} {read : Value → Outcome α} {source v : Value} {name : String}

theorem textAt_of_lacks (h : Lacks source name) : textAt source name = "" := by
  unfold textAt
  rcases h with h | h
  · rw [h]
  · rw [h]

/-- The number of a field, if it has one that can be read. -/
def readable? (read : Value → Outcome α) (source : Value) (name : String) : Option α :=
  (find? source name).bind fun v => (read v).toOption

/-- A field whose number can be read or is refused for anything but its size. -/
def Holds (read : Value → Outcome α) (source : Value) (name : String) : Prop :=
  ∀ v, find? source name = some v → read v ≠ .error .tooLarge

/-- A field that has a text, unless it holds a number that can be read. -/
def HasTextBesides (read : Value → Outcome α) (source : Value) (name : String) : Prop :=
  ∀ v, find? source name = some v → (read v).toOption = none → v.isWritable = true

section Reading

variable (hnull : read .null = .error .unsuitable)
include hnull

/-- A value is asked for a number, and written if it is none. -/
theorem numberAt?_of_some (h : find? source name = some v) :
    numberAt? read source name =
      match read v with
      | .ok a => .ok (some a)
      | .error .unsuitable | .error .notANumber => v.afterWriting none
      | .error fault => .error fault := by
  unfold numberAt?
  rw [h]
  cases v with
  | null =>
    rw [hnull]
    rfl
  | _ => rfl

/-- What is refused for anything but its size is written. -/
theorem numberAt?_of_refused {fault : Fault} (h : find? source name = some v) (hrefused : read v = .error fault)
    (hfault : IsNumberFault fault) (hsmall : fault ≠ .tooLarge) :
    numberAt? read source name = v.afterWriting none := by
  rw [numberAt?_of_some hnull h, hrefused]
  rcases hfault with rfl | rfl | rfl
  · rfl
  · rfl
  · exact absurd rfl hsmall

/-- **The number of a field** is read or missing, or the field cannot be written, or the number is too large. -/
theorem numberAt?_cases (hread : ∀ v, FailsOnly IsNumberFault (read v)) (source : Value) (name : String) :
    (Holds read source name ∧ HasTextBesides read source name) ∧
        numberAt? read source name = .ok (readable? read source name) ∨
      ¬ HasTextBesides read source name ∧ numberAt? read source name = .error .notANumber ∨
      ¬ Holds read source name ∧ numberAt? read source name = .error .tooLarge := by
  cases hfind : find? source name with
  | none =>
    refine .inl ⟨⟨?_, ?_⟩, by simp only [numberAt?, readable?, hfind, Option.bind_none]⟩
    · simp [Holds, hfind]
    · simp [HasTextBesides, hfind]
  | some v =>
    have hholds : Holds read source name ↔ read v ≠ .error .tooLarge := by
      simp only [Holds, hfind, Option.some.injEq, forall_eq']
    have htext : HasTextBesides read source name ↔ ((read v).toOption = none → v.isWritable = true) := by
      simp only [HasTextBesides, hfind, Option.some.injEq, forall_eq']
    have hreadable : readable? read source name = (read v).toOption := by rw [readable?, hfind, Option.bind_some]
    rw [hholds, htext, hreadable]
    cases hresult : read v with
    | ok a =>
      refine .inl ⟨⟨?_, ?_⟩, ?_⟩
      · simp
      · simp [Except.toOption]
      · rw [numberAt?_of_some hnull hfind, hresult]
        rfl
    | error fault =>
      by_cases hlarge : fault = .tooLarge
      · subst hlarge
        refine .inr (.inr ⟨fun h => h rfl, ?_⟩)
        rw [numberAt?_of_some hnull hfind, hresult]
      · rw [numberAt?_of_refused hnull hfind hresult (hread v fault hresult) hlarge]
        rcases v.afterWriting_cases (none : Option α) with ⟨hw, hnone⟩ | ⟨hw, hfault⟩
        · exact .inl ⟨⟨by simp [hlarge], fun _ => hw⟩, hnone⟩
        · exact .inr (.inl ⟨fun h => hw (h rfl), hfault⟩)

theorem yields_numberAt? (hread : ∀ v, FailsOnly IsNumberFault (read v)) (source : Value) (name : String) :
    Yields (numberAt? read source name) (Holds read source name ∧ HasTextBesides read source name)
      (readable? read source name) := by
  rcases numberAt?_cases hnull hread source name with ⟨hboth, heq⟩ | ⟨htext, heq⟩ | ⟨hholds, heq⟩
  · rw [heq]
    exact yields_ok hboth _
  · rw [heq]
    exact yields_error (fun h => htext h.2) _ _
  · rw [heq]
    exact yields_error (fun h => hholds h.1) _ _

end Reading

end Document

namespace Hit

open Document

/-! ### Hits without highlights -/

/-- What stands for the stored document of a hit. -/
def documentOf (hit : Fields) : Value := sourceOf (hit.getD "_source")

/-- A hit without highlights. Each of the texts that an excerpt is made from can be measured by a float, as all texts
are that fit into a memory. -/
structure IsPlain (language : String) (hit : Fields) : Prop where
  /-- Nothing is highlighted. -/
  unmarked : ¬ (Fields.getD hit "highlight").isTruthy
  /-- The texts that are cut. -/
  short : ∀ name ∈ [Plan.titleField, Plan.bodyField, Plan.descriptionField],
    (textAt (documentOf hit) (Field.filled language.toList name)).length < floatLimit

/-- A document whose texts can be written, as far as a result is made from them or a note says that they are no
numbers. -/
structure HasTexts (settings : Settings) (language : String) (source : Value) : Prop where
  /-- The identifier, the host, the address and the title. -/
  texts : ∀ name ∈ [Plan.trecIdField, settings.hostnameField, Plan.targetUriField,
    Field.filled language.toList Plan.titleField], hasTextAt source name = true
  /-- The description, or the text in its place. -/
  summary : CanSummarizeIn source language.toList
  /-- The rank among all pages, if it is no number. -/
  pageRank : HasTextBesides Value.toFloat source Plan.pageRankField
  /-- The rank among the pages that are no spam, if it is no number. -/
  spamRank : HasTextBesides Value.toInt source Plan.spamRankField

/-- A document whose ranks are not too large for their types. -/
structure RanksFit (source : Value) : Prop where
  /-- The rank among all pages is no whole number beyond the floats. -/
  pageRank : ∀ n, find? source Plan.pageRankField = some (.int n) → n.natAbs < floatLimit
  /-- The rank among the pages that are no spam is no infinity. -/
  spamRank : ∀ x, find? source Plan.spamRankField = some (.float x) → ∀ negative, Binary.ofFloat x ≠ .infinite negative

theorem ranksFit_iff (source : Value) :
    RanksFit source ↔
      Holds Value.toFloat source Plan.pageRankField ∧ Holds Value.toInt source Plan.spamRankField := by
  constructor
  · intro h
    refine ⟨fun v hv hlarge => ?_, fun v hv hlarge => ?_⟩
    · obtain ⟨n, rfl, hn⟩ := (Value.toFloat_eq_tooLarge_iff v).1 hlarge
      exact absurd (h.pageRank n hv) (Nat.not_lt.2 hn)
    · obtain ⟨x, negative, rfl, hx⟩ := (Value.toInt_eq_tooLarge_iff v).1 hlarge
      exact h.spamRank x hv negative hx
  · rintro ⟨hpage, hspam⟩
    refine ⟨fun n hn => ?_, fun x hx negative hinf => ?_⟩
    · refine Nat.not_le.1 fun hlarge => hpage _ hn ?_
      exact (Value.toFloat_eq_tooLarge_iff _).2 ⟨n, rfl, hlarge⟩
    · exact hspam _ hx ((Value.toInt_eq_tooLarge_iff _).2 ⟨x, negative, rfl, hinf⟩)

/-- How a document leaves an answer without results. -/
inductive Spoils (settings : Settings) (language : String) (source : Value) : Fault → Prop where
  /-- It has a value that cannot be written. -/
  | unwritten (h : ¬ HasTexts settings language source) : Spoils settings language source .notANumber
  /-- It has a rank that is too large. -/
  | tooLarge (h : ¬ RanksFit source) : Spoils settings language source .tooLarge

section Spoiling

variable {settings : Settings} {language : String} {source : Value}

theorem failsOnly_spoils {α : Type} {x : Outcome α} {p : Prop} {a : α} (h : Yields x p a)
    (hfails : FailsOnly (· = .notANumber) x) (hp : HasTexts settings language source → p) :
    FailsOnly (Spoils settings language source) x := by
  refine (h.failsOnly hfails).mono ?_
  rintro _ ⟨rfl, hnot⟩
  exact .unwritten fun htexts => hnot (hp htexts)

theorem failsOnly_spoils_numberAt? {α : Type} {read : Value → Outcome α} {name : String}
    (hnull : read .null = .error .unsuitable) (hread : ∀ v, FailsOnly IsNumberFault (read v))
    (htexts : HasTexts settings language source → HasTextBesides read source name)
    (hfit : RanksFit source → Holds read source name) :
    FailsOnly (Spoils settings language source) (numberAt? read source name) := by
  rcases numberAt?_cases hnull hread source name with ⟨-, heq⟩ | ⟨hnot, heq⟩ | ⟨hnot, heq⟩
  · rw [heq]
    exact failsOnly_ok _
  · rw [heq]
    exact failsOnly_error (.unwritten fun h => hnot (htexts h))
  · rw [heq]
    exact failsOnly_error (.tooLarge fun h => hnot (hfit h))

/-- **A document that can be written** has all its texts. -/
theorem hasTexts_of_isWritable (h : source.isWritable = true) : HasTexts settings language source where
  texts name _ := hasTextAt_of_isWritable h name
  summary := ⟨hasTextAt_of_isWritable h _, fun _ => hasTextAt_of_isWritable h _⟩
  pageRank _ hv _ := isWritable_of_find? h hv
  spamRank _ hv _ := isWritable_of_find? h hv

end Spoiling

/-! ### Titles and snippets -/

variable {settings : Settings} {language : String} {hit : Fields}

/-- A text as it is shown: cut, written as HTML and cleansed. -/
def shown (text : Outcome String) (limit : Int) : Outcome String := do
  return Snippet.cleanse (← excerpt (← text) limit) true

/-- **A text is shown** if it can be written, and the empty text is shown as itself. -/
theorem exists_yields_shown {x : Outcome String} {p : Prop} {text : String} (h : Yields x p text)
    (hfails : FailsOnly (· = .notANumber) x) (hshort : text.length < floatLimit) {limit : Int} (hlimit : 0 ≤ limit) :
    ∃ t, Yields (shown x limit) p t ∧ FailsOnly (· = .notANumber) (shown x limit) ∧ (text = "" → t = "") := by
  obtain ⟨html, -, hhtml, -⟩ := exists_excerpt hshort hlimit
  have hexcerpt : Yields (excerpt text limit) True html := hhtml ▸ yields_ok trivial html
  refine ⟨Snippet.cleanse html true, ?_, ?_, ?_⟩
  · exact (h.bind (hexcerpt.bind_pure (Snippet.cleanse · true))).congr (and_iff_left trivial)
  · refine hfails.bind fun found hfound => ?_
    obtain ⟨-, rfl⟩ := (h found).1 hfound
    rw [hhtml]
    exact failsOnly_ok _
  · rintro rfl
    rw [excerpt_empty] at hhtml
    cases hhtml
    rfl

theorem singleHighlight_of_unmarked (h : ¬ (Fields.getD hit "highlight").isTruthy) (field : String) :
    singleHighlight (.obj hit) (.str field) = .ok .null := by
  have hfields : (Fields.getD hit "highlight").fieldsOrNone = .ok [] := by rw [Value.fieldsOrNone, if_neg h]
  simp only [singleHighlight, Value.fields, hfields, bind, Except.bind]
  rfl

section Plain

variable (hlanguage : '\\' ∉ language.toList) (h : IsPlain language hit)
include hlanguage h

/-- **A title** is made of any document that has a text for it, and is empty if there is none. -/
theorem exists_title (hlimit : 0 ≤ settings.titleLength) :
    ∃ t, Yields (title settings (.obj hit) (documentOf hit) (.str language))
        (hasTextAt (documentOf hit) (Field.filled language.toList Plan.titleField) = true) t ∧
      FailsOnly (· = .notANumber) (title settings (.obj hit) (documentOf hit) (.str language)) ∧
      (Lacks (documentOf hit) (Field.filled language.toList Plan.titleField) → t = "") := by
  have hfield := Field.localizeIn_str (by decide : Plan.titleField ≠ "") hlanguage
  have htitle : title settings (.obj hit) (documentOf hit) (.str language) =
      shown (writtenAt (documentOf hit) (Field.filled language.toList Plan.titleField)) settings.titleLength := by
    simp only [title, shown, hfield, singleHighlight_of_unmarked h.unmarked, bind, Except.bind]
  obtain ⟨t, ht, hfails, hempty⟩ := exists_yields_shown (yields_writtenAt _ _) (Value.failsOnly_afterWriting _ _)
    (h.short Plan.titleField (by simp)) hlimit
  rw [htitle]
  exact ⟨t, ht, hfails, fun hlacks => hempty (textAt_of_lacks hlacks)⟩

/-- **A snippet** is made of any document that has a text for it, and is empty if there is neither a description nor a
text. -/
theorem exists_snippet (hlimit : 0 ≤ settings.snippetLength) :
    ∃ t, Yields (snippet settings (.obj hit) (documentOf hit) (.str language))
        (CanSummarizeIn (documentOf hit) language.toList) t ∧
      FailsOnly (· = .notANumber) (snippet settings (.obj hit) (documentOf hit) (.str language)) ∧
      (Lacks (documentOf hit) (Field.filled language.toList Plan.descriptionField) →
        Lacks (documentOf hit) (Field.filled language.toList Plan.bodyField) → t = "") := by
  have hbody := Field.localizeIn_str (by decide : Plan.bodyField ≠ "") hlanguage
  have hdescription := Field.localizeIn_str (by decide : Plan.descriptionField ≠ "") hlanguage
  have hsnippet : snippet settings (.obj hit) (documentOf hit) (.str language) =
      shown (summarySource (documentOf hit) (.str language)) settings.snippetLength := by
    simp only [snippet, shown, hbody, singleHighlight_of_unmarked h.unmarked, bind, Except.bind]
    rfl
  have hshort : (summaryIn (documentOf hit) language.toList).length < floatLimit := by
    unfold summaryIn summaryOf
    split
    · exact h.short Plan.bodyField (by simp)
    · exact h.short Plan.descriptionField (by simp)
  obtain ⟨t, ht, hfails, hempty⟩ := exists_yields_shown (yields_summarySource hdescription hbody)
    (failsOnly_notANumber_summarySource hdescription hbody) hshort hlimit
  rw [hsnippet]
  refine ⟨t, ht, hfails, fun hnoDescription hnoBody => hempty ?_⟩
  rw [summaryOf, textAt_of_lacks hnoDescription, if_pos rfl, textAt_of_lacks hnoBody]

end Plain

/-! ### Results of malformed documents -/

/-- What a result has from a document in which anything may be missing or malformed. -/
structure Tolerates (settings : Settings) (language : String) (hit : Fields) (r : Result) : Prop where
  /-- An identifier that is missing is the empty text. -/
  trecId_eq : Lacks (documentOf hit) Plan.trecIdField → r.trecId = ""
  /-- A host that is missing is the empty text. -/
  hostname_eq : Lacks (documentOf hit) settings.hostnameField → r.hostname = ""
  /-- An address that is missing is the empty text. -/
  uri_eq : Lacks (documentOf hit) Plan.targetUriField → r.uri = ""
  /-- A title that is missing is the empty text. -/
  title_eq : Lacks (documentOf hit) (Field.filled language.toList Plan.titleField) → r.title = ""
  /-- Without a description and a text there is nothing to show. -/
  snippet_eq : Lacks (documentOf hit) (Field.filled language.toList Plan.descriptionField) →
    Lacks (documentOf hit) (Field.filled language.toList Plan.bodyField) → r.snippet = ""
  /-- The rank among all pages, as far as it can be read. -/
  pageRank_eq : r.pageRank = readable? Value.toFloat (documentOf hit) Plan.pageRankField
  /-- The rank among the pages that are no spam, as far as it can be read. -/
  spamRank_eq : r.spamRank = readable? Value.toInt (documentOf hit) Plan.spamRankField

theorem Tolerates.markedAt {r : Result} (h : Tolerates settings language hit r) (hosts : List String) (blocked : Bool)
    (i : Nat) : Tolerates settings language hit (markedAt hosts blocked i r) :=
  ⟨h.trecId_eq, h.hostname_eq, h.uri_eq, h.title_eq, h.snippet_eq, h.pageRank_eq, h.spamRank_eq⟩

section Results

variable (hrange : settings.InRange) (hlanguage : '\\' ∉ language.toList) (h : IsPlain language hit)
include hrange hlanguage h

/-- **A hit has a result** if its texts can be written and its ranks fit. -/
theorem exists_yields_parse :
    ∃ r, Yields (parse settings (.str language) (.obj hit))
        (HasTexts settings language (documentOf hit) ∧ RanksFit (documentOf hit)) r ∧
      Tolerates settings language hit r := by
  obtain ⟨t, ht, -, hnoTitle⟩ := exists_title hlanguage h (le_trans zero_le_one hrange.titleLength)
  obtain ⟨b, hb, -, hnoBody⟩ := exists_snippet hlanguage h (le_trans zero_le_one hrange.snippetLength)
  have hparse : Yields (parseWith settings (.str language) hit (documentOf hit)) _ _ :=
    (yields_writtenAt _ Plan.trecIdField).bind <| ht.bind <| (yields_writtenAt _ settings.hostnameField).bind <|
    (yields_writtenAt _ Plan.targetUriField).bind <| hb.bind <|
    (yields_numberAt? rfl Value.failsOnly_toFloat _ Plan.pageRankField).bind <|
    (yields_numberAt? rfl Value.failsOnly_toInt _ Plan.spamRankField).bind_pure _
  refine ⟨_, hparse.congr ?_, textAt_of_lacks, textAt_of_lacks, textAt_of_lacks, hnoTitle, hnoBody, rfl, rfl⟩
  rw [ranksFit_iff]
  constructor
  · rintro ⟨htrecId, htitle, hhostname, huri, hsummary, ⟨hpage, hpageText⟩, hspam, hspamText⟩
    exact ⟨⟨by simp [htrecId, htitle, hhostname, huri], hsummary, hpageText, hspamText⟩, hpage, hspam⟩
  · rintro ⟨htexts, hpage, hspam⟩
    exact ⟨htexts.texts _ (by simp), htexts.texts _ (by simp), htexts.texts _ (by simp), htexts.texts _ (by simp),
      htexts.summary, ⟨hpage, htexts.pageRank⟩, hspam, htexts.spamRank⟩

/-- **A hit without a result** is spoiled by its document. -/
theorem failsOnly_spoils_parse :
    FailsOnly (Spoils settings language (documentOf hit)) (parse settings (.str language) (.obj hit)) := by
  obtain ⟨t, ht, htitle, -⟩ := exists_title hlanguage h (le_trans zero_le_one hrange.titleLength)
  obtain ⟨b, hb, hsnippet, -⟩ := exists_snippet hlanguage h (le_trans zero_le_one hrange.snippetLength)
  have hwritten : ∀ name ∈ [Plan.trecIdField, settings.hostnameField, Plan.targetUriField,
      Field.filled language.toList Plan.titleField],
      FailsOnly (Spoils settings language (documentOf hit)) (writtenAt (documentOf hit) name) := fun name hname =>
    failsOnly_spoils (yields_writtenAt _ _) (Value.failsOnly_afterWriting _ _) fun htexts => htexts.texts name hname
  rw [parse_obj, ← documentOf, parseWith]
  refine (hwritten _ (by simp)).bind fun _ _ => ?_
  refine (failsOnly_spoils ht htitle fun htexts => htexts.texts _ (by simp)).bind fun _ _ => ?_
  refine (hwritten _ (by simp)).bind fun _ _ => (hwritten _ (by simp)).bind fun _ _ => ?_
  refine (failsOnly_spoils hb hsnippet HasTexts.summary).bind fun _ _ => ?_
  refine FailsOnly.bind ?_ fun _ _ => FailsOnly.bind ?_ fun _ _ => failsOnly_ok _
  · exact failsOnly_spoils_numberAt? rfl Value.failsOnly_toFloat HasTexts.pageRank fun hfit => ((ranksFit_iff _).1 hfit).1
  · exact failsOnly_spoils_numberAt? rfl Value.failsOnly_toInt HasTexts.spamRank fun hfit => ((ranksFit_iff _).1 hfit).2

end Results

/-! ### Answers -/

/-- An answer with these hits, which have no highlights. -/
structure HasPlainHits (language : String) (res : Value) (hits : List Fields) : Prop where
  /-- The list of hits holds objects only. -/
  listed : ∃ answer, hitsOf res = .ok answer ∧ (answer.getD "hits").itemsOrNone = .ok (hits.map .obj)
  /-- Nothing is highlighted in any of them. -/
  plain : ∀ hit ∈ hits, IsPlain language hit

/-- Whether what is noted about an answer can be shown. -/
def CanNote [Terminal] (res : Value) (results : Nat) : Prop :=
  ∀ fields found, res = .obj fields → total res = .ok found → Terminal.outline (noteOf fields results found) = .ok ()

theorem parseAll_of_listed {q : RawQuery} {language : Value} (hq : q.language = language) {res : Value}
    {answer : Fields} {hits : List Fields} (hanswer : hitsOf res = .ok answer)
    (hhits : (answer.getD "hits").itemsOrNone = .ok (hits.map .obj)) :
    parseAll settings q res =
      (hits.mapM fun hit => parse settings language (.obj hit)).map (marked · q.groupingBlocked.isTruthy) := by
  unfold parseAll
  rw [hanswer, hq]
  simp only [hhits, List.mapM_map, Function.comp_def, bind, Except.bind]
  cases (hits.mapM fun hit => parse settings language (.obj hit)) with
  | error fault => rfl
  | ok results => rfl

/-- An answer with one hit and no highlight. -/
theorem hasPlainHits_answerOf {source : Value} (h : IsPlain language [("_source", source)]) :
    HasPlainHits language (answerOf source) [[("_source", source)]] := by
  refine ⟨⟨_, rfl, rfl⟩, fun hit hhit => ?_⟩
  obtain rfl := List.mem_singleton.1 hhit
  exact h

theorem exists_total {res : Value} {answer : Fields} (h : hitsOf res = .ok answer) :
    ∃ found, total res = .ok found := by
  unfold total
  rw [h]
  exact ⟨_, rfl⟩

/-- An answer is read once its hits are, unless a note about it cannot be made. -/
theorem read_of_parseAll [Terminal] {q : RawQuery} {res found : Value} {results : List Result} {noting : Bool}
    (hres : ∃ fields, res = .obj fields) (hall : parseAll settings q res = .ok results) (hfound : total res = .ok found)
    (hnote : noting = true → CanNote res results.length) : read settings q res noting = .ok (results, found) := by
  unfold read
  rw [hall]
  cases noting with
  | false => simp [bind, Except.bind, hfound, pure, Except.pure]
  | true =>
    obtain ⟨fields, rfl⟩ := hres
    have hnoted := hnote rfl fields found rfl hfound
    simp [bind, Except.bind, hfound, pure, Except.pure, Value.fields, hnoted]

/-- An answer is an object. -/
theorem exists_fields_of_hitsOf {res : Value} {answer : Fields} (h : hitsOf res = .ok answer) :
    ∃ fields, res = .obj fields := by
  cases res with
  | obj fields => exact ⟨fields, rfl⟩
  | _ => cases h

section Answers

variable (hrange : settings.InRange) (hlanguage : '\\' ∉ language.toList)
include hrange hlanguage

/-- The hits of an answer have results if no document spoils it. -/
theorem exists_yields_mapM_parse {hits : List Fields} (hplain : ∀ hit ∈ hits, IsPlain language hit) :
    ∃ results, Yields (hits.mapM fun hit => parse settings (.str language) (.obj hit))
        (∀ hit ∈ hits, HasTexts settings language (documentOf hit) ∧ RanksFit (documentOf hit)) results ∧
      List.Forall₂ (Tolerates settings language) hits results :=
  exists_yields_mapM fun hit hhit => exists_yields_parse hrange hlanguage (hplain hit hhit)

/-- **A document that is spoiled** leaves an answer without results. -/
theorem exists_spoils_of_read [Terminal] {q : RawQuery} (hq : q.language = .str language) {res : Value}
    {hits : List Fields} (h : HasPlainHits language res hits)
    (hbad : ∃ hit ∈ hits, ¬ (HasTexts settings language (documentOf hit) ∧ RanksFit (documentOf hit)))
    (noting : Bool) :
    ∃ fault, read settings q res noting = .error fault ∧
      ∃ hit ∈ hits, Spoils settings language (documentOf hit) fault := by
  obtain ⟨answer, hanswer, hhits⟩ := h.listed
  obtain ⟨results, hresults, -⟩ := exists_yields_mapM_parse hrange hlanguage h.plain
  have hfails : FailsOnly (fun fault => ∃ hit ∈ hits, Spoils settings language (documentOf hit) fault)
      (hits.mapM fun hit => parse settings (.str language) (.obj hit)) :=
    FailsOnly.mapM fun hit hhit =>
      (failsOnly_spoils_parse hrange hlanguage (h.plain hit hhit)).mono fun _ hspoils => ⟨hit, hhit, hspoils⟩
  have hall : parseAll settings q res = _ := parseAll_of_listed hq hanswer hhits
  cases hmap : hits.mapM fun hit => parse settings (.str language) (.obj hit) with
  | ok found =>
    obtain ⟨hit, hhit, hnot⟩ := hbad
    exact absurd (((hresults found).1 hmap).1 hit hhit) hnot
  | error fault =>
    refine ⟨fault, ?_, hfails fault hmap⟩
    rw [read, hall, hmap]
    rfl

/-- If all can be written, it is a rank that is too large. -/
theorem read_eq_tooLarge [Terminal] {q : RawQuery} (hq : q.language = .str language) {res : Value} {hits : List Fields}
    (h : HasPlainHits language res hits) (htexts : ∀ hit ∈ hits, HasTexts settings language (documentOf hit))
    (hlarge : ∃ hit ∈ hits, ¬ RanksFit (documentOf hit)) (noting : Bool) :
    read settings q res noting = .error .tooLarge := by
  obtain ⟨hit, hhit, hlarge⟩ := hlarge
  obtain ⟨fault, hfault, other, hother, hspoils⟩ :=
    exists_spoils_of_read hrange hlanguage hq h ⟨hit, hhit, fun hsound => hlarge hsound.2⟩ noting
  cases hspoils with
  | unwritten hnot => exact absurd (htexts other hother) hnot
  | tooLarge _ => exact hfault

/-- If all ranks fit, it is a number that cannot be written. -/
theorem read_eq_notANumber [Terminal] {q : RawQuery} (hq : q.language = .str language) {res : Value}
    {hits : List Fields} (h : HasPlainHits language res hits) (hfit : ∀ hit ∈ hits, RanksFit (documentOf hit))
    (hunwritten : ∃ hit ∈ hits, ¬ HasTexts settings language (documentOf hit)) (noting : Bool) :
    read settings q res noting = .error .notANumber := by
  obtain ⟨hit, hhit, hunwritten⟩ := hunwritten
  obtain ⟨fault, hfault, other, hother, hspoils⟩ :=
    exists_spoils_of_read hrange hlanguage hq h ⟨hit, hhit, fun hsound => hunwritten hsound.1⟩ noting
  cases hspoils with
  | unwritten _ => exact hfault
  | tooLarge hnot => exact absurd (hfit other hother) hnot

end Answers

/-- **Malformed documents do no harm** to an answer, unless one has a value with a number that cannot be written, or a
rank that is too large for its type. Without such a document there is one result for each hit, with the empty text for
what is missing and no number for what is none. With one there is no result at all. -/
theorem read_malformed [Terminal] {searchSection pageSection : Value} {settings : Settings}
    (hsettings : Settings.ofSections searchSection pageSection = .ok settings) {q : RawQuery} {language : String}
    (hq : q.language = .str language) (hlanguage : '\\' ∉ language.toList) {res : Value} {hits : List Fields}
    (h : HasPlainHits language res hits) (noting : Bool) :
    ((∀ hit ∈ hits, HasTexts settings language (documentOf hit) ∧ RanksFit (documentOf hit)) →
        (noting = true → CanNote res hits.length) →
        ∃ results total, read settings q res noting = .ok (results, total) ∧
          List.Forall₂ (Tolerates settings language) hits results) ∧
      ((∃ hit ∈ hits, ¬ (HasTexts settings language (documentOf hit) ∧ RanksFit (documentOf hit))) →
        ∃ fault, read settings q res noting = .error fault ∧
          ∃ hit ∈ hits, Spoils settings language (documentOf hit) fault) := by
  have hrange := Settings.inRange_of_ofSections hsettings
  refine ⟨fun hsound hnote => ?_, fun hbad => exists_spoils_of_read hrange hlanguage hq h hbad noting⟩
  obtain ⟨answer, hanswer, hhits⟩ := h.listed
  obtain ⟨results, hresults, htolerates⟩ := exists_yields_mapM_parse hrange hlanguage h.plain
  have hmarked := forall₂_marked (fun _ _ _ _ _ hhit => hhit.markedAt _ _ _) htolerates q.groupingBlocked.isTruthy
  have hall : parseAll settings q res = _ := parseAll_of_listed hq hanswer hhits
  obtain ⟨found, hfound⟩ := exists_total hanswer
  rw [(hresults results).2 ⟨hsound, rfl⟩] at hall
  rw [hmarked.length_eq] at hnote
  exact ⟨_, found, read_of_parseAll (exists_fields_of_hitsOf hanswer) hall hfound hnote, hmarked⟩

/-- A document with a list, a word and an object where numbers and texts are expected has a result. -/
theorem read_malformed_wrong_kinds :
    let source := Value.obj [("page_rank", .list []), ("spam_rank", .str "many"), ("title_lang", .int 5),
      ("warc_trec_id", .null), ("meta_desc_lang.en", .obj [("a", .bool true)])]
    let hits : List Fields := [[("_source", source)]]
    HasPlainHits "en" (answerOf source) hits ∧
      ∃ results total, read {} ({ text := "owls", language := "en" } : Query).raw (answerOf source) false =
        .ok (results, total) ∧ List.Forall₂ (Tolerates {} "en") hits results := by
  intro source hits
  have hplain : HasPlainHits "en" (answerOf source) hits :=
    hasPlainHits_answerOf ⟨Bool.false_ne_true, by decide +kernel⟩
  have htexts : HasTexts {} "en" (documentOf [("_source", source)]) := hasTexts_of_isWritable rfl
  have hfit : RanksFit (documentOf [("_source", source)]) := by
    refine ⟨fun n hn => ?_, fun x hx => ?_⟩
    · cases (rfl : find? source Plan.pageRankField = some (.list [])).symm.trans hn
    · cases (rfl : find? source Plan.spamRankField = some (.str "many")).symm.trans hx
  have hsettings : Settings.ofSections (.obj []) (.obj []) = .ok {} := rfl
  refine ⟨hplain, (read_malformed hsettings rfl (by decide) hplain false).1 ?_ nofun⟩
  intro hit hhit
  obtain rfl := List.mem_singleton.1 hhit
  exact ⟨htexts, hfit⟩

/-- **One malformed document** leaves an answer without results: its rank is an infinity among the pages that are no
spam or a whole number beyond the floats among all pages, or a number with too many digits stands for its identifier or
in a list for its rank. -/
theorem not_read_malformed :
    let q := ({ text := "owls", language := "en" } : Query).raw
    let infinite := Value.obj [("spam_rank", .float (1 / 0))]
    let beyond := Value.obj [("page_rank", .int (2 ^ 1024))]
    let unwritten := Value.obj [("warc_trec_id", .int Reading.textLimit)]
    let listed := Value.obj [("page_rank", .list [.int Reading.textLimit])]
    Settings.ofSections (.obj []) (.obj []) = .ok {} ∧
      (∀ source ∈ [infinite, beyond, unwritten, listed], HasPlainHits "en" (answerOf source) [[("_source", source)]]) ∧
      read {} q (answerOf infinite) false = .error .tooLarge ∧
      read {} q (answerOf beyond) false = .error .tooLarge ∧
      read {} q (answerOf unwritten) false = .error .notANumber ∧
      read {} q (answerOf listed) false = .error .notANumber := by
  intro q infinite beyond unwritten listed
  have hsettings : Settings.ofSections (.obj []) (.obj []) = .ok {} := rfl
  have hrange := Settings.inRange_of_ofSections hsettings
  have hplain : ∀ source ∈ [infinite, beyond, unwritten, listed],
      HasPlainHits "en" (answerOf source) [[("_source", source)]] := by
    have hshort : ∀ source ∈ [infinite, beyond, unwritten, listed],
        ∀ name ∈ [Plan.titleField, Plan.bodyField, Plan.descriptionField],
          (textAt (documentOf [("_source", source)]) (Field.filled "en".toList name)).length < floatLimit := by
      decide +kernel
    exact fun source hsource => hasPlainHits_answerOf ⟨Bool.false_ne_true, hshort source hsource⟩
  have hlanguage : '\\' ∉ "en".toList := by decide
  have hlimit : floatLimit ≤ (2 ^ 1024 : Int).natAbs := by decide +kernel
  refine ⟨hsettings, hplain, ?_, ?_, ?_, ?_⟩
  · refine read_eq_tooLarge hrange hlanguage rfl (hplain infinite (by simp)) ?_ ?_ false
    · exact List.forall_mem_singleton.2 (hasTexts_of_isWritable rfl)
    · exact ⟨_, List.mem_singleton_self _, fun hfit => hfit.spamRank _ rfl false rfl⟩
  · refine read_eq_tooLarge hrange hlanguage rfl (hplain beyond (by simp)) ?_ ?_ false
    · exact List.forall_mem_singleton.2 (hasTexts_of_isWritable (by decide +kernel))
    · exact ⟨_, List.mem_singleton_self _, fun hfit => Nat.not_lt.2 hlimit (hfit.pageRank _ rfl)⟩
  · refine read_eq_notANumber hrange hlanguage rfl (hplain unwritten (by simp)) ?_ ?_ false
    · refine List.forall_mem_singleton.2 ⟨fun n hn => ?_, fun x hx => ?_⟩
      · cases (rfl : find? unwritten Plan.pageRankField = none).symm.trans hn
      · cases (rfl : find? unwritten Plan.spamRankField = none).symm.trans hx
    · refine ⟨_, List.mem_singleton_self _, fun htexts => ?_⟩
      have htext := htexts.texts Plan.trecIdField (by simp)
      have hfind : find? (documentOf [("_source", unwritten)]) Plan.trecIdField = some (.int Reading.textLimit) := rfl
      rw [hasTextAt, hfind, Option.getD_some, Value.isWritable_int, Reading.hasText_textLimit] at htext
      cases htext
  · refine read_eq_notANumber hrange hlanguage rfl (hplain listed (by simp)) ?_ ?_ false
    · refine List.forall_mem_singleton.2 ⟨fun n hn => ?_, fun x hx => ?_⟩
      · cases (rfl : find? listed Plan.pageRankField = some (.list [.int Reading.textLimit])).symm.trans hn
      · cases (rfl : find? listed Plan.spamRankField = none).symm.trans hx
    · refine ⟨_, List.mem_singleton_self _, fun htexts => ?_⟩
      have htext := htexts.pageRank (.list [.int Reading.textLimit]) rfl rfl
      simp [Value.isWritable, Value.allWritable, Reading.hasText_textLimit] at htext

end Hit

end PageSearch
