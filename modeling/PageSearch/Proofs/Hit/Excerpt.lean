import PageSearch.Hit.Parts
import PageSearch.Proofs.Outcome
import PageSearch.Proofs.Snippet.Cleansing
import PageSearch.Proofs.Snippet.Escaping
import PageSearch.Proofs.Snippet.Truncation
import PageSearch.Proofs.Value.Writing

/-!
# Titles and snippets from stored texts

Without a highlight, a title and a snippet are made from a stored text in three steps: it is truncated, written as
HTML and cleansed. Cleansing does not see how characters are written (`isSpelling_escapeChar`), so the last two
steps can change places and no entity is touched. Who reads the HTML reads the truncated text, cleansed, and
nothing in it is markup (`shows_selected`).
-/

namespace PageSearch.Snippet

/-- **The entities of HTML** are left alone by cleansing. -/
theorem isSpelling_escapeChar : IsSpelling escapeChar := by
  have hinert : ∀ c ∈ '&' :: markupChars ++ entities.flatten, IsInert c := by
    have hall : ('&' :: markupChars ++ entities.flatten).all (IsInert ·) = true := by decide
    simpa only [List.all_eq_true, decide_eq_true_eq] using hall
  constructor
  · intro c hc
    rcases escapeChar_cases c with ⟨hself, -⟩ | ⟨-, hmeaning, -⟩
    · exact hself
    · exact absurd (hinert c (List.mem_append_left _ (List.mem_cons.2 hmeaning))) hc
  · intro c _ hnil
    rcases escapeChar_cases c with ⟨hself, -⟩ | ⟨hentity, -⟩
    · rw [hself] at hnil
      cases hnil
    · rw [hnil] at hentity
      exact absurd hentity (by decide)
  · intro c hc d hd
    rcases escapeChar_cases c with ⟨hself, -⟩ | ⟨hentity, -⟩
    · rw [hself, List.mem_singleton] at hd
      exact hd ▸ hc
    · exact hinert d (List.mem_append_right _ (List.mem_flatten_of_mem hentity hd))

/-- Cleansing and writing as HTML can change places. -/
theorem cleanse_escape (text : String) (collapsing : Bool) :
    cleanse (escape text) collapsing = escape (cleanse text collapsing) := by
  rw [cleanse, escape, escape, cleanse, String.toList_ofList, String.toList_ofList,
    cleanseChars_flatMap isSpelling_escapeChar]

end PageSearch.Snippet

namespace PageSearch.Hit

open Snippet

/-- HTML that shows a stored text, cut to a limit. -/
structure Shows (raw : String) (limit : Int) (html : String) : Prop where
  /-- There is no markup in it. -/
  isHtmlText : IsHtmlText html.toList
  /-- It reads as the truncated text, cleansed. -/
  reads : ∃ cut, truncate raw limit (.float leastShare) = .ok cut ∧
    unescape html.toList = (cleanse cut true).toList
  /-- It does not read longer than the limit. -/
  length_le : ((unescape html.toList).length : Int) ≤ limit

/-- **An excerpt** shows its text. -/
theorem shows_of_excerpt {raw html : String} {limit : Int} (h : excerpt raw limit = .ok html)
    (hlimit : 0 ≤ limit) : Shows raw limit (cleanse html true) := by
  simp only [excerpt, Outcome.bind_eq_ok, Outcome.pure_eq_ok] at h
  obtain ⟨cut, hcut, rfl⟩ := h
  rw [cleanse_escape]
  have hreads : unescape (escape (cleanse cut true)).toList = (cleanse cut true).toList := by
    rw [escape, String.toList_ofList, unescape_flatMap_escapeChar]
  refine ⟨?_, ⟨cut, hcut, hreads⟩, ?_⟩
  · rw [escape, String.toList_ofList]
    exact isHtmlText_flatMap_escapeChar _
  · have hshort := length_le_of_truncate hcut hlimit
    have hcleanse := length_cleanseChars_le true cut.toList
    rw [hreads, cleanse, String.toList_ofList]
    omega

/-- The description of a page, or its text if the description is empty. -/
def summaryOf (source : Value) (description body : String) : String :=
  if Document.textAt source description = "" then Document.textAt source body
  else Document.textAt source description

/-- Whether what is looked at for a summary can be written: the description, and the text if the description is
empty. -/
def CanSummarize (source : Value) (description body : String) : Prop :=
  Document.hasTextAt source description = true ∧
    (Document.textAt source description = "" → Document.hasTextAt source body = true)

/-- **A summary** is written exactly if all that is looked at for it can be. -/
theorem yields_summarySource {source language : Value} {description body : String}
    (hdescription : Field.localizeIn Plan.descriptionField language = .ok description)
    (hbody : Field.localizeIn Plan.bodyField language = .ok body) :
    Outcome.Yields (summarySource source language) (CanSummarize source description body)
      (summaryOf source description body) := by
  have hwords : Outcome.Yields
      (if (Document.textAt source description).isEmpty then Document.writtenAt source body
        else .ok (Document.textAt source description))
      (Document.textAt source description = "" → Document.hasTextAt source body = true)
      (summaryOf source description body) := by
    rw [summaryOf]
    by_cases hempty : Document.textAt source description = ""
    · rw [if_pos hempty, if_pos (String.isEmpty_iff.2 hempty)]
      exact (Document.yields_writtenAt source body).congr ⟨fun h _ => h, fun h => h hempty⟩
    · rw [if_neg hempty, if_neg (fun h => hempty (String.isEmpty_iff.1 h))]
      exact Outcome.yields_ok (fun h => absurd h hempty) _
  simp only [summarySource, hdescription, hbody]
  exact (Document.yields_writtenAt source description).bind hwords

/-- A summary fails only where a text cannot be written. -/
theorem failsOnly_notANumber_summarySource {source language : Value} {description body : String}
    (hdescription : Field.localizeIn Plan.descriptionField language = .ok description)
    (hbody : Field.localizeIn Plan.bodyField language = .ok body) :
    Outcome.FailsOnly (· = .notANumber) (summarySource source language) := by
  simp only [summarySource, hdescription, hbody]
  refine (Value.failsOnly_afterWriting _ _).bind fun text _ => ?_
  split
  · exact Value.failsOnly_afterWriting _ _
  · exact Outcome.failsOnly_ok _

theorem summarySource_of_not_canSummarize {source language : Value} {description body : String}
    (hdescription : Field.localizeIn Plan.descriptionField language = .ok description)
    (hbody : Field.localizeIn Plan.bodyField language = .ok body) (h : ¬ CanSummarize source description body) :
    summarySource source language = .error .notANumber := by
  cases hresult : summarySource source language with
  | ok text => exact absurd ((yields_summarySource hdescription hbody text).1 hresult).1 h
  | error fault => rw [failsOnly_notANumber_summarySource hdescription hbody fault hresult]

variable {settings : Settings} {hit source language : Value}

/-- A title without highlight is made from the stored title. -/
theorem shows_title {field t : String} (hlength : 0 ≤ settings.titleLength)
    (hfield : Field.localizeIn Plan.titleField language = .ok field)
    (hnone : singleHighlight hit (.str field) = .ok .null) (h : title settings hit source language = .ok t) :
    Shows (Document.textAt source field) settings.titleLength t := by
  simp only [title, hfield, hnone, Outcome.bind_eq_ok, Outcome.pure_eq_ok, Except.ok.injEq, exists_eq_left'] at h
  obtain ⟨raw, hraw, html, hhtml, rfl⟩ := h
  obtain ⟨-, rfl⟩ := Document.writtenAt_eq_ok.1 hraw
  exact shows_of_excerpt hhtml hlength

/-- A snippet without highlight is made from the description or the text. -/
theorem shows_snippet {body description t : String} {highlight : Value} (hlength : 0 ≤ settings.snippetLength)
    (hbody : Field.localizeIn Plan.bodyField language = .ok body)
    (hdescription : Field.localizeIn Plan.descriptionField language = .ok description)
    (hhighlight : singleHighlight hit (.str body) = .ok highlight) (hnone : highlight.isTruthy = false)
    (h : snippet settings hit source language = .ok t) :
    Shows (summaryOf source description body) settings.snippetLength t := by
  simp only [snippet, hbody, hhighlight, hnone, Outcome.bind_eq_ok, Outcome.pure_eq_ok, Except.ok.injEq,
    exists_eq_left', Bool.false_eq_true, if_false] at h
  obtain ⟨raw, hraw, html, hhtml, rfl⟩ := h
  obtain ⟨-, rfl⟩ := (yields_summarySource hdescription hbody raw).1 hraw
  exact shows_of_excerpt hhtml hlength

/-- **Titles and snippets without highlight are text.** A title whose field has no single highlight shows the stored
title, and a snippet whose highlight is missing or empty shows the description of the page or its text, each cut
to its length. -/
theorem shows_selected (settings : Settings) (htitle : 0 ≤ settings.titleLength)
    (hsnippet : 0 ≤ settings.snippetLength) (hit source language : Value) :
    (∀ field t, Field.localizeIn Plan.titleField language = .ok field →
      singleHighlight hit (.str field) = .ok .null → title settings hit source language = .ok t →
      Shows (Document.textAt source field) settings.titleLength t) ∧
    ∀ body description highlight t, Field.localizeIn Plan.bodyField language = .ok body →
      Field.localizeIn Plan.descriptionField language = .ok description →
      singleHighlight hit (.str body) = .ok highlight → highlight.isTruthy = false →
      snippet settings hit source language = .ok t →
      Shows (summaryOf source description body) settings.snippetLength t :=
  ⟨fun _ _ hfield hnone h => shows_title htitle hfield hnone h,
    fun _ _ _ _ hbody hdescription hhighlight hnone h => shows_snippet hsnippet hbody hdescription hhighlight hnone h⟩

/-- A title with two highlights and a snippet with an empty one: the cut goes before the entities, and a mark that
is hidden counts for the length. -/
theorem shows_selected_two_fragments :
    let settings : Settings := { titleLength := 12, snippetLength := 9 }
    let hit : Value := .obj [("highlight", .obj [("title_lang.en", .list [.str "a", .str "b"]),
      ("body_lang.en", .list [.str ""])])]
    let source : Value := .obj [("title_lang", .obj [("en", .str " Q&A\u200b: <b>\"x\"</b>")]),
      ("body_lang.en", .str "it's <i>here</i>")]
    title settings hit source (.str "en") = .ok "Q&amp;A: &lt;b&gt;&quot;x" ∧
      snippet settings hit source (.str "en") = .ok "it&#x27;s &lt;i&gt;h" ∧
      Shows " Q&A\u200b: <b>\"x\"</b>" 12 "Q&amp;A: &lt;b&gt;&quot;x" ∧
      Shows "it's <i>here</i>" 9 "it&#x27;s &lt;i&gt;h" := by
  intro settings hit source
  have htitle : title settings hit source (.str "en") = .ok "Q&amp;A: &lt;b&gt;&quot;x" := by
    simp only [settings, hit, source]
    rfl
  have hsnippet : snippet settings hit source (.str "en") = .ok "it&#x27;s &lt;i&gt;h" := by
    simp only [settings, hit, source]
    rfl
  obtain ⟨hshowsTitle, hshowsSnippet⟩ := shows_selected settings (by decide) (by decide) hit source (.str "en")
  exact ⟨htitle, hsnippet, hshowsTitle "title_lang.en" _ rfl rfl htitle,
    hshowsSnippet "body_lang.en" "meta_desc_lang.en" (.str "") _ rfl rfl rfl rfl hsnippet⟩

end PageSearch.Hit
