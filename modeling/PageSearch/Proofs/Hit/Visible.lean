import PageSearch.Proofs.Field.Localization
import PageSearch.Proofs.Hit.Excerpt
import PageSearch.Proofs.Snippet.Growth
import PageSearch.Proofs.Snippet.NormalForm

/-!
# Snippets in which something can be seen

What a snippet is made from is chosen first: the only highlighted fragment, else the description of the page, else its
text, and nothing but the empty text is passed over. The choice is cut to its length after that, and cleansed in the
end. So a choice that is not empty can still be blank, or begin with so many blanks that nothing else is left of it, and
there are pages with a text to be seen and an empty snippet (`not_snippet_ne_empty`).

What decides is the part of the page that the snippet is made from (`IsPart`): the fragment, or the chosen text as far
as it stands before its cut. A snippet is empty exactly if nothing in this part can be seen, and it is never empty if
the chosen text begins with something that can be seen (`exists_snippet_ne_empty_iff`). Without a fragment the stored
fields are looked at, and what is found there must be something that can be written.
-/

namespace PageSearch.Snippet

open Text

/-- There is a character that is neither blank nor hidden. -/
def CanBeSeen (s : List Char) : Prop := ∃ c ∈ s, IsInert c

instance (s : List Char) : Decidable (CanBeSeen s) := inferInstanceAs (Decidable (∃ c ∈ s, IsInert c))

/-- Trimming takes nothing away that can be seen. -/
theorem canBeSeen_trim_iff {s : List Char} : CanBeSeen (trim s) ↔ CanBeSeen s := by
  have hmem : ∀ c, IsInert c → (c ∈ trim s ↔ c ∈ s) := by
    intro c hc
    have hkept : c ∈ (trim s).filter isSolid ↔ c ∈ s.filter isSolid := by rw [filter_isSolid_trim]
    simpa [List.mem_filter, hc.1] using hkept
  exact exists_congr fun c => and_congr_left fun hc => hmem c hc

theorem canBeSeen_iff_not_allBlank {s : List Char} : CanBeSeen s ↔ ¬ AllBlank (removeHidden s) := by
  simp [CanBeSeen, IsInert, AllBlank, removeHidden, and_comm]

theorem intercalate_eq_nil_iff {ws : List (List Char)} (h : ∀ w ∈ ws, w ≠ []) :
    [' '].intercalate ws = [] ↔ ws = [] := by
  cases ws with
  | nil => simp
  | cons v vs => simp [intercalate_ne_nil (h v List.mem_cons_self) vs]

/-- **A cleansed text is not empty** exactly if something can be seen in the text. -/
theorem cleanse_ne_empty_iff {text : String} : cleanse text true ≠ "" ↔ CanBeSeen text.toList := by
  have hne : ∀ w ∈ words (removeHidden text.toList), w ≠ [] := fun w hw => (inert_of_mem_words hw).1
  rw [canBeSeen_iff_not_allBlank, Ne, ← String.toList_inj, toList_cleanse, cleanseChars_true_eq, String.toList_empty,
    intercalate_eq_nil_iff hne, words_eq_nil_iff]

theorem escape_ne_empty_iff {text : String} : escape text ≠ "" ↔ text ≠ "" := by
  refine not_congr ⟨fun h => ?_, fun h => by rw [h]; rfl⟩
  have hread : unescape (escape text).toList = text.toList := by
    rw [escape, String.toList_ofList, unescape_flatMap_escapeChar]
  rw [h] at hread
  exact String.toList_inj.1 hread.symm

end PageSearch.Snippet

namespace PageSearch.Hit

open Snippet

/-! ### Highlighted fragments -/

/-- A hit with these fragments of a field; it may also have no highlights, or none of the field. -/
def HasFragments (hit : Fields) (field : String) (fragments : List String) : Prop :=
  ∃ marks, (Fields.getD hit "highlight").fieldsOrNone = .ok marks ∧
    (Fields.getD marks field = .strings fragments ∨ (Fields.getD marks field).isTruthy = false ∧ fragments = [])

/-- The only fragment, or the empty text. -/
def onlyFragment : List String → String
  | [fragment] => fragment
  | _ => ""

variable {hit : Fields} {fragments : List String}

/-- The highlight of a field is its only fragment, and does not count if there is none. -/
theorem HasFragments.exists_singleHighlight {field : String} (h : HasFragments hit field fragments) :
    ∃ highlight, singleHighlight (.obj hit) (.str field) = .ok highlight ∧
      (highlight = .str (onlyFragment fragments) ∨ highlight.isTruthy = false ∧ onlyFragment fragments = "") := by
  obtain ⟨marks, hmarks, hfield⟩ := h
  have hlookUp : (Fields.get? marks field).getD .null = Fields.getD marks field := rfl
  simp only [singleHighlight, Value.fields, Value.lookUp, hmarks, hlookUp, bind, Except.bind]
  rcases hfield with hstrings | ⟨hfalse, rfl⟩
  · rw [hstrings]
    match fragments with
    | [] => exact ⟨.null, rfl, .inr ⟨rfl, rfl⟩⟩
    | [fragment] => exact ⟨.str fragment, rfl, .inl rfl⟩
    | _ :: _ :: _ => exact ⟨.null, rfl, .inr ⟨rfl, rfl⟩⟩
  · simp only [hfalse]
    exact ⟨.null, rfl, .inr ⟨rfl, rfl⟩⟩

/-! ### The part of a page -/

/-- What of a page a snippet is made from: its only highlighted fragment, or a beginning of its stored text. -/
inductive IsPart (limit : Nat) (fragment stored : String) : List Char → Prop where
  /-- A fragment is not cut. -/
  | fragment (hfragment : fragment ≠ "") : IsPart limit fragment stored fragment.toList
  /-- Without a fragment the stored text is cut to its length. -/
  | stored {part : List Char} (hnone : fragment = "") (hhead : IsHead stored limit (.float leastShare) part) :
      IsPart limit fragment stored part

variable {limit : Nat} {fragment stored : String} {part part' : List Char}

/-- There is one such part at most. -/
theorem IsPart.unique (h : IsPart limit fragment stored part) (h' : IsPart limit fragment stored part') :
    part = part' := by
  cases h with
  | fragment hfragment =>
    cases h' with
    | fragment => rfl
    | stored hnone => exact absurd hnone hfragment
  | stored hnone hhead =>
    cases h' with
    | fragment hfragment => exact absurd hnone hfragment
    | stored _ hhead' => exact hhead.unique isProportion_leastShare hhead'

/-- The text that is chosen: the fragment, unless it is empty. -/
def chosenOf (fragment stored : String) : String := if fragment = "" then stored else fragment

/-- **A text that begins with something to be seen** keeps it. -/
theorem IsPart.canBeSeen (h : IsPart limit fragment stored part) (hlimit : 1 ≤ limit) {c : Char}
    (hc : (chosenOf fragment stored).toList.head? = some c) (hinert : IsInert c) : CanBeSeen part := by
  cases h with
  | fragment hfragment =>
    rw [chosenOf, if_neg hfragment] at hc
    exact ⟨c, List.mem_of_mem_head? hc, hinert⟩
  | stored hnone hhead =>
    rw [chosenOf, if_pos hnone] at hc
    exact ⟨c, List.mem_of_mem_head? (hhead.head?_eq hlimit hc hinert.1), hinert⟩

/-- **An excerpt** is made of every text, and shows what can be seen before the cut. -/
theorem exists_excerpt (hstored : stored.length < floatLimit) {limit : Int} (hlimit : 0 ≤ limit) :
    ∃ html head, excerpt stored limit = .ok html ∧ IsHead stored limit.toNat (.float leastShare) head ∧
      (cleanse html true ≠ "" ↔ CanBeSeen head) := by
  obtain ⟨head, htruncate, hhead⟩ := exists_isHead isProportion_leastShare hstored limit.toNat
  rw [Int.toNat_of_nonneg hlimit] at htruncate
  refine ⟨escape (String.ofList (Text.trim head)), head, ?_, hhead, ?_⟩
  · rw [excerpt, htruncate]
    rfl
  · rw [cleanse_escape, escape_ne_empty_iff, cleanse_ne_empty_iff, String.toList_ofList, canBeSeen_trim_iff]

/-! ### Snippets -/

/-- The description of a page or its text, in the language that takes the place of the placeholder. -/
def summaryIn (source : Value) (value : List Char) : String :=
  summaryOf source (Field.filled value Plan.descriptionField) (Field.filled value Plan.bodyField)

/-- Whether what is looked at for it can be written. -/
def CanSummarizeIn (source : Value) (value : List Char) : Prop :=
  CanSummarize source (Field.filled value Plan.descriptionField) (Field.filled value Plan.bodyField)

section Parts

variable {settings : Settings} {language source : Value} {value : List Char}
  (hlanguage : Field.expansion language = .ok value)
  (hhit : HasFragments hit (Field.filled value Plan.bodyField) fragments)
  (hwritable : onlyFragment fragments = "" → CanSummarizeIn source value)
  (hlength : (summaryIn source value).length < floatLimit)
include hlanguage hhit hwritable hlength

/-- Each way to a snippet makes it from one part of the page. -/
theorem exists_snippet_part (hlimit : 0 ≤ settings.snippetLength) :
    ∃ t part, snippet settings (.obj hit) source language = .ok t ∧
      IsPart settings.snippetLength.toNat (onlyFragment fragments) (summaryIn source value) part ∧
      (t ≠ "" ↔ CanBeSeen part) := by
  have hname : ∀ {name : String}, name ≠ "" → Field.localizeIn name language = .ok (Field.filled value name) := by
    intro name hname
    rw [Field.localizeIn_eq hname, hlanguage]
    rfl
  have hbody := hname (by decide : Plan.bodyField ≠ "")
  have hdescription := hname (by decide : Plan.descriptionField ≠ "")
  obtain ⟨highlight, hhighlight, hfragment⟩ := hhit.exists_singleHighlight
  by_cases honly : onlyFragment fragments = ""
  · have hsummary : summarySource source language = .ok (summaryIn source value) :=
      (yields_summarySource hdescription hbody _).2 ⟨hwritable honly, rfl⟩
    have hfalse : highlight.isTruthy = false := by
      rcases hfragment with rfl | ⟨hfalse, -⟩
      · rw [honly]
        rfl
      · exact hfalse
    obtain ⟨html, head, hhtml, hhead, hseen⟩ := exists_excerpt hlength hlimit
    refine ⟨cleanse html true, head, ?_, .stored honly hhead, hseen⟩
    simp only [snippet, hbody, hhighlight, hfalse, hsummary, hhtml, Bool.false_eq_true, if_false, bind, Except.bind]
    rfl
  · obtain rfl := hfragment.resolve_right fun h => honly h.2
    have htrue : (Value.str (onlyFragment fragments)).isTruthy = true := by simp [Value.isTruthy, honly]
    refine ⟨cleanse (onlyFragment fragments) true, _, ?_, .fragment honly, cleanse_ne_empty_iff⟩
    simp only [snippet, hbody, hhighlight, htrue, if_true, bind, Except.bind]
    exact cleanseValue_str _ true

end Parts

/-- **A snippet is not empty** exactly if something can be seen in the part of the page that it is made from. For every
limit, language, hit and document there is a snippet, and there is one such part, unless nothing is highlighted and the
description or the text cannot be written. Something can be seen in it if the text that was chosen begins so. -/
theorem exists_snippet_ne_empty_iff {settings : Settings} (hlimit : 1 ≤ settings.snippetLength) {language : Value}
    {value : List Char} (hlanguage : Field.expansion language = .ok value) {hit : Fields} {fragments : List String}
    (hhit : HasFragments hit (Field.filled value Plan.bodyField) fragments) {source : Value}
    (hwritable : onlyFragment fragments = "" → CanSummarizeIn source value)
    (hlength : (summaryIn source value).length < floatLimit) :
    ∃ t, snippet settings (.obj hit) source language = .ok t ∧
      (∃ part, IsPart settings.snippetLength.toNat (onlyFragment fragments) (summaryIn source value) part) ∧
      (∀ part, IsPart settings.snippetLength.toNat (onlyFragment fragments) (summaryIn source value) part →
        (t ≠ "" ↔ CanBeSeen part)) ∧
      ∀ c, (chosenOf (onlyFragment fragments) (summaryIn source value)).toList.head? = some c → IsInert c →
        t ≠ "" := by
  obtain ⟨t, part, ht, hpart, hseen⟩ := exists_snippet_part hlanguage hhit hwritable hlength (zero_le_one.trans hlimit)
  refine ⟨t, ht, ⟨part, hpart⟩, ?_, ?_⟩
  · intro other hother
    rw [hother.unique hpart]
    exact hseen
  · intro c hc hinert
    have hpos : 1 ≤ settings.snippetLength.toNat := by omega
    exact hseen.2 (hpart.canBeSeen hpos hc hinert)

/-- Two fragments count as none, and the description is cut before its last space. -/
theorem exists_snippet_ne_empty_iff_two_fragments :
    let settings : Settings := { snippetLength := 9 }
    let hit : Fields := [("highlight", .obj [("body_lang.en", .strings ["barn", "owls"])])]
    let source : Value :=
      .obj [("meta_desc_lang", .obj [("en", .str " \u200bowls & more")]), ("body_lang.en", .str "a")]
    1 ≤ settings.snippetLength ∧ Field.expansion (.str "en") = .ok "en".toList ∧
      HasFragments hit "body_lang.en" ["barn", "owls"] ∧ CanSummarizeIn source "en".toList ∧
      (summaryIn source "en".toList).length < floatLimit ∧
      snippet settings (.obj hit) source (.str "en") = .ok "owls &amp;" ∧
      ∃ part, IsPart 9 "" " \u200bowls & more" part ∧ CanBeSeen part := by
  intro settings hit source
  have hlimit : 1 ≤ settings.snippetLength := by decide
  have hlanguage : Field.expansion (.str "en") = .ok "en".toList := Field.expansion_str (by decide)
  have hhit : HasFragments hit "body_lang.en" ["barn", "owls"] :=
    ⟨[("body_lang.en", .strings ["barn", "owls"])], rfl, .inl rfl⟩
  have hwritable : CanSummarizeIn source "en".toList := ⟨by decide, fun _ => by decide⟩
  have hsummary : summaryIn source "en".toList = " \u200bowls & more" := by decide
  have hlength : (summaryIn source "en".toList).length < floatLimit := by
    rw [hsummary]
    exact (isSome_floatOfInt? 13).1 rfl
  have hsnippet : snippet settings (.obj hit) source (.str "en") = .ok "owls &amp;" := by
    simp only [settings, hit, source]
    rfl
  obtain ⟨t, ht, ⟨part, hpart⟩, hseen, -⟩ := exists_snippet_ne_empty_iff hlimit hlanguage hhit (fun _ => hwritable) hlength
  obtain rfl := Except.ok.inj (hsnippet.symm.trans ht)
  have hpartSeen : CanBeSeen part := (hseen part hpart).1 (by decide)
  rw [hsummary] at hpart
  exact ⟨hlimit, hlanguage, hhit, hwritable, hlength, hsnippet, part, hpart, hpartSeen⟩

/-- **A page with a text to be seen can have an empty snippet.** Its only fragment is a hidden mark, its description is
a space, or its text begins with as many spaces as the snippet may have characters. And it can have none, if its
description is a number with too many digits. -/
theorem not_snippet_ne_empty :
    let short : Settings := { snippetLength := 3 }
    let hidden : Fields := [("highlight", .obj [("body_lang.en", .strings ["\u200b"])])]
    let page : Value := .obj [("body_lang.en", .str "owls")]
    let described : Value := .obj [("body_lang.en", .str "owls"), ("meta_desc_lang.en", .str " ")]
    let indented : Value := .obj [("body_lang.en", .str "   owls")]
    let numbered : Value := .obj [("body_lang.en", .str "owls"), ("meta_desc_lang.en", .int Reading.textLimit)]
    (∀ source ∈ [page, described, indented, numbered], CanBeSeen (Document.textAt source "body_lang.en").toList) ∧
      snippet {} (.obj hidden) page (.str "en") = .ok "" ∧
      snippet {} (.obj []) described (.str "en") = .ok "" ∧
      snippet short (.obj []) indented (.str "en") = .ok "" ∧
      snippet {} (.obj []) numbered (.str "en") = .error .notANumber := by
  intro short hidden page described indented numbered
  refine ⟨?_, ?_, ?_, ?_, ?_⟩
  · have hseen : IsInert 'o' := by decide
    simp only [List.forall_mem_cons, page, described, indented, numbered]
    exact ⟨⟨'o', by decide, hseen⟩, ⟨'o', by decide, hseen⟩, ⟨'o', by decide, hseen⟩, ⟨'o', by decide, hseen⟩, nofun⟩
  · simp only [hidden, page]
    rfl
  · simp only [described]
    rfl
  · simp only [short, indented]
    rfl
  · have hbody : Field.localizeIn Plan.bodyField (.str "en") = .ok "body_lang.en" := rfl
    have hdescription : Field.localizeIn Plan.descriptionField (.str "en") = .ok "meta_desc_lang.en" := rfl
    have hhighlight : singleHighlight (.obj []) (.str "body_lang.en") = .ok .null := rfl
    have hsummary : summarySource numbered (.str "en") = .error .notANumber := by
      refine summarySource_of_not_canSummarize hdescription hbody fun h => ?_
      have hnumber : Reading.hasText Reading.textLimit = true := h.1
      rw [Reading.hasText_textLimit] at hnumber
      cases hnumber
    simp only [snippet, hbody, hhighlight, hsummary, bind, Except.bind]
    rfl

end PageSearch.Hit
