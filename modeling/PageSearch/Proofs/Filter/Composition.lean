import Mathlib.Data.List.Nodup
import Mathlib.Data.List.Perm.Basic
import PageSearch.Proofs.Filter.Capture

/-!
# Queries that are put together

A query can be put together from words and filters, in any order and with a space between every two of
them. `Composition` says which filters may be written into a query so that each can be found again: no
two of them have the same keyword, and the opening of a filter stands nowhere else in the query. Then an
extraction takes a query apart into what it was put together from (`extract_compose`).

The specifications are looked for one after the other, each in the text that the ones before it have
left. What holds of that text all along is that its words are the parts that are left
(`captures_compose`), so that no place in the text and no blank has to be kept track of.
-/

namespace PageSearch.Filter

open Text

/-! ### Parts of a query -/

/-- What a query is put together from. -/
inductive Part where
  /-- A word that is not meant as a filter. -/
  | word (w : String)
  /-- The filter that a capture finds: a keyword, a colon and a value. -/
  | filter (m : Capture)

namespace Part

/-- How a part is written. -/
def text : Part → String
  | .word w => w
  | .filter m => m.spec.keyword ++ ":" ++ m.value

/-- The word, if the part is one. -/
def word? : Part → Option String
  | .word w => some w
  | .filter _ => none

/-- What a capture finds of the part, if it is a filter. -/
def filter? : Part → Option Capture
  | .word _ => none
  | .filter m => some m

theorem toList_text_filter (m : Capture) :
    (Part.filter m).text.toList = opening m.spec.keyword.toList ++ m.value.toList := by
  simp only [text, String.toList_append, opening]
  rfl

theorem mem_filters_iff {parts : List Part} {m : Capture} :
    m ∈ parts.filterMap filter? ↔ .filter m ∈ parts := by
  rw [List.mem_filterMap]
  constructor
  · rintro ⟨p, hp, hm⟩
    cases p with
    | word w => cases hm
    | filter m' =>
      cases hm
      exact hp
  · intro h
    exact ⟨.filter m, h, rfl⟩

theorem mem_words_iff {parts : List Part} {w : String} : w ∈ parts.filterMap word? ↔ .word w ∈ parts := by
  rw [List.mem_filterMap]
  constructor
  · rintro ⟨p, hp, hw⟩
    cases p with
    | word w' =>
      cases hw
      exact hp
    | filter m => cases hw
  · intro h
    exact ⟨.word w, h, rfl⟩

/-- Parts that are all words are written as these words. -/
theorem map_text_of_no_filters {parts : List Part} (h : parts.filterMap filter? = []) :
    (parts.map fun p => p.text.toList) = (parts.filterMap word?).map String.toList := by
  induction parts with
  | nil => rfl
  | cons p parts ih =>
    cases p with
    | word w => exact congrArg (w.toList :: ·) (ih h)
    | filter m => cases h

end Part

/-- The query that some parts make up, with a space between every two of them. -/
def compose (parts : List Part) : String := " ".intercalate (parts.map Part.text)

/-- What stands in a query before a part: the parts before it, each with a space. -/
def lead (parts : List Part) : List Char := parts.flatMap fun p => p.text.toList ++ [' ']

/-- What stands in a query after a part: the parts after it, each with a space. -/
def trail (parts : List Part) : List Char := parts.flatMap fun p => ' ' :: p.text.toList

variable {specs : List FilterSpec} {parts pre post : List Part} {p : Part}

theorem toList_compose_cons (h : parts ≠ []) :
    (compose (p :: parts)).toList = p.text.toList ++ ' ' :: (compose parts).toList := by
  have hmap : parts.map Part.text ≠ [] := by simpa using h
  rw [compose, List.map_cons, String.intercalate_cons_of_ne_nil hmap, String.toList_append,
    String.toList_append, List.append_assoc]
  rfl

/-- A query from one of its parts onwards. -/
theorem toList_compose_eq_append_trail : (compose (p :: post)).toList = p.text.toList ++ trail post := by
  induction post generalizing p with
  | nil => simp [compose, trail]
  | cons q post ih =>
    rw [toList_compose_cons (List.cons_ne_nil q post), ih, trail, trail, List.flatMap_cons, List.cons_append]

/-- **Where a part stands** in a query. -/
theorem toList_compose_append :
    (compose (pre ++ p :: post)).toList = lead pre ++ p.text.toList ++ trail post := by
  induction pre with
  | nil => exact toList_compose_eq_append_trail
  | cons q pre ih =>
    rw [List.cons_append, toList_compose_cons (by simp), ih]
    simp [lead]

/-- What stands before a part ends with a space. -/
theorem endsBlank_lead (pre : List Part) : EndsBlank (lead pre) := by
  induction pre using List.reverseRecOn with
  | nil => exact endsBlank_nil
  | append_singleton pre p _ =>
    have hlead : lead (pre ++ [p]) = (lead pre ++ p.text.toList) ++ [' '] := by simp [lead]
    rw [hlead, endsBlank_concat]
    decide

theorem words_lead (h : ∀ p ∈ pre, IsWord p.text.toList) :
    words (lead pre) = pre.map fun p => p.text.toList := by
  induction pre with
  | nil => exact words_nil
  | cons p pre ih =>
    obtain ⟨hp, hpre⟩ := List.forall_mem_cons.1 h
    have hlead : lead (p :: pre) = p.text.toList ++ ' ' :: lead pre := by simp [lead]
    rw [hlead, words_append_cons_of_isBlank (by decide), words_of_isWord hp, ih hpre, List.map_cons]
    rfl

/-- **The words of a query** are its parts. -/
theorem words_compose (h : ∀ p ∈ parts, IsWord p.text.toList) :
    words (compose parts).toList = parts.map fun p => p.text.toList := by
  induction parts using List.reverseRecOn with
  | nil => exact words_nil
  | append_singleton parts p _ =>
    obtain ⟨hparts, hp⟩ := List.forall_mem_append.1 h
    rw [toList_compose_append, trail, List.flatMap_nil, List.append_nil,
      words_append (.inl (endsBlank_lead parts)), words_lead hparts, List.map_append, List.map_singleton,
      words_of_isWord (hp p List.mem_cons_self)]

/-! ### Which filters a query may be put together from -/

/-- A query is put together from words and the chosen filters so that each of them can be found. -/
structure Composition (specs : List FilterSpec) (chosen : List Capture) (plain : List String)
    (parts : List Part) : Prop where
  /-- Each keyword is a word. -/
  keywords : ∀ s ∈ specs, IsWord s.keyword.toList
  /-- No two specifications have the same keyword. -/
  distinct : (specs.map FilterSpec.keyword).Nodup
  /-- Filters are chosen for some of the specifications, in their order. -/
  chosen_sublist : (chosen.map Capture.spec).Sublist specs
  /-- Each value is a word. -/
  values : ∀ m ∈ chosen, IsWord m.value.toList
  /-- The plain words are words. -/
  plain_isWord : ∀ w ∈ plain, IsWord w.toList
  /-- The chosen filters are written in any order. -/
  filters_perm : (parts.filterMap Part.filter?).Perm chosen
  /-- The plain words are written in their order. -/
  words_eq : parts.filterMap Part.word? = plain
  /-- Where the opening of a specification stands in the query, its own filter begins. -/
  openings : ∀ s ∈ specs, ∀ a b, (compose parts).toList = a ++ opening s.keyword.toList ++ b →
    ∃ pre value post, parts = pre ++ .filter ⟨s, value⟩ :: post ∧ a = lead pre

/-- Among some parts the opening of a specification stands only in its own filter. -/
def Own (specs : List FilterSpec) (parts : List Part) : Prop :=
  ∀ s ∈ specs, ∀ p ∈ parts, opening s.keyword.toList <:+: p.text.toList → ∃ value, p = .filter ⟨s, value⟩

namespace Composition

variable {chosen : List Capture} {plain : List String}

theorem isWord (h : Composition specs chosen plain parts) : ∀ p ∈ parts, IsWord p.text.toList := by
  intro p hp
  cases p with
  | word w => exact h.plain_isWord w (h.words_eq ▸ Part.mem_words_iff.2 hp)
  | filter m =>
    have hm : m ∈ chosen := h.filters_perm.mem_iff.1 (Part.mem_filters_iff.2 hp)
    have hs := h.keywords m.spec (h.chosen_sublist.subset (List.mem_map_of_mem hm))
    rw [Part.toList_text_filter]
    refine ⟨List.append_ne_nil_of_left_ne_nil opening_ne_nil _, solid_append.2 ⟨solid_opening hs.2, ?_⟩⟩
    exact (h.values m hm).2

/-- An opening in a part would be one in the query, so that the part is the filter that begins there:
before both there are the same words. -/
theorem own (h : Composition specs chosen plain parts) : Own specs parts := by
  rintro s hs p hp ⟨a, b, hab⟩
  obtain ⟨pre, post, hparts⟩ := List.append_of_mem hp
  have hwords : ∀ q ∈ pre, IsWord q.text.toList :=
    fun q hq => h.isWord q (hparts ▸ List.mem_append_left _ hq)
  have hquery : (compose parts).toList = (lead pre ++ a) ++ opening s.keyword.toList ++ (b ++ trail post) := by
    rw [hparts, toList_compose_append, ← hab]
    simp only [List.append_assoc]
  obtain ⟨pre', value, post', hparts', hlead⟩ := h.openings s hs _ _ hquery
  have ha : a = [] := by
    by_contra hne
    have hsolid : Solid a := (solid_append.1 (solid_append.1 (hab ▸ (h.isWord p hp).2)).1).1
    refine hne (hsolid.eq_nil_of_endsBlank ?_)
    rw [← endsBlank_append_iff hne, hlead]
    exact endsBlank_lead pre'
  have hwords' : ∀ q ∈ pre', IsWord q.text.toList :=
    fun q hq => h.isWord q (hparts' ▸ List.mem_append_left _ hq)
  have hlength : pre.length = pre'.length := by
    have hmap := congrArg words hlead
    rw [ha, List.append_nil, words_lead hwords, words_lead hwords'] at hmap
    simpa using congrArg List.length hmap
  have htail := List.append_inj_right (hparts.symm.trans hparts') hlength
  exact ⟨value, (List.cons.inj htail).1⟩

end Composition

/-! ### Taking a query apart -/

/-- What holds before each step of an extraction: the words of the text are the parts that are left, among
them the chosen filters of the specifications that are left. -/
structure Readable (specs : List FilterSpec) (chosen : List Capture) (parts : List Part)
    (text : List Char) : Prop where
  /-- Each keyword is a word. -/
  keywords : ∀ s ∈ specs, IsWord s.keyword.toList
  /-- No specification is repeated. -/
  nodup : specs.Nodup
  /-- Filters are chosen for some of the specifications, in their order. -/
  chosen_sublist : (chosen.map Capture.spec).Sublist specs
  /-- Each value is a word. -/
  values : ∀ m ∈ chosen, IsWord m.value.toList
  /-- The chosen filters are among the parts. -/
  filters_perm : (parts.filterMap Part.filter?).Perm chosen
  /-- The openings stand in their own filters only. -/
  own : Own specs parts
  /-- The text has the parts as its words. -/
  words_eq : words text = parts.map fun p => p.text.toList

theorem Composition.readable {chosen : List Capture} {plain : List String}
    (h : Composition specs chosen plain parts) :
    Readable specs chosen parts (trim (compose parts).toList) where
  keywords := h.keywords
  nodup := h.distinct.of_map
  chosen_sublist := h.chosen_sublist
  values := h.values
  filters_perm := h.filters_perm
  own := h.own
  words_eq := by rw [words_trim, words_compose h.isWord]

namespace Readable

variable {s : FilterSpec} {m : Capture} {chosen : List Capture} {text : List Char}

/-- A part in which the opening of a specification stands is a chosen filter of it. -/
theorem exists_chosen (h : Readable specs chosen parts text) (hs : s ∈ specs) (hp : p ∈ parts)
    (hopening : opening s.keyword.toList <:+: p.text.toList) :
    ∃ value, p = .filter ⟨s, value⟩ ∧ ⟨s, value⟩ ∈ chosen := by
  obtain ⟨value, rfl⟩ := h.own s hs p hp hopening
  exact ⟨value, rfl, h.filters_perm.mem_iff.1 (Part.mem_filters_iff.2 hp)⟩

/-- A specification without chosen filter finds nothing. -/
theorem matched?_eq_none (h : Readable (s :: specs) chosen parts text)
    (hchosen : (chosen.map Capture.spec).Sublist specs) : matched? s text = none := by
  have hs := h.keywords s List.mem_cons_self
  rw [matched?_eq_cut? hs, cut?_eq_none_iff, (solid_opening hs.2).infix_iff_words opening_ne_nil, h.words_eq]
  rintro ⟨w, hw, hopening⟩
  obtain ⟨p, hp, rfl⟩ := List.mem_map.1 hw
  obtain ⟨value, -, hm⟩ := h.exists_chosen List.mem_cons_self hp hopening
  exact (List.nodup_cons.1 h.nodup).1 (hchosen.subset (List.mem_map_of_mem hm))

theorem keywords_tail (h : Readable (s :: specs) chosen parts text) : ∀ s' ∈ specs, IsWord s'.keyword.toList :=
  fun s' hs' => h.keywords s' (List.mem_cons_of_mem s hs')

theorem skip (h : Readable (s :: specs) chosen parts text) (hchosen : (chosen.map Capture.spec).Sublist specs) :
    Readable specs chosen parts text where
  keywords := h.keywords_tail
  nodup := (List.nodup_cons.1 h.nodup).2
  chosen_sublist := hchosen
  values := h.values
  filters_perm := h.filters_perm
  own := fun s' hs' => h.own s' (List.mem_cons_of_mem s hs')
  words_eq := h.words_eq

theorem mem_of_mem_rest {q : Part} (hp : p ∈ pre ++ post) : p ∈ pre ++ q :: post :=
  (List.sublist_cons_self q post |>.append_left pre).subset hp

theorem filters_perm_rest (h : Readable specs (m :: chosen) (pre ++ .filter m :: post) text) :
    ((pre ++ post).filterMap Part.filter?).Perm chosen := by
  have hmiddle : (pre ++ .filter m :: post).Perm (.filter m :: (pre ++ post)) := List.perm_middle
  have hcons := (hmiddle.filterMap Part.filter?).symm.trans h.filters_perm
  exact List.Perm.cons_inv hcons

/-- The opening of a chosen filter does not stand in the other parts. -/
theorem not_infix_rest (h : Readable specs (m :: chosen) (pre ++ .filter m :: post) text)
    (hp : p ∈ pre ++ post) : ¬ opening m.spec.keyword.toList <:+: p.text.toList := by
  intro hopening
  have hm : m.spec ∈ specs := h.chosen_sublist.subset List.mem_cons_self
  obtain ⟨value, rfl⟩ := h.own m.spec hm p (mem_of_mem_rest hp) hopening
  have hchosen := h.filters_perm_rest.mem_iff.1 (Part.mem_filters_iff.2 hp)
  have hnodup : (m.spec :: chosen.map Capture.spec).Nodup := h.chosen_sublist.nodup h.nodup
  exact (List.nodup_cons.1 hnodup).1 (List.mem_map.2 ⟨⟨m.spec, value⟩, hchosen, rfl⟩)

/-- **A specification finds its chosen filter**, and what it leaves has the other parts as its words. -/
theorem take (h : Readable (m.spec :: specs) (m :: chosen) (pre ++ .filter m :: post) text) :
    ∃ c, matched? m.spec text = some c ∧ c.value = m.value.toList ∧
      Readable specs chosen (pre ++ post) (trim c.remainder) := by
  have hs := h.keywords m.spec List.mem_cons_self
  have hvalue := h.values m List.mem_cons_self
  have hwords := h.words_eq
  rw [List.map_append, List.map_cons] at hwords
  obtain ⟨x, y, hx, -, hy, htext, hpre, hpost⟩ := exists_of_words_eq hwords
  -- the opening would stand in a word before the filter, or in its own keyword, which is too short
  have hfirst : ¬ opening m.spec.keyword.toList <:+: (x ++ opening m.spec.keyword.toList).dropLast := by
    rw [opening, ← List.append_assoc, List.dropLast_concat, ← opening,
      (solid_opening hs.2).infix_append (.inl hx)]
    rintro (hopening | hopening)
    · obtain ⟨w, hw, hopening⟩ := ((solid_opening hs.2).infix_iff_words opening_ne_nil).1 hopening
      rw [hpre] at hw
      obtain ⟨p, hp, rfl⟩ := List.mem_map.1 hw
      exact h.not_infix_rest (List.mem_append_left post hp) hopening
    · have hlength := hopening.length_le
      rw [opening, List.length_append, List.length_singleton] at hlength
      omega
  have hcut : Cut.IsFirst ⟨x, [], m.value.toList, y⟩ m.spec.keyword.toList text := by
    refine ⟨?_, hfirst, allBlank_nil, hvalue.2, hy, fun hnil => absurd hnil hvalue.1⟩
    rw [htext, Part.toList_text_filter]
    simp only [List.append_assoc, List.nil_append]
  refine ⟨_, (matched?_eq_cut? hs text).trans (cut?_eq_some_iff.2 hcut), rfl, ?_⟩
  refine ⟨h.keywords_tail, (List.nodup_cons.1 h.nodup).2, List.cons_sublist_cons.1 h.chosen_sublist, ?_,
    h.filters_perm_rest, ?_, ?_⟩
  · exact fun m' hm' => h.values m' (List.mem_cons_of_mem m hm')
  · exact fun s' hs' p hp => h.own s' (List.mem_cons_of_mem m.spec hs') p (mem_of_mem_rest hp)
  · rw [words_trim, Cut.remainder, words_append (.inl hx), hpre, hpost, List.map_append]

end Readable

/-- **The run** takes the chosen filters out, and leaves the plain words. -/
theorem captures_compose {chosen : List Capture} {text : List Char} (h : Readable specs chosen parts text) :
    captures specs text = chosen ∧
      words (residue specs text) = (parts.filterMap Part.word?).map String.toList := by
  induction specs generalizing chosen parts text with
  | nil =>
    obtain rfl : chosen = [] := List.map_eq_nil_iff.1 (List.sublist_nil.1 h.chosen_sublist)
    have hfilters : parts.filterMap Part.filter? = [] := List.perm_nil.1 h.filters_perm
    exact ⟨rfl, h.words_eq.trans (Part.map_text_of_no_filters hfilters)⟩
  | cons s specs ih =>
    rw [captures, residue]
    rcases List.sublist_cons_iff.1 h.chosen_sublist with hchosen | ⟨rest, hmap, hchosen⟩
    · rw [h.matched?_eq_none hchosen]
      exact ih (h.skip hchosen)
    · obtain ⟨m, chosen', rfl, rfl, rfl⟩ := List.map_eq_cons_iff.1 hmap
      have hm : .filter m ∈ parts := Part.mem_filters_iff.1 (h.filters_perm.mem_iff.2 List.mem_cons_self)
      obtain ⟨pre, post, rfl⟩ := List.append_of_mem hm
      obtain ⟨c, hc, hvalue, hrest⟩ := h.take
      obtain ⟨hcaptures, hwords⟩ := ih hrest
      simp only [hc, hvalue, String.ofList_toList]
      refine ⟨congrArg (m :: ·) hcaptures, hwords.trans ?_⟩
      rw [List.filterMap_append, List.filterMap_append, List.filterMap_cons_none (a := Part.filter m) rfl]

/-- **An extraction takes a query apart** into what it was put together from: the plain words are left in
their order, the chosen filters demand what they are for in the order of their specifications, and the last
of them that chooses the language or the indices does so. A filter that is for both chooses the language. -/
theorem extract_compose (targets : Targets) {chosen : List Capture} {plain : List String}
    (h : Composition specs chosen plain parts) :
    let e := extract targets specs (compose parts)
    words e.text.toList = plain.map String.toList ∧
      e.filters = chosen.filterMap (fun m => (targets.demanded? m.spec).map fun field => (field, m.value)) ∧
      e.language = ((chosen.filter fun m => targets.choosesLanguage m.spec).getLast?).map Capture.value ∧
      e.indices =
        ((chosen.filter fun m => targets.choosesIndices m.spec).getLast?).map (fun m => splitIndices m.value) ∧
      e.blocksGrouping = chosen.any fun m => m.spec.blocksGrouping := by
  obtain ⟨hcaptures, hwords⟩ := captures_compose h.readable
  have hvalue : ∀ m ∈ chosen, m.value ≠ "" := by
    rintro m hm h0
    exact (h.values m hm).1 (by rw [h0]; rfl)
  have hlast : ∀ p : FilterSpec → Bool,
      lastValue? p chosen = ((chosen.filter fun m => p m.spec).getLast?).map Capture.value := by
    intro p
    rw [lastValue?]
    congr 2
    exact List.filter_congr fun m hm => by simp [hvalue m hm]
  intro e
  have he : e = Extraction.ofCaptures targets (residue specs (trim (compose parts).toList)) chosen := by
    rw [← hcaptures]
    exact extract_eq targets specs (compose parts)
  rw [he]
  refine ⟨?_, ?_, hlast _, ?_, rfl⟩
  · rw [Extraction.ofCaptures, String.toList_ofList, hwords, h.words_eq]
  · exact List.filterMap_congr fun m hm => by rw [Capture.demand?, if_neg (hvalue m hm)]
  · have hindices := congrArg (Option.map splitIndices) (hlast targets.choosesIndices)
    rw [Option.map_map] at hindices
    exact hindices

/-- Two of three specifications are used, in the other order and between words. -/
theorem extract_compose_language_host :
    let host : FilterSpec := { keyword := "host", field := some "host" }
    let language : FilterSpec := { keyword := "lang", field := some "lang" }
    let index : FilterSpec := { keyword := "index", field := some "#index" }
    let e := extract {} [host, language, index] "owls lang:en of host:a.org"
    words e.text.toList = ["owls".toList, "of".toList] ∧ e.filters = [("host", "a.org")] ∧
      e.language = some "en" ∧ e.indices = none ∧ e.blocksGrouping = false := by
  intro host language index
  let parts : List Part :=
    [.word "owls", .filter ⟨language, "en"⟩, .word "of", .filter ⟨host, "a.org"⟩]
  have hquery : compose parts = "owls lang:en of host:a.org" := by decide
  have hopenings : ∀ s ∈ [host, language, index], ∀ n < 27,
      opening s.keyword.toList <+: (compose parts).toList.drop n →
        s = language ∧ n = 5 ∨ s = host ∧ n = 16 := by decide
  have hcomposition :
      Composition [host, language, index] [⟨host, "a.org"⟩, ⟨language, "en"⟩] ["owls", "of"] parts := by
    refine ⟨by decide, by decide, by decide, by decide, by decide, by decide, by decide, ?_⟩
    intro s hs a b hab
    have ha : a = (compose parts).toList.take a.length := by simp [hab]
    have hprefix : opening s.keyword.toList <+: (compose parts).toList.drop a.length := by simp [hab]
    have hlength : a.length < 27 := by
      have hwhole : (compose parts).toList.length = 26 := by decide
      have hparts := congrArg List.length hab
      simp only [List.length_append] at hparts
      omega
    rcases hopenings s hs a.length hlength hprefix with ⟨rfl, hn⟩ | ⟨rfl, hn⟩
    · refine ⟨[.word "owls"], "en", [.word "of", .filter ⟨host, "a.org"⟩], rfl, ?_⟩
      rw [ha, hn]
      decide
    · refine ⟨[.word "owls", .filter ⟨language, "en"⟩, .word "of"], "a.org", [], rfl, ?_⟩
      rw [ha, hn]
      decide
  rw [← hquery]
  exact extract_compose {} hcomposition

end PageSearch.Filter
