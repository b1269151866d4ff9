import PageSearch.External.Outline
import PageSearch.Proofs.Decimal.Reading
import PageSearch.Proofs.Settings.Indices
import PageSearch.Proofs.Value.Writing
import PageSearch.Service.App

/-!
# Forms of a request

An address holds texts only, and JSON holds numbers, lists and truth values. So each parameter of a request has
several *forms*: a whole number is itself or its decimal text (`IsNumber`), some indices are a list or a text with
commas between them (`IsListing`), and a truth value is itself or its word (`IsFlag`). The forms of a parameter are
read alike (`int?_of_isNumber`, `list?_of_isListing`, `flag_of_isFlag`), so that two forms of a request ask the
backend for the same and have the same outcome (`runSearch_of_alike`).
-/

namespace PageSearch

namespace Param

/-! ### Whole numbers -/

/-- A whole number as a parameter. -/
inductive IsNumber (n : Int) : Value → Prop where
  /-- It is given as itself. -/
  | int : IsNumber n (.int n)
  /-- It is given as its decimal text, with blanks around it. A text has at most so many digits. -/
  | text {s : String} {a b : List Char} (hs : s.toList = a ++ (intText n).toList ++ b) (ha : Text.AllBlank a)
      (hb : Text.AllBlank b) (hdigits : (Nat.toDigits 10 n.natAbs).length ≤ 4300) : IsNumber n (.str s)

theorem solid_intText (n : Int) : Text.Solid (intText n).toList := fun _ hc =>
  Text.isSolid_eq_true_iff.2 (isNumeral_of_mem_intText hc).isBlank

/-- **A whole number** is read from each of its forms. -/
theorem int?_of_isNumber {n : Int} {v : Value} (h : IsNumber n v) : int? v = some n := by
  cases h with
  | int => rfl
  | @text s a b hs ha hb hdigits =>
    change Reading.int? (Text.trim s.toList) = some n
    rw [hs, Text.trim_append_of_allBlank ha hb, (solid_intText n).trim_eq]
    exact Reading.int?_intText hdigits

/-! ### Indices -/

/-- Some indices as a parameter, where `names` is the text that they make up with commas between them. -/
inductive IsListing (names : String) : Value → Prop where
  /-- They are given as a list of texts, each of which may hold several of them. -/
  | list {texts : List String} (h : ",".intercalate texts = names) : IsListing names (.strings texts)
  /-- They are given as one text. -/
  | text : IsListing names (.str names)

theorem pieces_append (s t : String) : pieces (s ++ "," ++ t) = pieces s ++ pieces t := by
  have hcomma : (s ++ "," ++ t).toList = s.toList ++ ',' :: t.toList := by
    rw [String.toList_append, String.toList_append, List.append_assoc]
    rfl
  have hsplit : Text.splitAtCommas (s ++ "," ++ t) = Text.splitAtCommas s ++ Text.splitAtCommas t := by
    rw [Text.splitAtCommas, hcomma, Text.splitWhere_eq_splitOnP, List.splitOnP_append_cons _ _ rfl, List.map_append,
      ← Text.splitWhere_eq_splitOnP, ← Text.splitWhere_eq_splitOnP]
    rfl
  rw [pieces, hsplit, List.map_append, List.filter_append]
  rfl

/-- It does not matter how the names are distributed over the texts of a list. -/
theorem flatMap_pieces_eq (texts : List String) : texts.flatMap pieces = pieces (",".intercalate texts) := by
  induction texts with
  | nil => rfl
  | cons s texts ih =>
    cases texts with
    | nil => simp
    | cons t texts => rw [String.intercalate_cons_cons, pieces_append, List.flatMap_cons, ih]

/-- **Some indices** are read alike in all of their forms. -/
theorem list?_of_isListing {names : String} {v : Value} (h : IsListing names v) :
    list? v = .ok (if (pieces names).isEmpty then none else some (pieces names)) := by
  cases h with
  | @list texts hnames =>
    have htexts : listTexts (.strings texts) = .ok texts := Value.mapM_write_str texts
    rw [← hnames, ← flatMap_pieces_eq]
    change (listTexts (.strings texts) >>= _) = _
    rw [htexts]
    rfl
  | text => exact list?_str names

/-! ### Truth values -/

/-- The word for a truth value. -/
def flagWord (b : Bool) : String := if b then "true" else "false"

/-- A truth value as a parameter. -/
inductive IsFlag (b : Bool) : Value → Prop where
  /-- It is given as itself. -/
  | bool : IsFlag b (.bool b)
  /-- It is given as its word, of which each letter may be a capital. -/
  | word {s : String} (hs : List.Forall₂ (fun c d => c = d ∨ c = d.toUpper) s.toList (flagWord b).toList) :
      IsFlag b (.str s)

/-- A letter of one of the words is no blank, and neither is its capital, which is lowered to it. -/
theorem letter_of_mem_flagWord {b : Bool} {d : Char} (hd : d ∈ (flagWord b).toList) :
    ∀ c, c = d ∨ c = d.toUpper → Text.isSolid c = true ∧ c.toLower = d := by
  have hletters : ((flagWord b).toList.all fun d =>
      [d, d.toUpper].all fun c => Text.isSolid c && c.toLower == d) = true := by
    cases b <;> decide
  intro c hc
  have hcase := List.all_eq_true.1 (List.all_eq_true.1 hletters d hd) c (by simpa using hc)
  rwa [Bool.and_eq_true, beq_iff_eq] at hcase

/-- A text of such letters has no blanks, and is lowered to the word. -/
theorem lowered_of_forall₂ {s word : List Char} (hs : List.Forall₂ (fun c d => c = d ∨ c = d.toUpper) s word)
    (hword : ∀ d ∈ word, ∀ c, c = d ∨ c = d.toUpper → Text.isSolid c = true ∧ c.toLower = d) :
    Text.Solid s ∧ s.map Char.toLower = word := by
  induction hs with
  | nil => exact ⟨Text.solid_nil, rfl⟩
  | @cons c d s word hc _ ih =>
    obtain ⟨hd, hrest⟩ := List.forall_mem_cons.1 hword
    obtain ⟨hsolid, hlower⟩ := hd c hc
    obtain ⟨hsolids, hlowers⟩ := ih hrest
    exact ⟨Text.solid_cons.2 ⟨Text.isSolid_eq_true_iff.1 hsolid, hsolids⟩, by rw [List.map_cons, hlower, hlowers]⟩

/-- **A truth value** is read from each of its forms. -/
theorem flag_of_isFlag {b : Bool} {v : Value} (h : IsFlag b v) : flag v = .ok b := by
  cases h with
  | bool => rfl
  | @word s hs =>
    obtain ⟨hsolid, hlower⟩ := lowered_of_forall₂ hs fun _ hd => letter_of_mem_flagWord hd
    change Except.ok (!falseWords.contains (String.ofList ((Text.trim s.toList).map Char.toLower))) = .ok b
    rw [hsolid.trim_eq, hlower, String.ofList_toList]
    cases b <;> decide

end Param

namespace App

/-! ### Requests -/

/-- Two values of a parameter are equal, or they are forms of the same. -/
def Alike {α : Type} (isForm : α → Value → Prop) (v w : Value) : Prop := v = w ∨ ∃ a, isForm a v ∧ isForm a w

/-- What is read alike from all forms is read alike from two of them. -/
theorem Alike.eq {α β : Type} {isForm : α → Value → Prop} {v w : Value} (h : Alike isForm v w) {read : Value → β}
    {result : α → β} (hread : ∀ {a v}, isForm a v → read v = result a) : read v = read w := by
  rcases h with rfl | ⟨a, hv, hw⟩
  · rfl
  · rw [hread hv, hread hw]

/-- Two requests with the same query, of which each other parameter is given in one form or another. -/
structure Inputs.Alike (i j : Inputs) : Prop where
  /-- The text of the query is the same. -/
  query : i.query = j.query
  /-- So is the one under the short name. -/
  q : i.q = j.q
  /-- The same indices are named. -/
  index : App.Alike Param.IsListing i.index j.index
  /-- The page begins at the same place. -/
  start : App.Alike Param.IsNumber i.start j.start
  /-- It has the same size. -/
  size : App.Alike Param.IsNumber i.size j.size
  /-- The slop is the same. -/
  slop : App.Alike Param.IsNumber i.slop j.slop
  /-- The scores are explained for both or for none. -/
  explain : App.Alike Param.IsFlag i.explain j.explain

theorem Inputs.Alike.searchParams_eq {i j : Inputs} (h : i.Alike j) : searchParams i = searchParams j := by
  rw [searchParams, searchParams, h.query, h.q, h.index.eq Param.list?_of_isListing,
    h.start.eq Param.int?_of_isNumber, h.size.eq Param.int?_of_isNumber, h.slop.eq Param.int?_of_isNumber,
    h.explain.eq Param.flag_of_isFlag]

/-- **Forms of the same request** have the same outcome, and the backend is asked for the same, whatever it does. -/
theorem runSearch_of_alike [Terminal] {σ : Type} {i j : Inputs} (h : i.Alike j) (settings : Settings) (backend : Backend σ)
    (mode : Mode) (state : σ) : runSearch settings backend mode i state = runSearch settings backend mode j state := by
  rw [runSearch, runSearch, h.searchParams_eq]

/-- A request with texts only, and the same one with numbers and a truth value. -/
theorem runSearch_of_alike_barn_owls :
    let i : Inputs := {
      query := .str "barn owls", index := .strings ["a,b", " c"], start := .str " 11", size := .str "-2\n"
      slop := .str "1", explain := .str "FaLSE" }
    let j : Inputs := {
      query := .str "barn owls", index := .str "a,b, c", start := .int 11, size := .int (-2), slop := .int 1
      explain := .bool false }
    i.Alike j ∧
      runSearch {} Scripted.backend .phrase i .initial = runSearch {} Scripted.backend .phrase j .initial := by
  intro i j
  have h : i.Alike j := {
    query := rfl
    q := rfl
    index := .inr ⟨"a,b, c", .list (by decide), .text⟩
    start := .inr ⟨11, .text (a := [' ']) (b := []) (by decide) (by decide) (by decide) (by decide), .int⟩
    size := .inr ⟨-2, .text (a := []) (b := ['\n']) (by decide) (by decide) (by decide) (by decide), .int⟩
    slop := .inr ⟨1, .text (a := []) (b := []) (by decide) (by decide) (by decide) (by decide), .int⟩
    explain := .inr ⟨false, .word (by simp [Param.flagWord]), .bool⟩ }
  exact ⟨h, runSearch_of_alike h {} Scripted.backend .phrase .initial⟩

end App

end PageSearch
