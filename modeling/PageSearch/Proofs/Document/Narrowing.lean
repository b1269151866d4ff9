import PageSearch.Document
import PageSearch.Proofs.Text.Words

/-!
# Narrowed documents

An engine that is asked for some fields of a stored document returns a *narrowed* document: what stands
on the path of a wanted name, or under its whole name in an object on that path, and nothing else
(`only`). Names are followed in a narrowed document as they are in the whole one (`follow_onlyWanted`),
so that the two agree on the wanted names (`agreeOn_only`). On other names they need not: a document with
a single field has nothing left if another one is wanted (`textAt_only_single`).
-/

namespace PageSearch.Document

/-! ### Paths -/

theorem path_ne_nil (name : String) : path name ≠ [] := by
  rw [path, Text.splitWhere_eq_splitOnP, Ne, List.map_eq_nil_iff]
  exact List.splitOnP_ne_nil _ _

/-- The parts of a path make up the name, with points between them. -/
theorem intercalate_path (name : String) : ['.'].intercalate ((path name).map String.toList) = name.toList := by
  have hparts : (path name).map String.toList = name.toList.splitOn '.' := by
    rw [path, Text.splitWhere_eq_splitOnP, List.map_map, List.splitOn]
    exact List.map_id'' (fun _ => String.toList_ofList) _
  rw [hparts, List.intercalate_splitOn]

/-- A name with a path of one part is that part, and a name that is the first part of its path has no
other part. -/
theorem path_eq_cons_iff {name key : String} {rest : List String} (h : path name = key :: rest) :
    name = key ↔ rest = [] := by
  have hname := intercalate_path name
  rw [h] at hname
  cases rest with
  | nil =>
    rw [List.map_singleton, List.intercalate_singleton] at hname
    exact iff_of_true (String.toList_inj.1 hname).symm rfl
  | cons key' rest =>
    rw [List.map_cons, List.map_cons, List.intercalate_cons_cons] at hname
    refine iff_of_false ?_ (List.cons_ne_nil key' rest)
    rintro rfl
    have hlength := congrArg List.length hname
    simp only [List.length_append, List.length_singleton] at hlength
    omega

/-! ### Wanted names -/

/-- A name that is wanted in an object, and the part of its path that is left there. -/
structure Wanted where
  /-- The whole name. -/
  name : String
  /-- The part of its path that is left. -/
  rest : List String

/-- Whether a field is wanted with all that it holds. -/
def isWhole (wanted : List Wanted) (key : String) : Bool :=
  wanted.any fun w => w.name == key || w.rest == [key]

/-- What is wanted inside of a field. -/
def inside (wanted : List Wanted) (key : String) : List Wanted :=
  wanted.filterMap fun w =>
    match w.rest with
    | [] => none
    | k :: rest => if k = key then some ⟨w.name, rest⟩ else none

mutual
/-- What is wanted of a value. -/
def onlyWanted (wanted : List Wanted) : Value → Value
  | .obj fields => .obj (onlyFields wanted fields)
  | _ => .null

/-- What is wanted of some fields. -/
def onlyFields (wanted : List Wanted) : List (String × Value) → List (String × Value)
  | [] => []
  | (key, v) :: fields =>
    if isWhole wanted key then (key, v) :: onlyFields wanted fields
    else if (inside wanted key).isEmpty then onlyFields wanted fields
    else (key, onlyWanted (inside wanted key) v) :: onlyFields wanted fields
end

/-- What is left of a document if only some names are wanted. -/
def only (names : List String) (document : Value) : Value :=
  onlyWanted (names.map fun name => ⟨name, path name⟩) document

/-! ### Looking names up -/

theorem lookup_onlyFields (wanted : List Wanted) (fields : Fields) (key : String) :
    (onlyFields wanted fields).lookup key =
      if isWhole wanted key then fields.lookup key
      else if (inside wanted key).isEmpty then none
      else (fields.lookup key).map (onlyWanted (inside wanted key)) := by
  induction fields with
  | nil => simp [onlyFields]
  | cons field fields ih =>
    obtain ⟨k, v⟩ := field
    rw [onlyFields]
    by_cases hk : key = k
    · subst hk
      by_cases hwhole : isWhole wanted key = true
      · simp [hwhole]
      · by_cases hinside : (inside wanted key).isEmpty = true
        · rw [if_neg hwhole, if_pos hinside, ih, if_neg hwhole, if_pos hinside, if_neg hwhole, if_pos hinside]
        · simp [hwhole, hinside]
    · have hne : (key == k) = false := by simpa using hk
      split
      · simp [List.lookup_cons, hne, ih]
      · split <;> simp [List.lookup_cons, hne, ih]

/-- **A wanted name** is followed in what is left of a value as it is in the whole. -/
theorem follow_onlyWanted {wanted : List Wanted} {w : Wanted} (hw : w ∈ wanted) (hrest : w.rest ≠ [])
    (v : Value) : follow w.name w.rest (onlyWanted wanted v) = follow w.name w.rest v := by
  obtain ⟨name, rest⟩ := w
  simp only at hrest ⊢
  induction rest generalizing wanted v with
  | nil => exact absurd rfl hrest
  | cons key rest ih =>
    cases v with
    | obj fields =>
      have hname : isWhole wanted name = true := List.any_eq_true.2 ⟨_, hw, by simp⟩
      have hinside : ⟨name, rest⟩ ∈ inside wanted key := List.mem_filterMap.2 ⟨_, hw, if_pos rfl⟩
      simp only [follow, onlyWanted, Value.get?, Fields.get?, lookup_onlyFields, hname, if_true]
      by_cases hwhole : isWhole wanted key = true
      · rw [if_pos hwhole]
      · have hrest : rest ≠ [] := by
          rintro rfl
          exact hwhole (List.any_eq_true.2 ⟨_, hw, by simp⟩)
        have hne : (inside wanted key).isEmpty = false := by
          rw [List.isEmpty_eq_false_iff]
          exact List.ne_nil_of_mem hinside
        rw [if_neg hwhole, hne]
        cases fields.lookup key with
        | none => rfl
        | some v => exact ih v hinside hrest
    | _ => rfl

/-! ### Agreement -/

/-- Two documents have the same values of some names. -/
def AgreeOn (names : List String) (d d' : Value) : Prop := ∀ name ∈ names, find? d name = find? d' name

theorem AgreeOn.mono {names names' : List String} {d d' : Value} (h : AgreeOn names d d')
    (hsub : names' ⊆ names) : AgreeOn names' d d' := fun name hname => h name (hsub hname)

/-- **A narrowed document** has the values of the wanted names. -/
theorem agreeOn_only (names : List String) (d : Value) : AgreeOn names (only names d) d := by
  intro name hname
  have hwanted : ⟨name, path name⟩ ∈ names.map fun name => Wanted.mk name (path name) :=
    List.mem_map.2 ⟨name, hname, rfl⟩
  exact follow_onlyWanted hwanted (path_ne_nil name) d

theorem AgreeOn.textAt {names : List String} {d d' : Value} (h : AgreeOn names d d') (name : String)
    (hname : name ∈ names) : textAt d name = textAt d' name := by
  rw [Document.textAt, Document.textAt, h name hname]

theorem AgreeOn.writtenAt {names : List String} {d d' : Value} (h : AgreeOn names d d') (name : String)
    (hname : name ∈ names) : writtenAt d name = writtenAt d' name := by
  rw [Document.writtenAt, Document.writtenAt, h.textAt name hname, h name hname]

theorem AgreeOn.numberAt? {α : Type} (read : Value → Outcome α) {names : List String} {d d' : Value}
    (h : AgreeOn names d d') (name : String) (hname : name ∈ names) :
    numberAt? read d name = numberAt? read d' name := by
  rw [Document.numberAt?, Document.numberAt?, h name hname]

/-! ### Documents with a single text -/

theorem get?_single (key name : String) (v : Value) :
    Value.get? (.obj [(key, v)]) name = if name = key then some v else none := by
  by_cases h : name = key
  · simp [Value.get?, Fields.get?, h]
  · have hne : (name == key) = false := by simpa using h
    simp [Value.get?, Fields.get?, List.lookup_cons, h, hne]

/-- The only field of a document is found by its name, with or without points. -/
theorem find?_single_self (key : String) (v : Value) : find? (.obj [(key, v)]) key = some v := by
  rw [find?]
  cases hpath : path key with
  | nil => exact absurd hpath (path_ne_nil key)
  | cons k rest =>
    by_cases hk : k = key
    · subst hk
      obtain rfl := (path_eq_cons_iff hpath).1 rfl
      simp only [follow, get?_single, if_true]
    · simp only [follow, get?_single, if_neg hk, if_true]

/-- Nothing else is found in a document with a single text. -/
theorem find?_single_of_ne {key name : String} (h : name ≠ key) (s : String) :
    find? (.obj [(key, .str s)]) name = none := by
  rw [find?]
  cases hpath : path name with
  | nil => exact absurd hpath (path_ne_nil name)
  | cons k rest =>
    by_cases hk : k = key
    · subst hk
      cases rest with
      | nil => exact absurd ((path_eq_cons_iff hpath).2 rfl) h
      | cons k' rest =>
        simp only [follow, get?_single, if_true]
        rfl
    · simp only [follow, get?_single, if_neg hk, if_neg h]

/-- **Nothing is left** of a single text if other names are wanted. -/
theorem textAt_only_single {names : List String} {key : String} (hkey : key ∉ names) (s : String) :
    textAt (only names (.obj [(key, .str s)])) key = "" := by
  have hwhole : isWhole (names.map fun name => ⟨name, path name⟩) key = false := by
    rw [Bool.eq_false_iff]
    intro h
    obtain ⟨w, hw, hkey'⟩ := List.any_eq_true.1 h
    obtain ⟨name, hname, rfl⟩ := List.mem_map.1 hw
    have heq : name = key := by
      rcases Bool.or_eq_true_iff.1 hkey' with h | h
      · exact beq_iff_eq.1 h
      · exact (path_eq_cons_iff (beq_iff_eq.1 h)).2 rfl
    exact hkey (heq ▸ hname)
  have hnull : onlyWanted (inside (names.map fun name => ⟨name, path name⟩) key) (.str s) = .null := by
    rw [onlyWanted]
    exact fun fields h => nomatch h
  rw [only, onlyWanted, onlyFields, hwhole, hnull, onlyFields, if_neg Bool.false_ne_true]
  -- a name may lead into the field, which holds no object; then it is left with nothing in it
  split
  · cases hpath : path key with
    | nil => exact absurd hpath (path_ne_nil key)
    | cons k rest => simp [textAt, find?, hpath, follow, Value.get?, Fields.get?]
  · rw [textAt, find?_single_self]

end PageSearch.Document
