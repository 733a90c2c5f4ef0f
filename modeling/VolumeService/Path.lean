/-! # Paths

A path is text in which `/` separates components.

* **Components.** Empty pieces do not count, so leading, trailing and repeated slashes make
  no difference to `components`.
* **Absolute paths.** Whether a path starts at the root is the one thing that a leading slash
  decides.
* **Plain names** (`Plain`) are those that stand for themselves in a path: a slash and a plain
  name make a path of that one component, which is not one of the two that a walk interprets. -/

namespace VolumeService

namespace Path

/-- The pieces between slashes, empty ones included: one more than there are slashes. -/
def pieces : List Char → List (List Char)
  | [] => [[]]
  | c :: rest =>
    if c = '/' then [] :: pieces rest
    else
      match pieces rest with
      | [] => [[c]]
      | piece :: more => (c :: piece) :: more

/-- The components of a path: its non-empty pieces in order. -/
def components (path : String) : List String :=
  ((pieces path.toList).filter (· ≠ [])).map String.ofList

/-- Does the path start at the root? -/
def isAbsolute (path : String) : Bool := path.toList.head? == some '/'

/-- A single component that is not `.` or `..`. -/
def Plain (name : String) : Prop := name ≠ "" ∧ '/' ∉ name.toList ∧ name ≠ "." ∧ name ≠ ".."

instance (name : String) : Decidable (Plain name) :=
  inferInstanceAs (Decidable (name ≠ "" ∧ '/' ∉ name.toList ∧ name ≠ "." ∧ name ≠ ".."))

/-! ### Pieces -/

theorem pieces_ne_nil (cs : List Char) : pieces cs ≠ [] := by
  cases cs with
  | nil => simp [pieces]
  | cons c rest =>
    unfold pieces
    split
    · simp
    · split <;> simp

theorem pieces_slash (rest : List Char) : pieces ('/' :: rest) = [] :: pieces rest := by
  simp [pieces]

theorem slash_notMem_of_mem_pieces {cs piece : List Char} (h : piece ∈ pieces cs) :
    '/' ∉ piece := by
  induction cs generalizing piece with
  | nil =>
    rw [pieces, List.mem_singleton] at h
    simp [h]
  | cons c rest ih =>
    unfold pieces at h
    split at h
    next =>
      rcases List.mem_cons.1 h with rfl | h
      · simp
      · exact ih h
    next hc =>
      split at h
      next hnil => exact absurd hnil (pieces_ne_nil rest)
      next first more hcons =>
        rw [hcons] at ih
        rcases List.mem_cons.1 h with rfl | h
        · rw [List.mem_cons, not_or]
          exact ⟨fun hcc => hc hcc.symm, ih (List.mem_cons_self ..)⟩
        · exact ih (List.mem_cons_of_mem _ h)

theorem pieces_of_slash_notMem {cs : List Char} (h : '/' ∉ cs) : pieces cs = [cs] := by
  induction cs with
  | nil => rfl
  | cons c rest ih =>
    obtain ⟨hc, hrest⟩ := List.ne_and_not_mem_of_not_mem_cons h
    rw [pieces, if_neg (Ne.symm hc), ih hrest]

theorem pieces_append_slash (first second : List Char) :
    pieces (first ++ '/' :: second) = pieces first ++ pieces second := by
  induction first with
  | nil => exact pieces_slash second
  | cons c rest ih =>
    rw [List.cons_append, pieces, ih, pieces]
    split
    next => rfl
    next =>
      cases hpieces : pieces rest with
      | nil => exact absurd hpieces (pieces_ne_nil rest)
      | cons piece more => rfl

/-! ### Components -/

/-- A slash between two paths separates their components. -/
theorem components_append_slash (first second : String) :
    components (first ++ "/" ++ second) = components first ++ components second := by
  have hlist : (first ++ "/" ++ second).toList = first.toList ++ '/' :: second.toList := by
    rw [String.toList_append, String.toList_append, List.append_assoc]
    rfl
  rw [components, hlist, pieces_append_slash, List.filter_append, List.map_append]
  rfl

/-- A component of a path is not empty and has no slash in it. -/
theorem slash_notMem_of_mem_components {path component : String}
    (h : component ∈ components path) : component ≠ "" ∧ '/' ∉ component.toList := by
  unfold components at h
  obtain ⟨piece, hpiece, rfl⟩ := List.mem_map.1 h
  obtain ⟨hmem, hne⟩ := List.mem_filter.1 hpiece
  refine ⟨fun hempty => ?_, ?_⟩
  · have hnil : piece = [] := by
      have hlist := congrArg String.toList hempty
      rwa [String.toList_ofList] at hlist
    exact of_decide_eq_true hne hnil
  · rw [String.toList_ofList]
    exact slash_notMem_of_mem_pieces hmem

/-- A slash before a path makes no difference to its components. -/
theorem components_slash (path : String) : components ("/" ++ path) = components path := by
  have hslash := components_append_slash "" path
  rw [String.empty_append] at hslash
  exact hslash

/-- A name without a slash in it is a path of one component. -/
theorem components_of_slash_notMem {name : String} (hne : name ≠ "")
    (hslash : '/' ∉ name.toList) : components name = [name] := by
  have hlist : name.toList ≠ [] := fun hnil => hne (String.toList_inj.1 hnil)
  rw [components, pieces_of_slash_notMem hslash]
  simp [hlist]

theorem isAbsolute_slash (name : String) : isAbsolute ("/" ++ name) = true := by
  rw [isAbsolute, String.toList_append]
  rfl

theorem components_slash_of_plain {name : String} (h : Plain name) :
    components ("/" ++ name) = [name] := by
  obtain ⟨hne, hslash, _⟩ := h
  rw [components_slash, components_of_slash_notMem hne hslash]

end Path

end VolumeService
