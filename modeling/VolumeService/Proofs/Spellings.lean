import VolumeService.Path

/-! # How a path is spelled

Many texts have the same components.  They spell the same names, and differ only in how many slashes
stand before the first name, between the names and behind the last one.

* **Spelling** (`Path.spell`).  Names are written one after the other, each behind a number of
  slashes, and more slashes may follow the last one.
* **Well-spelled texts** (`Path.Spelling`).  A spelling carries the facts that make its names stand
  out: none is empty or has a slash in it, and there is a slash before each but the first.
* **Reading back** (`Spelling.components_text`).  The components of a spelled text are the names
  that it spells.
* **Every text is spelled somehow** (`exists_spelling`), by induction on its characters: a slash
  makes the first gap wider, and any other character begins a name or lengthens the first one.
* So splitting and joining undo each other, and two texts have the same components exactly if they
  are alike but for their slashes (`splitting_undoes_joining`). -/

namespace VolumeService

namespace Path

/-- Can the name be a component of a path?  It is not empty, and has no slash in it. -/
def IsComponent (name : String) : Prop := name ≠ "" ∧ '/' ∉ name.toList

instance (name : String) : Decidable (IsComponent name) :=
  inferInstanceAs (Decidable (name ≠ "" ∧ '/' ∉ name.toList))

/-- So many slashes. -/
def slashes : Nat → String
  | 0 => ""
  | count + 1 => "/" ++ slashes count

/-- The text of names, each behind a number of slashes, with slashes behind the last one. -/
def spell (trailing : Nat) : List (Nat × String) → String
  | [] => slashes trailing
  | (gap, name) :: rest => slashes gap ++ name ++ spell trailing rest

/-- Names with the numbers of slashes before them, and with the number of slashes behind the last
one.  Before the first name there may be none. -/
structure Spelling where
  parts : List (Nat × String)
  trailing : Nat
  named : ∀ part ∈ parts, IsComponent part.2
  separated : ∀ part ∈ parts.tail, 0 < part.1

namespace Spelling

def text (s : Spelling) : String := spell s.trailing s.parts

def names (s : Spelling) : List String := s.parts.map (·.2)

end Spelling

/-- Do the texts differ in nothing but how many slashes stand before the first name, between the
names and behind the last one? -/
def SameButSlashes (p q : String) : Prop :=
  ∃ s s' : Spelling, s.text = p ∧ s'.text = q ∧ s.names = s'.names

/-! ### Reading back -/

theorem components_slashes_append (count : Nat) (text : String) :
    components (slashes count ++ text) = components text := by
  induction count with
  | zero => rw [slashes, String.empty_append]
  | succ count ih => rw [slashes, String.append_assoc, components_slash, ih]

theorem components_slashes (count : Nat) : components (slashes count) = [] := by
  have h := components_slashes_append count ""
  rwa [String.append_empty] at h

/-- Where no name is run into, a spelled text has no characters or begins with a slash. -/
theorem spell_cases {parts : List (Nat × String)} (hgaps : ∀ part ∈ parts, 0 < part.1)
    (trailing : Nat) :
    spell trailing parts = "" ∨ ∃ text, spell trailing parts = "/" ++ text := by
  cases parts with
  | nil =>
      cases trailing with
      | zero => exact .inl rfl
      | succ count => exact .inr ⟨_, rfl⟩
  | cons part rest =>
      obtain ⟨gap, name⟩ := part
      obtain ⟨count, rfl⟩ := Nat.exists_eq_add_one.2 (hgaps _ (List.mem_cons_self ..))
      exact .inr ⟨_, by rw [spell, slashes, String.append_assoc, String.append_assoc]⟩

/-- A name is the first component of a text that goes on with a slash, or not at all. -/
theorem components_name_append {name text : String} (hname : IsComponent name)
    (htext : text = "" ∨ ∃ rest, text = "/" ++ rest) :
    components (name ++ text) = name :: components text := by
  have hone : components name = [name] := components_of_slash_notMem hname.1 hname.2
  rcases htext with rfl | ⟨rest, rfl⟩
  · rw [String.append_empty, hone]
    rfl
  · rw [← String.append_assoc, components_append_slash, hone, components_slash]
    rfl

theorem components_spell {parts : List (Nat × String)} (hnamed : ∀ part ∈ parts, IsComponent part.2)
    (hseparated : ∀ part ∈ parts.tail, 0 < part.1) (trailing : Nat) :
    components (spell trailing parts) = parts.map (·.2) := by
  induction parts with
  | nil => exact components_slashes trailing
  | cons part rest ih =>
      obtain ⟨gap, name⟩ := part
      have hname : IsComponent name := hnamed _ (List.mem_cons_self ..)
      have hrest : components (spell trailing rest) = rest.map (·.2) :=
        ih (fun part hmem => hnamed part (List.mem_cons_of_mem _ hmem))
          fun part hmem => hseparated part (List.mem_of_mem_tail hmem)
      have htext : spell trailing rest = "" ∨ ∃ text, spell trailing rest = "/" ++ text :=
        spell_cases hseparated trailing
      rw [spell, String.append_assoc, components_slashes_append,
        components_name_append hname htext, hrest, List.map_cons]

theorem Spelling.components_text (s : Spelling) : components s.text = s.names :=
  components_spell s.named s.separated s.trailing

/-! ### Every text is spelled somehow -/

namespace Spelling

/-- A slash can be put before any spelled text: it makes the first gap wider. -/
theorem exists_slash_append (s : Spelling) : ∃ s' : Spelling, s'.text = "/" ++ s.text := by
  obtain ⟨parts, trailing, named, separated⟩ := s
  cases parts with
  | nil => exact ⟨⟨[], trailing + 1, named, separated⟩, rfl⟩
  | cons part rest =>
      obtain ⟨gap, name⟩ := part
      obtain ⟨hname, hrest⟩ := List.forall_mem_cons.1 named
      refine ⟨⟨(gap + 1, name) :: rest, trailing, ?_, separated⟩, ?_⟩
      · exact List.forall_mem_cons.2 ⟨hname, hrest⟩
      · simp only [text, spell, slashes, String.append_assoc]

/-- So can any other character: it lengthens the first name, or is a name before it. -/
theorem exists_char_append (s : Spelling) {c : Char} (hc : c ≠ '/') :
    ∃ s' : Spelling, s'.text = String.singleton c ++ s.text := by
  have hsingle : IsComponent (String.singleton c) := by
    simp [IsComponent, Ne.symm hc]
  obtain ⟨parts, trailing, named, separated⟩ := s
  cases parts with
  | nil =>
      refine ⟨⟨[(0, String.singleton c)], trailing, ?_, ?_⟩, ?_⟩
      · exact List.forall_mem_singleton.2 hsingle
      · exact List.forall_mem_nil _
      · simp only [text, spell, slashes, String.empty_append]
  | cons part rest =>
      obtain ⟨gap, name⟩ := part
      obtain ⟨hname, hrest⟩ := List.forall_mem_cons.1 named
      cases gap with
      | zero =>
          have hlonger : IsComponent (String.singleton c ++ name) := by
            simp [IsComponent, Ne.symm hc, hname.2]
          refine ⟨⟨(0, String.singleton c ++ name) :: rest, trailing, ?_, separated⟩, ?_⟩
          · exact List.forall_mem_cons.2 ⟨hlonger, hrest⟩
          · simp only [text, spell, slashes, String.empty_append, String.append_assoc]
      | succ gap =>
          refine ⟨⟨(0, String.singleton c) :: (gap + 1, name) :: rest, trailing, ?_, ?_⟩, ?_⟩
          · exact List.forall_mem_cons.2 ⟨hsingle, named⟩
          · exact List.forall_mem_cons.2 ⟨Nat.succ_pos gap, separated⟩
          · simp only [text, spell, slashes, String.empty_append]

theorem exists_text_eq (text : String) : ∃ s : Spelling, s.text = text := by
  have hlist : ∀ cs : List Char, ∃ s : Spelling, s.text = String.ofList cs := by
    intro cs
    induction cs with
    | nil => exact ⟨⟨[], 0, List.forall_mem_nil _, List.forall_mem_nil _⟩, rfl⟩
    | cons c rest ih =>
        obtain ⟨s, hs⟩ := ih
        rw [String.ofList_cons, ← hs]
        by_cases hc : c = '/'
        · subst hc
          exact s.exists_slash_append
        · exact s.exists_char_append hc
  obtain ⟨s, hs⟩ := hlist text.toList
  exact ⟨s, hs.trans String.ofList_toList⟩

end Spelling

/-- Texts with the same components are alike but for their slashes, and no others are. -/
theorem components_eq_iff {p q : String} : components p = components q ↔ SameButSlashes p q := by
  constructor
  · intro h
    obtain ⟨s, rfl⟩ := Spelling.exists_text_eq p
    obtain ⟨s', rfl⟩ := Spelling.exists_text_eq q
    refine ⟨s, s', rfl, rfl, ?_⟩
    rw [← s.components_text, h, s'.components_text]
  · rintro ⟨s, s', rfl, rfl, hnames⟩
    rw [s.components_text, hnames, s'.components_text]

/-- **Splitting undoes joining.**  The components of two paths with a slash between them are those
of the first and then those of the second.  A component is not empty and has no slash in it; and
whatever list of such names is written, each behind one slash or more, with or without slashes
behind the last one, these names are the components of the text.  So texts have the same components
exactly if they differ only in how many slashes stand before the first name, between the names and
behind the last one. -/
theorem splitting_undoes_joining :
    (∀ p q, components (p ++ "/" ++ q) = components p ++ components q) ∧
    (∀ path, ∀ component ∈ components path, component ≠ "" ∧ '/' ∉ component.toList) ∧
    (∀ (parts : List (Nat × String)) (trailing : Nat),
      (∀ part ∈ parts, 0 < part.1 ∧ part.2 ≠ "" ∧ '/' ∉ part.2.toList) →
        components (spell trailing parts) = parts.map (·.2)) ∧
    ∀ p q, components p = components q ↔ SameButSlashes p q := by
  refine ⟨components_append_slash, fun _ _ => slash_notMem_of_mem_components, ?_,
    fun _ _ => components_eq_iff⟩
  intro parts trailing hparts
  exact components_spell (fun part hmem => (hparts part hmem).2)
    (fun part hmem => (hparts part (List.mem_of_mem_tail hmem)).1) trailing

end Path

/-! ### A path with more slashes than it needs -/

namespace SpellingExample

/-- The doubled slash and the one at the end make no difference. -/
theorem slashes_make_no_difference :
    Path.components "/dev//sda/" = ["dev", "sda"] ∧ "sda" ∈ Path.components "/dev//sda/" ∧
      ("sda" ≠ "" ∧ '/' ∉ "sda".toList) ∧ Path.SameButSlashes "/dev//sda/" "dev/sda" ∧
      ¬ Path.SameButSlashes "/dev//sda/" "/devsda" := by
  obtain ⟨_, hcomponent, hspell, hsame⟩ := Path.splitting_undoes_joining
  have hnames : Path.components "/dev//sda/" = ["dev", "sda"] :=
    hspell [(1, "dev"), (2, "sda")] 1 (by decide)
  have hmem : "sda" ∈ Path.components "/dev//sda/" := by
    rw [hnames]
    exact List.mem_of_getLast? rfl
  refine ⟨hnames, hmem, hcomponent _ "sda" hmem, ?_, fun h => ?_⟩
  · rw [← hsame, hnames]
    rfl
  · have hwrong := (hsame "/dev//sda/" "/devsda").2 h
    rw [hnames] at hwrong
    exact absurd hwrong (by decide)

end SpellingExample

end VolumeService
