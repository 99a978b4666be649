import Accumulator.Text.Blank

/-!
# Fields of a text

A field is a maximal run of characters that are not blank, so the blanks around it can be changed
freely as long as some are left between it and the next one. Splitting at one blank
(`fields_append_blank`) gives how fields are read off a text that is put together from fields and
blanks; `fields_eq_cons_iff` goes back from the first field to the text around it.
-/
namespace Accumulator.Text

/-- What can be a field: one or more characters, none of them blank. -/
def IsField (s : List Char) : Prop := s ≠ [] ∧ ∀ c ∈ s, isBlank c = false

theorem head?_all_of_all {p : Char → Bool} {s : List Char} (all : s.all p = true) :
    s.head?.all p = true := by
  cases s with
  | nil => rfl
  | cons c s =>
    simp only [List.all_cons, Bool.and_eq_true] at all
    simpa using all.1

theorem fields_append_blank {c : Char} (blank : isBlank c = true) (front back : List Char) :
    fields (front ++ c :: back) = fields front ++ fields back := by
  unfold fields
  rw [List.splitOnP_append_cons front back blank, List.filter_append]

theorem fields_cons_blank {c : Char} (blank : isBlank c = true) (rest : List Char) :
    fields (c :: rest) = fields rest := by
  simpa [fields] using fields_append_blank blank [] rest

/-- Blanks in front belong to no field. -/
theorem fields_blanks_append {blanks : List Char} (blank : blanks.all isBlank = true)
    (rest : List Char) : fields (blanks ++ rest) = fields rest := by
  induction blanks with
  | nil => rfl
  | cons c blanks ih =>
    simp only [List.all_cons, Bool.and_eq_true] at blank
    rw [List.cons_append, fields_cons_blank blank.1, ih blank.2]

theorem fields_of_blanks {blanks : List Char} (blank : blanks.all isBlank = true) :
    fields blanks = [] := by
  simpa [fields] using fields_blanks_append blank []

/-- A field ends where blanks, or nothing at all, stand behind it. -/
theorem fields_field_append {field rest : List Char} (solid : IsField field)
    (apart : rest.head?.all isBlank = true) : fields (field ++ rest) = field :: fields rest := by
  have alone : fields field = [field] := by
    rw [fields, List.splitOnP_eq_singleton solid.2]
    simp [solid.1]
  cases rest with
  | nil => simpa [fields] using alone
  | cons c rest =>
    have blank : isBlank c = true := by simpa using apart
    rw [fields_append_blank blank, alone, fields_cons_blank blank]
    rfl

/-- A text with more than blanks in it has a first field. -/
theorem exists_first_field {s : List Char} (inked : s.all isBlank = false) :
    ∃ blanks field rest, s = blanks ++ field ++ rest ∧ blanks.all isBlank = true ∧
      IsField field ∧ rest.head?.all isBlank = true := by
  induction s with
  | nil => simp at inked
  | cons c s ih =>
    cases blank : isBlank c with
    | true =>
      obtain ⟨blanks, field, rest, rfl, spaced, shape⟩ := ih (by simpa [blank] using inked)
      exact ⟨c :: blanks, field, rest, rfl, by simp [blank, spaced], shape⟩
    | false =>
      refine ⟨[], (c :: s).takeWhile fun c => !isBlank c, (c :: s).dropWhile fun c => !isBlank c,
        by simp, rfl, ⟨by simp [blank], fun d member => ?_⟩, ?_⟩
      · have kept := List.all_eq_true.mp List.all_takeWhile d member
        simpa using kept
      · have stopped := List.head?_dropWhile_not (fun c => !isBlank c) (c :: s)
        cases shape : (c :: s).dropWhile (fun c => !isBlank c) with
        | nil => rfl
        | cons d rest => simpa [shape] using stopped

theorem fields_eq_nil_iff {s : List Char} : fields s = [] ↔ s.all isBlank = true := by
  refine ⟨fun empty => ?_, fields_of_blanks⟩
  cases inked : s.all isBlank with
  | true => rfl
  | false =>
    obtain ⟨blanks, field, rest, rfl, spaced, solid, apart⟩ := exists_first_field inked
    rw [List.append_assoc, fields_blanks_append spaced, fields_field_append solid apart] at empty
    cases empty

/-- The first field, what stands in front of it, and what is left behind it. -/
theorem fields_eq_cons_iff {s field : List Char} {others : List (List Char)} :
    fields s = field :: others ↔
      ∃ blanks rest, s = blanks ++ field ++ rest ∧ blanks.all isBlank = true ∧
        IsField field ∧ rest.head?.all isBlank = true ∧ fields rest = others := by
  constructor
  · intro split
    have inked : s.all isBlank = false := by
      cases blank : s.all isBlank with
      | true => rw [fields_of_blanks blank] at split; cases split
      | false => rfl
    obtain ⟨blanks, first, rest, rfl, spaced, solid, apart⟩ := exists_first_field inked
    rw [List.append_assoc, fields_blanks_append spaced, fields_field_append solid apart] at split
    obtain ⟨rfl, others⟩ := List.cons.inj split
    exact ⟨blanks, rest, rfl, spaced, solid, apart, others⟩
  · rintro ⟨blanks, rest, rfl, spaced, solid, apart, rfl⟩
    rw [List.append_assoc, fields_blanks_append spaced, fields_field_append solid apart]

end Accumulator.Text
