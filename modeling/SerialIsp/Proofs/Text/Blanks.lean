import SerialIsp.Text.Blank

/-!
# Trimming and cutting

Trimming takes blanks off both ends and nothing else, so blanks that were put around a text are
taken off again (`trim_padded`). Cutting at a separator goes on behind each separator as it would
at the start of a text (`splitAtChar_append`). Fields that are trimmed do not show whether the text
that they were cut from was (`map_trim_splitAtChar_trim`).
-/

namespace SerialIsp.Text

/-! ## Trimming -/

theorem trimEnd_concat {c : Char} (blank : isBlank c = true) (cs : List Char) :
    trimEnd (cs ++ [c]) = trimEnd cs := by
  rw [trimEnd, List.reverse_append, List.reverse_singleton, List.singleton_append,
    List.dropWhile_cons_of_pos blank, trimEnd]

/-- A character that is no blank is kept, with all in front of it. -/
theorem trimEnd_cons {c : Char} (visible : isBlank c = false) (cs : List Char) :
    trimEnd (c :: cs) = c :: trimEnd cs := by
  have only : [c].dropWhile isBlank = [c] :=
    List.dropWhile_cons_of_neg (by rw [visible]; exact Bool.false_ne_true)
  rw [trimEnd, List.reverse_cons, List.dropWhile_append, only, trimEnd]
  split
  · next none => rw [List.isEmpty_iff.mp none]; rfl
  · rw [List.reverse_append]; rfl

theorem trim_cons {c : Char} (blank : isBlank c = true) (cs : List Char) :
    trim (c :: cs) = trim cs := by
  rw [trim, List.dropWhile_cons_of_pos blank, trim]

theorem trim_cons_of_visible {c : Char} (visible : isBlank c = false) (cs : List Char) :
    trim (c :: cs) = c :: trimEnd cs := by
  rw [trim, List.dropWhile_cons_of_neg (by rw [visible]; exact Bool.false_ne_true),
    trimEnd_cons visible]

theorem trim_concat {c : Char} (blank : isBlank c = true) (cs : List Char) :
    trim (cs ++ [c]) = trim cs := by
  rw [trim, List.dropWhile_append, trim]
  split
  · next none => rw [List.isEmpty_iff.mp none, List.dropWhile_cons_of_pos blank]; rfl
  · exact trimEnd_concat blank _

theorem trim_padded {before after : List Char} (blankBefore : ∀ c ∈ before, isBlank c = true)
    (blankAfter : ∀ c ∈ after, isBlank c = true) (cs : List Char) :
    trim (before ++ cs ++ after) = trim cs := by
  have front : trim (before ++ cs) = trim cs := by
    induction before with
    | nil => rfl
    | cons c before ih =>
      rw [List.cons_append, trim_cons (blankBefore c List.mem_cons_self)]
      exact ih fun d mem => blankBefore d (List.mem_cons_of_mem _ mem)
  rw [← front]
  generalize before ++ cs = ds
  induction after generalizing ds with
  | nil => rw [List.append_nil]
  | cons c after ih =>
    rw [List.append_cons, ih (fun d mem => blankAfter d (List.mem_cons_of_mem _ mem)),
      trim_concat (blankAfter c List.mem_cons_self)]

/-- A text without blanks at its ends is left alone. -/
theorem trim_of_ends {cs : List Char} (first : ∀ c ∈ cs.head?, isBlank c = false)
    (last : ∀ c ∈ cs.getLast?, isBlank c = false) : trim cs = cs := by
  have drop {ds : List Char} (h : ∀ c ∈ ds.head?, isBlank c = false) :
      ds.dropWhile isBlank = ds := by
    cases ds with
    | nil => rfl
    | cons d ds => simp [h d rfl]
  rw [trim, drop first, trimEnd, drop (by rwa [List.head?_reverse]), List.reverse_reverse]

theorem trim_eq_self {cs : List Char} (h : ∀ c ∈ cs, isBlank c = false) : trim cs = cs :=
  trim_of_ends (fun c mem => h c (List.mem_of_mem_head? mem))
    fun c mem => h c (List.mem_of_getLast? mem)

theorem trim_dropReturn (cs : List Char) : trim (dropReturn cs) = trim cs := by
  unfold dropReturn
  split
  · next last =>
    obtain ⟨front, rfl⟩ := List.getLast?_eq_some_iff.mp last
    rw [List.dropLast_concat, trim_concat rfl]
  · rfl

/-! ## Cutting -/

theorem splitAtChar_ne_nil (sep : Char) (cs : List Char) : splitAtChar sep cs ≠ [] := by
  cases cs with
  | nil => exact nofun
  | cons c cs =>
    rw [splitAtChar]
    split
    · exact nofun
    · split <;> exact nofun

theorem splitAtChar_cons_self (sep : Char) (cs : List Char) :
    splitAtChar sep (sep :: cs) = [] :: splitAtChar sep cs := by
  rw [splitAtChar, if_pos rfl]

/-- Any other character goes to the front of the first field. -/
theorem splitAtChar_cons {sep c : Char} (other : c ≠ sep) {cs field : List Char}
    {fields : List (List Char)} (cut : splitAtChar sep cs = field :: fields) :
    splitAtChar sep (c :: cs) = (c :: field) :: fields := by
  rw [splitAtChar, if_neg other, cut]

/-- Cutting goes on behind a separator as it would at the start of a text. -/
theorem splitAtChar_append (sep : Char) (a b : List Char) :
    splitAtChar sep (a ++ sep :: b) = splitAtChar sep a ++ splitAtChar sep b := by
  induction a with
  | nil => exact splitAtChar_cons_self sep b
  | cons c a ih =>
    by_cases same : c = sep
    · rw [same, List.cons_append, splitAtChar_cons_self, splitAtChar_cons_self, ih,
        List.cons_append]
    · obtain ⟨field, fields, cut⟩ := List.exists_cons_of_ne_nil (splitAtChar_ne_nil sep a)
      rw [cut, List.cons_append] at ih
      rw [List.cons_append, splitAtChar_cons same ih, splitAtChar_cons same cut, List.cons_append]

theorem splitAtChar_of_notMem {sep : Char} {field : List Char} (clean : sep ∉ field) :
    splitAtChar sep field = [field] := by
  induction field with
  | nil => rfl
  | cons c field ih =>
    have other : c ≠ sep := fun same => clean (same ▸ List.mem_cons_self)
    exact splitAtChar_cons other (ih fun mem => clean (List.mem_cons_of_mem _ mem))

/-- The fields of a text that was put together from fields. -/
theorem splitAtChar_flatMap {sep : Char} {field : List Char} {fields : List (List Char)}
    (clean : ∀ f ∈ field :: fields, sep ∉ f) :
    splitAtChar sep (field ++ fields.flatMap (sep :: ·)) = field :: fields := by
  induction fields generalizing field with
  | nil =>
    rw [List.flatMap_nil, List.append_nil]
    exact splitAtChar_of_notMem (clean field List.mem_cons_self)
  | cons next fields ih =>
    rw [List.flatMap_cons, List.cons_append, splitAtChar_append,
      splitAtChar_of_notMem (clean field List.mem_cons_self),
      ih fun f mem => clean f (List.mem_cons_of_mem _ mem), List.singleton_append]

theorem length_splitAtChar (sep : Char) (cs : List Char) :
    (splitAtChar sep cs).length = cs.count sep + 1 := by
  induction cs with
  | nil => rfl
  | cons c cs ih =>
    by_cases same : c = sep
    · rw [same, splitAtChar_cons_self, List.length_cons, ih, List.count_cons_self]
    · obtain ⟨field, fields, cut⟩ := List.exists_cons_of_ne_nil (splitAtChar_ne_nil sep cs)
      rw [cut] at ih
      rw [splitAtChar_cons same cut, List.count_cons_of_ne same, ← ih, List.length_cons,
        List.length_cons]

/-- A last character that is no separator is the last of the last field. -/
theorem splitAtChar_concat {sep c : Char} (other : c ≠ sep) (cs : List Char) :
    ∃ fields last, splitAtChar sep cs = fields ++ [last] ∧
      splitAtChar sep (cs ++ [c]) = fields ++ [last ++ [c]] := by
  induction cs with
  | nil => exact ⟨[], [], rfl, splitAtChar_cons other rfl⟩
  | cons d cs ih =>
    obtain ⟨fields, last, cut, longer⟩ := ih
    by_cases same : d = sep
    · refine ⟨[] :: fields, last, ?_, ?_⟩
      · rw [same, splitAtChar_cons_self, cut, List.cons_append]
      · rw [same, List.cons_append, splitAtChar_cons_self, longer, List.cons_append]
    · cases fields with
      | nil => exact ⟨[], d :: last, splitAtChar_cons same cut, splitAtChar_cons same longer⟩
      | cons field fields =>
        exact ⟨(d :: field) :: fields, last, splitAtChar_cons same cut,
          splitAtChar_cons same longer⟩

/-! ## Trimmed fields -/

section

variable {sep c : Char}

theorem map_trim_splitAtChar_cons (blank : isBlank c = true) (other : c ≠ sep) (cs : List Char) :
    (splitAtChar sep (c :: cs)).map trim = (splitAtChar sep cs).map trim := by
  obtain ⟨field, fields, cut⟩ := List.exists_cons_of_ne_nil (splitAtChar_ne_nil sep cs)
  rw [splitAtChar_cons other cut, cut, List.map_cons, List.map_cons, trim_cons blank]

theorem map_trim_splitAtChar_concat (blank : isBlank c = true) (other : c ≠ sep)
    (cs : List Char) :
    (splitAtChar sep (cs ++ [c])).map trim = (splitAtChar sep cs).map trim := by
  obtain ⟨fields, last, cut, longer⟩ := splitAtChar_concat other cs
  rw [cut, longer, List.map_append, List.map_append, List.map_singleton, List.map_singleton,
    trim_concat blank]

/-- Fields that are trimmed do not depend on trimming the whole before. -/
theorem map_trim_splitAtChar_trim (visible : isBlank sep = false) (cs : List Char) :
    (splitAtChar sep (trim cs)).map trim = (splitAtChar sep cs).map trim := by
  have other {c : Char} (blank : isBlank c = true) : c ≠ sep := by
    rintro rfl
    rw [visible] at blank
    cases blank
  have front : (splitAtChar sep (cs.dropWhile isBlank)).map trim =
      (splitAtChar sep cs).map trim := by
    induction cs with
    | nil => rfl
    | cons c cs ih =>
      by_cases blank : isBlank c = true
      · rw [List.dropWhile_cons_of_pos blank, ih, map_trim_splitAtChar_cons blank (other blank)]
      · rw [List.dropWhile_cons_of_neg blank]
  -- the other end is reached from the last character on
  have back (rs : List Char) : (splitAtChar sep (trimEnd rs.reverse)).map trim =
      (splitAtChar sep rs.reverse).map trim := by
    induction rs with
    | nil => rfl
    | cons c rs ih =>
      by_cases blank : isBlank c = true
      · rw [List.reverse_cons, trimEnd_concat blank, ih,
          map_trim_splitAtChar_concat blank (other blank)]
      · rw [trimEnd, List.reverse_reverse, List.dropWhile_cons_of_neg blank]
  rw [← front, trim, ← List.reverse_reverse (cs.dropWhile isBlank)]
  exact back _

end

end SerialIsp.Text
