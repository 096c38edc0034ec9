/-!
# Pieces of a text

Paths, lists with commas and the lines of a script are the pieces between the occurrences of one character. The
separator is in none of them, and whatever is in one of them is in the text.

* **`not_mem_of_mem_splitOn`** — the separator is in no piece.
* **`mem_of_mem_splitOn`** — what is in a piece is in the text.
-/
namespace FeatureAudit.Text

variable {separator : Char} {cs piece : List Char}

/-- One more character in front of a text that is no separator goes to the front of the first piece, and the pieces after
that one stay as they are. -/
theorem splitOn_cons_of_ne {c : Char} (h : c ≠ separator) {first : List Char} {more : List (List Char)}
    (hrest : cs.splitOn separator = first :: more) : (c :: cs).splitOn separator = (c :: first) :: more := by
  rw [List.splitOn_cons_eq_if_modifyHead, if_neg (by simpa using h), hrest, List.modifyHead_cons]

/-- One more separator in front of a text is an empty piece in front of the others. -/
theorem splitOn_cons_self (separator : Char) (cs : List Char) :
    (separator :: cs).splitOn separator = [] :: cs.splitOn separator := by
  rw [List.splitOn_cons_eq_if_modifyHead, if_pos (by simp)]

/-- The separator is in none of the pieces that it parts. The induction is on the text: a character that is no separator
goes into the first piece, and a separator into none. -/
theorem not_mem_of_mem_splitOn (h : piece ∈ cs.splitOn separator) : separator ∉ piece := by
  induction cs generalizing piece with
  | nil =>
    rw [List.mem_singleton.1 h]
    exact List.not_mem_nil
  | cons c rest ih =>
    by_cases hc : c = separator
    · -- a separator starts a new piece
      subst hc
      rw [splitOn_cons_self] at h
      rcases List.mem_cons.1 h with rfl | h
      · exact List.not_mem_nil
      · exact ih h
    · -- any other character goes into the first piece of the rest
      obtain ⟨first, more, hrest⟩ := List.exists_cons_of_ne_nil (List.splitOn_ne_nil separator rest)
      rw [splitOn_cons_of_ne hc hrest] at h
      rw [hrest] at ih
      rcases List.mem_cons.1 h with rfl | h
      · exact List.not_mem_cons_of_ne_of_not_mem (Ne.symm hc) (ih List.mem_cons_self)
      · exact ih (List.mem_cons_of_mem first h)

/-- Nothing is in a piece that is not in the text. The induction is on the text, as for the separator. -/
theorem mem_of_mem_splitOn (h : piece ∈ cs.splitOn separator) {c : Char} (hc : c ∈ piece) : c ∈ cs := by
  induction cs generalizing piece with
  | nil =>
    rw [List.mem_singleton.1 h] at hc
    exact absurd hc List.not_mem_nil
  | cons d rest ih =>
    by_cases hd : d = separator
    · subst hd
      rw [splitOn_cons_self] at h
      rcases List.mem_cons.1 h with rfl | h
      · exact absurd hc List.not_mem_nil
      · exact List.mem_cons_of_mem d (ih h hc)
    · obtain ⟨first, more, hrest⟩ := List.exists_cons_of_ne_nil (List.splitOn_ne_nil separator rest)
      rw [splitOn_cons_of_ne hd hrest] at h
      rw [hrest] at ih
      rcases List.mem_cons.1 h with rfl | h
      · rcases List.mem_cons.1 hc with rfl | hc
        · exact List.mem_cons_self
        · exact List.mem_cons_of_mem d (ih List.mem_cons_self hc)
      · exact List.mem_cons_of_mem d (ih (List.mem_cons_of_mem first h) hc)

end FeatureAudit.Text
