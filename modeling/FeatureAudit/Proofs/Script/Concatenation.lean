import FeatureAudit.Proofs.Script.LineUses

/-!
# Scripts put together

A line is looked at by itself, and what is counted in it is counted for it alone. So nothing that is found in one part
of a script bears on the next: an open comment, an open template, an earlier use of the same feature. All that the
second part of a script learns from the first is how many lines it has.

* **`Usage.movedDown`** — a use some lines further down.
* **`length_splitOn_newline`** — how many lines a text has.
* **`lineUses_append`** — the uses in numbered lines are those of any two parts of them.
* **`extract_append`** — the uses in a script of two parts.
-/
namespace FeatureAudit

/-- The same use some lines further down. -/
def Usage.movedDown (n : Nat) (u : Usage) : Usage := { u with line := u.line + n }

namespace Script

variable {r : Registry} {target : Tier} {file : String}

/-! ## Lines -/

theorem length_splitOn_newline (cs : List Char) : (cs.splitOn '\n').length = cs.count '\n' + 1 := by
  induction cs with
  | nil => rfl
  | cons c rest ih =>
    rw [List.splitOn_cons_eq_if_modifyHead, List.count_cons]
    cases hc : c == '\n' with
    | true => rw [if_pos rfl, if_pos rfl, List.length_cons, ih]
    | false => rw [if_neg (by simp), if_neg (by simp), List.length_modifyHead, ih, Nat.add_zero]

/-- The number of a line says where its uses are, and nothing else about them. -/
theorem usages_lineSite_add (n number : Nat) (line : List Char) :
    (lineSite (number + n) line).usages r target file =
      ((lineSite number line).usages r target file).map (Usage.movedDown n) := by
  have hmade : (lineSite (number + n) line).usage? r target file =
      fun token => ((lineSite number line).usage? r target file token).map (Usage.movedDown n) := by
    funext token
    rw [Site.usage?_eq, Site.usage?_eq, Option.map_map]
    rfl
  have hkey : (fun u : Usage => (u.movedDown n).featureId) = Usage.featureId := rfl
  rw [Site.usages, Site.usages, hmade, ← List.map_filterMap, keepFirst_map, hkey]
  rfl

/-! ## Parts of a script -/

/-- The uses in lines that have a number of lines above them. -/
def lineUses (r : Registry) (target : Tier) (file : String) (above : Nat) (ls : List (List Char)) :
    List Usage :=
  (ls.zipIdx above).flatMap fun p => (lineSite (p.2 + 1) p.1).usages r target file

/-- What is extracted from a script are the uses in its lines, and scripts give no notices. -/
theorem extract_eq_lineUses (r : Registry) (target : Tier) (file text : String) :
    extract r target file text = ⟨lineUses r target file 0 (text.toList.splitOn '\n'), []⟩ := by
  rw [lineUses, ← extract_usages]
  rfl

/-- The uses in two runs of lines are those of the first, and those of the second numbered on from there. -/
theorem lineUses_append (above : Nat) (first second : List (List Char)) :
    lineUses r target file above (first ++ second) =
      lineUses r target file above first ++
        lineUses r target file (above + first.length) second := by
  rw [lineUses, List.zipIdx_append, List.flatMap_append]
  rfl

/-- Under more lines the uses are the same, further down. -/
theorem lineUses_add (n above : Nat) (ls : List (List Char)) :
    lineUses r target file (n + above) ls =
      (lineUses r target file above ls).map (Usage.movedDown n) := by
  have hlines : ls.zipIdx (n + above) = (ls.zipIdx above).map (Prod.map id (· + n)) :=
    List.map_snd_add_zipIdx_eq_zipIdx.symm
  rw [lineUses, hlines, List.flatMap_map, lineUses, List.map_flatMap]
  congr 1
  funext p
  have hnumber : p.2 + n + 1 = p.2 + 1 + n := Nat.add_right_comm p.2 n 1
  rw [← usages_lineSite_add, ← hnumber]
  rfl

/-- **Scripts put together**: what is found in two scripts with a line feed between them is what is found in the first,
and after it what is found in the second as many lines further down as the first has. -/
theorem extract_append (r : Registry) (target : Tier) (file a b : String) :
    extract r target file (a ++ "\n" ++ b) =
      ⟨(extract r target file a).usages ++
        (extract r target file b).usages.map (Usage.movedDown (a.toList.count '\n' + 1)), []⟩ := by
  have hlines : (a ++ "\n" ++ b).toList.splitOn '\n' =
      a.toList.splitOn '\n' ++ b.toList.splitOn '\n' := by
    rw [String.toList_append, String.toList_append, List.append_assoc]
    exact List.splitOn_append_cons_self a.toList b.toList
  rw [extract_eq_lineUses, extract_eq_lineUses, extract_eq_lineUses, hlines, lineUses_append,
    ← lineUses_add, length_splitOn_newline, Nat.zero_add, Nat.add_zero]

end Script

end FeatureAudit
