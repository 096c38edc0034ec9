import FeatureAudit.Proofs.Settings.Precedence
import FeatureAudit.Proofs.Text.Blank
import FeatureAudit.Proofs.Text.Pieces

/-!
# Items listed in the environment

The exceptions in the environment are one text with commas between the items. Blanks around an item mean nothing, nor
do blank pieces, wherever they stand. What is read is what is listed, and nothing is read of a blank text: then there
are no exceptions at all, not even an empty list of them.

* **`IsItem`** — the texts that can be listed.
* **`ListsItems`** — the ways of writing down a list of items, piece by piece.
* **`commaItems_strip`** — blanks at both ends of the whole text make no difference.
* **`commaItems_of_listsItems`**, **`listsItems_splitOn`** — a text is read as the items that it lists, and every text
  lists some items.
* **`listed_exceptions_are_read`** — the exceptions that the environment has.
-/
namespace FeatureAudit

open FeatureAudit.Json FeatureAudit.Text

/-- The text of a variable as it stands there. A variable that is not set is as good as empty. -/
def Environment.text (env : Environment) (name : String) : String :=
  ((env.find? fun v => v.1 == name).map Prod.snd).getD ""

/-- A text of blanks alone. -/
def IsBlankText (s : String) : Prop := ∀ c ∈ s.toList, isBlank c = true

/-- A text made of characters is blank exactly if all of them are. -/
theorem isBlankText_ofList {cs : List Char} : IsBlankText (String.ofList cs) ↔ ∀ c ∈ cs, isBlank c = true := by
  rw [IsBlankText, String.toList_ofList]

/-- A text that can be listed: it has no comma, and no blank at either end. -/
structure IsItem (x : String) : Prop where
  ne_empty : x ≠ ""
  comma_not_mem : ',' ∉ x.toList
  stripped : IsStripped x.toList

/-- The pieces write down the items in their order. An item may have blanks around it, and blank pieces may stand
before, between and after the items. -/
inductive ListsItems : List String → List String → Prop where
  | nil : ListsItems [] []
  | blank {piece : String} {pieces xs : List String} (hpiece : IsBlankText piece) (h : ListsItems pieces xs) :
      ListsItems (piece :: pieces) xs
  | item {before after x : String} {pieces xs : List String} (hbefore : IsBlankText before)
      (hafter : IsBlankText after) (h : ListsItems pieces xs) :
      ListsItems ((before ++ x ++ after) :: pieces) (x :: xs)

/-! ## Pieces between commas -/

/-- No comma is among blanks, so blanks around an item never end it. -/
theorem comma_not_mem_of_blank {cs : List Char} (h : ∀ c ∈ cs, isBlank c = true) : ',' ∉ cs :=
  fun hmem => absurd (h ',' hmem) (by decide)

/-- What is left of the pieces between commas without the blanks around them. -/
def strippedPieces (cs : List Char) : List (List Char) := (cs.splitOn ',').map stripChars

/-- The items of a list are the pieces between its commas, stripped of blanks, with the empty ones left out. -/
theorem commaItems_eq (s : String) :
    commaItems s = ((strippedPieces s.toList).filter fun w => !w.isEmpty).map String.ofList := by
  have hstrip : (fun item => strip (String.ofList item)) = String.ofList ∘ stripChars := by
    funext item
    rw [strip, String.toList_ofList, Function.comp]
  have hempty : (fun item : String => !item.isEmpty) ∘ String.ofList = fun w => !w.isEmpty := by
    funext w
    cases w <;> simp
  rw [commaItems, hstrip, ← List.map_map, List.filter_map, hempty, strippedPieces]

/-! ### Blanks at both ends -/

/-- Blanks in front of a list go to its first piece, where they are stripped off. The induction takes them away one by
one. -/
theorem strippedPieces_append_of_blank {blanks : List Char} (h : ∀ c ∈ blanks, isBlank c = true) (cs : List Char) :
    strippedPieces (blanks ++ cs) = strippedPieces cs := by
  induction blanks with
  | nil => rfl
  | cons c blanks ih =>
    have hc : isBlank c = true := h c List.mem_cons_self
    have hcomma : ¬ (c == ',') = true := by
      rw [beq_iff_eq]
      rintro rfl
      exact absurd hc (by decide)
    rw [← ih fun d hd => h d (List.mem_cons_of_mem c hd), strippedPieces, strippedPieces, List.cons_append,
      List.splitOn_cons_eq_if_modifyHead, if_neg hcomma]
    -- the blank goes to the front of the first piece
    cases (blanks ++ cs).splitOn ',' with
    | nil => rfl
    | cons piece more =>
      have hone : ∀ d ∈ [c], isBlank d = true := by simpa using hc
      have hpiece : stripChars (c :: piece) = stripChars piece := stripChars_append_of_blank hone piece
      rw [List.modifyHead_cons, List.map_cons, hpiece, List.map_cons]

/-- Blanks at the end of a text go to the end of its last piece. -/
theorem forall₂_splitOn_append_blanks (cs : List Char) {blanks : List Char} (h : ∀ c ∈ blanks, isBlank c = true) :
    List.Forall₂ (fun p q => ∃ end', (∀ c ∈ end', isBlank c = true) ∧ p = q ++ end')
      ((cs ++ blanks).splitOn ',') (cs.splitOn ',') := by
  induction cs with
  | nil =>
    rw [List.nil_append, List.splitOn_eq_singleton (comma_not_mem_of_blank h), List.splitOn_nil]
    exact .cons ⟨blanks, h, rfl⟩ .nil
  | cons c cs ih =>
    rw [List.cons_append, List.splitOn_cons_eq_if_modifyHead, List.splitOn_cons_eq_if_modifyHead]
    split
    · exact .cons ⟨[], by simp, rfl⟩ ih
    · -- the blanks belong to the last piece, and that of the whole text is that of its rest
      revert ih
      generalize (cs ++ blanks).splitOn ',' = ps
      generalize cs.splitOn ',' = qs
      rintro (_ | ⟨⟨end', hend, rfl⟩, hmore⟩)
      · exact .nil
      · exact .cons ⟨end', hend, rfl⟩ hmore

/-- Blanks behind a list go to its last piece, where they are stripped off. -/
theorem strippedPieces_append_blanks (cs : List Char) {blanks : List Char} (h : ∀ c ∈ blanks, isBlank c = true) :
    strippedPieces (cs ++ blanks) = strippedPieces cs := by
  rw [strippedPieces, strippedPieces, ← List.forall₂_eq_eq_eq, List.forall₂_map_left_iff,
    List.forall₂_map_right_iff]
  refine (forall₂_splitOn_append_blanks cs h).imp fun p q hends => ?_
  obtain ⟨end', hend, rfl⟩ := hends
  exact stripChars_append_blanks q hend

/-- To strip a list before it is taken apart does not change its items. -/
theorem commaItems_strip (s : String) : commaItems (strip s) = commaItems s := by
  obtain ⟨before, after, hbefore, hafter, heq⟩ := exists_eq_append_stripChars s.toList
  have hpieces : strippedPieces (stripChars s.toList) = strippedPieces s.toList := by
    conv_rhs => rw [heq]
    rw [strippedPieces_append_blanks _ hafter, strippedPieces_append_of_blank hbefore]
  rw [commaItems_eq, commaItems_eq, strip, String.toList_ofList, hpieces]

/-! ## What is listed is read -/

section

variable {pieces xs : List String}

/-- No piece that is blank or holds one item has a comma in it, so joining pieces by commas and parting them again
gives the same pieces. The cases are those of `ListsItems`. -/
theorem ListsItems.comma_not_mem (h : ListsItems pieces xs) (hxs : ∀ x ∈ xs, IsItem x) :
    ∀ piece ∈ pieces, ',' ∉ piece.toList := by
  induction h with
  | nil => exact fun piece hpiece => absurd hpiece List.not_mem_nil
  | blank hblank _ ih =>
    intro piece hpiece
    rcases List.mem_cons.1 hpiece with rfl | hpiece
    · exact comma_not_mem_of_blank hblank
    · exact ih hxs piece hpiece
  | @item before after x pieces xs hbefore hafter _ ih =>
    obtain ⟨hx, hxs⟩ := List.forall_mem_cons.1 hxs
    intro piece hpiece
    rcases List.mem_cons.1 hpiece with rfl | hpiece
    · simp [comma_not_mem_of_blank hbefore, comma_not_mem_of_blank hafter, hx.comma_not_mem]
    · exact ih hxs piece hpiece

/-- Of the pieces that are not blank, the items are left. -/
theorem ListsItems.filter_eq (h : ListsItems pieces xs) (hxs : ∀ x ∈ xs, IsItem x) :
    (((pieces.map String.toList).map stripChars).filter fun w => !w.isEmpty) = xs.map String.toList := by
  induction h with
  | nil => rfl
  | blank hblank _ ih =>
    rw [List.map_cons, List.map_cons, stripChars_eq_nil_iff.2 hblank, List.filter_cons_of_neg (by simp), ih hxs]
  | @item before after x pieces xs hbefore hafter _ ih =>
    obtain ⟨hx, hxs⟩ := List.forall_mem_cons.1 hxs
    have hstrip : stripChars (before ++ x ++ after).toList = x.toList := by
      rw [String.toList_append, String.toList_append, stripChars_append_blanks _ hafter,
        stripChars_append_of_blank hbefore, hx.stripped.stripChars_eq]
    have hne : x.toList ≠ [] := fun hnil => hx.ne_empty (String.toList_eq_nil_iff.1 hnil)
    rw [List.map_cons, List.map_cons, hstrip, List.filter_cons_of_pos (by simpa using hne), ih hxs,
      List.map_cons]

/-- A text is read as the items that its pieces list. -/
theorem commaItems_of_listsItems (h : ListsItems pieces xs) (hxs : ∀ x ∈ xs, IsItem x) :
    commaItems (",".intercalate pieces) = xs := by
  cases pieces with
  | nil =>
    cases h
    rfl
  | cons piece rest =>
    -- no piece has a comma in it, so to split the joined text gives the pieces back
    have hcommas : ∀ w ∈ (piece :: rest).map String.toList, ',' ∉ w := by
      intro w hw
      obtain ⟨p, hp, rfl⟩ := List.mem_map.1 hw
      exact h.comma_not_mem hxs p hp
    have hsplit : (",".intercalate (piece :: rest)).toList.splitOn ',' = (piece :: rest).map String.toList := by
      rw [String.toList_intercalate]
      exact List.splitOn_intercalate ',' hcommas (by simp)
    rw [commaItems_eq, strippedPieces, hsplit, h.filter_eq hxs, List.map_map]
    exact List.map_id'' (fun x => String.ofList_toList) xs

end

/-- Every text lists the items that it is read as. -/
theorem listsItems_splitOn (s : String) :
    ListsItems ((s.toList.splitOn ',').map String.ofList) (commaItems s) := by
  rw [commaItems_eq, strippedPieces]
  induction s.toList.splitOn ',' with
  | nil => exact .nil
  | cons piece rest ih =>
    rw [List.map_cons, List.map_cons]
    -- a piece of blanks is left out, and any other is an item with blanks around it
    by_cases hnil : stripChars piece = []
    · rw [hnil, List.filter_cons_of_neg (by simp)]
      exact .blank (isBlankText_ofList.2 (stripChars_eq_nil_iff.1 hnil)) ih
    · obtain ⟨before, after, hbefore, hafter, heq⟩ := exists_eq_append_stripChars piece
      have hpiece : String.ofList piece =
          String.ofList before ++ String.ofList (stripChars piece) ++ String.ofList after := by
        conv_lhs => rw [heq]
        rw [String.ofList_append, String.ofList_append]
      rw [List.filter_cons_of_pos (by simpa using hnil), List.map_cons, hpiece]
      exact .item (isBlankText_ofList.2 hbefore) (isBlankText_ofList.2 hafter) ih

/-- The pieces between the commas of a text make up the text again once they are joined by commas. -/
theorem intercalate_map_splitOn (s : String) :
    ",".intercalate ((s.toList.splitOn ',').map String.ofList) = s := by
  apply String.toList_injective
  rw [String.toList_intercalate, List.map_map]
  have hid : (s.toList.splitOn ',').map (String.toList ∘ String.ofList) = s.toList.splitOn ',' :=
    List.map_id'' (fun w => String.toList_ofList) _
  rw [hid]
  exact List.intercalate_splitOn ','

/-- Whatever is read from a list is an item: not empty, without commas, and stripped of blanks. -/
theorem isItem_of_mem_commaItems {s x : String} (h : x ∈ commaItems s) : IsItem x := by
  rw [commaItems_eq] at h
  obtain ⟨w, hw, rfl⟩ := List.mem_map.1 h
  obtain ⟨hpiece, hne⟩ := List.mem_filter.1 hw
  obtain ⟨piece, hmem, rfl⟩ := List.mem_map.1 hpiece
  have hcomma : ',' ∉ piece := not_mem_of_mem_splitOn hmem
  obtain ⟨before, after, -, -, heq⟩ := exists_eq_append_stripChars piece
  refine ⟨by simpa using hne, ?_, ?_⟩
  · rw [String.toList_ofList]
    intro hstripped
    rw [heq] at hcomma
    simp [hstripped] at hcomma
  · rw [String.toList_ofList]
    exact isStripped_stripChars piece

/-! ## The exceptions of the environment -/

variable {env : Environment}

/-- The value of a variable is its text without the blanks around it. -/
theorem value_eq_strip (name : String) : env.value name = strip (env.text name) := rfl

/-- The value of a variable is empty exactly if its text is blank, be it set or not. -/
theorem isEmpty_value_iff (name : String) : (env.value name).isEmpty = true ↔ IsBlankText (env.text name) := by
  rw [value_eq_strip, strip, IsBlankText, ← stripChars_eq_nil_iff]
  simp

/-- There are exceptions unless the variable is blank, and those are its items. -/
theorem lookup?_environmentFields_exceptions :
    Value.lookup? (environmentFields env) "exceptions" =
      if (env.value "BASELINE_EXCEPTIONS").isEmpty then none
      else some (.ofStrings (commaItems (env.text "BASELINE_EXCEPTIONS"))) := by
  rw [← commaItems_strip, ← value_eq_strip]
  simp only [environmentFields, Value.lookup?]
  cases (env.value "BASELINE_TARGET").isEmpty <;> cases (env.value "BASELINE_EXCEPTIONS").isEmpty <;>
    cases (env.value "BASELINE_DATASET").isEmpty <;> simp

/-- A text that lists an item is not blank. -/
theorem not_isBlankText_of_listsItems {pieces xs : List String} (h : ListsItems pieces xs)
    (hxs : ∀ x ∈ xs, IsItem x) (hne : xs ≠ []) : ¬ IsBlankText (",".intercalate pieces) := by
  intro hblank
  have hempty : strip (",".intercalate pieces) = "" := by
    rw [strip, stripChars_eq_nil_iff.2 hblank, String.ofList_nil]
  rw [← commaItems_of_listsItems h hxs, ← commaItems_strip, hempty] at hne
  exact hne rfl

/-- **The exceptions of the environment are the items that are listed there**, however they are written down: with
blanks around them, and with blank pieces anywhere. Whatever stands in the variable, there are exceptions unless it is
blank, and they are items that it lists. -/
theorem listed_exceptions_are_read (env : Environment) :
    (∀ pieces xs, xs ≠ [] → (∀ x ∈ xs, IsItem x) → ListsItems pieces xs →
        env.text "BASELINE_EXCEPTIONS" = ",".intercalate pieces →
        Value.lookup? (environmentFields env) "exceptions" = some (.ofStrings xs)) ∧
      (∀ v, Value.lookup? (environmentFields env) "exceptions" = some v →
        ∃ pieces xs, v = .ofStrings xs ∧ (∀ x ∈ xs, IsItem x) ∧ ListsItems pieces xs ∧
          env.text "BASELINE_EXCEPTIONS" = ",".intercalate pieces) ∧
      (Value.lookup? (environmentFields env) "exceptions" = none ↔
        IsBlankText (env.text "BASELINE_EXCEPTIONS")) := by
  rw [lookup?_environmentFields_exceptions]
  refine ⟨fun pieces xs hne hxs hlists htext => ?_, fun v hv => ?_, ?_⟩
  · have hblank : ¬ (env.value "BASELINE_EXCEPTIONS").isEmpty = true := by
      rw [isEmpty_value_iff, htext]
      exact not_isBlankText_of_listsItems hlists hxs hne
    rw [if_neg hblank, htext, commaItems_of_listsItems hlists hxs]
  · -- the variable is not blank, so its pieces list whatever is read from it
    split at hv
    · exact absurd hv (by simp)
    · exact ⟨_, _, (Option.some.inj hv).symm, fun x => isItem_of_mem_commaItems, listsItems_splitOn _,
        (intercalate_map_splitOn _).symm⟩
  · rw [← isEmpty_value_iff]
    simp

/-- Two items with blanks around them, and blank pieces before, between and after them. -/
def paddedPieces : List String := [" ", "" ++ "grid" ++ " ", "", "\t" ++ "css nesting" ++ "\n", " "]

/-- Items padded with all kinds of blanks, and pieces that are nothing but blanks, list the items. -/
theorem listsItems_paddedPieces : ListsItems paddedPieces ["grid", "css nesting"] := by
  have hblank : ∀ s : String, s.toList.all isBlank = true → IsBlankText s := fun s => List.all_eq_true.1
  apply ListsItems.blank (hblank " " rfl)
  apply ListsItems.item (hblank "" rfl) (hblank " " rfl)
  apply ListsItems.blank (hblank "" rfl)
  apply ListsItems.item (hblank "\t" rfl) (hblank "\n" rfl)
  exact .blank (hblank " " rfl) .nil

/-- Two exceptions with blanks around them are read from the environment as the two, and the three blank pieces next
to them are left out. -/
theorem listed_exceptions_are_read_of_padded :
    (∀ x ∈ ["grid", "css nesting"], IsItem x) ∧ ListsItems paddedPieces ["grid", "css nesting"] ∧
      Value.lookup? (environmentFields [("BASELINE_EXCEPTIONS", " ,grid ,,\tcss nesting\n, ")]) "exceptions" =
        some (.ofStrings ["grid", "css nesting"]) := by
  have hitems : ∀ x ∈ ["grid", "css nesting"], IsItem x := by
    intro x hx
    simp only [List.mem_cons, List.not_mem_nil, or_false] at hx
    rcases hx with rfl | rfl
    · exact ⟨by simp, by simp, ⟨by simp [isBlank], by simp [isBlank]⟩⟩
    · exact ⟨by simp, by simp, ⟨by simp [isBlank], by simp [isBlank]⟩⟩
  refine ⟨hitems, listsItems_paddedPieces, ?_⟩
  exact (listed_exceptions_are_read _).1 paddedPieces _ (by simp) hitems listsItems_paddedPieces (by decide)

end FeatureAudit
