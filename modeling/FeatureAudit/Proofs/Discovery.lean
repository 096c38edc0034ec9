import FeatureAudit.Discovery
import FeatureAudit.Proofs.Dataset.History
import FeatureAudit.Proofs.FileSets
import FeatureAudit.Proofs.Report.FileTypes
import FeatureAudit.Proofs.ResolvedPaths

/-!
# The sources in a directory

The sources of a project are told by three views of a path: its suffix, the directories on the way from the project's
directory to it, and its text from there on. They come in the order of their names, whatever the order in which the
tree lists them, so more patterns take files away and leave the others as they are.

* **`Files.IsTree`** — each list of names stands for one entry, and the names can be names.
* **`Files.IsDirectory`** — a path, made absolute, is a directory.
* **`Files.IsSourceUnder`** — a file under a directory is a source that no pattern ignores.
* **`Files.mem_sourcesInside_iff`**, **`Files.sourcesInside_pairwise`** — the sources are exactly those files, in strict
  order.
* **`Files.sourcesInside_perm`** — the order in which the tree lists its entries makes no difference.
* **`Files.sourcesInside_append`** — what more patterns leave.
-/
namespace FeatureAudit

open FeatureAudit.Text

/-! ## Paths under a directory -/

namespace Path

/-- The path of names from a directory on. -/
def below (top : Path) (names : List String) : Path := ⟨top.root, top.parts ++ names⟩

/-- A path under a directory, from there on. -/
def relativeTo (top p : Path) : Path := ⟨"", p.parts.drop top.parts.length⟩

variable {top p q : Path} {names names' : List String}

/-- The path of a file below a directory, seen from that directory, is the names on the way to it. -/
theorem relativeTo_below (top : Path) (names : List String) : top.relativeTo (top.below names) = ⟨"", names⟩ := by
  rw [relativeTo, below, List.drop_left]

theorem below_inj (h : top.below names = top.below names') : names = names' := by
  have hparts : top.parts ++ names = top.parts ++ names' := congrArg Path.parts h
  exact List.append_cancel_left hparts

/-- The suffix of a file is that of its last name, so the directory above it has no say in what kind of source it is.
-/
theorem suffix_below (h : names ≠ []) : (top.below names).suffix = (⟨"", names⟩ : Path).suffix := by
  rw [suffix, suffix, name, name, below, List.getLast?_append_of_ne_nil _ h]

/-- The text of a path under a directory is that of the directory, followed by the text from there on. -/
theorem toString_below_inj (hnames : names ≠ []) (hnames' : names' ≠ []) (habsolute : top.isAbsolute = true)
    (h : (top.below names).toString = (top.below names').toString) :
    (⟨"", names⟩ : Path).toString = (⟨"", names'⟩ : Path).toString := by
  have htext (names : List String) :
      (top.below names).toString = top.root ++ "/".intercalate (top.parts ++ names) :=
    toString_of_isAbsolute habsolute
  rw [htext, htext] at h
  have hsame : "/".intercalate (top.parts ++ names) = "/".intercalate (top.parts ++ names') :=
    String.append_right_inj _ |>.1 h
  have hrelative : "/".intercalate names = "/".intercalate names' := by
    -- the root itself has no names, and below any other directory a slash stands between
    by_cases htop : top.parts = []
    · simpa [htop] using hsame
    · rw [String.intercalate_append_of_ne_nil htop hnames, String.intercalate_append_of_ne_nil htop hnames'] at hsame
      exact String.append_right_inj _ |>.1 hsame
  rw [toString, toString, hrelative]

/-- Paths with one root are known by their names. -/
theorem eq_of_allParts (hroot : p.root = q.root) (h : p.allParts = q.allParts) : p = q := by
  unfold allParts isAbsolute at h
  rw [hroot] at h
  split at h
  · exact eq_of_root_of_parts hroot (List.cons.inj h).2
  · exact eq_of_root_of_parts hroot h

end Path

namespace Files

/-! ## Trees -/

/-- The entries are those of a tree: each list of names stands for one of them, none is the root, and no name has a null
character. -/
structure IsTree (fs : Files) : Prop where
  once : (fs.entries.map Prod.fst).Nodup
  below : ∀ e ∈ fs.entries, e.1 ≠ []
  named : ∀ e ∈ fs.entries, ∀ name ∈ e.1, ∀ c ∈ name.toList, c.toNat ≠ 0

/-- The path, made absolute, is a directory. -/
structure IsDirectory (fs : Files) (root top : Path) : Prop where
  resolved : root.resolve fs.directory = .ok top
  found : fs.hasDirectory top = .ok true

variable {fs : Files} {root top p : Path} {names : List String} {ignore : List String}

/-- In a tree an entry is at a place exactly if it is listed there. Each place is listed once, so that the first entry
found is the only one. -/
theorem entryAt?_eq_some_iff (htree : fs.IsTree) (hnames : names ≠ []) {e : Entry} :
    fs.entryAt? names = some e ↔ (names, e) ∈ fs.entries := by
  rw [entryAt?, if_neg (by simpa using hnames), Option.map_eq_some_iff]
  constructor
  · rintro ⟨entry, hfind, rfl⟩
    obtain ⟨hmem, rfl⟩ := (find?_key_eq_some_iff htree.once).1 hfind
    exact hmem
  · intro hmem
    exact ⟨(names, e), (find?_key_eq_some_iff htree.once).2 ⟨hmem, rfl⟩, rfl⟩

theorem isAbsolute_of_resolve (h : root.resolve fs.directory = .ok top) : top.isAbsolute = true := by
  unfold Path.resolve at h
  split at h
  · exact absurd h (by simp)
  · rw [← Except.ok.inj h]
    rfl

/-- Where there is a directory one is found by following its resolved path. -/
theorem IsDirectory.find (h : fs.IsDirectory root top) : ∃ place, fs.find top = .ok (place, .directory) :=
  hasDirectory_eq_ok_true_iff.1 h.found

/-- A directory is where its names say. -/
theorem IsDirectory.entryAt? (h : fs.IsDirectory root top) : fs.entryAt? top.parts = some .directory := by
  obtain ⟨place, hfind⟩ := h.find
  obtain ⟨-, hfollow⟩ := follow_of_find hfind
  rw [start_of_isAbsolute (isAbsolute_of_resolve h.resolved)] at hfollow
  -- a directory that is resolved has no steps up, so its names are settled
  have hdots : ".." ∉ top.parts := by
    have hresolved := h.resolved
    unfold Path.resolve at hresolved
    split at hresolved
    · exact absurd hresolved (by simp)
    · rw [← Except.ok.inj hresolved]
      exact not_mem_settle _
  have hplace : place = [] ++ top.parts := by rw [place_of_follow hfollow, settleFrom_of_not_mem hdots]
  rw [← entryAt?_of_follow hfollow, hplace, List.nil_append]

/-- An absolute path to a directory leads to that directory when it is settled. -/
theorem isDirectory_of_hasDirectory (habsolute : root.isAbsolute = true) (h : fs.hasDirectory root = .ok true) :
    fs.IsDirectory root (root.resolved fs.directory) := by
  obtain ⟨place, hfind⟩ := hasDirectory_eq_ok_true_iff.1 h
  exact ⟨Path.resolve_of_fault? fs.directory (follow_of_find hfind).1,
    hasDirectory_eq_ok_true_iff.2 ⟨place, find_resolved habsolute hfind⟩⟩

/-- The sources of a directory are looked for inside it; only if the path were that of a file would this file be the
one source. -/
theorem sources_of_isDirectory (h : fs.IsDirectory root top) (ignore : List String) :
    fs.sources root ignore = .ok (fs.sourcesInside top ignore) := by
  obtain ⟨place, hfind⟩ := h.find
  have hfile : fs.hasFile top = .ok false := by
    rw [hasFile, leadsTo, hfind]
    rfl
  rw [sources, h.resolved]
  dsimp only
  rw [hfile]

/-! ## The same tree, listed in another order -/

variable {fs' : Files}

/-- Entries in another order make up a tree just as well. -/
theorem IsTree.of_perm (htree : fs.IsTree) (h : fs'.entries.Perm fs.entries) : fs'.IsTree where
  once := (h.map Prod.fst).nodup_iff.2 htree.once
  below := fun e he => htree.below e (h.mem_iff.1 he)
  named := fun e he => htree.named e (h.mem_iff.1 he)

/-- In another order of the entries the same entry is at every place. -/
theorem entryAt?_of_perm (htree : fs.IsTree) (h : fs'.entries.Perm fs.entries) (names : List String) :
    fs'.entryAt? names = fs.entryAt? names := by
  by_cases hnames : names = []
  · subst hnames
    rfl
  · apply Option.ext
    intro e
    rw [entryAt?_eq_some_iff htree hnames, entryAt?_eq_some_iff (htree.of_perm h) hnames, h.mem_iff]

/-- In another order of the entries names lead to the same places. The induction is on the names. -/
theorem follow_of_perm (htree : fs.IsTree) (h : fs'.entries.Perm fs.entries) (here names : List String) :
    fs'.follow here names = fs.follow here names := by
  induction names generalizing here with
  | nil => rw [follow, follow, entryAt?_of_perm htree h]
  | cons name rest ih => rw [follow, follow, entryAt?_of_perm htree h, ih]

/-- In another order of the entries a directory is still one. -/
theorem IsDirectory.of_perm (hroot : fs.IsDirectory root top) (htree : fs.IsTree) (h : fs'.entries.Perm fs.entries)
    (hdirectory : fs'.directory = fs.directory) : fs'.IsDirectory root top where
  resolved := by rw [hdirectory, hroot.resolved]
  found := by
    have hfind : fs'.find top = fs.find top := by
      unfold Files.find start
      rw [hdirectory]
      simp only [follow_of_perm htree h]
    rw [← hroot.found, hasDirectory, leadsTo, hfind]
    rfl

/-! ## Files under a directory -/

/-- The names of a file inside a directory, from the directory on. -/
def fileInside? (here : List String) (e : List String × Entry) : Option (List String) :=
  match e.2 with
  | .file _ => if here.isPrefixOf e.1 then some (e.1.drop here.length) else none
  | .directory => none

/-- The files inside a directory are picked from the entries one by one. -/
theorem inside_eq (fs : Files) (here : List String) : fs.inside here = fs.entries.filterMap (fileInside? here) := rfl

/-- An entry gives names inside a directory exactly if it is a file and its place goes on from the directory by these
names. -/
theorem fileInside?_eq_some_iff {here : List String} {e : List String × Entry} :
    fileInside? here e = some names ↔ ∃ content, e = (here ++ names, .file content) := by
  obtain ⟨entry, kind⟩ := e
  cases kind with
  | directory => simp [fileInside?]
  | file content =>
    rw [fileInside?]
    dsimp only
    constructor
    · intro h
      split at h
      · -- the names of the file start with those of the directory, and the rest is told
        rename_i hprefix
        obtain ⟨more, rfl⟩ := List.isPrefixOf_iff_prefix.1 hprefix
        rw [List.drop_left] at h
        obtain rfl := Option.some.inj h
        exact ⟨content, rfl⟩
      · exact absurd h (by simp)
    · rintro ⟨_, hentry⟩
      obtain ⟨rfl, -⟩ := Prod.mk.inj hentry
      rw [if_pos (List.isPrefixOf_iff_prefix.2 (List.prefix_append _ _)), List.drop_left]

/-- Names lead to a file inside a directory exactly if a file is listed at the place they lead to. -/
theorem mem_inside_iff {here : List String} :
    names ∈ fs.inside here ↔ ∃ content, (here ++ names, Entry.file content) ∈ fs.entries := by
  rw [inside_eq, List.mem_filterMap]
  constructor
  · rintro ⟨e, hmem, hgives⟩
    obtain ⟨content, rfl⟩ := fileInside?_eq_some_iff.1 hgives
    exact ⟨content, hmem⟩
  · rintro ⟨content, hmem⟩
    exact ⟨_, hmem, fileInside?_eq_some_iff.2 ⟨content, rfl⟩⟩

/-- In a tree no names are found inside a directory twice, since they would come from two entries at one place. -/
theorem nodup_inside (htree : fs.IsTree) (here : List String) : (fs.inside here).Nodup := by
  have hapart : fs.entries.Pairwise fun e e' => e.1 ≠ e'.1 := List.pairwise_map.1 htree.once
  rw [inside_eq]
  refine hapart.filterMap _ fun e e' hne names hnames names' hnames' heq => hne ?_
  obtain ⟨content, rfl⟩ := fileInside?_eq_some_iff.1 hnames
  obtain ⟨content', rfl⟩ := fileInside?_eq_some_iff.1 hnames'
  rw [heq]

/-- The path is of a source under the directory: of a file with one of the suffixes of sources, on the way to which no
directory is excluded, and whose path from the directory on no pattern ignores. -/
structure IsSourceUnder (fs : Files) (top : Path) (ignore : List String) (p : Path) : Prop where
  below : ∃ names, p = top.below names
  file : ∃ content, fs.entryAt? p.parts = some (.file content)
  suffix : lower p.suffix ∈ sourceTypes.map ("." ++ ·)
  included : ∀ name ∈ (top.relativeTo p).parts.dropLast, name ∉ excludedDirectories
  kept : isIgnored (top.relativeTo p).toString ignore = false

/-- Names lead to a source exactly if no directory on the way is excluded, the suffix is that of a source, and no
pattern ignores the path. -/
theorem isSource_iff :
    isSource ignore names = true ↔ (∀ name ∈ names.dropLast, name ∉ excludedDirectories) ∧
      lower (⟨"", names⟩ : Path).suffix ∈ sourceTypes.map ("." ++ ·) ∧
      isIgnored (⟨"", names⟩ : Path).toString ignore = false := by
  rw [isSource, Bool.and_eq_true, Bool.and_eq_true, Path.kind?, isSome_ofSuffix?_iff, Bool.not_eq_true',
    Bool.not_eq_true', List.any_eq_false, and_assoc]
  simp only [List.contains_iff_mem]

/-- Before sources are sorted they are the paths of the files inside a directory that count as sources. -/
theorem mem_unsorted_iff :
    p ∈ ((fs.inside top.parts).filter (isSource ignore)).map top.below ↔
      ∃ names ∈ fs.inside top.parts, isSource ignore names = true ∧ p = top.below names := by
  simp only [List.mem_map, List.mem_filter, and_assoc, eq_comm]

/-- The sources inside a directory are the files that count as such, sorted by their paths. -/
theorem sourcesInside_eq (fs : Files) (top : Path) (ignore : List String) :
    fs.sourcesInside top ignore =
      (((fs.inside top.parts).filter (isSource ignore)).map top.below).mergeSort Path.le := rfl

/-- A path is among the sources inside a directory exactly if it is that of a file there which counts as a source. -/
theorem mem_sourcesInside :
    p ∈ fs.sourcesInside top ignore ↔
      ∃ names ∈ fs.inside top.parts, isSource ignore names = true ∧ p = top.below names := by
  rw [sourcesInside_eq, Audit.mem_mergeSort_iff, mem_unsorted_iff]

/-- What stands where a directory is has no file there. -/
theorem ne_nil_of_file (hroot : fs.IsDirectory root top)
    (h : ∃ content, fs.entryAt? (top.parts ++ names) = some (.file content)) : names ≠ [] := by
  rintro rfl
  obtain ⟨content, hfile⟩ := h
  rw [List.append_nil, hroot.entryAt?] at hfile
  exact absurd hfile (by simp)

/-- In a tree the files inside a directory are just those that one finds by looking at the places below it. -/
theorem mem_inside_iff_file (htree : fs.IsTree) (hroot : fs.IsDirectory root top) :
    names ∈ fs.inside top.parts ↔ ∃ content, fs.entryAt? (top.parts ++ names) = some (.file content) := by
  rw [mem_inside_iff]
  constructor
  · rintro ⟨content, hmem⟩
    exact ⟨content, (entryAt?_eq_some_iff htree (htree.below _ hmem)).2 hmem⟩
  · intro h
    have hne : top.parts ++ names ≠ [] := by simp [ne_nil_of_file hroot h]
    obtain ⟨content, hcontent⟩ := h
    exact ⟨content, (entryAt?_eq_some_iff htree hne).1 hcontent⟩

/-- The sources are exactly the files of sources under the directory. -/
theorem mem_sourcesInside_iff (htree : fs.IsTree) (hroot : fs.IsDirectory root top) :
    p ∈ fs.sourcesInside top ignore ↔ fs.IsSourceUnder top ignore p := by
  rw [mem_sourcesInside]
  constructor
  · rintro ⟨names, hnames, hsource, rfl⟩
    have hfile := (mem_inside_iff_file htree hroot).1 hnames
    obtain ⟨hincluded, hsuffix, hkept⟩ := isSource_iff.1 hsource
    refine ⟨⟨names, rfl⟩, hfile, ?_, ?_, ?_⟩
    · rwa [Path.suffix_below (ne_nil_of_file hroot hfile)]
    · rwa [Path.relativeTo_below]
    · rwa [Path.relativeTo_below]
  · rintro ⟨⟨names, rfl⟩, hfile, hsuffix, hincluded, hkept⟩
    rw [Path.suffix_below (ne_nil_of_file hroot hfile)] at hsuffix
    rw [Path.relativeTo_below] at hincluded hkept
    exact ⟨names, (mem_inside_iff_file htree hroot).2 hfile, isSource_iff.2 ⟨hincluded, hsuffix, hkept⟩, rfl⟩

/-- Every source inside a directory lies below it, by one name at least. -/
theorem exists_below_of_mem (htree : fs.IsTree) (hroot : fs.IsDirectory root top)
    (hp : p ∈ fs.sourcesInside top ignore) : ∃ names, names ≠ [] ∧ p = top.below names := by
  obtain ⟨names, hnames, -, hbelow⟩ := mem_sourcesInside.1 hp
  exact ⟨names, ne_nil_of_file hroot ((mem_inside_iff_file htree hroot).1 hnames), hbelow⟩

/-- A path has a null character exactly if one of its parts has one. -/
theorem hasNull_iff : p.hasNull = true ↔ ∃ name ∈ p.parts, ∃ c ∈ name.toList, c.toNat = 0 := by
  simp [Path.hasNull]

/-- No source that is found has a null character in its path, since no entry of a tree does. So an audit of what is
found never ends at a path. -/
theorem not_hasNull_of_mem_sourcesInside (htree : fs.IsTree) (hp : p ∈ fs.sourcesInside top ignore) :
    ¬ p.hasNull = true := by
  obtain ⟨names, hnames, -, rfl⟩ := mem_sourcesInside.1 hp
  obtain ⟨content, hmem⟩ := mem_inside_iff.1 hnames
  rw [hasNull_iff]
  rintro ⟨name, hname, c, hc, hzero⟩
  exact htree.named _ hmem name hname c hc hzero

/-! ## The order of the sources -/

/-- Of two paths one can always come first when they are sorted. -/
theorem le_or_le (p q : Path) : (Path.le p q || Path.le q p) = true := by
  rw [Bool.or_eq_true]
  exact Path.le_total p q

/-- Under one directory no two paths are each before the other. -/
theorem le_antisymm_below {p q : Path} (hp : ∃ names, p = top.below names) (hq : ∃ names, q = top.below names)
    (hpq : Path.le p q = true) (hqp : Path.le q p = true) : p = q := by
  obtain ⟨names, rfl⟩ := hp
  obtain ⟨names', rfl⟩ := hq
  exact Path.eq_of_allParts rfl ((Path.le_iff.1 hpq).antisymm (Path.le_iff.1 hqp))

/-- Paths under one directory are sorted alike, however they are arranged. -/
theorem mergeSort_eq_of_below (top : Path) {paths paths' : List Path} (hbelow : ∀ p ∈ paths, ∃ names, p = top.below names)
    (h : paths.Perm paths') : paths.mergeSort Path.le = paths'.mergeSort Path.le :=
  mergeSort_eq_of_perm (fun _ _ _ => Path.le_trans) le_or_le
    (fun p hp q hq => le_antisymm_below (hbelow p hp) (hbelow q hq)) h

theorem nodup_sourcesInside (htree : fs.IsTree) : (fs.sourcesInside top ignore).Nodup := by
  rw [sourcesInside_eq, (List.mergeSort_perm _ _).nodup_iff]
  exact ((nodup_inside htree _).filter _).map fun _ _ => Path.below_inj

theorem sourcesInside_pairwise_le : (fs.sourcesInside top ignore).Pairwise fun p q => Path.le p q = true := by
  rw [sourcesInside_eq]
  exact List.pairwise_mergeSort (fun p q r => @Path.le_trans p q r) le_or_le _

/-- Each source stands strictly before those behind it, because they are sorted and none is listed twice. -/
theorem sourcesInside_pairwise (htree : fs.IsTree) :
    (fs.sourcesInside top ignore).Pairwise fun p q => p.allParts < q.allParts := by
  refine (sourcesInside_pairwise_le.and (nodup_sourcesInside htree)).imp_of_mem fun {p q} hp hq ⟨hle, hne⟩ => ?_
  obtain ⟨names, -, -, rfl⟩ := mem_sourcesInside.1 hp
  obtain ⟨names', -, -, rfl⟩ := mem_sourcesInside.1 hq
  rcases (Path.le_iff.1 hle).lt_or_eq with hlt | hsame
  · exact hlt
  · exact (hne (Path.eq_of_allParts rfl hsame)).elim

/-- The order in which the tree lists its entries makes no difference. -/
theorem sourcesInside_perm (h : fs'.entries.Perm fs.entries) :
    fs'.sourcesInside top ignore = fs.sourcesInside top ignore := by
  rw [sourcesInside_eq, sourcesInside_eq]
  refine mergeSort_eq_of_below top (fun p hp => ?_) (((h.filterMap _).filter _).map _)
  obtain ⟨names, -, -, hbelow⟩ := mem_unsorted_iff.1 hp
  exact ⟨names, hbelow⟩

/-! ## More patterns -/

/-- The paths under a directory that patterns ignore. -/
def ignoredBy (top : Path) (patterns : List String) (paths : List Path) : List Path :=
  paths.filter fun p => isIgnored (top.relativeTo p).toString patterns

/-- The paths under a directory that patterns leave. -/
def leftBy (top : Path) (patterns : List String) (paths : List Path) : List Path :=
  paths.filter fun p => !isIgnored (top.relativeTo p).toString patterns

/-- With more patterns a file is a source if it was one before and none of these patterns ignores it. -/
theorem isSource_append (ignore more names : List String) :
    isSource (ignore ++ more) names = (isSource ignore names && !isIgnored (⟨"", names⟩ : Path).toString more) := by
  rw [isSource, isSource, isIgnored, isIgnored, isIgnored, List.any_append, Bool.not_or, Bool.and_assoc,
    Bool.and_assoc, Bool.and_assoc]

/-- More patterns take away what they ignore from the list of sources, and leave the others in their order. -/
theorem sourcesInside_append (fs : Files) (top : Path) (ignore more : List String) :
    fs.sourcesInside top (ignore ++ more) = leftBy top more (fs.sourcesInside top ignore) := by
  have hunsorted : ((fs.inside top.parts).filter (isSource (ignore ++ more))).map top.below =
      leftBy top more (((fs.inside top.parts).filter (isSource ignore)).map top.below) := by
    rw [leftBy, List.filter_map, List.filter_filter]
    congr 1
    apply List.filter_congr
    intro names _
    rw [isSource_append, Bool.and_comm]
    simp only [Function.comp, Path.relativeTo_below]
  -- what is left of a sorted list is sorted, so sorting it once more changes nothing
  have hsorted : (leftBy top more (fs.sourcesInside top ignore)).Pairwise fun p q => Path.le p q = true :=
    sourcesInside_pairwise_le.filter _
  rw [sourcesInside_eq, hunsorted, ← List.mergeSort_of_pairwise hsorted]
  refine mergeSort_eq_of_below top (fun p hp => ?_) ((List.mergeSort_perm _ Path.le).symm.filter _)
  obtain ⟨names, -, -, hbelow⟩ := mem_unsorted_iff.1 (List.mem_filter.1 hp).1
  exact ⟨names, hbelow⟩

end Files

end FeatureAudit
