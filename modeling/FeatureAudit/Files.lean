import FeatureAudit.Path
import FeatureAudit.Text.Quoted

/-!
A tree of files and a working directory in it.

* `Files.find` follows a path name by name, as opening a file does: every name on the way must be a
  directory, and two dots go up from one.
* `Path.resolved` makes a path absolute by its text alone; two dots take away the name before them.
* `Files.read` and `Files.write` are the operations, and `AccessError` says why one fails.
* `Files.has`, `Files.hasFile` and `Files.hasDirectory` tell what a path leads to.
-/
namespace FeatureAudit

/-- What a name of the tree stands for. -/
inductive Entry where
  | directory
  | file (content : List UInt8)
  deriving DecidableEq, Repr, Inhabited

/-- Whether an entry is a file. -/
def Entry.isFile : Entry → Bool
  | .file _ => true
  | .directory => false

/-- Files and directories by their names from the root on, and the working directory. The root is
always a directory and is not listed. -/
structure Files where
  entries : List (List String × Entry)
  directory : List String
  deriving Inhabited

/-- Why a file cannot be read or written. -/
inductive AccessError where
  | notFound
  | notDirectory
  | isDirectory
  | nameTooLong
  | nullCharacter
  deriving DecidableEq, Repr

/-- The number and the words by which the system knows an error. A path with a null character never
reaches the system. -/
def AccessError.system? : AccessError → Option (Nat × String)
  | .notFound => some (2, "No such file or directory")
  | .notDirectory => some (20, "Not a directory")
  | .isDirectory => some (21, "Is a directory")
  | .nameTooLong => some (36, "File name too long")
  | .nullCharacter => none

/-- The wording of an error about a path. -/
def AccessError.message (e : AccessError) (path : String) : String :=
  match e.system? with
  | some (code, reason) => s!"[Errno {code}] {reason}: " ++ Text.quoted path
  | none => "embedded null byte"

/-- The longest name that a file can have, in bytes. -/
def nameLimit : Nat := 255

/-- The longest path that can be followed, in bytes. -/
def pathLimit : Nat := 4095

/-- Whether a path has a null character, which no name can have. -/
def Path.hasNull (p : Path) : Bool := p.parts.any fun name => name.toList.any fun c => c.toNat = 0

/-- Why a path cannot be followed, whatever the files are. -/
def Path.fault? (p : Path) : Option AccessError :=
  if p.hasNull then some .nullCharacter
  else if p.toString.utf8ByteSize > pathLimit then some .nameTooLong
  else none

/-- Names after two dots have taken away the names before them. -/
def settle (parts : List String) : List String :=
  parts.foldl (fun kept part => if part == ".." then kept.dropLast else kept ++ [part]) []

/-- A path made absolute by its text, from a directory. -/
def Path.resolved (directory : List String) (p : Path) : Path :=
  ⟨"/", settle (if p.isAbsolute then p.parts else directory ++ p.parts)⟩

/-- A path made absolute, unless it has a null character, even in a name that two dots take away. -/
def Path.resolve (directory : List String) (p : Path) : Except AccessError Path :=
  if p.hasNull then .error .nullCharacter else .ok (p.resolved directory)

namespace Files

/-- Nothing but the working directory and the directories that hold it. -/
def empty (directory : List String) : Files :=
  { directory
    entries := (List.range directory.length).map fun i => (directory.take (i + 1), .directory) }

/-- What a list of names without dots stands for. -/
def entryAt? (fs : Files) (names : List String) : Option Entry :=
  if names.isEmpty then some .directory
  else (fs.entries.find? fun e => e.1 == names).map Prod.snd

/-- Follow names from a directory on. -/
def follow (fs : Files) (here : List String) : List String → Except AccessError (List String × Entry)
  | [] =>
    match fs.entryAt? here with
    | some e => .ok (here, e)
    | none => .error .notFound
  | name :: rest =>
    match fs.entryAt? here with
    | some .directory =>
      if name.utf8ByteSize > nameLimit then .error .nameTooLong
      else follow fs (if name == ".." then here.dropLast else here ++ [name]) rest
    | some (.file _) => .error .notDirectory
    | none => .error .notFound

/-- The directory from which a path starts. -/
def start (fs : Files) (p : Path) : List String := if p.isAbsolute then [] else fs.directory

/-- What a path leads to, and its names from the root on. -/
def find (fs : Files) (p : Path) : Except AccessError (List String × Entry) :=
  match p.fault? with
  | some fault => .error fault
  | none => fs.follow (fs.start p) p.parts

/-- Whether a path leads to an entry of some kind. A path that leads nowhere leads to none; a name
that is too long is an error here too. -/
def leadsTo (fs : Files) (kind : Entry → Bool) (p : Path) : Except AccessError Bool :=
  match fs.find p with
  | .ok (_, e) => .ok (kind e)
  | .error .nameTooLong => .error .nameTooLong
  | .error _ => .ok false

/-- Whether a path leads to anything. -/
def has (fs : Files) (p : Path) : Except AccessError Bool := fs.leadsTo (fun _ => true) p

/-- Whether a path leads to a file. -/
def hasFile (fs : Files) (p : Path) : Except AccessError Bool := fs.leadsTo Entry.isFile p

/-- Whether a path leads to a directory. -/
def hasDirectory (fs : Files) (p : Path) : Except AccessError Bool :=
  fs.leadsTo (fun e => !e.isFile) p

/-- The content of the file that a path leads to. -/
def read (fs : Files) (p : Path) : Except AccessError (List UInt8) :=
  match fs.find p with
  | .ok (_, .file content) => .ok content
  | .ok (_, .directory) => .error .isDirectory
  | .error e => .error e

/-- Give names an entry, in its place if they have one. -/
def setEntry (names : List String) (e : Entry) :
    List (List String × Entry) → List (List String × Entry)
  | [] => [(names, e)]
  | old :: rest => if old.1 == names then (names, e) :: rest else old :: setEntry names e rest

/-- The same files with another entry for some names. -/
def set (fs : Files) (names : List String) (e : Entry) : Files :=
  { fs with entries := setEntry names e fs.entries }

/-- Write the file that a path leads to. Its directory must be there. -/
def write (fs : Files) (p : Path) (content : List UInt8) : Except AccessError Files :=
  match fs.find p with
  | .ok (names, .file _) => .ok (fs.set names (.file content))
  | .ok (_, .directory) => .error .isDirectory
  | .error .notFound =>
    match fs.follow (fs.start p) p.parts.dropLast with
    | .ok (parent, .directory) => .ok (fs.set (parent ++ [p.name]) (.file content))
    | .ok (_, .file _) => .error .notDirectory
    | .error e => .error e
  | .error e => .error e

/-- Put a file at absolute names, with the directories that hold it. -/
def put (fs : Files) (names : List String) (content : List UInt8) : Files :=
  let parents := (List.range (names.length - 1)).map fun i => names.take (i + 1)
  let withParents := parents.foldl
    (fun fs parent => if (fs.entryAt? parent).isSome then fs else fs.set parent .directory) fs
  withParents.set names (.file content)

/-- Take away what some names stand for, and everything inside it. -/
def remove (fs : Files) (names : List String) : Files :=
  { fs with entries := fs.entries.filter fun e => !names.isPrefixOf e.1 }

/-- The files inside a directory, as names from the directory on. -/
def inside (fs : Files) (names : List String) : List (List String) :=
  fs.entries.filterMap fun e =>
    match e.2 with
    | .file _ => if names.isPrefixOf e.1 then some (e.1.drop names.length) else none
    | .directory => none

theorem find?_setEntry (names other : List String) (e : Entry)
    (entries : List (List String × Entry)) :
    ((setEntry names e entries).find? fun x => x.1 == other).map Prod.snd =
      if other = names then some e else (entries.find? fun x => x.1 == other).map Prod.snd := by
  induction entries with
  | nil =>
    by_cases h : other = names
    · simp [setEntry, h]
    · simp [setEntry, h, Ne.symm h]
  | cons old rest ih =>
    by_cases ho : old.1 = names
    · by_cases h : other = names
      · simp [setEntry, ho, h]
      · simp [setEntry, ho, h, Ne.symm h]
    · by_cases h : old.1 = other
      · have hn : other ≠ names := fun hc => ho (h.trans hc)
        simp [setEntry, h, hn]
      · simp only [setEntry, beq_iff_eq, ho, if_false]
        rw [List.find?_cons_of_neg (by simpa using h), List.find?_cons_of_neg (by simpa using h), ih]

/-- An entry that was set is found, and the others are as they were. -/
theorem entryAt?_set (fs : Files) {names : List String} (e : Entry) (other : List String)
    (h : names ≠ []) :
    (fs.set names e).entryAt? other = if other = names then some e else fs.entryAt? other := by
  cases other with
  | nil => simp [entryAt?, Ne.symm h]
  | cons a rest => simp only [entryAt?, set, List.isEmpty_cons, Bool.false_eq_true, if_false,
      find?_setEntry]

end Files

end FeatureAudit
