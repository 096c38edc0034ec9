import FeatureAudit.Files
import FeatureAudit.Glob

/-!
The sources of a project: the stylesheets and scripts in a directory, without those in directories
that hold no sources of one's own and without those that a glob ignores.
-/
namespace FeatureAudit

/-- Directories that are never looked into. -/
def excludedDirectories : List String :=
  [".git", ".svn", ".hg", "node_modules", "dist", "build", "coverage", ".next", ".cache",
   "__pycache__", ".venv", "venv", ".idea", ".vscode"]

/-- The globs that are ignored unless others are given. -/
def defaultIgnore : List String :=
  ["node_modules/**", "dist/**", "build/**", "coverage/**", "**/*.min.js", "**/*.min.css"]

/-- Whether names from the project's directory on are a source of the project. -/
def isSource (ignore relative : List String) : Bool :=
  let path : Path := ⟨"", relative⟩
  !(relative.dropLast.any excludedDirectories.contains) && path.kind?.isSome &&
    !isIgnored path.toString ignore

/-- The sources inside a directory, in the order of their paths. -/
def Files.sourcesInside (fs : Files) (top : Path) (ignore : List String) : List Path :=
  (((fs.inside top.parts).filter (isSource ignore)).map fun names =>
    (⟨top.root, top.parts ++ names⟩ : Path)).mergeSort Path.le

/-- The sources that a path leads to. A file is its own project, if it is of a known kind; a path
that leads nowhere has no sources. -/
def Files.sources (fs : Files) (root : Path) (ignore : List String) :
    Except AccessError (List Path) :=
  match root.resolve fs.directory with
  | .error reason => .error reason
  | .ok top =>
    match fs.hasFile top with
    | .error reason => .error reason
    | .ok true => .ok (if top.kind?.isSome then [top] else [])
    | .ok false => .ok (fs.sourcesInside top ignore)

end FeatureAudit
