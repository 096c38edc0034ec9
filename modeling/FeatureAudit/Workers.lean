import FeatureAudit.Audit

/-!
Workers that look into files side by side.

* `collect` takes in what the workers give, in the order in which they finish. Each file has a place, and what
  its worker gives goes there, whenever that is.
* `tabulate` makes a table of what is in the places.
* `Audit.ofWorkers` is the audit of files by workers that finish in some order.
-/
namespace FeatureAudit

/-- Take in what workers give, by the places of their files and in the order in which they finish. A worker
that fails ends it. -/
def collect {ε α β : Type} (work : α → Except ε β) (files : List α) :
    List β → List Nat → Except ε (List β)
  | results, [] => .ok results
  | results, i :: finished =>
    match files[i]? with
    | none => collect work files results finished
    | some file =>
      match work file with
      | .error reason => .error reason
      | .ok result => collect work files (results.set i result) finished

variable {κ α : Type} [BEq κ]

/-- Give a key a value, in its place if it has one. -/
def setKey (key : κ) (value : α) : List (κ × α) → List (κ × α)
  | [] => [(key, value)]
  | old :: rest => if old.1 == key then (key, value) :: rest else old :: setKey key value rest

/-- The table of keys with their values. Of several values for one key the last counts, in the place of the
first. -/
def tabulate (pairs : List (κ × α)) : List (κ × α) :=
  pairs.foldl (fun table pair => setKey pair.1 pair.2 table) []

/-- The audit of files by workers that finish in the order of the given places. The files are ordered first,
and each has no uses until its worker has finished. -/
def Audit.ofWorkers (a : Audit) (fs : Files) (paths : List Path) (finished : List Nat) :
    Except AccessError Findings :=
  let files := paths.mergeSort Path.le
  (collect (a.inWorker.fileExtraction fs) files (files.map fun _ => ⟨[], []⟩) finished).map fun results =>
    a.findings ((tabulate (files.zip results)).map fun f => (f.1.toString, f.2))

end FeatureAudit
