import FeatureAudit.Settings.Sources

/-!
Home directories, which a tilde at the start of a path stands for.

* `Homes.of?` is the home directory of a user.
* `Path.expanded` puts it in the place of the tilde.
-/
namespace FeatureAudit

/-- The home directories that the system knows: that of the user who runs the program, and those of users by their
names. -/
structure Homes where
  own? : Option String := none
  others : List (String × String) := []
  deriving DecidableEq, Repr, Inhabited

/-- The variable that names the home directory of the user who runs the program, before what the system knows. -/
def homeVariable : String := "HOME"

/-- The home directory of a user; no name stands for the user who runs the program. -/
def Homes.of? (homes : Homes) (env : Environment) (user : String) : Option String :=
  if user.isEmpty then
    match env.find? fun v => v.1 == homeVariable with
    | some v => some v.2
    | none => homes.own?
  else (homes.others.find? fun home => home.1 == user).map Prod.snd

/-- The path of a home directory, without the slashes at its end unless it is the root. A directory that itself starts
with a tilde is none. -/
def homePath? (directory : String) : Option Path :=
  match (directory.toList.reverse.dropWhile (· == '/')).reverse with
  | [] => some (Path.ofString "/")
  | '~' :: _ => none
  | cs => some (Path.ofString (String.ofList cs))

/-- Why a tilde stands for no directory: there is no home directory of that user, or nobody can have that name. -/
inductive HomeError where
  | noHome
  | nullCharacter
  deriving DecidableEq, Repr

/-- The user that the first name of a relative path asks for, if it starts with a tilde. -/
def Path.tildeUser? (p : Path) : Option String :=
  if p.isAbsolute then none
  else
    match p.parts.head?.map String.toList with
    | some ('~' :: user) => some (String.ofList user)
    | _ => none

/-- A path with a home directory in the place of a tilde and the name behind it. -/
def Path.expanded (homes : Homes) (env : Environment) (p : Path) : Except HomeError Path :=
  match p.tildeUser? with
  | none => .ok p
  | some user =>
    if user.toList.any fun c => c.toNat = 0 then .error .nullCharacter
    else
      match (homes.of? env user).bind homePath? with
      | none => .error .noHome
      | some home => .ok ⟨home.root, home.parts ++ p.parts.drop 1⟩

end FeatureAudit
