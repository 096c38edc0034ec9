import FeatureAudit.Datasets

/-!
# Paths that start at a home directory

A tilde at the start of a relative path stands for the home directory of the user whose name is behind it. What a path
stands for is said here without the search for users, and so is when it stands for nothing.

* **`Path.StandsFor`** — what a path stands for once a tilde has been put away.
* **`Path.expanded_eq_ok_iff`** — that is what a path is expanded to.
* **`Workspace.resolve_eq_ok_iff`**, **`Workspace.resolve_eq_error_iff`** — the path of a dataset, and when there is
  none.
-/
namespace FeatureAudit

variable {homes : Homes} {env : Environment} {p q : Path} {user : String}

/-- What a path stands for: itself, unless it is relative and its first name starts with a tilde; then the names behind
the first, from the home directory of the user whose name is behind the tilde. No such name has a null character. -/
inductive Path.StandsFor (homes : Homes) (env : Environment) : Path → Path → Prop where
  | plain {p : Path} (h : ∀ user rest, p ≠ ⟨"", ("~" ++ user) :: rest⟩) : StandsFor homes env p p
  | home {user directory : String} {rest : List String} {home : Path}
      (hname : ∀ c ∈ user.toList, c.toNat ≠ 0) (hdirectory : homes.of? env user = some directory)
      (hhome : homePath? directory = some home) :
      StandsFor homes env ⟨"", ("~" ++ user) :: rest⟩ ⟨home.root, home.parts ++ rest⟩

namespace Path

/-- A path asks for the home directory of a user exactly if it is relative and its first name is a tilde with the name
of the user behind it. -/
theorem tildeUser?_eq_some_iff :
    p.tildeUser? = some user ↔ ∃ rest, p = ⟨"", ("~" ++ user) :: rest⟩ := by
  obtain ⟨root, parts⟩ := p
  unfold tildeUser? isAbsolute
  constructor
  · intro h
    split at h
    · exact absurd h (by simp)
    · rename_i hroot
      obtain rfl : root = "" := by simpa using hroot
      cases parts with
      | nil => exact absurd h (by simp)
      | cons name rest =>
        rw [List.head?_cons, Option.map_some] at h
        split at h
        · rename_i tail htail
          -- the name is read back from its characters
          have hname : name = "~" ++ user := by
            rw [← Option.some.inj h, ← String.toList_inj, Option.some.inj htail]
            simp
          exact ⟨rest, by rw [hname]⟩
        · exact absurd h (by simp)
  · rintro ⟨rest, heq⟩
    obtain ⟨rfl, rfl⟩ := Path.mk.inj heq
    simp

/-- A path names no user exactly if it is absolute or its first part does not begin with a tilde. -/
theorem tildeUser?_eq_none_iff :
    p.tildeUser? = none ↔ ∀ user rest, p ≠ ⟨"", ("~" ++ user) :: rest⟩ := by
  rw [Option.eq_none_iff_forall_ne_some]
  simp only [ne_eq, tildeUser?_eq_some_iff, not_exists]

/-- A path whose names have no null character asks for no user that nobody can be. -/
theorem no_null_of_hasNull_eq_false {rest : List String}
    (h : (⟨"", ("~" ++ user) :: rest⟩ : Path).hasNull = false) : ∀ c ∈ user.toList, c.toNat ≠ 0 := by
  intro c hc hnull
  have hnone : ∀ c ∈ ("~" ++ user).toList, ¬ c.toNat = 0 := by
    simp only [hasNull, List.any_eq_false, List.any_eq_true, decide_eq_true_eq] at h
    exact fun c hc hnull => h _ List.mem_cons_self ⟨c, hc, hnull⟩
  exact hnone c (by simp [hc]) hnull

theorem expanded_of_plain (h : ∀ user rest, p ≠ ⟨"", ("~" ++ user) :: rest⟩) :
    p.expanded homes env = .ok p := by
  rw [expanded, tildeUser?_eq_none_iff.2 h]

/-- A path that names a user is followed from the home directory of this user, unless the name has a null character or
no home directory is known. -/
theorem expanded_of_tilde {rest : List String} :
    (⟨"", ("~" ++ user) :: rest⟩ : Path).expanded homes env =
      if user.toList.any fun c => c.toNat = 0 then .error .nullCharacter
      else
        match (homes.of? env user).bind homePath? with
        | none => .error .noHome
        | some home => .ok ⟨home.root, home.parts ++ rest⟩ := by
  rw [expanded, tildeUser?_eq_some_iff.2 ⟨rest, rfl⟩]
  rfl

/-- A path is expanded to what it stands for, and to nothing else. -/
theorem expanded_eq_ok_iff : p.expanded homes env = .ok q ↔ StandsFor homes env p q := by
  constructor
  · intro h
    cases huser : p.tildeUser? with
    | none =>
      have hplain := tildeUser?_eq_none_iff.1 huser
      rw [expanded_of_plain hplain] at h
      obtain rfl := Except.ok.inj h
      exact .plain hplain
    | some user =>
      obtain ⟨rest, rfl⟩ := tildeUser?_eq_some_iff.1 huser
      rw [expanded_of_tilde] at h
      split at h
      · exact absurd h (by simp)
      · rename_i hname
        split at h
        · exact absurd h (by simp)
        · rename_i home hhome
          obtain ⟨directory, hdirectory, hhome⟩ := Option.bind_eq_some_iff.1 hhome
          obtain rfl := Except.ok.inj h
          exact .home (by simpa using hname) hdirectory hhome
  · intro h
    cases h with
    | plain h => exact expanded_of_plain h
    | home hname hdirectory hhome =>
      -- the name is in order, and it has a home
      rw [expanded_of_tilde, if_neg (by simpa using hname), hdirectory, Option.bind_some, hhome]

/-- A user without a home directory is met exactly if nobody else could be meant, and no directory is known. -/
theorem expanded_eq_noHome_iff :
    p.expanded homes env = .error .noHome ↔
      ∃ user rest, p = ⟨"", ("~" ++ user) :: rest⟩ ∧ (∀ c ∈ user.toList, c.toNat ≠ 0) ∧
        (homes.of? env user).bind homePath? = none := by
  constructor
  · intro h
    -- a path that names no user is left as it is
    cases huser : p.tildeUser? with
    | none =>
      rw [expanded_of_plain (tildeUser?_eq_none_iff.1 huser)] at h
      exact absurd h (by simp)
    | some user =>
      obtain ⟨rest, rfl⟩ := tildeUser?_eq_some_iff.1 huser
      rw [expanded_of_tilde] at h
      split at h
      · exact absurd h (by simp)
      · rename_i hname
        split at h
        · rename_i hhome
          exact ⟨user, rest, rfl, by simpa using hname, hhome⟩
        · exact absurd h (by simp)
  · rintro ⟨user, rest, rfl, hname, hhome⟩
    rw [expanded_of_tilde, if_neg (by simpa using hname), hhome]

/-- A path stands for one path at most: whether a user is named is seen from its text, and the home is what the system
tells. -/
theorem StandsFor.unique {q' : Path} (h : StandsFor homes env p q) (h' : StandsFor homes env p q') : q = q' :=
  Except.ok.inj ((expanded_eq_ok_iff.2 h).symm.trans (expanded_eq_ok_iff.2 h'))

/-- Without the home directory that it asks for, a path stands for nothing. -/
theorem not_standsFor_of_bind_eq_none {rest : List String} (h : (homes.of? env user).bind homePath? = none) :
    ¬ StandsFor homes env ⟨"", ("~" ++ user) :: rest⟩ q := by
  intro hq
  have hok := expanded_eq_ok_iff.2 hq
  rw [expanded_of_tilde, h] at hok
  split at hok <;> exact absurd hok (by simp)

/-- Only a path with a null character is refused for one. -/
theorem hasNull_of_expanded (h : p.expanded homes env = .error .nullCharacter) : p.hasNull = true := by
  cases huser : p.tildeUser? with
  | none =>
    rw [expanded_of_plain (tildeUser?_eq_none_iff.1 huser)] at h
    exact absurd h (by simp)
  | some user =>
    obtain ⟨rest, rfl⟩ := tildeUser?_eq_some_iff.1 huser
    cases hnull : (⟨"", ("~" ++ user) :: rest⟩ : Path).hasNull with
    | true => rfl
    | false =>
      -- without a null character in the path there is none in the user's name, so the failure is another one
      have hname := no_null_of_hasNull_eq_false hnull
      rw [expanded_of_tilde, if_neg (by simpa using hname)] at h
      split at h <;> exact absurd h (by simp)

/-- What is behind the first name of a path is a part of what the path stands for, so a null character there is kept. -/
theorem StandsFor.hasNull (h : StandsFor homes env p q) (hnull : p.hasNull = true) : q.hasNull = true := by
  cases h with
  | plain _ => exact hnull
  | @home user directory rest home hname _ _ =>
    -- the first name is replaced, but the null character is not in it: a user with one in the name has no home
    have hfirst : ∀ c ∈ ("~" ++ user).toList, ¬ c.toNat = 0 := by
      intro c hc
      rw [String.toList_append, List.mem_append] at hc
      rcases hc with hc | hc
      · obtain rfl : c = '~' := by simpa using hc
        decide
      · exact hname c hc
    rw [Path.hasNull, List.any_cons, Bool.or_eq_true] at hnull
    rcases hnull with hnull | hnull
    · obtain ⟨c, hc, hzero⟩ := List.any_eq_true.1 hnull
      exact absurd (of_decide_eq_true hzero) (hfirst c hc)
    · rw [Path.hasNull, List.any_append, hnull, Bool.or_true]

end Path

namespace Workspace

variable {ws : Workspace} {name : String} {path : Path}

/-- A name is resolved through the path that it stands for: this path is made absolute unless a null character is in
it. -/
theorem resolve_of_expanded {p : Path}
    (h : (Path.ofString name).expanded ws.homes ws.environment = .ok p) :
    ws.resolve name =
      if p.hasNull then .error (.unreadable .nullCharacter) else .ok (p.resolved ws.files.directory) := by
  rw [resolve, h]
  dsimp only
  rw [Path.resolve]
  cases p.hasNull <;> rfl

/-- The path of a dataset is what its name stands for, made absolute. -/
theorem resolve_eq_ok_iff :
    ws.resolve name = .ok path ↔
      ∃ p, Path.StandsFor ws.homes ws.environment (Path.ofString name) p ∧ p.hasNull = false ∧
        path = p.resolved ws.files.directory := by
  constructor
  · intro h
    cases hp : (Path.ofString name).expanded ws.homes ws.environment with
    | error reason =>
      rw [resolve, hp] at h
      cases reason <;> exact absurd h (by simp)
    | ok p =>
      rw [resolve_of_expanded hp] at h
      split at h
      · exact absurd h (by simp)
      · rename_i hnull
        exact ⟨p, Path.expanded_eq_ok_iff.1 hp, by simpa using hnull, (Except.ok.inj h).symm⟩
  · rintro ⟨p, hp, hnull, rfl⟩
    rw [resolve_of_expanded (Path.expanded_eq_ok_iff.2 hp), if_neg (by simp [hnull])]

/-- There is no path of a dataset exactly if the home directory that its name asks for is not known, or there is a null
character in the name or in what it stands for. -/
theorem resolve_eq_error_iff :
    (∃ cause, ws.resolve name = .error cause) ↔
      (∃ user rest, Path.ofString name = ⟨"", ("~" ++ user) :: rest⟩ ∧
          (ws.homes.of? ws.environment user).bind homePath? = none) ∨
        (Path.ofString name).hasNull = true ∨
        ∃ p, Path.StandsFor ws.homes ws.environment (Path.ofString name) p ∧ p.hasNull = true := by
  constructor
  · rintro ⟨cause, h⟩
    cases hp : (Path.ofString name).expanded ws.homes ws.environment with
    | error reason =>
      cases reason with
      | noHome =>
        obtain ⟨user, rest, hname, -, hhome⟩ := Path.expanded_eq_noHome_iff.1 hp
        exact .inl ⟨user, rest, hname, hhome⟩
      | nullCharacter => exact .inr (.inl (Path.hasNull_of_expanded hp))
    | ok p =>
      rw [resolve_of_expanded hp] at h
      split at h
      · rename_i hnull
        exact .inr (.inr ⟨p, Path.expanded_eq_ok_iff.1 hp, hnull⟩)
      · exact absurd h (by simp)
  · intro h
    cases hresolve : ws.resolve name with
    | error cause => exact ⟨cause, rfl⟩
    | ok path =>
      -- a path that is there stands against each of the reasons
      obtain ⟨p, hp, hnull, -⟩ := resolve_eq_ok_iff.1 hresolve
      rcases h with ⟨user, rest, hname, hhome⟩ | hname | ⟨q, hq, hqnull⟩
      · exact absurd (hname ▸ hp) (Path.not_standsFor_of_bind_eq_none hhome)
      · exact absurd (hp.hasNull hname) (by simp [hnull])
      · obtain rfl := hq.unique hp
        exact absurd hqnull (by simp [hnull])

/-- What goes wrong with a name is not told to the user as an error of the dataset. -/
theorem isReported_of_resolve {cause : DatasetCause} (h : ws.resolve name = .error cause) :
    (⟨name, cause⟩ : DatasetError).isReported = false := by
  unfold resolve at h
  split at h
  · obtain rfl := Except.error.inj h
    rfl
  · obtain rfl := Except.error.inj h
    rfl
  · rename_i p hp
    split at h
    · rename_i reason hreason
      -- making a path absolute fails on a null character only
      unfold Path.resolve at hreason
      split at hreason
      · obtain rfl := Except.error.inj hreason
        obtain rfl := Except.error.inj h
        rfl
      · exact absurd hreason (by simp)
    · exact absurd h (by simp)

end Workspace

end FeatureAudit
