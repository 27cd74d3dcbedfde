import NativeDeps.Proofs.WrittenFiles

/-!
# Where a manifest comes to stand

The name of the manifest is a path like any other one: it may lead up out of the directory
in which it is read, or start at the root.  What it does is known from its parts alone.
They come to a route: so many steps up from where the path starts, and then names that lead
down again.

A provision that gives a handle has written one file, and this file is below the directory
of the provisioner exactly where the route leads there: it goes no further up than it comes
down again along the names of the directory, and then at least one name further.
-/

namespace NativeDeps

namespace Files

/-- A place is below another one: names lead down to it from there, at least one. -/
def IsBelow (base place : Location) : Prop :=
  base <+: place ∧ place ≠ base

instance (base place : Location) : Decidable (IsBelow base place) :=
  inferInstanceAs (Decidable (_ ∧ _))

theorem isBelow_append_iff {common base place : Location} :
    IsBelow (common ++ base) (common ++ place) ↔ IsBelow base place := by
  rw [IsBelow, IsBelow, List.prefix_append_right_inj, ne_eq, ne_eq,
    List.append_cancel_left_eq]

/-- Where parts lead: so many steps up, and then down along names. -/
structure Route where
  rises : Nat
  names : List Spelling
deriving Repr, DecidableEq

namespace Route

/-- One part more; `..` takes a name back, or leads up where there is none. -/
def step (route : Route) (part : Spelling) : Route :=
  if part = ".." then
    match route.names with
    | [] => ⟨route.rises + 1, []⟩
    | name :: names => ⟨route.rises, (name :: names).dropLast⟩
  else
    ⟨route.rises, route.names ++ [part]⟩

/-- The place that a route leads to from another one; above the root is the root. -/
def placeFrom (route : Route) (base : Location) : Location :=
  base.take (base.length - route.rises) ++ route.names

/-- A part leads on from the end of a route as it leads on from any place. -/
theorem placeFrom_step (route : Route) (part : Spelling) (base : Location) :
    (route.step part).placeFrom base =
      Path.stepLexically (route.placeFrom base) part := by
  rw [step, Path.stepLexically, placeFrom, placeFrom]
  split_ifs with isUp
  · cases names : route.names with
    | nil =>
        dsimp only
        rw [List.append_nil, List.append_nil, List.dropLast_eq_take,
          List.take_take, List.length_take]
        congr 1
        omega
    | cons name rest =>
        rw [List.dropLast_append_of_ne_nil (List.cons_ne_nil name rest)]
  · rw [List.append_assoc]

theorem placeFrom_foldl (route : Route) (parts : List Spelling)
    (base : Location) :
    (parts.foldl step route).placeFrom base =
      parts.foldl Path.stepLexically (route.placeFrom base) := by
  induction parts generalizing route with
  | nil => rfl
  | cons part rest induction =>
      rw [List.foldl_cons, List.foldl_cons, induction, placeFrom_step]

end Route

namespace Path

/-- The route of a path from where it starts. -/
def route (path : Path) : Route :=
  path.parts.foldl Route.step ⟨0, []⟩

theorem foldl_parts_eq (path : Path) (base : Location) :
    path.parts.foldl stepLexically base = path.route.placeFrom base := by
  rw [route, Route.placeFrom_foldl]
  have start : (Route.mk 0 []).placeFrom base = base := by
    rw [Route.placeFrom, Nat.sub_zero, List.take_length, List.append_nil]
  rw [start]

/-- The names that a path has to come down again before it leads further. -/
def namesBack (path : Path) (base : Location) : List Spelling :=
  match path.anchor with
  | .here => base.drop (base.length - path.route.rises)
  | _ => base

/--
Whether a path leads below the place in which it is read: what it goes up, it comes down
again along the names of this place, and then further.
-/
def LeadsBelow (path : Path) (base : Location) : Prop :=
  IsBelow (path.namesBack base) path.route.names

instance (path : Path) (base : Location) : Decidable (path.LeadsBelow base) :=
  inferInstanceAs (Decidable (IsBelow _ _))

theorem isBelow_location_iff (path : Path) (base : Location) :
    IsBelow base (path.location base) ↔ path.LeadsBelow base := by
  rw [location, foldl_parts_eq, Route.placeFrom, LeadsBelow, namesBack]
  cases path.anchor with
  | here =>
      have further :
          IsBelow
              (base.take (base.length - path.route.rises) ++
                base.drop (base.length - path.route.rises))
              (base.take (base.length - path.route.rises) ++
                path.route.names) ↔
            _ :=
        isBelow_append_iff
      rw [if_pos rfl]
      rwa [List.take_append_drop] at further
  | root => rw [if_neg (by decide), List.take_nil, List.nil_append]
  | doubleRoot => rw [if_neg (by decide), List.take_nil, List.nil_append]

/-- A path that is read in a directory is read in the place of this directory. -/
theorem location_join (path other : Path) (directory : Location) :
    (path.join other).location directory =
      other.location (path.location directory) := by
  rw [join]
  cases starts : other.anchor with
  | here =>
      rw [location, location, location, if_pos starts, List.foldl_append]
  | root =>
      have notHere : other.anchor ≠ .here := by
        rw [starts]
        decide
      rw [location, location, if_neg notHere, if_neg notHere]
  | doubleRoot =>
      have notHere : other.anchor ≠ .here := by
        rw [starts]
        decide
      rw [location, location, if_neg notHere, if_neg notHere]

end Path

end Files

namespace Provisioner

open Work

variable {provisioner : Provisioner} {set : DependencySet}
  {command name : Value} {capturesOutput : Bool} {session after : Session}
  {handle : Handle} {filename : Files.Path}

theorem draft_of_manifest
    (isManifest : provisioner.kind = .manifest)
    (named :
      provisioner.setting "filename" (.text "environment-manifest.yaml") =
        .ok name)
    (isPath : name.path = .ok filename) (set : DependencySet) :
    provisioner.draft set =
      .ok
        ⟨provisioner.directory.join filename, .text (Manifest.text set)⟩ := by
  rw [draft_eq_ok_iff, target_of_manifest isManifest, manifestPath, named]
  constructor
  · show (name.path >>= _) = _
    rw [isPath]
    rfl
  · exact content_of_manifest isManifest

/-- A real provision that gives a handle has filled the file of its draft. -/
theorem fills_of_handle
    {draft : Draft} {text : String}
    (isReal : provisioner.isDryRun = false)
    (drafts : provisioner.draft set = .ok draft)
    (isText : draft.content = .text text)
    (gives :
      (provisioner.provision set command capturesOutput).perform session =
        (.ok handle, after)) :
    ∃ made, Fills session.files draft.path (.text text) made after.files := by
  rcases delivers_provision isReal drafts command capturesOutput session with
    ⟨written, comesTo, onlyIf⟩
  rw [gives] at comesTo onlyIf
  rw [onlyIf handle rfl, isText] at comesTo
  cases comesTo.lands with
  | written fits fills => exact ⟨_, fills⟩

/--
A provision of a manifest that gives a handle changes no file but the manifest, and beside
it makes at most directories on the way there.  The manifest is below the directory of the
provisioner exactly where its name leads below this directory; a dry run writes nothing.
-/
theorem manifest_below_directory_iff
    (isManifest : provisioner.kind = .manifest)
    (named :
      provisioner.setting "filename" (.text "environment-manifest.yaml") =
        .ok name)
    (isPath : name.path = .ok filename)
    (gives :
      (provisioner.provision set command capturesOutput).perform session =
        (.ok handle, after)) :
    let base := provisioner.directory.location session.files.directory
    let path := provisioner.directory.join filename
    let place := path.location session.files.directory
    session.files.ChangesOnly (· = place)
        (path.parent.LeadsThrough session.files.directory) after.files ∧
      (provisioner.isDryRun = true → after.files = session.files) ∧
      (provisioner.isDryRun = false →
        after.files.get? place =
          some (.file (.text (Manifest.text set)))) ∧
      (Files.IsBelow base place ↔ filename.LeadsBelow base) := by
  intro base path place
  have isBelowIff :
      Files.IsBelow base place ↔ filename.LeadsBelow base := by
    rw [← Files.Path.isBelow_location_iff, ← Files.Path.location_join]
  cases isDry : provisioner.isDryRun with
  | true =>
      have drafts : provisioner.draft? set = none := by
        rw [draft?, if_pos isDry]
      have same : after.files = session.files := by
        have kept :=
          keeps_files_provision drafts command capturesOutput session
        rwa [gives] at kept
      constructor
      · rw [same]
        exact .refl _
      constructor
      · intro _
        exact same
      constructor
      · intro isReal
        cases isReal
      · exact isBelowIff
  | false =>
      rcases fills_of_handle isDry (draft_of_manifest isManifest named isPath set)
          rfl gives with
        ⟨made, fills⟩
      constructor
      · exact fills.changesOnly
      constructor
      · intro isDry
        cases isDry
      constructor
      · intro _
        exact fills.stands
      · exact isBelowIff

/-- A project with one dependency, on one host. -/
def smallSet : DependencySet := ⟨"demo", some "linux", [⟨"zlib", none⟩]⟩

/-- A provisioner of manifests of this name, in the directory `work`. -/
def withFilename (filename : String) : Provisioner :=
  .make .manifest (.mapping [(.text "filename", .text filename)])
    (.ofString "work") false

/-- A name that leads out of the directory may lead back into it. -/
theorem manifest_below_directory_again :
    let filename := "../work/./env.yaml"
    let place : Files.Location := ["home", "work", "env.yaml"]
    let provided :=
      ((withFilename filename).provision smallSet .null false).perform
        (.inEmptyHome [])
    provided.1 =
        .ok
          { kind := .manifest
            set := smallSet
            manifest := some (.ofString "work/../work/env.yaml") } ∧
      provided.2.files.get? place =
        some (.file (.text (Manifest.text smallSet))) ∧
      (Files.Path.ofString filename).LeadsBelow ["home", "work"] ∧
      Files.IsBelow ["home", "work"] place := by
  intro filename place provided
  have gives :
      provided.1 =
        .ok
          { kind := .manifest
            set := smallSet
            manifest := some (.ofString "work/../work/env.yaml") } := by
    decide +kernel
  have leads :
      (Files.Path.ofString filename).LeadsBelow ["home", "work"] := by
    decide
  have isPlace :
      ((withFilename filename).directory.join (.ofString filename)).location
          (Session.inEmptyHome []).files.directory =
        place := by
    decide +kernel
  have isBase :
      (withFilename filename).directory.location
          (Session.inEmptyHome []).files.directory =
        ["home", "work"] := by
    decide +kernel
  rcases manifest_below_directory_iff rfl rfl rfl (Prod.ext gives rfl) with
    ⟨_, _, stands, isBelowIff⟩
  rw [isPlace] at stands isBelowIff
  rw [isBase] at isBelowIff
  exact ⟨gives, stands rfl, leads, isBelowIff.2 leads⟩

/-- A manifest may come to stand beside its directory, at the root, or in its place. -/
theorem manifests_outside_directory :
    let base : Files.Location := ["home", "work"]
    let provided (filename : String) :=
      ((withFilename filename).provision smallSet .null false).perform
        (.inEmptyHome [])
    let stands (filename : String) (place : Files.Location) : Prop :=
      (provided filename).1.toOption.isSome = true ∧
        (provided filename).2.files.get? place =
          some (.file (.text (Manifest.text smallSet)))
    stands "../outside.yaml" ["home", "outside.yaml"] ∧
      ¬ Files.IsBelow base ["home", "outside.yaml"] ∧
      stands "/outside.yaml" ["outside.yaml"] ∧
      ¬ Files.IsBelow base ["outside.yaml"] ∧
      stands "." base ∧
      ¬ Files.IsBelow base base := by
  decide +kernel

end Provisioner

end NativeDeps
