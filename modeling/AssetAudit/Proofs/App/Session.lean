import AssetAudit.App.Session
import AssetAudit.Proofs.Outcomes
import AssetAudit.Proofs.Whitelist.Verdicts

/-!
# Sessions and their parts

A session takes its directories from the settings or from where it is told to look. It is made with a
fresh matcher for the patterns that hold for its app: those of all apps and then its own. The matcher
answers for the directory of the session.
-/
namespace AssetAudit

def WhitelistSettings.ownPatterns (w : WhitelistSettings) (app : Text) : List Text :=
  ((w.products.find? (·.1 == app)).map (·.2)).getD []

namespace App.Session

/-- The directory of a session as it is seen by the whitelist. -/
def place (session : Session) (cwd : FilePath) : Text :=
  Path.absolute cwd.text session.directory.text

/-- The directory of a session: the given one, or the one that the settings have for the app. -/
def placeOf (s : Settings) (cwd root : FilePath) (app : Text) :
    Option FilePath → Except SessionError FilePath
  | some d => .ok (d.absolute cwd)
  | none => (pathOf s.appsDir).map fun apps => (root.join apps).join (.ofText app)

theorem create_bind {s : Settings} {cwd : FilePath} {app : Text} (directory : Option FilePath) :
    create s cwd app directory = do
      let root := (← givenRoot s cwd).absolute cwd
      let place ← placeOf s cwd root app directory
      let sources := place.join (← pathOf s.srcDir)
      let assets := place.join (← pathOf s.assetsDir)
      let scan := place.join (← pathOf s.effectiveScanDir)
      let matcher ← (Whitelist.Matcher.create cwd.text place.text
        ((s.whitelist.patternsFor app).map Value.text)).mapError .pattern
      return { app, root, directory := place, sources, assets, scan, matcher } := by
  cases directory <;> rfl

structure Of (session : Session) (s : Settings) (cwd : FilePath) (app : Text)
    (directory : Option FilePath) : Prop where
  name : session.app = app
  root : (givenRoot s cwd).map (·.absolute cwd) = .ok session.root
  place : placeOf s cwd session.root app directory = .ok session.directory
  sources : (pathOf s.srcDir).map session.directory.join = .ok session.sources
  assets : (pathOf s.assetsDir).map session.directory.join = .ok session.assets
  scan : (pathOf s.effectiveScanDir).map session.directory.join = .ok session.scan
  matcher : Whitelist.Matcher.create cwd.text session.directory.text
    ((s.whitelist.patternsFor app).map Value.text) = .ok session.matcher

theorem of_create {s : Settings} {cwd : FilePath} {app : Text} {directory : Option FilePath}
    {session : Session} (h : create s cwd app directory = .ok session) :
    session.Of s cwd app directory := by
  rw [create_bind] at h
  obtain ⟨root, hRoot, h⟩ := (Outcome.bind_eq_ok_iff _ _ _).mp h
  obtain ⟨place, hPlace, h⟩ := (Outcome.bind_eq_ok_iff _ _ _).mp h
  obtain ⟨sources, hSources, h⟩ := (Outcome.bind_eq_ok_iff _ _ _).mp h
  obtain ⟨assets, hAssets, h⟩ := (Outcome.bind_eq_ok_iff _ _ _).mp h
  obtain ⟨scan, hScan, h⟩ := (Outcome.bind_eq_ok_iff _ _ _).mp h
  obtain ⟨matcher, hMatcher, h⟩ := (Outcome.bind_eq_ok_iff _ _ _).mp h
  cases h
  exact {
    name := rfl
    root := by rw [hRoot]; rfl
    place := hPlace
    sources := by rw [hSources]; rfl
    assets := by rw [hAssets]; rfl
    scan := by rw [hScan]; rfl
    matcher := (Outcome.mapError_eq_ok_iff _ _ _).mp hMatcher }

theorem create_serves {s : Settings} {cwd : FilePath} {app : Text} {directory : Option FilePath}
    {session : Session} (h : create s cwd app directory = .ok session) :
    ∃ c, Whitelist.compile
        ((s.whitelist.patterns ++ s.whitelist.ownPatterns app).map Value.text) = .ok c ∧
      session.matcher.Serves (session.place cwd) c :=
  Whitelist.Matcher.serves_create (of_create h).matcher

end App.Session

end AssetAudit
