import AssetAudit.Path.Lexical

/-!
# Paths that lead out of an app

A path lies within a directory when the components of the directory come first in the resolved
path. An absolute path that does not lie within the app has no form there; a relative path keeps
the form that it is written in, wherever it leads.
-/
namespace AssetAudit.Path

/-- Does a path, resolved by its text from the directory `app`, lead to `app` or below it? -/
def LiesWithin (app p : Text) : Prop :=
  resolve ['/'] app <+: resolve app p

instance (app p : Text) : Decidable (LiesWithin app p) :=
  inferInstanceAs (Decidable (_ <+: _))

/-- A relative path as it is written: with forward slashes, and without one `./` in front. -/
def written (p : Text) : Text :=
  match toPosix p with
  | '.' :: '/' :: rest => rest
  | other => other

theorem resolve_of_absolute (cwd : Text) {p : Text} (h : isAbsolute p = true) :
    resolve cwd p = resolveBelow [] p := by
  simp [resolve, h]

theorem resolve_of_relative (cwd : Text) {p : Text} (h : isAbsolute p = false) :
    resolve cwd p = resolveBelow (resolveBelow [] cwd) p := by
  simp [resolve, h]

theorem resolve_root (p : Text) : resolve ['/'] p = resolveBelow [] p := by
  cases h : isAbsolute p with
  | true => exact resolve_of_absolute _ h
  | false => exact resolve_of_relative _ h

theorem dropCommon_fst_eq_nil_iff (as bs : List Text) :
    (dropCommon as bs).1 = [] ↔ as <+: bs := by
  fun_induction dropCommon as bs with
  | case1 a as bs ih => rw [List.cons_prefix_cons, ih, and_iff_right rfl]
  | case2 a as b bs hne => simp [hne]
  | case3 as bs hShort =>
    cases as with
    | nil => simp
    | cons a as =>
      cases bs with
      | nil => simp
      | cons b bs => exact absurd rfl (hShort a as b bs rfl)

/-- The way to a place outside the start begins with a step up. -/
theorem between_of_not_prefix {start target : List Text} (h : ¬ start <+: target) :
    ∃ way, between start target = ['.', '.'] :: way := by
  rw [← dropCommon_fst_eq_nil_iff] at h
  obtain ⟨a, up, hUp⟩ := List.exists_cons_of_ne_nil h
  refine ⟨up.map (fun _ => ['.', '.']) ++ (dropCommon start target).2, ?_⟩
  simp only [between, hUp, List.map_cons, List.cons_append]

theorem leadsOut_join (way : List Text) :
    leadsOut (toPosix (Text.join ['/'] (['.', '.'] :: way))) = true := by
  cases way with
  | nil => rfl
  | cons next way => simp [Text.join, toPosix, Text.replaceChar, leadsOut, Text.startsWith]

theorem normalize_absolute_outside {app p : Text} (hAbsolute : isAbsolute p = true)
    (hOut : ¬ LiesWithin app p) : normalize app p = .outside := by
  have hResolve : resolve ['/'] p = resolve app p :=
    (resolve_of_absolute _ hAbsolute).trans (resolve_of_absolute _ hAbsolute).symm
  obtain ⟨way, hWay⟩ := between_of_not_prefix hOut
  have hRelative : relative ['/'] p app = Text.join ['/'] (['.', '.'] :: way) := by
    rw [relative, hResolve, hWay]
  rw [normalize, if_pos hAbsolute, hRelative, if_pos (leadsOut_join way)]

theorem normalize_relative (app : Text) {p : Text} (h : isAbsolute p = false) :
    normalize app p = .form (written p) := by
  rw [normalize, if_neg (by simp [h]), written]
  split <;> simp_all

theorem eq_of_written_eq_nil {p : Text} (h : written p = []) :
    p = [] ∨ p = ['.', '/'] ∨ p = ['.', '\\'] := by
  unfold written at h
  split at h
  · rename_i rest hPosix
    subst h
    obtain ⟨a, q, rfl, hDot, hSlash⟩ := List.map_eq_cons_iff.mp hPosix
    obtain ⟨b, r, rfl, hSlash, hNil⟩ := List.map_eq_cons_iff.mp hSlash
    obtain rfl := List.map_eq_nil_iff.mp hNil
    right
    grind
  · left
    exact List.map_eq_nil_iff.mp h

/-- What is written as nothing is the app itself, or a name in it. -/
theorem LiesWithin.of_written_eq_nil {app p : Text} (h : written p = []) : LiesWithin app p := by
  have hBelow : ∀ base : List Text, base <+: resolveBelow base p := by
    intro base
    rcases eq_of_written_eq_nil h with rfl | rfl | rfl <;>
      simp [resolveBelow, Text.splitOn, step]
  have hRelative : isAbsolute p = false := by
    rcases eq_of_written_eq_nil h with rfl | rfl | rfl <;> rfl
  rw [LiesWithin, resolve_root, resolve_of_relative app hRelative]
  exact hBelow _

end AssetAudit.Path
