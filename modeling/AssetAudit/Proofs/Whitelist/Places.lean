import AssetAudit.Proofs.Whitelist.Spellings
import AssetAudit.Proofs.Path.Inside
import Mathlib.Logic.Relation

/-!
# Places that absolute paths lead to

By its text alone a path leads to one place: empty components and dots are left out, and `..` takes back
the name before it. The key of an absolute path tells where that place lies from the app, and every place
in the app has a key of its own. A key is its own key unless it is read again from a slash, or from behind a
dot and a slash, in front of it.
-/
namespace AssetAudit

namespace Path

/-- The ways to shorten the components of a path: an empty one or a dot says nothing, a name goes away
with the `..` behind it, and above the root there is nothing. -/
inductive Shortens : List Text → List Text → Prop
  | idle (before : List Text) {part : Text} (after : List Text) (h : part = [] ∨ part = ['.']) :
      Shortens (before ++ part :: after) (before ++ after)
  | back (before : List Text) {name : Text} (after : List Text) (h : IsName name) :
      Shortens (before ++ name :: ['.', '.'] :: after) (before ++ after)
  | top (after : List Text) : Shortens (['.', '.'] :: after) after

/-- The place that a path leads to from the root: names that its components can be shortened to. -/
structure LeadsTo (p : Text) (place : List Text) : Prop where
  shortens : Relation.ReflTransGen Shortens (Text.splitOn '/' p) place
  names : ∀ name ∈ place, IsName name

theorem step_idle (base : List Text) {part : Text} (h : part = [] ∨ part = ['.']) :
    step base part = base :=
  if_pos h

theorem step_name (base : List Text) {name : Text} (h : IsName name) : step base name = base ++ [name] := by
  obtain ⟨hNone, hDot⟩ := (FilePath.isPart_iff name).mp h.part
  rw [step, if_neg (not_or.mpr ⟨hNone, hDot⟩), if_neg h.up]

theorem step_up (base : List Text) : step base ['.', '.'] = base.dropLast :=
  rfl

/-- However components are shortened, taking them into account one after another comes to the same. -/
theorem Shortens.foldl_step {parts shorter : List Text} (h : Shortens parts shorter) :
    shorter.foldl step [] = parts.foldl step [] := by
  cases h with
  | idle before after h =>
    rw [List.foldl_append, List.foldl_append, List.foldl_cons, step_idle _ h]
  | back before after h =>
    rw [List.foldl_append, List.foldl_append, List.foldl_cons, List.foldl_cons, step_name _ h, step_up,
      List.dropLast_concat]
  | top => rfl

/-- Taking one more component into account is shortening what was read so far. -/
theorem shortens_step {base : List Text} (hBase : ∀ name ∈ base, IsName name) {part : Text}
    (hSlash : '/' ∉ part) (rest : List Text) :
    Relation.ReflTransGen Shortens (base ++ part :: rest) (step base part ++ rest) := by
  by_cases hIdle : part = [] ∨ part = ['.']
  · rw [step_idle base hIdle]
    exact .single (.idle base rest hIdle)
  by_cases hUp : part = ['.', '.']
  · subst hUp
    rw [step_up]
    rcases List.eq_nil_or_concat base with rfl | ⟨front, last, rfl⟩
    · exact .single (.top rest)
    · have hLast : IsName last := hBase last (by simp)
      rw [List.concat_eq_append, List.dropLast_concat, List.append_assoc]
      exact .single (.back front rest hLast)
  · have hName : IsName part := ⟨(FilePath.isPart_iff part).mpr (not_or.mp hIdle), hSlash, hUp⟩
    rw [step_name base hName, List.append_assoc]
    exact .refl

theorem shortens_foldl_step {base parts : List Text} (hBase : ∀ name ∈ base, IsName name)
    (hParts : ∀ part ∈ parts, '/' ∉ part) :
    Relation.ReflTransGen Shortens (base ++ parts) (parts.foldl step base) := by
  induction parts generalizing base with
  | nil =>
    rw [List.append_nil]
    exact .refl
  | cons part rest ih =>
    obtain ⟨hPart, hRest⟩ := List.forall_mem_cons.mp hParts
    have hNext : ∀ name ∈ [part].foldl step base, IsName name :=
      isName_foldl_step hBase (List.forall_mem_singleton.mpr hPart)
    exact (shortens_step hBase hPart rest).trans (ih hNext hRest)

theorem leadsTo_resolve (p : Text) : LeadsTo p (resolve ['/'] p) where
  shortens := by
    have hTop : ∀ name ∈ ([] : List Text), IsName name := List.forall_mem_nil _
    rw [resolve_root]
    exact shortens_foldl_step hTop fun _ => Text.not_mem_of_mem_splitOn
  names _ := isName_of_mem_resolve

theorem foldl_step_of_shortens {parts shortest : List Text}
    (h : Relation.ReflTransGen Shortens parts shortest) :
    shortest.foldl step [] = parts.foldl step [] := by
  induction h with
  | refl => rfl
  | tail _ hLast ih => exact hLast.foldl_step.trans ih

/-- Every path leads to one place, and resolving the path finds it. -/
theorem leadsTo_iff (p : Text) (place : List Text) : LeadsTo p place ↔ place = resolve ['/'] p := by
  constructor
  · rintro ⟨hShortens, hNames⟩
    have hPlace : place.foldl step [] = [] ++ place :=
      FilePath.foldl_step_of_no_up (fun name hMem => ⟨(hNames name hMem).part, (hNames name hMem).up⟩) []
    rw [resolve_root, resolveBelow, ← foldl_step_of_shortens hShortens, hPlace]
    rfl
  · rintro rfl
    exact leadsTo_resolve p

theorem exists_leadsTo_both_iff (p q : Text) :
    (∃ place, LeadsTo p place ∧ LeadsTo q place) ↔ resolve ['/'] p = resolve ['/'] q := by
  simp only [leadsTo_iff]
  constructor
  · rintro ⟨_, rfl, hSame⟩
    exact hSame
  · intro hSame
    exact ⟨_, rfl, hSame⟩

/-- A path without backslashes leads to names without backslashes. -/
theorem not_mem_of_mem_resolve {p name : Text} (h : '\\' ∉ p) (hMem : name ∈ resolve ['/'] p) :
    '\\' ∉ name := by
  intro hChar
  rw [resolve_root, resolveBelow] at hMem
  have hPiece : name ∈ Text.splitOn '/' p := by
    rcases FilePath.mem_foldl_step hMem with hNone | hPiece
    · exact absurd hNone List.not_mem_nil
    · exact hPiece
  apply h
  rw [← Text.join_splitOn '/' p]
  exact (FilePath.mem_join_iff _ (by decide)).mpr ⟨name, hPiece, hChar⟩

/-- The names below a directory as one text tell which names they are; no names are a dot. -/
theorem text_below_inj {names others : List Text} (hNames : ∀ name ∈ names, IsName name)
    (hOthers : ∀ name ∈ others, IsName name)
    (h : (FilePath.mk [] names).text = (FilePath.mk [] others).text) : names = others := by
  have hRead : ∀ {parts : List Text}, (∀ name ∈ parts, IsName name) →
      FilePath.ofText (FilePath.mk [] parts).text = ⟨[], parts⟩ := by
    intro parts hParts
    exact FilePath.IsSpelled.ofText_text
      ⟨.inl rfl, fun name hMem => ⟨(hParts name hMem).part, (hParts name hMem).slash⟩⟩
  have hSame := (hRead hNames).symm.trans ((congrArg FilePath.ofText h).trans (hRead hOthers))
  exact congrArg FilePath.parts hSame

theorem text_below_ne_nil {names : List Text} (hNames : ∀ name ∈ names, IsName name) :
    (FilePath.mk [] names).text ≠ [] := by
  intro hNil
  have hRead : FilePath.ofText (FilePath.mk [] names).text = ⟨[], names⟩ :=
    FilePath.IsSpelled.ofText_text
      ⟨.inl rfl, fun name hMem => ⟨(hNames name hMem).part, (hNames name hMem).slash⟩⟩
  rw [hNil] at hRead
  obtain rfl : [] = names := congrArg FilePath.parts hRead
  cases hNil

/-- The paths whose form is not its own form, in an app that lies at `home`. Once its backslashes are
slashes, a relative path may have a slash or `./` where its form begins; an absolute one may have a name
there that begins with a dot and a backslash. -/
inductive Unsettled (home : List Text) : Text → Prop
  | relative {p start : Text} (hRelative : isAbsolute p = false)
      (hStart : start ∈ [['/'], ['.', '/', '/'], ['.', '/', '.', '/']]) (h : start <+: toPosix p) :
      Unsettled home p
  | below {p name : Text} {names : List Text} (hAbsolute : isAbsolute p = true)
      (hPlace : resolve ['/'] p = home ++ name :: names) (h : ['.', '\\'] <+: name) :
      Unsettled home p

theorem isAbsolute_iff (p : Text) : isAbsolute p = true ↔ ['/'] <+: p :=
  List.isPrefixOf_iff_prefix

def Restarts (t : Text) : Prop :=
  ['/'] <+: t ∨ ['.', '/'] <+: t

theorem unsettled_iff_of_relative {home : List Text} {p : Text} (h : isAbsolute p = false) :
    Unsettled home p ↔
      ∃ start ∈ [['/'], ['.', '/', '/'], ['.', '/', '.', '/']], start <+: toPosix p := by
  constructor
  · intro hUnsettled
    cases hUnsettled with
    | relative _ hStart hPrefix => exact ⟨_, hStart, hPrefix⟩
    | below hAbsolute _ _ =>
      rw [h] at hAbsolute
      cases hAbsolute
  · rintro ⟨start, hStart, hPrefix⟩
    exact .relative h hStart hPrefix

theorem unsettled_iff_of_absolute {home : List Text} {p : Text} (h : isAbsolute p = true) :
    Unsettled home p ↔
      ∃ name names, resolve ['/'] p = home ++ name :: names ∧ ['.', '\\'] <+: name := by
  constructor
  · intro hUnsettled
    cases hUnsettled with
    | relative hRelative _ _ =>
      rw [h] at hRelative
      cases hRelative
    | below _ hPlace hDot => exact ⟨_, _, hPlace, hDot⟩
  · rintro ⟨name, names, hPlace, hDot⟩
    exact .below h hPlace hDot

/-- Inside an app only a dot and a slash are in question. -/
theorem restarts_iff_of_inside {t : Text} (h : leadsOut t = false) : Restarts t ↔ ['.', '/'] <+: t := by
  refine or_iff_right fun hSlash => ?_
  rw [← isAbsolute_iff] at hSlash
  simp [leadsOut, hSlash] at h

theorem written_eq_self_iff {t : Text} (h : '\\' ∉ t) : written t = t ↔ ¬ ['.', '/'] <+: t := by
  unfold written
  rw [toPosix_of_not_mem h]
  split
  · rename_i rest
    refine iff_of_false (fun hSame => ?_) (fun hNot => hNot ⟨rest, rfl⟩)
    have hLength : rest.length = rest.length + 2 := congrArg List.length hSame
    omega
  · rename_i hOther
    refine iff_of_true rfl ?_
    rintro ⟨rest, rfl⟩
    exact hOther rest rfl

theorem restarts_written_iff (p : Text) :
    Restarts (written p) ↔ ∃ start ∈ [['/'], ['.', '/', '/'], ['.', '/', '.', '/']], start <+: toPosix p := by
  unfold Restarts written
  split
  · rename_i rest hPosix
    simp [hPosix]
  · rename_i hOther
    have hDot : ¬ ['.', '/'] <+: toPosix p := by
      rintro ⟨rest, hRest⟩
      exact hOther rest hRest.symm
    have hLonger : ∀ more, ¬ ['.', '/'] ++ more <+: toPosix p := fun more hMore =>
      hDot ((List.prefix_append _ more).trans hMore)
    have hSlash := hLonger ['/']
    have hDots := hLonger ['.', '/']
    simp_all

end Path

namespace Whitelist.Matcher

def key (m : Matcher) (path : Text) : Text :=
  (m.normalize path).value.1

variable {cwd app p q : Text} {m : Matcher} {home place names : List Text}

/-- The key of a path that leads to a place, in an app whose directory leads to another one. -/
structure IsKey (home place : List Text) (key : Text) : Prop where
  outside : key = [] ↔ ¬ home <+: place
  app : key = ['.'] ↔ place = home
  below : ∀ names, names ≠ [] → place = home ++ names →
    key = Text.join ['/'] names ∧ ∀ name ∈ names, name ≠ [] ∧ name ≠ ['.'] ∧ name ≠ ['.', '.']

theorem isKey_below (hNames : ∀ name ∈ names, Path.IsName name) :
    IsKey home (home ++ names) (FilePath.mk [] names).text where
  outside := iff_of_false (Path.text_below_ne_nil hNames) fun hOut => hOut (List.prefix_append _ _)
  app := by
    rw [List.append_right_eq_self]
    constructor
    · exact fun hDot => Path.text_below_inj hNames (List.forall_mem_nil _) hDot
    · rintro rfl
      rfl
  below others hSome hPlace := by
    obtain rfl := List.append_cancel_left hPlace
    constructor
    · obtain ⟨name, rest, rfl⟩ := List.exists_cons_of_ne_nil hSome
      rfl
    · intro name hMem
      obtain ⟨hNone, hDot⟩ := (FilePath.isPart_iff name).mp (hNames name hMem).part
      exact ⟨hNone, hDot, (hNames name hMem).up⟩

theorem isKey_outside (hOut : ¬ home <+: place) : IsKey home place [] where
  outside := iff_of_true rfl hOut
  app := by
    refine iff_of_false (List.cons_ne_nil _ _).symm ?_
    rintro rfl
    exact hOut List.prefix_rfl
  below names _ hPlace := absurd (hPlace ▸ List.prefix_append home names) hOut

section

variable (hApp : m.app = Path.absolute cwd app) (hStart : Path.isAbsolute app = true)

include hApp hStart

theorem resolve_app : Path.resolve ['/'] m.app = Path.resolve ['/'] app := by
  rw [hApp, Path.resolve_absolute, Path.resolve_of_absolute _ hStart, Path.resolve_root]

/-- A path at or below the app is looked up by the names that it has there. -/
theorem key_below (hAbsolute : Path.isAbsolute p = true)
    (hBelow : Path.resolve ['/'] p = Path.resolve ['/'] app ++ names)
    (hNames : ∀ name ∈ names, Path.IsName name) (hSlashes : ∀ name ∈ names, '\\' ∉ name) :
    m.key p = (FilePath.mk [] names).text := by
  rw [← resolve_app hApp hStart] at hBelow
  rw [key, normalize_value, Path.normalize_below hAbsolute hBelow hNames hSlashes]

theorem key_outside (hAbsolute : Path.isAbsolute p = true)
    (hOut : ¬ Path.resolve ['/'] app <+: Path.resolve ['/'] p) : m.key p = [] := by
  have hLies : ¬ Path.LiesWithin m.app p := by
    rw [Path.LiesWithin, resolve_app hApp hStart, Path.resolve_of_absolute _ hAbsolute,
      ← Path.resolve_root]
    exact hOut
  rw [key, normalize_value, Path.normalize_absolute_outside hAbsolute hLies]

/-- The names that a path has below the app, and its key. -/
theorem exists_names (hAbsolute : Path.isAbsolute p = true) (hSlashes : '\\' ∉ p)
    (hIn : Path.resolve ['/'] app <+: Path.resolve ['/'] p) :
    ∃ names, Path.resolve ['/'] p = Path.resolve ['/'] app ++ names ∧
      (∀ name ∈ names, Path.IsName name ∧ '\\' ∉ name) ∧ m.key p = (FilePath.mk [] names).text := by
  obtain ⟨names, hNames⟩ := hIn
  have hAll : ∀ name ∈ names, Path.IsName name ∧ '\\' ∉ name := by
    intro name hMem
    have hPlace : name ∈ Path.resolve ['/'] p := hNames ▸ List.mem_append_right _ hMem
    exact ⟨Path.isName_of_mem_resolve hPlace, Path.not_mem_of_mem_resolve hSlashes hPlace⟩
  exact ⟨names, hNames.symm, hAll, key_below hApp hStart hAbsolute hNames.symm
    (fun name hMem => (hAll name hMem).1) fun name hMem => (hAll name hMem).2⟩

theorem isKey_of_absolute (hAbsolute : Path.isAbsolute p = true) (hSlashes : '\\' ∉ p) :
    IsKey (Path.resolve ['/'] app) (Path.resolve ['/'] p) (m.key p) := by
  by_cases hIn : Path.resolve ['/'] app <+: Path.resolve ['/'] p
  · obtain ⟨names, hPlace, hNames, hKey⟩ := exists_names hApp hStart hAbsolute hSlashes hIn
    rw [hKey, hPlace]
    exact isKey_below fun name hMem => (hNames name hMem).1
  · rw [key_outside hApp hStart hAbsolute hIn]
    exact isKey_outside hIn

/-- Behind any spelling of the app, the key of a path has itself for its key. -/
theorem key_of_key (hAbsolute : Path.isAbsolute p = true) (hSlashes : '\\' ∉ p)
    (hIn : Path.resolve ['/'] app <+: Path.resolve ['/'] p) {a : Text}
    (hSpelling : Path.isAbsolute a = true) (hSame : Path.resolve ['/'] a = Path.resolve ['/'] app) :
    m.key (a ++ '/' :: m.key p) = m.key p := by
  obtain ⟨names, -, hNames, hKey⟩ := exists_names hApp hStart hAbsolute hSlashes hIn
  have hSpelled : (FilePath.mk [] names).IsSpelled :=
    ⟨.inl rfl, fun name hMem => ⟨(hNames name hMem).1.part, (hNames name hMem).1.slash⟩⟩
  have hLeads : Path.resolve ['/'] (a ++ '/' :: (FilePath.mk [] names).text) =
      Path.resolve ['/'] app ++ names := by
    rw [Path.resolve_root, Path.resolveBelow_append, ← Path.resolve_root, hSame,
      hSpelled.resolveBelow_text]
    exact FilePath.foldl_step_of_no_up
      (fun name hMem => ⟨(hNames name hMem).1.part, (hNames name hMem).1.up⟩) _
  have hBehind : Path.isAbsolute (a ++ '/' :: (FilePath.mk [] names).text) = true := by
    obtain ⟨rest, rfl⟩ := List.isPrefixOf_iff_prefix.mp hSpelling
    rfl
  rw [hKey]
  exact key_below hApp hStart hBehind hLeads (fun name hMem => (hNames name hMem).1)
    fun name hMem => (hNames name hMem).2

theorem key_eq_key_iff (hAbsoluteP : Path.isAbsolute p = true) (hSlashesP : '\\' ∉ p)
    (hAbsoluteQ : Path.isAbsolute q = true) (hSlashesQ : '\\' ∉ q)
    (hInP : Path.resolve ['/'] app <+: Path.resolve ['/'] p)
    (hInQ : Path.resolve ['/'] app <+: Path.resolve ['/'] q) :
    m.key p = m.key q ↔ Path.resolve ['/'] p = Path.resolve ['/'] q := by
  obtain ⟨namesP, hPlaceP, hNamesP, hKeyP⟩ := exists_names hApp hStart hAbsoluteP hSlashesP hInP
  obtain ⟨namesQ, hPlaceQ, hNamesQ, hKeyQ⟩ := exists_names hApp hStart hAbsoluteQ hSlashesQ hInQ
  rw [hKeyP, hKeyQ, hPlaceP, hPlaceQ, List.append_cancel_left_eq]
  constructor
  · exact Path.text_below_inj (fun name hMem => (hNamesP name hMem).1)
      fun name hMem => (hNamesQ name hMem).1
  · rintro rfl
    rfl

end

/-- Where the app and an absolute path without backslashes lead is what the key of the path depends on:
it is empty for places outside the app, a dot for the app, and the names below the app otherwise. Places
in the app have different keys, and behind a spelling of the app a key stands for itself. -/
theorem absolute_paths_have_exact_keys (hApp : m.app = Path.absolute cwd app)
    (hStart : Path.isAbsolute app = true) :
    ∃ home, (∀ place, Path.LeadsTo app place ↔ place = home) ∧
      (∀ p, Path.isAbsolute p = true → '\\' ∉ p →
        ∃ place, (∀ other, Path.LeadsTo p other ↔ other = place) ∧ IsKey home place (m.key p) ∧
          (home <+: place → ∀ a, Path.isAbsolute a = true → Path.LeadsTo a home →
            m.key (a ++ '/' :: m.key p) = m.key p)) ∧
      ∀ p q, Path.isAbsolute p = true → '\\' ∉ p → Path.isAbsolute q = true → '\\' ∉ q →
        m.key p ≠ [] → m.key q ≠ [] →
          (m.key p = m.key q ↔ ∃ place, Path.LeadsTo p place ∧ Path.LeadsTo q place) := by
  refine ⟨_, Path.leadsTo_iff app, ?_, ?_⟩
  · intro p hAbsolute hSlashes
    refine ⟨_, Path.leadsTo_iff p, isKey_of_absolute hApp hStart hAbsolute hSlashes, ?_⟩
    intro hIn a hSpelling hSame
    exact key_of_key hApp hStart hAbsolute hSlashes hIn hSpelling ((Path.leadsTo_iff a _).mp hSame).symm
  · intro p q hAbsoluteP hSlashesP hAbsoluteQ hSlashesQ hKeyP hKeyQ
    have hInP := Classical.not_not.mp
      (mt (isKey_of_absolute hApp hStart hAbsoluteP hSlashesP).outside.mpr hKeyP)
    have hInQ := Classical.not_not.mp
      (mt (isKey_of_absolute hApp hStart hAbsoluteQ hSlashesQ).outside.mpr hKeyQ)
    rw [Path.exists_leadsTo_both_iff]
    exact key_eq_key_iff hApp hStart hAbsoluteP hSlashesP hAbsoluteQ hSlashesQ hInP hInQ

/-- A sibling of the app with a longer name, a name in the app that begins with dots, and the app itself
with two slashes in front. -/
theorem absolute_paths_have_exact_keys_dots :
    let m : Matcher := { app := "/app".toList }
    m.app = Path.absolute ['/'] "/srv/../app/".toList ∧
      m.key "/app2/logo.png".toList = [] ∧
      m.key "//app/./".toList = ['.'] ∧
      m.key "/app//src/../..logo/".toList = "..logo".toList := by
  intro m
  have hApp : m.app = Path.absolute ['/'] "/srv/../app/".toList := rfl
  obtain ⟨home, hHome, hKeys, -⟩ := absolute_paths_have_exact_keys hApp rfl
  obtain rfl : ["app".toList] = home := (hHome _).mp ((Path.leadsTo_iff _ _).mpr rfl)
  refine ⟨hApp, ?_, ?_, ?_⟩
  · obtain ⟨place, hPlace, hKey, -⟩ := hKeys "/app2/logo.png".toList rfl (by decide)
    obtain rfl : ["app2".toList, "logo.png".toList] = place :=
      (hPlace _).mp ((Path.leadsTo_iff _ _).mpr rfl)
    exact hKey.outside.mpr (by decide)
  · obtain ⟨place, hPlace, hKey, -⟩ := hKeys "//app/./".toList rfl (by decide)
    exact hKey.app.mpr ((hPlace _).mp ((Path.leadsTo_iff _ _).mpr rfl)).symm
  · obtain ⟨place, hPlace, hKey, -⟩ := hKeys "/app//src/../..logo/".toList rfl (by decide)
    obtain rfl : ["app".toList, "..logo".toList] = place :=
      (hPlace _).mp ((Path.leadsTo_iff _ _).mpr rfl)
    exact (hKey.below ["..logo".toList] (List.cons_ne_nil _ _) rfl).1

section Again

theorem key_of_relative (m : Matcher) (hRelative : Path.isAbsolute p = false) :
    m.key p = Path.written p := by
  rw [key, normalize_value, Path.normalize_relative _ hRelative]

/-- The key of an absolute path is the way to it from the app, unless the way leads out. -/
theorem key_of_absolute (m : Matcher) (hAbsolute : Path.isAbsolute p = true) :
    m.key p = if Path.leadsOut (Path.toPosix (Path.relative ['/'] p m.app)) then []
      else Path.toPosix (Path.relative ['/'] p m.app) := by
  rw [key, normalize_value, Path.normalize, if_pos hAbsolute]
  dsimp only
  cases Path.leadsOut (Path.toPosix (Path.relative ['/'] p m.app)) with
  | true => rfl
  | false => rfl

theorem not_mem_key (m : Matcher) (p : Text) : '\\' ∉ m.key p := by
  cases hAbsolute : Path.isAbsolute p with
  | true =>
    rw [key_of_absolute m hAbsolute]
    split
    · exact List.not_mem_nil
    · exact Path.not_mem_toPosix _
  | false =>
    rw [key_of_relative m hAbsolute]
    have hSuffix : Path.written p <:+ Path.toPosix p := by
      unfold Path.written
      split
      · rename_i rest hPosix
        exact hPosix ▸ ⟨['.', '/'], rfl⟩
      · exact List.suffix_rfl
    exact fun hMem => Path.not_mem_toPosix p (hSuffix.subset hMem)

/-- A text without backslashes is its own key unless it is read from its second or third character on, or
from the root. -/
theorem key_eq_self_iff (m : Matcher) {t : Text} (h : '\\' ∉ t) : m.key t = t ↔ ¬ Path.Restarts t := by
  unfold Path.Restarts
  cases hAbsolute : Path.isAbsolute t with
  | true =>
    have hSlash := (Path.isAbsolute_iff t).mp hAbsolute
    refine iff_of_false (fun hSame => ?_) fun hNot => hNot (.inl hSlash)
    rw [key_of_absolute m hAbsolute] at hSame
    split at hSame
    · rw [← hSame] at hAbsolute
      cases hAbsolute
    · rename_i hIn
      rw [hSame] at hIn
      simp [Path.leadsOut, hAbsolute] at hIn
  | false =>
    have hSlash := mt (Path.isAbsolute_iff t).mpr (Bool.eq_false_iff.mp hAbsolute)
    rw [key_of_relative m hAbsolute, Path.written_eq_self_iff h]
    simp [hSlash]

/-- The first of the names below an app tells whether their text begins with a dot and a slash. -/
theorem dot_slash_prefix_iff {name : Text} (hName : Path.IsName name) (rest : List Text) :
    ['.', '/'] <+: Path.toPosix (FilePath.mk [] (name :: rest)).text ↔ ['.', '\\'] <+: name := by
  obtain ⟨hNone, hDot⟩ := (FilePath.isPart_iff name).mp hName.part
  obtain ⟨more, hMore⟩ : ∃ more, (FilePath.mk [] (name :: rest)).text = name ++ more := by
    cases rest with
    | nil => exact ⟨[], (List.append_nil name).symm⟩
    | cons next rest => exact ⟨_, Text.join_cons_cons '/' name next rest⟩
  rw [hMore]
  have hFirst : ∀ c : Char, '.' = (if c = '\\' then '/' else c) ↔ '.' = c := by grind
  match name, hNone, hDot with
  | [c], _, hDot =>
    have hOther : '.' ≠ c := fun hEq => hDot (by rw [← hEq])
    rw [List.cons_append, Path.toPosix_cons, List.cons_prefix_cons, List.cons_prefix_cons, hFirst]
    exact iff_of_false (fun h => hOther h.1) fun h => hOther h.1
  | c :: d :: name, _, _ =>
    have hSlash : d ≠ '/' := fun hEq => hName.slash (by simp [hEq])
    have hSecond : '/' = (if d = '\\' then '/' else d) ↔ '\\' = d := by grind
    rw [List.cons_append, List.cons_append, Path.toPosix_cons, Path.toPosix_cons, List.cons_prefix_cons,
      List.cons_prefix_cons, List.cons_prefix_cons, List.cons_prefix_cons, hFirst, hSecond]
    simp

/-- The key of a place below the app begins with a dot and a slash when the first name there gives it one. -/
theorem restarts_key_below_iff (m : Matcher) {name : Text} {rest : List Text}
    (hAbsolute : Path.isAbsolute p = true)
    (hPlace : Path.resolve ['/'] p = Path.resolve ['/'] m.app ++ name :: rest) :
    Path.Restarts (m.key p) ↔ ['.', '\\'] <+: name := by
  have hName : Path.IsName name :=
    Path.isName_of_mem_resolve (hPlace ▸ List.mem_append_right _ List.mem_cons_self)
  rw [key_of_absolute m hAbsolute, Path.relative_below hPlace, ← dot_slash_prefix_iff hName rest]
  split
  · rename_i hOut
    refine iff_of_false (by simp [Path.Restarts]) ?_
    rintro ⟨more, hMore⟩
    rw [← hMore] at hOut
    cases hOut
  · rename_i hInside
    exact Path.restarts_iff_of_inside (Bool.eq_false_iff.mpr hInside)

/-- The app itself has a dot for its key, and what lies outside has none. -/
theorem not_restarts_key (m : Matcher) (hAbsolute : Path.isAbsolute p = true)
    (hPlace : ∀ name rest, Path.resolve ['/'] p ≠ Path.resolve ['/'] m.app ++ name :: rest) :
    ¬ Path.Restarts (m.key p) := by
  by_cases hIn : Path.resolve ['/'] m.app <+: Path.resolve ['/'] p
  · obtain ⟨names, hNames⟩ := hIn
    cases names with
    | nil =>
      rw [key_of_absolute m hAbsolute, Path.relative_below hNames.symm]
      rintro (h | h)
      · exact absurd h (by decide)
      · exact absurd h (by decide)
    | cons name rest => exact absurd hNames.symm (hPlace name rest)
  · have hLies : ¬ Path.LiesWithin m.app p := by
      rwa [Path.LiesWithin, Path.resolve_of_absolute _ hAbsolute, ← Path.resolve_root]
    rw [key, normalize_value, Path.normalize_absolute_outside hAbsolute hLies]
    simp [Path.Restarts]

theorem restarts_key_iff (m : Matcher) (p : Text) :
    Path.Restarts (m.key p) ↔ Path.Unsettled (Path.resolve ['/'] m.app) p := by
  cases hAbsolute : Path.isAbsolute p with
  | false =>
    rw [key_of_relative m hAbsolute, Path.restarts_written_iff, Path.unsettled_iff_of_relative hAbsolute]
  | true =>
    rw [Path.unsettled_iff_of_absolute hAbsolute]
    by_cases hPlace : ∃ name rest, Path.resolve ['/'] p = Path.resolve ['/'] m.app ++ name :: rest
    · obtain ⟨name, rest, hPlace⟩ := hPlace
      rw [restarts_key_below_iff m hAbsolute hPlace, hPlace]
      simp
    · refine iff_of_false (not_restarts_key m hAbsolute fun name rest hAt => hPlace ⟨name, rest, hAt⟩) ?_
      rintro ⟨name, rest, hAt, -⟩
      exact hPlace ⟨name, rest, hAt⟩

theorem check_nil (m : Matcher) : (m.check []).value = (false, m) := by
  rw [check_eq]
  split <;> rfl

theorem normalize_of_key_eq {t : Text} (h : m.key t = t) : Path.normalize m.app t = .form t := by
  rw [key, normalize_value] at h
  cases hForm : Path.normalize m.app t with
  | form form =>
    rw [hForm] at h
    exact congrArg Path.Inside.form h
  | outside =>
    -- nothing at all lies in the app
    rw [hForm] at h
    obtain rfl : [] = t := h
    cases hForm

/-- When the key of a path is its own key, asking for it after the path gives the same verdict and changes
nothing. -/
theorem Serves.check_key {app : Text} {c : Compiled} (h : m.Serves app c) (hKey : m.key (m.key p) = m.key p) :
    ((m.check p).value.2.check (m.key p)).value = (m.check p).value := by
  cases hForm : Path.normalize m.app p with
  | form form =>
    have hSame : m.key p = form := by rw [key, normalize_value, hForm]
    have hAgain := normalize_of_key_eq hKey
    rw [hSame] at hAgain ⊢
    rw [h.app_eq] at hForm hAgain
    exact h.check_again hForm hAgain
  | outside =>
    have hNone : m.key p = [] := by rw [key, normalize_value, hForm]
    have hRefused : (m.check p).value.1 = false := by
      rw [h.check_value, verdict, ← h.app_eq, hForm]
    rw [hNone, check_nil, ← hRefused]

/-- The key of a path is its own key exactly when the path is settled. Then the key may be handed back to
the matcher: it has the verdict of the path, and nothing is stored or told of a second time. -/
theorem keys_settle_iff {cwd app : Text} {entries : List Value} {m : Matcher}
    (h : create cwd app entries = .ok m) (calls : List Call) (p : Text) :
    ((m.run calls).value.2.key ((m.run calls).value.2.key p) = (m.run calls).value.2.key p ↔
      ¬ Path.Unsettled (Path.resolve cwd app) p) ∧
    (¬ Path.Unsettled (Path.resolve cwd app) p →
      (((m.run calls).value.2.check p).value.2.check ((m.run calls).value.2.key p)).value =
        ((m.run calls).value.2.check p).value) := by
  obtain ⟨c, hCompile, hServes⟩ := serves_create h
  obtain ⟨latest, -, hFinal⟩ := hServes.run hCompile calls
  have hSettles : (m.run calls).value.2.key ((m.run calls).value.2.key p) = (m.run calls).value.2.key p ↔
      ¬ Path.Unsettled (Path.resolve cwd app) p := by
    rw [key_eq_self_iff _ (not_mem_key _ p), restarts_key_iff, hFinal.app_eq, Path.resolve_absolute]
  exact ⟨hSettles, fun hSettled => hFinal.check_key (hSettles.mpr hSettled)⟩

/-- A path with a name that begins with two dots, handed back after it was asked for. -/
theorem keys_settle_iff_dots :
    let m : Matcher := { app := "/app".toList, compiled := { names := ["logo.png".toList] } }
    let p := "/app/./..src//logo.png".toList
    create ['/'] "/app".toList [.text "logo.png".toList] = .ok m ∧
      ¬ Path.Unsettled (Path.resolve ['/'] "/app".toList) p ∧ m.key p = "..src/logo.png".toList ∧
      m.key (m.key p) = m.key p ∧ ((m.check p).value.2.check (m.key p)).value = (m.check p).value := by
  intro m p
  have hCreate : create ['/'] "/app".toList [.text "logo.png".toList] = .ok m := rfl
  have hSettled : ¬ Path.Unsettled (Path.resolve ['/'] "/app".toList) p := by
    intro h
    cases h with
    | relative hRelative _ _ => exact absurd hRelative (by decide)
    | below _ hPlace hDot =>
      have hNames : Path.resolve ['/'] p =
          Path.resolve ['/'] "/app".toList ++ ["..src".toList, "logo.png".toList] := by decide
      obtain ⟨rfl, -⟩ := List.cons.inj (List.append_cancel_left (hNames.symm.trans hPlace))
      exact absurd hDot (by decide)
  obtain ⟨hKey, hCheck⟩ := keys_settle_iff hCreate [] p
  exact ⟨hCreate, hSettled, rfl, hKey.mpr hSettled, hCheck hSettled⟩

/-- Of two dots in front one is left, so the key has another key, and that has another verdict. -/
theorem doubled_dot_leaves_one :
    ∃ m, create ['/'] "/app".toList [.text "src/logo.png".toList] = .ok m ∧
      m.key "././src/logo.png".toList = "./src/logo.png".toList ∧
      m.key "./src/logo.png".toList = "src/logo.png".toList ∧
      (m.check "././src/logo.png".toList).value.1 = false ∧
      (m.check "./src/logo.png".toList).value.1 = true :=
  ⟨_, rfl, rfl, rfl, rfl, rfl⟩

end Again

end Whitelist.Matcher

end AssetAudit
