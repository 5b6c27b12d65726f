import AssetAudit.Proofs.Files.Links
import AssetAudit.Proofs.Project.Evidence
import AssetAudit.Proofs.Report.Totals

/-!
# The bytes of a report

The assets of a report lie on different paths, but two paths may lead to one file when one of them passes a
link. The bytes of the file are counted for each of them.
-/
namespace AssetAudit

open Files (Asset Tree Walks assetsOf collectAssets wantedExtensions)
open scoped BigOperators

/-- What the bytes of a report are: those at each place, as often as paths of the report lead there, and just
once when no path passes a link. -/
structure Report.CountsPaths (r : Report) (tree : Tree) (scan : FilePath) (places : List (List Text)) :
    Prop where
  led : places.map Except.ok = r.assets.map fun unused => tree.locate unused.path
  bytes : r.assetBytes = (∑ place ∈ places.toFinset, places.count place * tree.bytesAt place : Nat)
  once : (∀ unused ∈ r.assets, ¬tree.PassesLink scan unused.path) → places.Nodup

/-- A sum over places, with equal places taken together. -/
theorem sum_map_eq_sum_count (places : List (List Text)) (f : List Text → Nat) :
    (places.map f).sum = ∑ place ∈ places.toFinset, places.count place * f place := by
  rw [Finset.sum_list_map_count]
  refine Finset.sum_congr rfl fun place _ => ?_
  rw [nsmul_eq_mul, Nat.cast_id]
  -- the library counts by the decision of equality, a list of texts by its own comparison
  congr 2
  exact lawful_beq_subsingleton _ _

namespace Project

variable {tree : Tree} {p : Project} {around : Surroundings} {name : Text} {given : Option FilePath}
  {report : Report}

theorem TellsAssets.exists_asset {g : Ground} (h : TellsAssets report g tree) {unused : UnusedAsset}
    (hMem : unused ∈ report.assets) :
    ∃ a ∈ g.assets, unused.path = a.path ∧ unused.size = a.size := by
  have hSome : some unused ∈ report.assets.map some := List.mem_map_of_mem hMem
  rw [h.unused] at hSome
  obtain ⟨a, hKept, hRecord⟩ := List.mem_map.mp hSome
  obtain ⟨sizeText, -, rfl⟩ := Option.map_eq_some_iff.mp hRecord
  exact ⟨a, List.mem_of_mem_filter hKept, rfl, rfl⟩

theorem exists_countsPaths (hDistinct : around.tree.root.WellNamed) (hNamed : around.tree.root.Named)
    (h : (p.analyze around name given).outcome = .ok report) :
    ∃ session places, App.Session.create p.settings around.tree.cwd name given = .ok session ∧
      report.CountsPaths around.tree session.scan places := by
  obtain ⟨g, m, hGround, -, -, hSorted⟩ := exists_ground h
  have hAssets := hSorted.tellsAssets hGround
  have hPlaces : ∀ unused ∈ report.assets, ∃ place, around.tree.locate unused.path = .ok place ∧
      unused.size = around.tree.bytesAt place := by
    intro unused hMem
    obtain ⟨a, hCollected, hPath, hSize⟩ := hAssets.exists_asset hMem
    obtain ⟨-, -, place, -, -, -, hPlace, hBytes⟩ :=
      Files.exists_place_of_collected hNamed hGround.assets hCollected
    exact ⟨place, hPath ▸ hPlace, hSize.trans (congrArg Nat.cast hBytes)⟩
  choose! place hPlace hBytes using hPlaces
  refine ⟨g.session, report.assets.map place, hGround.session, ?_, ?_, fun hNone => ?_⟩
  · rw [List.map_map]
    exact List.map_congr_left fun unused hMem => (hPlace unused hMem).symm
  · rw [← sum_map_eq_sum_count, Nat.cast_list_sum, List.map_map, List.map_map, Report.assetBytes_eq]
    exact congrArg List.sum (List.map_congr_left hBytes)
  · have hOnce := hAssets.once hDistinct
    refine hOnce.of_map.map_on fun a hA b hB hSame => List.inj_on_of_nodup_map hOnce hA hB ?_
    obtain ⟨a', hA', hPathA, -⟩ := hAssets.exists_asset hA
    obtain ⟨b', hB', hPathB, -⟩ := hAssets.exists_asset hB
    have hPlaceA := hPlace a hA
    have hNoneA := hNone a hA
    have hPlaceB := hPlace b hB
    have hNoneB := hNone b hB
    rw [← hSame] at hPlaceB
    rw [hPathA] at hPlaceA hNoneA ⊢
    rw [hPathB] at hPlaceB hNoneB ⊢
    exact Files.eq_of_same_place hNamed hGround.assets hA' hB' hPlaceA hPlaceB hNoneA hNoneB

/-- Collecting assets comes to an end, over links and round them too, and gives every path once. Two paths to
one file differ in a link, and a report counts its bytes for each of them. -/
theorem bytes_counted_by_path (hDistinct : tree.root.WellNamed) (hNamed : tree.root.Named)
    (c : Files.Collector) (directory app : FilePath) (extensions : Value) :
    (∀ wanted, tree.isDirectory directory = .ok true → wantedExtensions extensions = .ok wanted →
      ∃ visits, (∀ others, Walks tree c wanted directory directory others ↔ others = visits) ∧
        (∀ visit ∈ visits, ∃ way, visit.path = directory.descend way ∧
          way.length ≤ (Tree.mostLinks + 1) * (tree.root.height + 1)) ∧
        (collectAssets tree c directory app extensions).outcome = .ok (assetsOf tree app visits).value) ∧
    (tree.isDirectory directory = .ok false →
      (collectAssets tree c directory app extensions).outcome = .ok []) ∧
    (∀ assets, (collectAssets tree c directory app extensions).outcome = .ok assets →
      (assets.map (·.path)).Nodup ∧ ∀ a ∈ assets, ∀ b ∈ assets, ∀ place,
        tree.locate a.path = .ok place → tree.locate b.path = .ok place → a.path ≠ b.path →
          tree.PassesLink directory a.path ∨ tree.PassesLink directory b.path) ∧
    ∀ (p : Project) (around : Surroundings) name given report, around.tree = tree →
      (p.analyze around name given).outcome = .ok report →
        ∃ session places, App.Session.create p.settings tree.cwd name given = .ok session ∧
          report.CountsPaths tree session.scan places := by
  refine ⟨fun wanted hDirectory hWanted => ?_, fun hNone => ?_, fun assets hAssets => ?_, ?_⟩
  · have hWalks := Files.exists_walks hNamed c wanted hDirectory
    refine ⟨_, fun others => ⟨fun hOthers => hOthers.unique hWalks, fun hSame => hSame ▸ hWalks⟩,
      fun visit hMem => hWalks.length_le hNamed hDirectory hMem, ?_⟩
    refine (Attempt.bind_eq_ok_iff _ _ _).mpr ⟨_, ?_, rfl⟩
    rw [Attempt.outcome_ofExcept, Files.walk_eq_ok_iff]
    exact .inl ⟨hDirectory, wanted, hWanted, rfl⟩
  · refine (Attempt.bind_eq_ok_iff _ _ _).mpr
      ⟨[.unreadable directory "not a directory".toList], ?_, rfl⟩
    rw [Attempt.outcome_ofExcept, Files.walk_eq_ok_iff]
    exact .inr ⟨hNone, rfl⟩
  · refine ⟨Files.nodup_collectAssets hDistinct hAssets, fun a hA b hB place hPlaceA hPlaceB hNe => ?_⟩
    by_contra hNone
    obtain ⟨hNoneA, hNoneB⟩ := not_or.mp hNone
    exact hNe (Files.eq_of_same_place hNamed hAssets hA hB hPlaceA hPlaceB hNoneA hNoneB)
  · rintro p around name given report rfl hReport
    exact exists_countsPaths hDistinct hNamed hReport

/-- A picture, and a link beside it that leads round to their directory over others: a path may go round
twice. -/
def wheelTree : Tree where
  root := .directory [("apps".toList, .directory [("web".toList, .directory (
    ("package.json".toList, .file []) :: ("src".toList, .directory [
      ("a.png".toList, .file [1, 2]), ("round".toList, .link "../0".toList)]) ::
    (List.range 19).map fun n =>
      (Text.ofNat n, .link (if n = 18 then "src".toList else Text.ofNat (n + 1)))))])]
  cwd := ⟨['/'], []⟩

theorem bytes_counted_by_path_wheel : ∃ visits assets report session places,
    Walks wheelTree shop.collector [".png".toList] (.ofText "/apps/web/src".toList)
      (.ofText "/apps/web/src".toList) visits ∧
    (collectAssets wheelTree shop.collector (.ofText "/apps/web/src".toList) (.ofText "/apps/web".toList)
      (.list [.text ".png".toList])).outcome = .ok assets ∧
    assets.map (·.relative) =
      ["src/round/round/a.png".toList, "src/round/a.png".toList, "src/a.png".toList] ∧
    (assets.map (·.path)).Nodup ∧
    (∀ a ∈ assets, ∀ b ∈ assets, a.path ≠ b.path →
      wheelTree.PassesLink (.ofText "/apps/web/src".toList) a.path ∨
        wheelTree.PassesLink (.ofText "/apps/web/src".toList) b.path) ∧
    (shop.analyze (quiet wheelTree) "web".toList none).outcome = .ok report ∧ report.assetBytes = 6 ∧
    App.Session.create shop.settings wheelTree.cwd "web".toList none = .ok session ∧
    report.CountsPaths wheelTree session.scan places := by
  have hProper : wheelTree.root.Proper := Files.Node.proper_of_isProper (by decide +kernel)
  have hNamed : wheelTree.root.Named := Files.Node.named_of_hasNames (by decide +kernel)
  have hDirectory : wheelTree.isDirectory (.ofText "/apps/web/src".toList) = .ok true := by decide +kernel
  obtain ⟨hEnds, -, hApart, hReports⟩ := bytes_counted_by_path
    (fun place entries hAt => (hProper place entries hAt).1) hNamed shop.collector
    (.ofText "/apps/web/src".toList) (.ofText "/apps/web".toList) (.list [.text ".png".toList])
  obtain ⟨visits, hVisits, -⟩ := hEnds [".png".toList] hDirectory rfl
  obtain ⟨assets, hAssets, hShown⟩ := Outcome.exists_of_toOption_map
    (f := fun assets : List Asset =>
      (assets.map (·.relative), assets.map fun a => (wheelTree.locate a.path).toOption))
    (x := (collectAssets wheelTree shop.collector (.ofText "/apps/web/src".toList)
      (.ofText "/apps/web".toList) (.list [.text ".png".toList])).outcome)
    (b := (["src/round/round/a.png".toList, "src/round/a.png".toList, "src/a.png".toList],
      List.replicate 3 (some (Text.splitOn '/' "apps/web/src/a.png".toList)))) (by decide +kernel)
  obtain ⟨hRelative, hPlaces⟩ := Prod.mk.inj hShown
  have hPlace : ∀ a ∈ assets,
      wheelTree.locate a.path = .ok (Text.splitOn '/' "apps/web/src/a.png".toList) := by
    intro a hMem
    have hSome : (wheelTree.locate a.path).toOption ∈
        List.replicate 3 (some (Text.splitOn '/' "apps/web/src/a.png".toList)) :=
      hPlaces ▸ List.mem_map_of_mem hMem
    exact Outcome.eq_ok_of_toOption (List.eq_of_mem_replicate hSome)
  obtain ⟨hOnce, hLinked⟩ := hApart assets hAssets
  obtain ⟨report, hReport, hBytes⟩ := Outcome.exists_of_toOption_map (f := Report.assetBytes)
    (x := (shop.analyze (quiet wheelTree) "web".toList none).outcome) (b := 6) (by decide +kernel)
  obtain ⟨session, places, hSession, hCounts⟩ :=
    hReports shop (quiet wheelTree) "web".toList none report rfl hReport
  exact ⟨visits, assets, report, session, places, (hVisits visits).mpr rfl, hAssets, hRelative, hOnce,
    fun a hA b hB hNe => hLinked a hA b hB _ (hPlace a hA) (hPlace b hB) hNe, hReport, hBytes, hSession,
    hCounts⟩

def forkTree : Tree where
  root := .directory [("apps".toList, .directory [("web".toList, .directory [
    ("package.json".toList, .file []), ("src".toList, .directory [
      ("a".toList, .link "b".toList),
      ("b".toList, .directory [("logo.png".toList, .file [1])])])])])]
  cwd := ⟨['/'], []⟩

/-- Neither path ends at a link, but both lead to one file, and its one byte is counted as two. -/
theorem file_counted_twice : ∃ (a b : Asset) (place : List Text) (report : Report),
    (collectAssets forkTree shop.collector (.ofText "/apps/web/src".toList) (.ofText "/apps/web".toList)
      (.list [.text ".png".toList])).outcome = .ok [a, b] ∧
    a.path ≠ b.path ∧ ¬forkTree.IsLink a.path ∧ ¬forkTree.IsLink b.path ∧
    forkTree.locate a.path = .ok place ∧ forkTree.locate b.path = .ok place ∧
    forkTree.bytesAt place = 1 ∧
    (shop.analyze (quiet forkTree) "web".toList none).outcome = .ok report ∧ report.assetBytes = 2 := by
  let a : Asset := ⟨.ofText "/apps/web/src/a/logo.png".toList, 1, "src/a/logo.png".toList⟩
  let b : Asset := ⟨.ofText "/apps/web/src/b/logo.png".toList, 1, "src/b/logo.png".toList⟩
  have hParent : ∀ x ∈ [a, b],
      forkTree.locate x.path.parent = .ok (Text.splitOn '/' "apps/web/src/b".toList) ∧
        x.path.name = "logo.png".toList := by
    decide +kernel
  have hNoLink : ∀ x ∈ [a, b], ¬forkTree.IsLink x.path := by
    rintro x hMem ⟨place, target, hLocate, hAt⟩
    obtain ⟨hPlace, hName⟩ := hParent x hMem
    obtain rfl := Except.ok.inj (hPlace.symm.trans hLocate)
    rw [hName] at hAt
    cases hAt
  obtain ⟨report, hReport, hBytes⟩ := Outcome.exists_of_toOption_map (f := Report.assetBytes)
    (x := (shop.analyze (quiet forkTree) "web".toList none).outcome) (b := 2) (by decide +kernel)
  exact ⟨a, b, Text.splitOn '/' "apps/web/src/b/logo.png".toList, report, by decide +kernel,
    by decide +kernel, hNoLink a (by simp), hNoLink b (by simp), by decide +kernel, by decide +kernel,
    by decide +kernel, hReport, hBytes⟩

end Project

end AssetAudit
