import AssetAudit.Usage.Sources

/-!
# Which sources refer to an asset

Reading the sources loads those that can be read and decoded, in their order. An asset has a
reference exactly when the text of one of them refers to it.
-/
namespace AssetAudit.Usage

def textOf? (tree : Files.Tree) (path : FilePath) : Option Text :=
  match tree.read path with
  | .ok data => (Text.ofUtf8 data).toOption.map Text.unifyLineEnds
  | .error _ => none

def Source.of (path : FilePath) (text : Text) : Source :=
  { path, text, fragments := Usage.fragments text }

def isReferred (tree : Files.Tree) (paths : List FilePath) (r : References) : Bool :=
  paths.any fun path => (textOf? tree path).any fun text => (Source.of path text).refersTo r

theorem isReferred_iff (tree : Files.Tree) (paths : List FilePath) (r : References) :
    isReferred tree paths r = true ↔
      ∃ path ∈ paths, ∃ text, textOf? tree path = some text ∧
        (Source.of path text).refersTo r = true := by
  simp [isReferred, Option.any_eq_true]

theorem loaded_readOne (tree : Files.Tree) (path : FilePath) (rest : Sources) :
    (Sources.readOne tree path rest).value.loaded =
      ((textOf? tree path).map (Source.of path)).toList ++ rest.loaded := by
  unfold Sources.readOne textOf?
  cases tree.read path with
  | error e => rfl
  | ok data =>
    dsimp only
    cases Text.ofUtf8 data with
    | error e => rfl
    | ok text => rfl

theorem loaded_read (tree : Files.Tree) (paths : List FilePath) :
    (Sources.read tree paths).value.loaded =
      paths.flatMap fun path => ((textOf? tree path).map (Source.of path)).toList := by
  induction paths with
  | nil => rfl
  | cons path rest ih =>
    rw [List.flatMap_cons, ← ih]
    exact loaded_readOne tree path (Sources.read tree rest).value

theorem isSome_reference? (tree : Files.Tree) (paths : List FilePath) (r : References) :
    ((Sources.read tree paths).value.reference? r).isSome = isReferred tree paths r := by
  unfold Sources.reference? isReferred
  rw [List.isSome_find?, loaded_read, List.any_flatMap]
  congr 1
  funext path
  cases textOf? tree path with
  | none => rfl
  | some text => exact Bool.or_false _

end AssetAudit.Usage
