import AssetAudit.Files.Tree
import AssetAudit.Notice
import AssetAudit.Usage.References

/-!
# Searching the sources

The sources of an app are read once; files that cannot be read are passed over with a notice. An
asset is used when the text of one of them refers to it.
-/
namespace AssetAudit.Usage

structure Source where
  path : FilePath
  text : Text
  fragments : List Fragment

structure Sources where
  loaded : List Source := []
  skipped : List FilePath := []

namespace Sources

def readOne (tree : Files.Tree) (path : FilePath) (rest : Sources) : Noted Sources :=
  match tree.read path with
  | .error e => ⟨{ rest with skipped := path :: rest.skipped },
      [.unreadableSource path.text e.message]⟩
  | .ok data =>
    match Text.ofUtf8 data with
    | .error e => ⟨{ rest with skipped := path :: rest.skipped },
        [.undecodableSource path.text e.message]⟩
    | .ok text =>
      let text := Text.unifyLineEnds text
      ⟨{ rest with loaded := ⟨path, text, fragments text⟩ :: rest.loaded }, []⟩

def read (tree : Files.Tree) : List FilePath → Noted Sources
  | [] => pure {}
  | path :: rest =>
    let after := read tree rest
    let first := readOne tree path after.value
    ⟨first.value, first.notices ++ after.notices⟩

end Sources

def Source.refersTo (source : Source) (r : References) : Bool :=
  r.searched.any (Text.occursIn · source.text) || References.inPlaceholder r.stem source.text ||
    source.fragments.any r.fitsFragment

def Sources.reference? (sources : Sources) (r : References) : Option Source :=
  sources.loaded.find? fun source => source.refersTo r

end AssetAudit.Usage
