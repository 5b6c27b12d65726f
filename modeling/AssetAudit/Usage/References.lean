import AssetAudit.Path.FilePath
import AssetAudit.Regex.Escape
import AssetAudit.Text.Basic
import AssetAudit.Unicode.Case
import AssetAudit.Unicode.Words

/-!
# What refers to an asset

The texts that count as a reference to an asset: its name, its stem, its path from the sources in
the usual spellings, a placeholder that holds the stem, and a template that could build the name. A
template such as `icons/hero-${size}.png` fixes some of the text around its placeholder; the text
behind a placeholder belongs to it alone.
-/
namespace AssetAudit.Usage

structure Fragment where
  before : Text
  behind : Text
  deriving DecidableEq, Repr

def isGlued (c : Char) : Bool :=
  c == '.' || c == '-' || Unicode.isWord c.toNat

def isEndless (c : Char) : Bool :=
  c != '\x7d'

/-- All placeholders with their glued text; `run` is the glued text just read, backwards. -/
def placeholders (run : Text) (found : List Fragment) : Text → List Fragment
  | [] => found.reverse
  | '$' :: '\x7b' :: rest =>
    match h : rest.dropWhile isEndless with
    | [] => found.reverse
    | _ :: after =>
      have : (after.dropWhile isGlued).length < rest.length + 2 := by
        have h₁ := (List.dropWhile_suffix isGlued (l := after)).length_le
        have h₂ := (List.dropWhile_suffix isEndless (l := rest)).length_le
        rw [h, List.length_cons] at h₂
        omega
      placeholders [] (⟨run.reverse, after.takeWhile isGlued⟩ :: found) (after.dropWhile isGlued)
  | c :: rest => placeholders (if isGlued c then c :: run else []) found rest
termination_by text => text.length

/-- The fragments that fix any text at all. -/
def fragments (source : Text) : List Fragment :=
  (placeholders [] [] source).filter fun f => !(f.before.isEmpty && f.behind.isEmpty)

structure References where
  name : Text
  stem : Text
  searched : List Text
  tokens : List Text
  deriving DecidableEq, Repr

def usualPrefixes : List Text :=
  ["src/".toList, "assets/".toList, "./assets/".toList, "/assets/".toList]

def keepFirst (texts : List Text) : List Text :=
  texts.foldl (fun kept t => if kept.contains t then kept else kept ++ [t]) []

def isPlainWord (c : Char) : Bool :=
  c.isAlphanum

/-- The maximal runs of ASCII letters and digits; `run` is the one just read, backwards. -/
def words (run : Text) : Text → List Text
  | [] => [run.reverse]
  | c :: rest => if isPlainWord c then words (c :: run) rest else run.reverse :: words [] rest

def shortestToken : Nat := 3

def tokensOf (stem : Text) : List Text :=
  keepFirst (((words [] stem).filter fun w => shortestToken ≤ w.length).map Unicode.lower)

namespace References

def of (cwd asset sources : FilePath) : References :=
  let name := asset.name
  let stem := Path.stem name
  let way := Path.relative cwd.text asset.text sources.text
  let plain := Path.toPosix way
  { name, stem
    searched := keepFirst
      (([name, stem, way, plain] ++ usualPrefixes.map (· ++ plain)).filter (!·.isEmpty))
    tokens := tokensOf stem }

/-- Is the text closed by a brace, with the stem before it? -/
def holdsStem (stem : Text) : Text → Bool
  | [] => false
  | c :: rest =>
    (stem.isPrefixOf (c :: rest) && ((c :: rest).drop stem.length).contains '\x7d') ||
      (c != '\x7d' && holdsStem stem rest)

def inPlaceholder (stem : Text) : Text → Bool
  | '$' :: '\x7b' :: rest => holdsStem stem rest || inPlaceholder stem rest
  | _ :: rest => inPlaceholder stem rest
  | [] => false

def placeholder (r : References) : Text :=
  "\\$\\\x7b[^\x7d]*".toList ++ Regex.escape r.stem ++ "[^\x7d]*\\\x7d".toList

/-- Could the template build the name, with one of the words of the stem in its fixed text? -/
def fitsFragment (r : References) (f : Fragment) : Bool :=
  f.before.length + f.behind.length < r.name.length &&
    (r.name.startsWith f.before && r.name.endsWith f.behind &&
      r.tokens.any fun token => token.occursIn (Unicode.lower (f.before ++ ' ' :: f.behind)))

end References

end AssetAudit.Usage
