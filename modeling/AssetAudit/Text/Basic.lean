import AssetAudit.Unicode.Blank

/-!
# Texts

A text is a list of characters, so that lengths and positions count code points. The module holds
the operations that every other module needs: trimming, cutting, joining and searching.
-/
namespace AssetAudit

abbrev Text := List Char

namespace Text

def ofNat (n : Nat) : Text :=
  Nat.toDigits 10 n

def ofInt : Int → Text
  | .ofNat n => ofNat n
  | .negSucc n => '-' :: ofNat (n + 1)

def hex (width n : Nat) : Text :=
  let digits := Nat.toDigits 16 n
  List.replicate (width - digits.length) '0' ++ digits

def isBlank (c : Char) : Bool :=
  Unicode.isBlank c.toNat

def trimLeftBy (p : Char → Bool) (s : Text) : Text :=
  s.dropWhile p

def trimRightBy (p : Char → Bool) (s : Text) : Text :=
  (s.reverse.dropWhile p).reverse

def trimBy (p : Char → Bool) (s : Text) : Text :=
  trimRightBy p (trimLeftBy p s)

def trim (s : Text) : Text :=
  trimBy isBlank s

def startsWith (s start : Text) : Bool :=
  start.isPrefixOf s

def endsWith (s tail : Text) : Bool :=
  tail.isSuffixOf s

def occursIn (needle : Text) : Text → Bool
  | [] => needle.isEmpty
  | c :: rest => needle.isPrefixOf (c :: rest) || occursIn needle rest

def replaceChar (old new : Char) (s : Text) : Text :=
  s.map fun c => if c == old then new else c

/-- The pieces between the separators; a text without separators is one piece. -/
def splitOn (sep : Char) : Text → List Text
  | [] => [[]]
  | c :: rest =>
    if c == sep then [] :: splitOn sep rest
    else match splitOn sep rest with
      | [] => [[c]]
      | piece :: pieces => (c :: piece) :: pieces

def words (s : Text) : List Text :=
  go [] s
where
  go (word : Text) : Text → List Text
    | [] => if word.isEmpty then [] else [word.reverse]
    | c :: rest =>
      if isBlank c then if word.isEmpty then go [] rest else word.reverse :: go [] rest
      else go (c :: word) rest

def join (sep : Text) : List Text → Text
  | [] => []
  | [s] => s
  | s :: rest => s ++ sep ++ join sep rest

/-- The lines of a text without their ends. A carriage return and a line feed are one line end,
and no empty line follows the last line end. -/
def lines (s : Text) : List Text :=
  go [] s
where
  go (line : Text) : Text → List Text
    | [] => if line.isEmpty then [] else [line.reverse]
    | '\r' :: '\n' :: rest => line.reverse :: go [] rest
    | c :: rest =>
      if Unicode.isLineEnd c.toNat then line.reverse :: go [] rest else go (c :: line) rest

/-- The order of texts: the first difference decides by code point. -/
def compare : Text → Text → Ordering
  | [], [] => .eq
  | [], _ :: _ => .lt
  | _ :: _, [] => .gt
  | a :: s, b :: t => (Ord.compare a.toNat b.toNat).then (compare s t)

def le (s t : Text) : Bool :=
  compare s t != .gt

def insertInOrder (t : Text) : List Text → List Text
  | [] => [t]
  | u :: rest => if le t u then t :: u :: rest else u :: insertInOrder t rest

def sort : List Text → List Text
  | [] => []
  | t :: rest => insertInOrder t (sort rest)

end Text

end AssetAudit
