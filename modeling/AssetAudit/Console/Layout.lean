import AssetAudit.Text.Basic
import AssetAudit.Unicode.Cells

/-!
# Laying out texts

The width of a text is the number of cells that its characters take on a screen. A text is cut into
lines of a given width, between words where that can be. Words that are too long are cut too, or end
in dots; half a character becomes a blank.
-/
namespace AssetAudit

namespace Text

def cells : Text → Nat
  | [] => 0
  | c :: rest => Unicode.cells c.toNat + cells rest

def blanks (n : Nat) : Text :=
  List.replicate n ' '

def cut (width : Nat) : Text → Text
  | [] => []
  | c :: rest =>
    let n := Unicode.cells c.toNat
    if n ≤ width then c :: cut (width - n) rest else []

/-- The beginning of a text that fills a width, looked for by halving the places between two
bounds. When characters without a cell end it, halving decides how many of them belong to it. -/
def cutBetween (width : Nat) (s : Text) : Nat → Nat → Nat → Text
  | 0, _, _ => s.cut width ++ blanks (width - (s.cut width).cells)
  | steps + 1, start, stop =>
    let middle := (start + stop) / 2
    let before : Text := s.take (middle + 1)
    let n := cells before
    if n = width + 1 ∧ cells (before.drop middle) = 2 then before.dropLast ++ [' ']
    else if n = width then before
    else if width < n then cutBetween width s steps start middle
    else cutBetween width s steps middle stop

def fit (width : Nat) (s : Text) : Text :=
  if width = 0 then []
  else if s.cells = width then s
  else if s.cells < width then s ++ blanks (width - s.cells)
  else cutBetween width s s.length 0 s.length

def padRight (width : Nat) (s : Text) : Text :=
  s ++ blanks (width - s.cells)

def padLeft (width : Nat) (s : Text) : Text :=
  blanks (width - s.cells) ++ s

def crop (width : Nat) (s : Text) : Text :=
  if width < s.cells then s.fit width else s

/-- Cut what is beyond a width and show by dots that something is missing. -/
def ellipsis (width : Nat) (s : Text) : Text :=
  if width < s.cells then s.fit (width - 1) ++ ['…'] else s

def chop (width : Nat) (s : Text) : List Text :=
  go [] 0 s
where
  go (piece : Text) (used : Nat) : Text → List Text
    | [] => [piece.reverse]
    | c :: rest =>
      let n := Unicode.cells c.toNat
      if width < used + n then piece.reverse :: go [c] n rest
      else go (c :: piece) (used + n) rest

end Text

end AssetAudit

namespace AssetAudit.Console

inductive Align where
  /-- Lines keep their own width. -/
  | free
  | left
  | center
  | right
  deriving DecidableEq, Repr

structure Layout where
  width : Nat
  align : Align := .free
  /-- Are long words cut, instead of ending in dots? -/
  fold : Bool := true
  wrap : Bool := true
  deriving DecidableEq, Repr

/-- Words with the blanks behind them; blanks in front go with the first word. -/
def words (s : Text) : List Text :=
  match s with
  | [] => []
  | _ =>
    let lead := s.takeWhile Text.isBlank
    go lead.reverse false (s.drop lead.length)
where
  go (word : Text) (ended : Bool) : Text → List Text
    | [] => if word.all Text.isBlank then [] else [word.reverse]
    | c :: rest =>
      if Text.isBlank c then go (c :: word) true rest
      else if ended then word.reverse :: go [c] false rest
      else go (c :: word) false rest

/-- Lines while they are filled: the finished ones, the last first, and the current one. -/
structure Lines where
  done : List Text := []
  line : Text := []
  used : Nat := 0

namespace Lines

/-- Begin a new line, unless nothing was written yet. -/
def break_ (l : Lines) : Lines :=
  if l.done.isEmpty && l.line.isEmpty then { l with used := 0 }
  else { done := l.line :: l.done, line := [], used := 0 }

def write (l : Lines) (s : Text) : Lines :=
  { l with line := l.line ++ s, used := l.used + s.cells }

def addWord (layout : Layout) (l : Lines) (word : Text) : Lines :=
  let n := (Text.trimRightBy Text.isBlank word).cells
  if l.used + n ≤ layout.width then l.write word
  else if layout.width < n && layout.fold then
    (word.chop layout.width).foldl (fun l piece => l.break_.write piece) l
  else l.break_.write word

def all (l : Lines) : List Text :=
  (l.line :: l.done).reverse

end Lines

def wrapLine (layout : Layout) (s : Text) : List Text :=
  if s.all Text.isBlank then [s]
  else ((words s).foldl (Lines.addWord layout) {}).all

/-- Leave out blanks at the end of a text that has too many characters. -/
def trimEnd (width : Nat) (s : Text) : Text :=
  let blank := (s.reverse.takeWhile Text.isBlank).length
  s.take (s.length - min blank (s.length - width))

def cutLine (layout : Layout) (s : Text) : Text :=
  if layout.fold then s.crop layout.width else s.ellipsis layout.width

def alignLine (layout : Layout) (s : Text) : Text :=
  let bare := cutLine layout (Text.trimRightBy Text.isBlank s)
  match layout.align with
  | .free => s
  | .left => (cutLine layout s).padRight layout.width
  | .center => (bare.padLeft (bare.cells + (layout.width - bare.cells) / 2)).padRight layout.width
  | .right => bare.padLeft layout.width

/-- Tabs become blanks up to the next multiple of eight. -/
def withoutTabs (s : Text) : Text :=
  go 0 s
where
  go (used : Nat) : Text → Text
    | [] => []
    | c :: rest =>
      if c == '\t' then
        let n := 8 - used % 8
        Text.blanks n ++ go (used + n) rest
      else c :: go (used + Unicode.cells c.toNat) rest

def Layout.lines (layout : Layout) (s : Text) : List Text :=
  (Text.splitOn '\n' s).flatMap fun line =>
    let line := withoutTabs line
    let cut := if layout.wrap then wrapLine layout line else [line]
    cut.map fun piece => cutLine layout (alignLine layout (trimEnd layout.width piece))

def naturalWidth (s : Text) : Nat :=
  ((Text.lines s).map Text.cells).foldl max 0

end AssetAudit.Console
