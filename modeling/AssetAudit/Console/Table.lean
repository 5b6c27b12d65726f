import AssetAudit.Console.Layout
import AssetAudit.Console.Markup
import AssetAudit.Decimal.Binary

/-!
# Tables

Columns are as wide as their texts need; when that is more than there is room for, the widest
columns that may be cut are made narrower. Lines are drawn around the table and between its
columns.
-/
namespace AssetAudit.Console

structure Stroke where
  left : Char
  stroke : Char
  cross : Char
  right : Char

/-- The lines of a table; `head` is below the headings, `side` and `inner` go beside the cells. -/
structure Frame where
  top : Stroke
  head : Stroke
  bottom : Stroke
  headSide : Char
  side : Char

def heavyHead : Frame where
  top := ⟨'┏', '━', '┳', '┓'⟩
  head := ⟨'┡', '━', '╇', '┩'⟩
  bottom := ⟨'└', '─', '┴', '┘'⟩
  headSide := '┃'
  side := '│'

def square : Frame where
  top := ⟨'┌', '─', '┬', '┐'⟩
  head := ⟨'├', '─', '┼', '┤'⟩
  bottom := ⟨'└', '─', '┴', '┘'⟩
  headSide := '│'
  side := '│'

structure Column where
  heading : String
  align : Align := .left
  wrap : Bool := true

/-- A table of marked-up texts; without headings it has the plain frame. -/
structure Table where
  title : Option String := none
  headings : Bool := true
  columns : List Column
  rows : List (List Text)

def cellPadding : Nat := 2

def wantedWidth (room : Nat) (text : Text) : Nat :=
  if room < cellPadding + 1 then room else min (naturalWidth text + cellPadding) room

def columnWidth (room : Nat) (texts : List Text) : Nat :=
  (texts.map (wantedWidth room)).foldl max 0

def sumOf (ns : List Nat) : Nat :=
  ns.foldl (· + ·) 0

/-- Take `total` away from values by ratios, from each at most its limit. -/
def takeAway (total weight : Nat) : List (Nat × Nat × Nat) → List Nat
  | [] => []
  | (ratio, limit, value) :: rest =>
    if ratio = 0 ∨ weight = 0 then value :: takeAway total weight rest
    else
      let part := min limit (Decimal.roundDiv (ratio * total) weight)
      (value - part) :: takeAway (total - part) (weight - ratio) rest

/-- Take `total` away from values by ratios; what has the limit zero is left alone. -/
def reduced (total : Nat) (shares : List (Nat × Nat × Nat)) : List Nat :=
  let shares := shares.map fun (ratio, limit, value) => (if limit = 0 then 0 else ratio, limit, value)
  let weight := sumOf (shares.map (·.1))
  if weight = 0 then shares.map (·.2.2) else takeAway total weight shares

/-- Make the widest columns that may be cut as narrow as the next ones, until all fit. -/
def narrowed (room : Nat) (cuttable : List Bool) : Nat → List Nat → List Nat
  | 0, widths => widths
  | steps + 1, widths =>
    let excess := sumOf widths - room
    let marked := widths.zip cuttable
    let widest := (marked.map fun (w, c) => if c then w else 0).foldl max 0
    let second := (marked.map fun (w, c) => if c && w != widest then w else 0).foldl max 0
    if excess = 0 ∨ widest = second then widths
    else
      let limit := min excess (widest - second)
      let shares := marked.map fun (w, c) => (if c && w == widest then 1 else 0, limit, w)
      narrowed room cuttable steps (reduced excess shares)

def columnWidths (room : Nat) (cuttable : List Bool) (texts : List (List Text)) : List Nat :=
  let widths := texts.map fun ts => max 1 (columnWidth room ts)
  if sumOf widths ≤ room then widths
  else
    let widths := if cuttable.any id then narrowed room cuttable (sumOf widths) widths else widths
    let widths := if sumOf widths ≤ room then widths
      else reduced (sumOf widths - room) (widths.map fun w => (1, w, w))
    (widths.zip texts).map fun (w, ts) => columnWidth w ts

def Stroke.draw (s : Stroke) (widths : List Nat) : Text :=
  s.left :: Text.join [s.cross] (widths.map fun w => List.replicate w s.stroke) ++ [s.right]

def cellLines (column : Column) (width : Nat) (text : Text) : List Text :=
  if width ≤ cellPadding then []
  else
    let layout : Layout :=
      { width := width - cellPadding, align := column.align, fold := false, wrap := column.wrap }
    (layout.lines text).map fun line => ' ' :: line.fit layout.width ++ [' ']

/-- Cells of equal height; what is missing is added above or below. -/
def levelled (below : Bool) (cells : List (List Text)) : List (List Text) :=
  let height := (cells.map List.length).foldl max 0
  cells.map fun lines =>
    let missing := List.replicate (height - lines.length) []
    let lines := if below then lines ++ missing else missing ++ lines
    if lines.isEmpty then [[]] else lines

def rowLines (side : Char) (widths : List Nat) (cells : List (List Text)) : List Text :=
  let height := (cells.map List.length).foldl max 0
  (List.range height).map fun i =>
    let parts := (widths.zip cells).map fun (w, lines) => (lines.getD i []).fit w
    side :: Text.join [side] parts ++ [side]

def drawRow (t : Table) (side : Char) (below : Bool) (widths : List Nat) (row : List Text) :
    List Text :=
  let cells := (t.columns.zip (widths.zip row)).map fun (c, w, text) => cellLines c w text
  rowLines side widths (levelled below cells)

/-- The printed texts of a table, by rows. Nothing is read where there is no room for it. -/
def Table.printed (t : Table) (room : Nat) : Except MarkupFault (List (List Text)) :=
  if room ≤ cellPadding then .ok (t.rows.map fun row => row.map fun _ => [])
  else t.rows.mapM fun row => row.mapM marked

def Table.draw (t : Table) (screen : Nat) : Except MarkupFault (List Text) := do
  let lines := t.columns.length + 1
  let rows ← t.printed (screen - lines)
  let headings := t.columns.map fun c => c.heading.toList
  let all := if t.headings then headings :: rows else rows
  let texts := t.columns.zipIdx.map fun c => all.map fun row => row.getD c.2 []
  let widths := columnWidths (screen - lines) (t.columns.map (·.wrap)) texts
  let frame := if t.headings then heavyHead else square
  let title := match t.title with
    | some title => ({ width := sumOf widths + lines, align := .center : Layout }).lines title.toList
    | none => []
  let head := if t.headings then
      drawRow t frame.headSide false widths headings ++ [frame.head.draw widths]
    else []
  let body := rows.flatMap (drawRow t frame.side true widths)
  return (title ++ frame.top.draw widths :: head ++ body ++ [frame.bottom.draw widths]).map
    (Text.crop screen)

end AssetAudit.Console
