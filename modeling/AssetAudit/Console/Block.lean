import AssetAudit.Console.Layout
import AssetAudit.Console.Table

/-!
# What a screen shows

A view is a list of blocks, printed one below the other: texts, tables, rules with a title and texts in
a frame. Printing ends at the first block with a mark that is wrong; what was printed before it stays.
-/
namespace AssetAudit.Console

def line (n : Nat) : Text :=
  List.replicate n '─'

def titled (width : Nat) (title : Text) : Text :=
  let title := title.crop width
  let excess := width - title.cells
  line (excess / 2) ++ title ++ line (excess - excess / 2)

/-- A text in a frame that is as wide as the text and its title need. -/
def panel (screen : Nat) (title text : Text) : List Text :=
  let title : Text := ' ' :: title ++ [' ']
  let room := screen - 2
  let wanted := if room < 3 then room else min (naturalWidth text + 2) room
  let inner := min room (max wanted (title.cells + 2))
  let top := if inner ≤ 2 then '╭' :: line inner ++ ['╮']
    else '╭' :: '─' :: titled (inner - 2) title ++ ['─', '╮']
  let lines := if inner ≤ 2 then [] else
    ({ width := inner - 2 : Layout }).lines text |>.map fun l => ' ' :: l.fit (inner - 2) ++ [' ']
  (top :: lines.map (fun l => '│' :: l ++ ['│']) ++ ['╰' :: line inner ++ ['╯']]).map
    (Text.crop screen)

def rule (screen : Nat) (title : Text) : Text :=
  let title := withoutTabs (Text.replaceChar '\n' ' ' title)
  if screen ≤ 4 then line screen
  else
    let title := title.ellipsis (screen - 4)
    let side := (screen - title.cells) / 2
    (line (side - 1) ++ ' ' :: title ++ ' ' :: line (side + 1)).fit screen

inductive Block where
  /-- A marked-up text. -/
  | text (s : Text)
  /-- A text without marks, in which pictures may be named. -/
  | plain (s : Text)
  /-- A text as it is. -/
  | verbatim (s : Text)
  | rule (title : Text)
  | table (t : Table)
  | panel (title : String) (s : Text)

def Block.empty : Block := .text []

def Block.lines (width : Nat) : Block → Except MarkupFault (List Text)
  | .text s => (marked s).map ({ width } : Layout).lines
  | .plain s => .ok (({ width } : Layout).lines (unmarked s))
  | .verbatim s => .ok (({ width } : Layout).lines (audible s))
  | .rule title => (marked title).map fun title => [Console.rule width title]
  | .table t => t.draw width
  | .panel title s => .ok (Console.panel width title.toList (audible s))

structure Printed where
  lines : List Text := []
  fault : Option MarkupFault := none

def print (width : Nat) : List Block → Printed
  | [] => {}
  | block :: rest =>
    match block.lines width with
    | .error fault => { fault := some fault }
    | .ok lines =>
      let printed := print width rest
      { printed with lines := lines ++ printed.lines }

def textOf (lines : List Text) : Text :=
  lines.flatMap (· ++ ['\n'])

end AssetAudit.Console
