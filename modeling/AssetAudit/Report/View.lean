import AssetAudit.Console.Block
import AssetAudit.Report.Basic
import AssetAudit.Unicode.Case
import AssetAudit.Whitelist.Compiled

/-!
# Reports on a screen

The views of one report, of the summary of all reports, and of what is told when no report can be
made.
-/
namespace AssetAudit

open Console (Block Column Table)

def heading (s : String) : Block :=
  .text ("\n[bold cyan]".toList ++ s.toList ++ "[/bold cyan]".toList)

namespace Report

def mostFindings : Nat := 20

def whitelistedView (r : Report) : List Block :=
  if r.whitelisted.isEmpty then []
  else
    .text ("[yellow]Skipped ".toList ++ Text.ofNat r.whitelisted.length ++
        " whitelisted asset(s):[/yellow]".toList) ::
      r.whitelisted.map fun path => .plain ("   - ".toList ++ path)

def assetRows (r : Report) : List (List Text) :=
  r.bySize.zipIdx.map fun a => [Text.ofNat (a.2 + 1), a.1.shown, a.1.sizeText]

def assetTable (r : Report) : Table where
  columns := [{ heading := "#", align := .right }, { heading := "Path" },
    { heading := "Size", align := .right }]
  rows := r.assetRows

/-- The unused assets from the largest to the smallest, and their size; none if it has no text. -/
def assetsView? (r : Report) : Option (List Block) :=
  if r.assets.isEmpty then
    some [heading "UNUSED ASSETS", .text "[green]No unused assets found![/green]".toList]
  else
    r.assetSize?.map fun size =>
      [heading "UNUSED ASSETS", .table r.assetTable,
        .text ("Total: [bold]".toList ++ Text.ofNat r.assets.length ++ "[/bold] assets | ".toList ++
          size)]

def itemView (item : Value × Nat) : Block :=
  .plain ("  ".toList ++ Text.ofNat (item.2 + 1) ++ ". ".toList ++ Findings.label item.1)

def categoryView (kind : Text) (items : List Value) : List Block :=
  if items.isEmpty then []
  else
    .text ("\n[magenta]".toList ++ kind ++ " (".toList ++ Text.ofNat items.length ++
        "):[/magenta]".toList) ::
      (items.take mostFindings).zipIdx.map itemView ++
      if mostFindings < items.length then
        [.text ("  ... and ".toList ++ Text.ofNat (items.length - mostFindings) ++ " more".toList)]
      else []

def findingsView (r : Report) : List Block :=
  heading "KNIP CODE ANALYSIS" ::
    if r.status = Status.skipped then
      [.text "[dim]Knip: skipped (enable with --knip)[/dim]".toList]
    else match r.findings.failure? with
      | some error => [.text ("[yellow]Knip: ".toList ++ error ++ "[/yellow]".toList)]
      | none =>
        if r.findings.total = 0 then
          [.text "[green]No unused files, deps, or exports[/green]".toList]
        else r.findings.categories.flatMap fun c => categoryView c.1 c.2

def title (r : Report) : Text :=
  "[bold cyan]CLEANUP REPORT: ".toList ++ Unicode.upper r.app ++ "[/bold cyan]".toList

def closing (r : Report) : List Block :=
  if r.total = 0 then [.text "\n[green]No cleanup needed![/green]".toList] else []

def view? (r : Report) : Option (List Block) :=
  r.assetsView?.map fun assets =>
    [Block.empty, .rule r.title] ++ r.whitelistedView ++ assets ++ r.findingsView ++ r.closing

end Report

namespace Reports

def summaryRow? (r : Report) : Option (List Text) :=
  r.assetSize?.map fun size =>
    [r.app, Text.ofNat r.assets.length, Text.ofNat r.findings.files.length,
      Text.ofNat r.dependencyCount, Text.ofNat r.exportCount, size]

def summaryTable (rows : List (List Text)) : Table where
  title := some "Summary"
  columns := [{ heading := "App", wrap := false }, { heading := "Assets", align := .right },
    { heading := "Files", align := .right }, { heading := "Deps", align := .right },
    { heading := "Exports", align := .right }, { heading := "Size", align := .right }]
  rows := rows

def byName (reports : Reports) : List Report :=
  reports.entries.mergeSort fun a b => Text.le a.app b.app

def totalText (t : Totals) (size : Text) : Text :=
  "\nTotal: ".toList ++ Text.ofNat t.assets ++ " assets, ".toList ++ Text.ofNat t.files ++
    " files, ".toList ++ Text.ofNat t.dependencies ++ " deps | ".toList ++ size

def view? (reports : Reports) : Option (List Block) :=
  if reports.entries.isEmpty then some []
  else do
    let rows ← reports.byName.mapM summaryRow?
    let size ← FileSize.format? reports.totals.bytes
    return [Block.empty, .table (summaryTable rows), .text (totalText reports.totals size)]

end Reports

namespace View

def usage (directory : FilePath) (apps : List Text) : List Block :=
  let anApp := (directory.child "<app-name>".toList).text
  .table {
      title := some "Usage"
      headings := false
      columns := [{ heading := "", wrap := false }, { heading := "" }]
      rows := [
        ["sweep".toList, "Analyze the current directory".toList],
        ["sweep <path>".toList, "Analyze a project by path".toList],
        ["sweep <app-name>".toList, "Analyze ".toList ++ anApp],
        ["sweep all".toList, "Analyze every app in the apps directory".toList]] } ::
    if apps.isEmpty then []
    else
      .text "[bold cyan]Available apps:[/bold cyan]".toList ::
        apps.map fun name => .text ("  - ".toList ++ name)

def rejected (patterns : List Whitelist.Rejected) : List Block :=
  .text "[bold red]Error:[/bold red] Invalid whitelist pattern(s):".toList ::
    patterns.map fun p => .plain ("  - ".toList ++ p.pattern ++ " (".toList ++ p.reason ++ [')'])

def error (message : Text) : List Block :=
  [.panel "Error" ("Error: ".toList ++ message)]

def success (message : Text) : List Block :=
  [.verbatim message]

end View

end AssetAudit
