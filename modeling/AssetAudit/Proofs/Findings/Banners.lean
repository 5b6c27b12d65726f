import AssetAudit.Findings.Basic
import AssetAudit.Proofs.Text.Lines

/-!
# Banners

Package managers print lines of their own before the report. Lines that open no document make no
difference to what is read, also when the text behind them begins with a line end or is no report. What
opens with its first line is read as a whole, with one kind of line end.
-/
namespace AssetAudit.Findings

variable {line t : Text} {rows : List Text}

def Opens (line : Text) : Prop :=
  ∃ c ∈ line.trim.head?, c = '\x7b' ∨ c = '['

theorem startsDocument_iff : startsDocument line = true ↔ Opens line := by
  unfold startsDocument Opens
  cases line.trim with
  | nil => simp
  | cons c rest => simp

instance : DecidablePred Opens :=
  fun _ => decidable_of_iff _ startsDocument_iff

/-- What a text reports when all of it is the document. -/
def reported (document : Text) : Except ReadError (Option Findings) :=
  match Json.read document with
  | .ok (.map report) => (ofReport report).map some
  | _ => .ok none

theorem documentLines_rows (hWhole : ∀ row ∈ rows, ∀ c ∈ row, Unicode.isLineEnd c.toNat = false)
    (hQuiet : ∀ row ∈ rows, ¬ Opens row) (t : Text) :
    documentLines (rows.flatMap (· ++ ['\n']) ++ t) = documentLines t := by
  have hSkipped : ∀ row ∈ rows, (!startsDocument row) = true := by
    intro row hMem
    rw [Bool.not_eq_true', Bool.eq_false_iff, ne_eq, startsDocument_iff]
    exact hQuiet row hMem
  rw [documentLines, Text.lines_rows hWhole, List.dropWhile_append_of_pos hSkipped, documentLines]

theorem documentLines_of_opens (h : ∀ first ∈ t.lines.head?, Opens first) :
    documentLines t = t.lines := by
  unfold documentLines
  cases hLines : t.lines with
  | nil => rfl
  | cons first others =>
    have hOpens : startsDocument first = true :=
      startsDocument_iff.mpr (h first (by rw [hLines]; rfl))
    rw [List.dropWhile_cons_of_neg (by simp [hOpens])]

theorem read?_of_opens (h : ∀ first ∈ t.lines.head?, Opens first) :
    read? t = reported (Text.relined t).trim := by
  rw [read?, document?, documentLines_of_opens h, ← Text.trim_join_lines]
  cases t.lines with
  | nil => rfl
  | cons first others =>
    dsimp only
    unfold reported
    cases Json.read (Text.join ['\n'] (first :: others)).trim with
    | error e => rfl
    | ok document => cases document <;> rfl

/-- Lines that open no document, each with a line feed behind it, may stand before any text: what is
read is the same. Behind them all of the text is the document once its first line opens one. -/
theorem banner_transparent (rows : List Text)
    (hWhole : ∀ row ∈ rows, ∀ c ∈ row, Unicode.isLineEnd c.toNat = false)
    (hQuiet : ∀ row ∈ rows, ¬ Opens row) (t : Text) :
    read? (rows.flatMap (· ++ ['\n']) ++ t) = read? t ∧
      ((∀ first ∈ t.lines.head?, Opens first) →
        read? (rows.flatMap (· ++ ['\n']) ++ t) = reported (Text.relined t).trim) := by
  have hSame : read? (rows.flatMap (· ++ ['\n']) ++ t) = read? t := by
    rw [read?, document?, documentLines_rows hWhole hQuiet]
    rfl
  refine ⟨hSame, fun hOpens => ?_⟩
  rw [hSame]
  exact read?_of_opens hOpens

def unusedFiles : Text :=
  "\x7b\n  \"files\": [\"src/unused.ts\", \"lib/b.ts\"]\r\n\x7d".toList

theorem banner_transparent_packages :
    read? ("Packages: +42\n\nProgress: [42]\n".toList ++ unusedFiles) = .ok (some {
      files := [.text "src/unused.ts".toList] }) := by
  have hWhole : ∀ row ∈ ["Packages: +42".toList, [], "Progress: [42]".toList], ∀ c ∈ row,
      Unicode.isLineEnd c.toNat = false := by
    simp [Unicode.isLineEnd]
  have hDocument := (banner_transparent _ hWhole (by decide) unusedFiles).2 (by decide)
  exact hDocument.trans rfl

/-- A count in brackets is no banner: the document is taken to begin there. -/
example : read? "[1/4]\n\x7b\x7d".toList = .ok none := by
  rfl

end AssetAudit.Findings
