import TeamspeakPrometheus.Library.Lines
import TeamspeakPrometheus.Python.Text

/-! Lines of a text: as `str.splitlines` cuts them, and as a parser numbers them that knows line
feeds alone. -/

namespace TeamspeakPrometheus.Python

open TeamspeakPrometheus.Library.Lines

def lineFeed : CodePoint := 10

def carriageReturn : CodePoint := 13

/-- The text after a carriage return (or not), CRLF and CR made line feeds. -/
def newlinesFrom : Bool → Text → Text
  | _, [] => []
  | afterReturn, c :: t =>
    if c = carriageReturn then lineFeed :: newlinesFrom true t
    else if c = lineFeed ∧ afterReturn = true then newlinesFrom false t
    else c :: newlinesFrom false t

def newlines (t : Text) : Text := newlinesFrom false t

/-- What ends a line for `str.splitlines` besides line feeds and carriage returns. -/
def isSeparator (c : CodePoint) : Bool :=
  decide (c.val = 0x0B ∨ c.val = 0x0C ∨ (0x1C ≤ c.val ∧ c.val ≤ 0x1E) ∨ c.val = 0x85 ∨
    c.val = 0x2028 ∨ c.val = 0x2029)

def withoutFinalEmpty (lines : List Text) : List Text :=
  if lines.getLast? = some [] then lines.dropLast else lines

def splitlines (t : Text) : List Text :=
  withoutFinalEmpty ((newlines t).splitOnP fun c => c == lineFeed || isSeparator c)

/-- The lines in the numbering of a parser that maps CRLF and CR to LF. -/
def numberedLines (t : Text) : List Text := (newlines t).splitOn lineFeed

def joinLines (lines : List Text) : Text := join [lineFeed] lines

/-- `t.strip('\n')` -/
def stripLineFeeds (t : Text) : Text := stripped lineFeed t

lemma splitlines_eq (t : Text) :
    splitlines t = withoutFinalEmpty ((numberedLines t).flatMap (List.splitOnP isSeparator)) := by
  rw [splitlines, splitOnP_or, numberedLines, List.splitOn_eq_splitOnP]

lemma lineFeed_not_mem_numberedLines {t line : Text} (h : line ∈ numberedLines t) :
    lineFeed ∉ line := by
  intro hmem
  rw [numberedLines, List.splitOn_eq_splitOnP] at h
  exact absurd (mem_of_mem_splitOnP h hmem).2 (by simp)

lemma lineFeed_not_mem_pieces {lines : List Text} (h : ∀ line ∈ lines, lineFeed ∉ line) :
    ∀ piece ∈ lines.flatMap (List.splitOnP isSeparator), lineFeed ∉ piece := by
  intro piece hpiece hmem
  obtain ⟨line, hline, hcut⟩ := List.mem_flatMap.mp hpiece
  exact h line hline (mem_of_mem_splitOnP hcut hmem).1

lemma take_withoutFinalEmpty {lines : List Text} {n : ℕ} (h : n < lines.length) :
    (withoutFinalEmpty lines).take n = lines.take n := by
  rw [withoutFinalEmpty]
  split
  · rw [List.dropLast_eq_take, List.take_take, Nat.min_eq_left (by omega)]
  · rfl

end TeamspeakPrometheus.Python
