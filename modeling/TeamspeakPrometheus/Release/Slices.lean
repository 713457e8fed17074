import TeamspeakPrometheus.Release.ChangelogSection

/-! The section is cut by the line numbers of the parser out of the lines of `str.splitlines`: when it
is the right slice. -/

namespace TeamspeakPrometheus.Release

open TeamspeakPrometheus.Python TeamspeakPrometheus.Library.Lines

def Clean (lines : List Text) : Prop := ∀ line ∈ lines, ∀ c ∈ line, isSeparator c = false

instance (lines : List Text) : Decidable (Clean lines) :=
  decidable_of_iff (lines.all (List.all · fun c => !isSeparator c) = true) (by simp [Clean])

/-- The lines from `start` to `stop`, as the parser numbers them. -/
def slice (changelog : Text) (start stop : ℕ) : List Text :=
  ((numberedLines changelog).take stop).drop start

/-- What lies where the slice should be, if each separator before it makes one more line. -/
def drifted (changelog : Text) (start stop : ℕ) : List Text :=
  let earlier := ((numberedLines changelog).take start).flatMap (List.splitOnP isSeparator)
  (earlier.drop start ++ slice changelog start stop).take (slice changelog start stop).length

def SliceReturned (md : MarkdownIt) (changelog version : Text) (start stop : ℕ) : Prop :=
  sectionOf md changelog version = .ok (joinLines (trimmed (slice changelog start stop)))

section Windows

variable {changelog : Text} {start stop : ℕ}

lemma clean_pieces (lines : List Text) : Clean (lines.flatMap (List.splitOnP isSeparator)) := by
  intro piece hpiece c hc
  obtain ⟨line, _, hcut⟩ := List.mem_flatMap.mp hpiece
  exact (mem_of_mem_splitOnP hcut hc).2

lemma Clean.pieces_eq {lines : List Text} (h : Clean lines) :
    lines.flatMap (List.splitOnP isSeparator) = lines :=
  flatMap_splitOnP_of_not h

lemma lineFeed_not_mem_slice : ∀ line ∈ slice changelog start stop, lineFeed ∉ line := by
  intro line hline
  exact lineFeed_not_mem_numberedLines (List.mem_of_mem_take (List.mem_of_mem_drop hline))

variable (changelog start stop) in
def window : List Text := ((splitlines changelog).take stop).drop start

lemma mem_window {line : Text} (h : line ∈ window changelog start stop) :
    line ∈ (numberedLines changelog).flatMap (List.splitOnP isSeparator) := by
  have hmem := List.mem_of_mem_take (List.mem_of_mem_drop h)
  rw [splitlines_eq, withoutFinalEmpty] at hmem
  split at hmem
  · exact List.mem_of_mem_dropLast hmem
  · exact hmem

lemma clean_window : Clean (window changelog start stop) := fun line hline =>
  clean_pieces _ line (mem_window hline)

lemma lineFeed_not_mem_window : ∀ line ∈ window changelog start stop, lineFeed ∉ line := by
  intro line hline
  exact lineFeed_not_mem_pieces (fun _ => lineFeed_not_mem_numberedLines) line (mem_window hline)

lemma take_append_slice (hle : start ≤ stop) :
    (numberedLines changelog).take start ++ slice changelog start stop =
      (numberedLines changelog).take stop := by
  have htake : (numberedLines changelog).take start =
      ((numberedLines changelog).take stop).take start := by
    rw [List.take_take, Nat.min_eq_left hle]
  rw [slice, htake, List.take_append_drop]

lemma length_slice (hlt : stop < (numberedLines changelog).length) :
    (slice changelog start stop).length = stop - start := by
  rw [slice, List.length_drop, List.length_take, Nat.min_eq_left hlt.le]

lemma window_eq (hle : start ≤ stop) (hlt : stop < (numberedLines changelog).length)
    (hclean : Clean (slice changelog start stop)) :
    window changelog start stop = drifted changelog start stop := by
  have hpieces : (numberedLines changelog).flatMap (List.splitOnP isSeparator) =
      ((numberedLines changelog).take start).flatMap (List.splitOnP isSeparator) ++
        slice changelog start stop ++
          ((numberedLines changelog).drop stop).flatMap (List.splitOnP isSeparator) := by
    conv_lhs => rw [← List.take_append_drop stop (numberedLines changelog), ← take_append_slice hle]
    rw [List.flatMap_append, List.flatMap_append, hclean.pieces_eq]
  have hearlier : ((numberedLines changelog).take start).length ≤
      (((numberedLines changelog).take start).flatMap (List.splitOnP isSeparator)).length :=
    length_le_length_flatMap_splitOnP isSeparator _
  rw [List.length_take, Nat.min_eq_left (by omega)] at hearlier
  have hall := length_le_length_flatMap_splitOnP isSeparator (numberedLines changelog)
  rw [window, splitlines_eq, take_withoutFinalEmpty (by omega), hpieces, List.drop_take,
    List.append_assoc, List.drop_append_of_le_length hearlier, ← List.append_assoc,
    List.take_append_of_le_length, drifted, length_slice hlt]
  rw [List.length_append, length_slice hlt]
  omega

lemma drifted_eq_slice (hclean : Clean ((numberedLines changelog).take start)) :
    drifted changelog start stop = slice changelog start stop := by
  rw [drifted, hclean.pieces_eq, List.drop_eq_nil_of_le (List.length_take_le _ _), List.nil_append,
    List.take_length]

end Windows

section Returned

variable {md : MarkdownIt} {changelog version next : Text} {before after : List VersionHeading}
  {first start stop last : ℕ}

lemma sliceReturned_iff
    (hheadings : versionHeadings (parse md changelog none).1 = before ++
      (removePrefix (text "v") version, some (first, start)) :: (next, some (stop, last)) :: after)
    (hbefore : ∀ heading ∈ before,
      heading.1 ≠ removePrefix (text "v") version ∧ heading.2.isSome) :
    SliceReturned md changelog version start stop ↔
      unclosedFences (parse md (joinLines (window changelog start stop)) none).1 = [] ∧
        trimmed (window changelog start stop) = trimmed (slice changelog start stop) := by
  have hstrip : stripLineFeeds (joinLines (window changelog start stop)) =
      joinLines (trimmed (window changelog start stop)) :=
    stripped_intercalate lineFeed_not_mem_window
  have hinj : joinLines (trimmed (window changelog start stop)) =
      joinLines (trimmed (slice changelog start stop)) ↔
        trimmed (window changelog start stop) = trimmed (slice changelog start stop) :=
    ⟨intercalate_trimmed_inj lineFeed_not_mem_window lineFeed_not_mem_slice,
      congrArg joinLines⟩
  rw [SliceReturned, sectionOf, hheadings, sectionFrom_between hbefore, sectionBody_eq_ok_iff,
    ← hinj, ← hstrip]
  rfl

lemma clean_of_trimmed_eq
    (h : trimmed (window changelog start stop) = trimmed (slice changelog start stop)) :
    Clean (slice changelog start stop) := by
  intro line hline c hc
  -- The line is not empty, so the section lacks it: all lines that are cut out are free of separators.
  have hmem : line ∈ trimmed (slice changelog start stop) :=
    mem_trimmed hline (List.ne_nil_of_mem hc)
  rw [← h] at hmem
  exact clean_window line (mem_of_mem_trimmed hmem) c hc

/-- The section is the slice between its heading and the next one exactly when no line of the slice
has a separator, and the separators before it do not move it onto other text. -/
theorem section_is_slice_iff
    (hheadings : versionHeadings (parse md changelog none).1 = before ++
      (removePrefix (text "v") version, some (first, start)) :: (next, some (stop, last)) :: after)
    (hbefore : ∀ heading ∈ before,
      heading.1 ≠ removePrefix (text "v") version ∧ heading.2.isSome)
    (hlines : start ≤ stop ∧ stop < last ∧ last ≤ (numberedLines changelog).length)
    (hclosed : unclosedFences (parse md (joinLines (slice changelog start stop)) none).1 = []) :
    (SliceReturned md changelog version start stop ↔
      Clean (slice changelog start stop) ∧
        trimmed (drifted changelog start stop) = trimmed (slice changelog start stop) ∧
        unclosedFences (parse md (joinLines (drifted changelog start stop)) none).1 = []) ∧
      (Clean ((numberedLines changelog).take stop) →
        SliceReturned md changelog version start stop) ∧
      slice changelog start last = slice changelog start stop ++ slice changelog stop last := by
  obtain ⟨hle, hlt, hend⟩ := hlines
  have hstop : stop < (numberedLines changelog).length := by omega
  have hiff : SliceReturned md changelog version start stop ↔
      Clean (slice changelog start stop) ∧
        trimmed (drifted changelog start stop) = trimmed (slice changelog start stop) ∧
        unclosedFences (parse md (joinLines (drifted changelog start stop)) none).1 = [] := by
    rw [sliceReturned_iff hheadings hbefore]
    constructor
    · rintro ⟨hfences, htrim⟩
      have hclean := clean_of_trimmed_eq htrim
      rw [window_eq hle hstop hclean] at hfences htrim
      exact ⟨hclean, htrim, hfences⟩
    · rintro ⟨hclean, htrim, hfences⟩
      rw [window_eq hle hstop hclean]
      exact ⟨hfences, htrim⟩
  refine ⟨hiff, fun hclean => ?_, ?_⟩
  · rw [← take_append_slice hle] at hclean
    have hdrifted : drifted changelog start stop = slice changelog start stop :=
      drifted_eq_slice fun line hline => hclean line (List.mem_append_left _ hline)
    rw [hiff, hdrifted]
    exact ⟨fun line hline => hclean line (List.mem_append_right _ hline), rfl, hclosed⟩
  · have hwhole : (numberedLines changelog).take start ++ slice changelog start last =
        (numberedLines changelog).take last := take_append_slice (hle.trans hlt.le)
    rw [← take_append_slice hlt.le, ← take_append_slice hle, List.append_assoc] at hwhole
    exact List.append_cancel_left hwhole

end Returned

section Samples

def cleanChangelog : Text := text "a\n\n## [1.1.0]\n\nnewer\n\n## [1.0.0]\n\nfirst\n"

def formFeedChangelog : Text := text "a\x0cb\n\n## [1.1.0]\n\nnewer\n\n## [1.0.0]\n\nfirst\n"

theorem section_is_slice_sample :
    SliceReturned plainMarkdown cleanChangelog (text "v1.1.0") 3 6 ∧
      joinLines (trimmed (slice cleanChangelog 3 6)) = text "newer" := by
  have hheadings : versionHeadings (parse plainMarkdown cleanChangelog none).1 = [] ++
      (removePrefix (text "v") (text "v1.1.0"), some (2, 3)) :: (text "1.0.0", some (6, 7)) :: [] :=
    by decide +kernel
  have hspec := section_is_slice_iff hheadings (fun _ h => (List.not_mem_nil h).elim)
    (by decide +kernel) (by decide +kernel)
  exact ⟨hspec.2.1 (by decide +kernel), by decide +kernel⟩

theorem section_drifts_after_form_feed :
    versionHeadings (parse plainMarkdown formFeedChangelog none).1 =
        [(text "1.1.0", some (2, 3)), (text "1.0.0", some (6, 7))] ∧
      unclosedFences (parse plainMarkdown (joinLines (slice formFeedChangelog 3 6)) none).1 = [] ∧
      joinLines (trimmed (slice formFeedChangelog 3 6)) = text "newer" ∧
      sectionOf plainMarkdown formFeedChangelog (text "1.1.0") =
        .ok (text "## [1.1.0]\n\nnewer") ∧
      ¬ SliceReturned plainMarkdown formFeedChangelog (text "1.1.0") 3 6 := by
  unfold SliceReturned
  decide +kernel

end Samples

end TeamspeakPrometheus.Release
