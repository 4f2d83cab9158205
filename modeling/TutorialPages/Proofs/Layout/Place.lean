import TutorialPages.Proofs.Layout.Progress

/-!
# Where a fragment stands

The lines of a fragment stand together in the document, and all of them are text. A line that
settles a fragment either completes it, and is then the last line of the fragment, or it is the
directive line that comes right behind a block without a closing fence. In the order of the document
the fragments that earlier lines have settled come first.
-/

namespace TutorialPages

/-- Between the lines before and the lines behind it there are just the lines of the fragment, all
of them text. -/
structure Fragment.Stands (lines before : List Text) (fragment : Fragment) (after : List Text) :
    Prop where
  split : lines = before ++ fragment.lines ++ after
  text : ∀ line ∈ fragment.lines, Directive.isMarked line = false

theorem Fragment.Stands.length_eq {lines before after : List Text} {fragment : Fragment}
    (h : fragment.Stands lines before after) :
    lines.length = before.length + fragment.lines.length + after.length := by
  rw [h.split, List.length_append, List.length_append]

/-- The number is that of a line of the fragment, where these lines come before it. -/
def Fragment.HasLine (before : List Text) (fragment : Fragment) (number : Nat) : Prop :=
  before.length < number ∧ number ≤ before.length + fragment.lines.length

theorem Fragment.Stands.mem_of_hasLine {lines before after : List Text} {fragment : Fragment}
    {number : Nat} {line : Text} (h : fragment.Stands lines before after)
    (hnumber : fragment.HasLine before number) (hline : lines[number - 1]? = some line) :
    line ∈ fragment.lines := by
  obtain ⟨hlow, hhigh⟩ := hnumber
  -- the place lies behind the lines before and not behind those of the fragment
  rw [h.split, List.append_assoc, List.getElem?_append_right (by omega),
    List.getElem?_append_left (by omega)] at hline
  exact List.mem_of_getElem? hline

namespace Layout

/-- The fragments of all pages of a document. -/
def documentFragments (files : FileSource) (base : Path) (grouped : Bool) (lines : List Text) :
    List Fragment :=
  (pageBodies files base 1 lines).flatMap (PageBody.fragments grouped)

variable {files : FileSource} {base : Path} {grouped : Bool} {before : List Text} {line : Text}
  {body : PageBody} {fragment : Fragment} {block : Block}

/-! ## The place of a fragment -/

/-- A line that settles a fragment ends it, or is the directive line behind it. -/
theorem stands_of_mem_settledBy (hopen : openBody? files base 1 before = some body)
    (h : fragment ∈ body.settledBy grouped line) (after : List Text) :
    (fragment.isUnclosed = false ∧ fragment.lines.getLast? = some line ∧
        ∃ earlier, fragment.Stands (before ++ line :: after) earlier after) ∨
      (fragment.isUnclosed = true ∧ Directive.isMarked line = true ∧
        ∃ earlier, fragment.Stands (before ++ line :: after) earlier (line :: after)) := by
  cases hmarked : Directive.isMarked line with
  | true =>
    -- the block that has waited until now
    rw [PageBody.settledBy_of_isMarked hmarked, List.mem_map] at h
    obtain ⟨block, hblock, rfl⟩ := h
    have hpending := Option.mem_toList.mp hblock
    obtain ⟨earlier, hbefore, -, htext⟩ := PageBody.exists_eq_append_of_pending? hopen hpending
    refine .inr ⟨PageBody.isUnclosed_of_pending? hpending, rfl, earlier, ?_, htext⟩
    rw [hbefore]
    rfl
  | false =>
    refine .inl ?_
    cases hpending : body.pending? grouped with
    | some block =>
      -- the line closes the block
      obtain ⟨hcloses, rfl⟩ := PageBody.eq_of_mem_settledBy_of_some hmarked hpending h
      obtain ⟨earlier, hbefore, -, htext⟩ := PageBody.exists_eq_append_of_pending? hopen hpending
      refine ⟨?_, ?_, earlier, ?_, ?_⟩
      · show (block.concat line).isUnclosed = false
        rw [Block.isUnclosed_concat, hcloses, Bool.not_true, Bool.and_false]
      · show (block.lines ++ [line]).getLast? = some line
        exact List.getLast?_concat
      · show before ++ line :: after = earlier ++ (block.lines ++ [line]) ++ after
        rw [hbefore]
        simp
      · exact List.forall_mem_append.mpr ⟨htext, by simpa using hmarked⟩
    | none =>
      -- the line is a fragment by itself
      obtain rfl := PageBody.eq_of_mem_settledBy_of_none hpending h
      refine ⟨rfl, rfl, before, ?_, ?_⟩
      · simp [Fragment.lines]
      · simpa [Fragment.lines] using hmarked

/-! ## The order of the fragments -/

/-- What lines have settled, further lines do not take back. -/
theorem settledFragments_prefix_append (before after : List Text) :
    settledFragments files base grouped before <+:
      settledFragments files base grouped (before ++ after) := by
  induction after generalizing before with
  | nil => simp
  | cons line rest ih =>
    have hline : settledFragments files base grouped before <+:
        settledFragments files base grouped (before ++ [line]) := by
      rw [settledFragments_concat]
      exact List.prefix_append _ _
    rw [List.append_cons]
    exact hline.trans (ih (before ++ [line]))

/-- At the end of the document the block that waits is settled, too. -/
theorem documentFragments_eq (lines : List Text) :
    documentFragments files base grouped lines =
      settledFragments files base grouped lines ++
        (openBody? files base 1 lines).toList.flatMap fun body =>
          (body.pending? grouped).toList.map .block := by
  rw [documentFragments, pageBodies_eq, settledFragments]
  cases openBody? files base 1 lines with
  | none => simp
  | some body => simp [PageBody.fragments_eq]

/-- In the document the fragment that a line settles comes behind those that have been settled
before. -/
theorem exists_documentFragments_of_mem_settledBy
    (hopen : openBody? files base 1 before = some body)
    (h : fragment ∈ body.settledBy grouped line) (after : List Text) :
    ∃ later, documentFragments files base grouped (before ++ line :: after) =
      settledFragments files base grouped before ++ fragment :: later := by
  have hconcat : settledFragments files base grouped (before ++ [line]) =
      settledFragments files base grouped before ++ [fragment] := by
    rw [settledFragments_concat, hopen, Option.toList_some, List.flatMap_singleton,
      PageBody.settledBy_eq_of_mem h]
  have hprefix : settledFragments files base grouped before ++ [fragment] <+:
      documentFragments files base grouped (before ++ line :: after) := by
    rw [← hconcat, documentFragments_eq, List.append_cons before line after]
    exact (settledFragments_prefix_append _ after).trans (List.prefix_append _ _)
  obtain ⟨later, hlater⟩ := hprefix
  exact ⟨later, by rw [← hlater, List.append_assoc, List.singleton_append]⟩

end Layout

end TutorialPages
