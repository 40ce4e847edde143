import Sawang.Confvar

/-!
# The buffer holds the entry of the line

`squeeze_space` writes to the front of the text it reads and never before it has
read there.  So what the three functions leave in the buffer is what `lineEntry`
says, and `create` yields the entries of the lines of its file.
-/

namespace Sawang

open CString

/-! ## Squeezing -/

theorem isBlank_iff {c : Char} : isBlank c = true ↔ c = ' ' ∨ c = '\t' := by
  simp [isBlank]

@[simp]
theorem squeezed_nil : squeezed [] = [] := rfl

theorem squeezed_comment (rest : List Char) : squeezed ('#' :: rest) = [] := rfl

theorem squeezed_kept {c : Char} (rest : List Char) (text : c ≠ '#')
    (visible : isBlank c = false) : squeezed (c :: rest) = c :: squeezed rest := by
  simp [squeezed, text, visible]

theorem squeezed_blank {c : Char} (rest : List Char) (text : c ≠ '#')
    (blank : isBlank c = true) : squeezed (c :: rest) = squeezed rest := by
  simp [squeezed, text, blank]

theorem mem_squeezed {text : List Char} {c : Char} (member : c ∈ squeezed text) :
    c ∈ text ∧ c ≠ '#' ∧ isBlank c = false := by
  obtain ⟨taken, visible⟩ := List.mem_filter.mp member
  refine ⟨(List.takeWhile_prefix _).subset taken, ?_, by simpa using visible⟩
  simpa using List.mem_takeWhile_imp taken

private theorem exists_cons_of_append (gap : List Char) (c : Char) :
    ∃ head tail, gap ++ [c] = head :: tail ∧ tail.length = gap.length := by
  cases gap with
  | nil => exact ⟨c, [], rfl, rfl⟩
  | cons g gs => exact ⟨g, gs ++ [c], rfl, by simp⟩

/-- The loop has written `front` and reads `todo`; `gap` is what it passed without
keeping it. -/
private theorem squeezeSpaceLoop_append (todo : List Char) :
    ∀ (fuel : Nat) (front gap back : List Char), todo.length < fuel → nul ∉ todo →
      ∃ junk, squeezeSpaceLoop fuel (front ++ (gap ++ (todo ++ nul :: back)))
          (front.length + gap.length) front.length =
            front ++ (squeezed todo ++ nul :: (junk ++ back)) ∧
        (squeezed todo).length + junk.length = gap.length + todo.length := by
  induction todo with
  | nil =>
      intro fuel front gap back enough _
      obtain ⟨fuel, rfl⟩ := Nat.exists_eq_succ_of_ne_zero (Nat.ne_of_gt enough)
      obtain ⟨head, junk, split, length⟩ := exists_cons_of_append gap nul
      have reads : (front ++ (gap ++ nul :: back))[front.length + gap.length]? = some nul := by
        simp
      have block : front ++ (gap ++ nul :: back) = front ++ head :: (junk ++ back) := by
        rw [List.append_cons gap, split]
        rfl
      refine ⟨junk, ?_, by simpa using length⟩
      simp only [squeezeSpaceLoop, List.nil_append, reads, true_or, if_true, squeezed_nil]
      rw [block, set_length_append]
  | cons c todo inductionHypothesis =>
      intro fuel front gap back enough clean
      obtain ⟨fuel, rfl⟩ := Nat.exists_eq_succ_of_ne_zero (Nat.ne_of_gt (Nat.zero_lt_of_lt enough))
      rw [List.length_cons, Nat.succ_lt_succ_iff] at enough
      obtain ⟨notEnd, clean⟩ := List.ne_and_not_mem_of_not_mem_cons clean
      have reads : (front ++ (gap ++ (c :: todo ++ nul :: back)))[front.length + gap.length]? =
          some c := by
        simp
      obtain ⟨head, tail, split, length⟩ := exists_cons_of_append gap c
      have block : front ++ (gap ++ (c :: todo ++ nul :: back)) =
          front ++ head :: (tail ++ (todo ++ nul :: back)) := by
        rw [List.cons_append, List.append_cons gap, split]
        rfl
      simp only [squeezeSpaceLoop, reads, Ne.symm notEnd, false_or]
      by_cases comment : c = '#'
      · subst comment
        refine ⟨tail ++ (todo ++ [nul]), ?_, by simp [squeezed_comment, length]⟩
        rw [if_pos rfl, block, set_length_append, squeezed_comment]
        simp
      · rw [if_neg comment]
        by_cases visible : isBlank c = false
        · have kept : c ≠ ' ' ∧ c ≠ '\t' := by simpa [isBlank] using visible
          rw [if_pos kept, block, set_length_append, squeezed_kept _ comment visible]
          obtain ⟨junk, looped, lengths⟩ :=
            inductionHypothesis fuel (front ++ [c]) tail back enough clean
          refine ⟨junk, ?_, by simp only [List.length_cons]; omega⟩
          rw [List.length_append, List.length_singleton, length, List.append_assoc,
            Nat.add_right_comm] at looped
          exact looped.trans (List.append_assoc _ _ _)
        · have blank := Bool.of_not_eq_false visible
          have dropped : ¬(c ≠ ' ' ∧ c ≠ '\t') := by
            rcases isBlank_iff.mp blank with rfl | rfl <;> simp
          rw [if_neg dropped, squeezed_blank _ comment blank]
          obtain ⟨junk, looped, lengths⟩ :=
            inductionHypothesis fuel front (gap ++ [c]) back enough clean
          refine ⟨junk, ?_, by
            simp only [List.length_append, List.length_cons, List.length_nil] at lengths ⊢
            omega⟩
          rw [List.length_append, List.length_singleton, List.append_assoc] at looped
          exact looped

/-- The text behind `front` is squeezed, and what stands behind it stays in its
place. -/
theorem squeezeSpace_append (front text back : List Char) (clean : nul ∉ text) :
    ∃ junk, squeezeSpace (front ++ (text ++ nul :: back)) front.length =
        front ++ (squeezed text ++ nul :: (junk ++ back)) ∧
      (squeezed text).length + junk.length = text.length := by
  have enough : text.length < (front ++ (text ++ nul :: back)).length - front.length := by
    simp only [List.length_append, List.length_cons]
    omega
  obtain ⟨junk, looped, lengths⟩ :=
    squeezeSpaceLoop_append text _ front [] back enough clean
  exact ⟨junk, looped, by simpa using lengths⟩

/-! ## Parsing -/

/-- The block after its newline is cut. -/
private theorem terminate_newline {line : List Char} (clean : nul ∉ line) :
    ∃ junk, terminate (line ++ [nul]) (strchr (line ++ [nul]) 0 '\n') =
      line.takeWhile (· ≠ '\n') ++ nul :: junk := by
  have text : textAt (line ++ [nul]) 0 = line := textAt_zero clean
  by_cases ended : '\n' ∈ line
  · obtain ⟨before, after, rfl, first⟩ := List.eq_append_cons_of_mem ended
    rw [strchr_eq_some text first, takeWhile_first first, Nat.zero_add]
    refine ⟨after ++ [nul], ?_⟩
    rw [terminate, List.append_assoc, List.cons_append, set_length_append]
  · rw [strchr_eq_none (by rwa [text]), takeWhile_absent ended]
    exact ⟨[], rfl⟩

theorem parse_eq_lineEntry {line : List Char} (clean : nul ∉ line) :
    parse (line ++ [nul]) = lineEntry (line.takeWhile (· ≠ '\n')) := by
  obtain ⟨junk, cut⟩ := terminate_newline clean
  have cutClean : nul ∉ line.takeWhile (· ≠ '\n') :=
    fun member => clean ((List.takeWhile_prefix _).subset member)
  unfold parse
  simp only [cut]
  generalize line.takeWhile (· ≠ '\n') = text at cutClean
  have whole : textAt (text ++ nul :: junk) 0 = text := textAt_zero cutClean
  by_cases split : '=' ∈ text
  · obtain ⟨name, value, rfl, first⟩ := List.eq_append_cons_of_mem split
    have nameClean : nul ∉ name := fun member => cutClean (List.mem_append_left _ member)
    have valueClean : nul ∉ value :=
      fun member => cutClean (List.mem_append_right _ (List.mem_cons_of_mem _ member))
    have halves : (name ++ '=' :: value ++ nul :: junk).set name.length nul =
        name ++ nul :: (value ++ nul :: junk) := by
      rw [List.append_assoc, List.cons_append, set_length_append]
    obtain ⟨nameJunk, nameSqueezed, nameLength⟩ :=
      squeezeSpace_append [] name (value ++ nul :: junk) nameClean
    -- what the name leaves in front of the value keeps its length
    have front : (squeezed name ++ nul :: nameJunk).length = name.length + 1 := by
      simp only [List.length_append, List.length_cons]
      omega
    obtain ⟨valueJunk, valueSqueezed, _⟩ :=
      squeezeSpace_append (squeezed name ++ nul :: nameJunk) value junk valueClean
    rw [front, List.append_assoc, List.cons_append] at valueSqueezed
    have nameText : nul ∉ squeezed name := fun member => nameClean (mem_squeezed member).1
    have valueText : nul ∉ squeezed value := fun member => valueClean (mem_squeezed member).1
    rw [strchr_eq_some whole first]
    simp only [Nat.zero_add, halves]
    rw [show squeezeSpace (name ++ nul :: (value ++ nul :: junk)) 0 = _ from nameSqueezed,
      List.nil_append, valueSqueezed]
    have key : textAt (squeezed name ++ nul :: nameJunk ++
        (squeezed value ++ nul :: (valueJunk ++ junk))) 0 = squeezed name := by
      rw [List.append_assoc]
      exact textAt_zero nameText
    have val : textAt (squeezed name ++ nul :: nameJunk ++
        (squeezed value ++ nul :: (valueJunk ++ junk))) (name.length + 1) = squeezed value := by
      rw [← front]
      exact textAt_append valueText
    unfold strlen lineEntry splitEntry
    rw [key, val, takeWhile_first first, dropWhile_first first]
    by_cases empty : squeezed value = []
    · simp [empty]
    · simp [empty, List.length_pos_iff]
  · rw [strchr_eq_none (by rwa [whole])]
    unfold lineEntry
    rw [dropWhile_absent split]

/-! ## The lines of a file -/

def fileLines (content : List Char) : List (List Char) := content.splitOn '\n'

theorem fileLines_of_newline {line rest : List Char} (unended : '\n' ∉ line) :
    fileLines (line ++ '\n' :: rest) = line :: fileLines rest :=
  List.splitOn_append_cons_self_of_not_mem unended rest

theorem fileLines_of_end {line : List Char} (unended : '\n' ∉ line) :
    fileLines line = [line] :=
  List.splitOn_eq_singleton unended

/-- A file is one line without a newline, or a line and the rest behind its newline. -/
theorem fileLines_induction {motive : List Char → Prop} (content : List Char)
    (ends : ∀ line, '\n' ∉ line → motive line)
    (continues : ∀ line rest, '\n' ∉ line → motive rest → motive (line ++ '\n' :: rest)) :
    motive content := by
  by_cases ended : '\n' ∈ content
  · obtain ⟨line, rest, rfl, first⟩ := List.eq_append_cons_of_mem ended
    exact continues line rest first (fileLines_induction rest ends continues)
  · exact ends content ended
termination_by content.length

/-- A line has no newline, and no character that the file does not have. -/
theorem mem_of_mem_fileLines {content line : List Char}
    (member : line ∈ fileLines content) : '\n' ∉ line ∧ line ⊆ content := by
  induction content using fileLines_induction with
  | ends only unended =>
      rw [fileLines_of_end unended, List.mem_singleton] at member
      rw [member]
      exact ⟨unended, List.Subset.refl _⟩
  | continues first rest unended inductionHypothesis =>
      rw [fileLines_of_newline unended, List.mem_cons] at member
      rcases member with rfl | later
      · exact ⟨unended, List.subset_append_left _ _⟩
      · obtain ⟨apart, inside⟩ := inductionHypothesis later
        exact ⟨apart, fun c has => List.mem_append_right _ (List.mem_cons_of_mem _ (inside has))⟩

private theorem getline_of_newline {line rest : List Char} (unended : '\n' ∉ line) :
    getline (line ++ '\n' :: rest) = some (line ++ ['\n'], rest) := by
  unfold getline
  rw [dropWhile_first unended, takeWhile_first unended]
  cases line <;> rfl

private theorem getline_of_end {line : List Char} (unended : '\n' ∉ line)
    (more : line ≠ []) : getline line = some (line, []) := by
  cases line with
  | nil => exact absurd rfl more
  | cons c cs =>
      unfold getline
      rw [dropWhile_absent unended]

private theorem createLoop_eq (fuel : Nat) :
    ∀ content : List Char, content.length ≤ fuel → nul ∉ content →
      createLoop fuel content = (fileLines content).filterMap lineEntry := by
  induction fuel with
  | zero =>
      intro content enough _
      rw [List.length_eq_zero_iff.mp (Nat.le_zero.mp enough)]
      rfl
  | succ fuel inductionHypothesis =>
      intro content enough clean
      by_cases empty : content = []
      · subst empty
        rfl
      · by_cases ended : '\n' ∈ content
        · obtain ⟨line, rest, rfl, first⟩ := List.eq_append_cons_of_mem ended
          have lineClean : nul ∉ line ++ ['\n'] := by
            intro member
            rw [List.append_cons] at clean
            exact clean (List.mem_append_left _ member)
          have restClean : nul ∉ rest :=
            fun member => clean (List.mem_append_right _ (List.mem_cons_of_mem _ member))
          have shorter : rest.length ≤ fuel := by
            simp only [List.length_append, List.length_cons] at enough
            omega
          have entry := parse_eq_lineEntry lineClean
          rw [takeWhile_first first] at entry
          rw [createLoop, getline_of_newline first, fileLines_of_newline first,
            List.filterMap_cons]
          simp only [entry, inductionHypothesis rest shorter restClean]
          cases lineEntry line <;> rfl
        · have entry := parse_eq_lineEntry clean
          rw [takeWhile_absent ended] at entry
          have done : createLoop fuel [] = [] := by cases fuel <;> rfl
          rw [createLoop, getline_of_end ended empty, fileLines_of_end ended,
            List.filterMap_cons]
          simp only [entry, done]
          cases lineEntry content <;> rfl

/-- The entries of a file are those of its lines. -/
theorem create_eq_filterMap {content : List Char} (clean : nul ∉ content) :
    create content = (fileLines content).filterMap lineEntry :=
  createLoop_eq _ content (Nat.le_refl _) clean

end Sawang
