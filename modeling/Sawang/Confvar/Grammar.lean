import Sawang.Confvar.Buffer
import Mathlib.Data.List.Basic

/-!
# The grammar of the configuration file

A comment runs from the first `#` to the end of the line.  What stands before it is
an entry if it has an `=` and something visible behind the first one.  The source
looks for the `=` before it looks for the `#`, so it also reads entries out of
comments; the first result says for which files it keeps to the grammar.  The
second one says that a list it has read is read back from its own text.
-/

namespace Sawang

open CString

/-! ## Entries by the grammar -/

def uncommented (line : List Char) : List Char := line.takeWhile (· ≠ '#')

def unblanked (text : List Char) : List Char := text.filter fun c => !isBlank c

def visible (text : List Char) : Bool := text.any fun c => !isBlank c

/-- What the grammar makes of a line. -/
def grammarEntry (line : List Char) : Option ConfVar :=
  match (uncommented line).dropWhile (· ≠ '=') with
  | [] => none
  | _ :: value =>
      if visible value then
        some ⟨unblanked ((uncommented line).takeWhile (· ≠ '=')), unblanked value⟩
      else none

def grammarEntries (content : List Char) : List ConfVar :=
  (fileLines content).filterMap grammarEntry

/-- The file without its comments. -/
def uncommentedFile (content : List Char) : List Char :=
  ['\n'].intercalate ((fileLines content).map uncommented)

/-- The value that the first line with the name gives it. -/
def grammarValue (content key : List Char) : Option (List Char) :=
  (fileLines content).findSome? fun line =>
    (grammarEntry line).bind fun p => if p.name = key then some p.value else none

/-- The configuration is read as the grammar says, and comments are inert. -/
structure ReadByGrammar (content : List Char) : Prop where
  entries : confvarCreate (some content) = grammarEntries content
  inert : confvarCreate (some content) = confvarCreate (some (uncommentedFile content))
  value : ∀ key, confvarValue (confvarCreate (some content)) key = grammarValue content key

/-- The first `=` of the line stands in its comment, with something visible behind it
before the next `#`. -/
def Misread (line : List Char) : Prop :=
  '#' ∈ line.takeWhile (· ≠ '=') ∧ visible (uncommented ((line.dropWhile (· ≠ '=')).drop 1))

instance (line : List Char) : Decidable (Misread line) :=
  inferInstanceAs (Decidable (_ ∧ _))

/-! ## One line -/

theorem unblanked_eq_nil_iff {text : List Char} : unblanked text = [] ↔ visible text = false := by
  simp [unblanked, visible]

theorem splitEntry_eq (name value : List Char) :
    splitEntry name value =
      if visible (uncommented value) then
        some ⟨unblanked (uncommented name), unblanked (uncommented value)⟩
      else none := by
  have same : squeezed value = unblanked (uncommented value) := rfl
  unfold splitEntry
  by_cases shown : visible (uncommented value) = true
  · have present : squeezed value ≠ [] := by
      rw [same, Ne, unblanked_eq_nil_iff]
      simp [shown]
    rw [if_neg present, if_pos shown]
    rfl
  · have none_ : squeezed value = [] := by
      rw [same, unblanked_eq_nil_iff]
      exact Bool.eq_false_iff.mpr shown
    rw [if_pos none_, if_neg shown]

theorem lineEntry_of_split {name value : List Char} (first : '=' ∉ name) :
    lineEntry (name ++ '=' :: value) = splitEntry name value := by
  unfold lineEntry
  rw [takeWhile_first first, dropWhile_first first]

private theorem uncommented_append {text : List Char} (rest : List Char)
    (plain : '#' ∉ text) : uncommented (text ++ rest) = text ++ uncommented rest :=
  List.takeWhile_append_of_pos (passed_of_not_mem plain)

private theorem uncommented_of_mem {text : List Char} (rest : List Char)
    (commented : '#' ∈ text) : uncommented (text ++ rest) = uncommented text := by
  obtain ⟨before, after, rfl, first⟩ := List.eq_append_cons_of_mem commented
  unfold uncommented
  rw [List.append_assoc, List.cons_append, takeWhile_first first, takeWhile_first first]

/-- The grammar on a line whose first `=` is no comment. -/
private theorem grammarEntry_of_split {name value : List Char} (first : '=' ∉ name)
    (plain : '#' ∉ name) : grammarEntry (name ++ '=' :: value) = splitEntry name value := by
  have text : uncommented (name ++ '=' :: value) = name ++ '=' :: uncommented value := by
    rw [uncommented_append _ plain]
    rfl
  have whole : uncommented name = name := takeWhile_absent plain
  unfold grammarEntry
  rw [text, takeWhile_first first, dropWhile_first first, splitEntry_eq, whole]

/-- The grammar on a line without an `=` before its comment. -/
private theorem grammarEntry_of_absent {line : List Char} (absent : '=' ∉ uncommented line) :
    grammarEntry line = none := by
  unfold grammarEntry
  rw [dropWhile_absent absent]

private theorem misread_iff_of_split {name value : List Char} (first : '=' ∉ name) :
    Misread (name ++ '=' :: value) ↔ '#' ∈ name ∧ visible (uncommented value) = true := by
  unfold Misread
  rw [takeWhile_first first, dropWhile_first first]
  rfl

/-- The line is read as the grammar says, or it is misread and the grammar has no
entry for it. -/
theorem lineEntry_cases (line : List Char) :
    (¬Misread line ∧ lineEntry line = grammarEntry line) ∨
      (Misread line ∧ grammarEntry line = none ∧ lineEntry line ≠ none) := by
  by_cases split : '=' ∈ line
  · obtain ⟨name, value, rfl, first⟩ := List.eq_append_cons_of_mem split
    rw [misread_iff_of_split first, lineEntry_of_split first]
    by_cases commented : '#' ∈ name
    · have absent : '=' ∉ uncommented (name ++ '=' :: value) := by
        rw [uncommented_of_mem _ commented]
        exact fun member => first ((List.takeWhile_prefix _).subset member)
      rw [grammarEntry_of_absent absent, splitEntry_eq]
      by_cases shown : visible (uncommented value) = true
      · exact Or.inr ⟨⟨commented, shown⟩, rfl, by simp [shown]⟩
      · exact Or.inl ⟨fun misread => shown misread.2, if_neg shown⟩
    · rw [grammarEntry_of_split first commented]
      exact Or.inl ⟨fun misread => commented misread.1, rfl⟩
  · have absent : '=' ∉ uncommented line :=
      fun member => split ((List.takeWhile_prefix _).subset member)
    refine Or.inl ⟨?_, ?_⟩
    · unfold Misread
      rw [dropWhile_absent split]
      exact fun misread => absurd misread.2 (by decide)
    · unfold lineEntry
      rw [dropWhile_absent split, grammarEntry_of_absent absent]

/-! ## The whole file -/

/-- Where `f` has more entries than `g`, the two lists differ. -/
private theorem filterMap_eq_iff {α β : Type} {f g : α → Option β} (items : List α)
    (cases_ : ∀ item, f item = g item ∨ g item = none ∧ f item ≠ none) :
    items.filterMap f = items.filterMap g ↔ ∀ item ∈ items, f item = g item := by
  have longer : ∀ rest : List α, (rest.filterMap g).length ≤ (rest.filterMap f).length := by
    intro rest
    induction rest with
    | nil => exact Nat.le_refl _
    | cons item rest inductionHypothesis =>
        rw [List.filterMap_cons, List.filterMap_cons]
        rcases cases_ item with same | ⟨absent, present⟩
        · rw [same]
          cases g item with
          | none => exact inductionHypothesis
          | some entry => exact Nat.succ_le_succ inductionHypothesis
        · obtain ⟨entry, found⟩ := Option.ne_none_iff_exists'.mp present
          rw [absent, found]
          exact Nat.le_succ_of_le inductionHypothesis
  constructor
  · intro equal
    induction items with
    | nil => simp
    | cons item rest inductionHypothesis =>
        rw [List.filterMap_cons, List.filterMap_cons] at equal
        rcases cases_ item with same | ⟨absent, present⟩
        · rw [List.forall_mem_cons]
          refine ⟨same, inductionHypothesis ?_⟩
          rw [same] at equal
          cases found : g item with
          | none =>
              rw [found] at equal
              exact equal
          | some entry =>
              rw [found] at equal
              exact (List.cons.inj equal).2
        · obtain ⟨entry, found⟩ := Option.ne_none_iff_exists'.mp present
          rw [absent, found] at equal
          have lengths := congrArg List.length equal
          have shorter := longer rest
          simp only [List.length_cons] at lengths
          omega
  · exact fun same => List.filterMap_congr same

private theorem grammarEntry_uncommented (line : List Char) :
    grammarEntry (uncommented line) = grammarEntry line := by
  have again : uncommented (uncommented line) = uncommented line :=
    takeWhile_absent (not_mem_takeWhile line '#')
  unfold grammarEntry
  rw [again]

private theorem not_misread_uncommented (line : List Char) : ¬Misread (uncommented line) := by
  intro misread
  have member := (List.takeWhile_prefix _).subset misread.1
  exact not_mem_takeWhile line '#' member

theorem confvarCreate_eq_grammarEntries_iff {content : List Char} (clean : nul ∉ content) :
    confvarCreate (some content) = grammarEntries content ↔
      ∀ line ∈ fileLines content, ¬Misread line := by
  have entries : confvarCreate (some content) = (fileLines content).filterMap lineEntry :=
    create_eq_filterMap clean
  unfold grammarEntries
  rw [entries, filterMap_eq_iff]
  · apply forall₂_congr
    intro line _
    rcases lineEntry_cases line with ⟨read, same⟩ | ⟨misread, absent, present⟩
    · exact iff_of_true same read
    · exact iff_of_false (fun same => present (same.trans absent)) (not_not.mpr misread)
  · intro line
    rcases lineEntry_cases line with ⟨_, same⟩ | ⟨_, absent, present⟩
    · exact Or.inl same
    · exact Or.inr ⟨absent, present⟩

theorem fileLines_uncommentedFile (content : List Char) :
    fileLines (uncommentedFile content) = (fileLines content).map uncommented := by
  apply List.splitOn_intercalate
  · intro text member
    obtain ⟨line, listed, rfl⟩ := List.mem_map.mp member
    exact fun ended => (mem_of_mem_fileLines listed).1 ((List.takeWhile_prefix _).subset ended)
  · simp [fileLines]

private theorem mem_intercalate {separator c : Char} {lists : List (List Char)}
    (member : c ∈ [separator].intercalate lists) :
    c = separator ∨ ∃ items ∈ lists, c ∈ items := by
  induction lists with
  | nil => simp at member
  | cons items rest inductionHypothesis =>
      cases rest with
      | nil => exact Or.inr ⟨items, List.mem_cons_self, by simpa using member⟩
      | cons next later =>
          rw [List.intercalate_cons_cons, List.append_assoc, List.mem_append,
            List.mem_append, List.mem_singleton] at member
          rcases member with own | separates | further
          · exact Or.inr ⟨items, List.mem_cons_self, own⟩
          · exact Or.inl separates
          · rcases inductionHypothesis further with separates | ⟨other, listed, has⟩
            · exact Or.inl separates
            · exact Or.inr ⟨other, List.mem_cons_of_mem _ listed, has⟩

theorem nul_not_mem_uncommentedFile {content : List Char} (clean : nul ∉ content) :
    nul ∉ uncommentedFile content := by
  intro member
  rcases mem_intercalate member with newline | ⟨text, mapped, has⟩
  · exact absurd newline (by decide)
  · obtain ⟨line, listed, rfl⟩ := List.mem_map.mp mapped
    exact clean ((mem_of_mem_fileLines listed).2 ((List.takeWhile_prefix _).subset has))

/-- Without its comments every file is read as the grammar says. -/
theorem confvarCreate_uncommentedFile {content : List Char} (clean : nul ∉ content) :
    confvarCreate (some (uncommentedFile content)) = grammarEntries content := by
  have lines : ∀ line ∈ fileLines (uncommentedFile content), ¬Misread line := by
    rw [fileLines_uncommentedFile, List.forall_mem_map]
    exact fun line _ => not_misread_uncommented line
  rw [(confvarCreate_eq_grammarEntries_iff (nul_not_mem_uncommentedFile clean)).mpr lines]
  unfold grammarEntries
  rw [fileLines_uncommentedFile, List.filterMap_map]
  exact List.filterMap_congr fun line _ => grammarEntry_uncommented line

/-- The first entry with a name is the entry of the first line with that name. -/
theorem confvarValue_grammarEntries (content key : List Char) :
    confvarValue (grammarEntries content) key = grammarValue content key := by
  unfold confvarValue grammarEntries grammarValue
  induction fileLines content with
  | nil => rfl
  | cons line rest inductionHypothesis =>
      rw [List.filterMap_cons, List.findSome?_cons]
      cases grammarEntry line with
      | none => exact inductionHypothesis
      | some p =>
          by_cases named : p.name = key
          · simp [named]
          · simpa [named] using inductionHypothesis

/-- A file is read as the grammar says exactly if no line is misread. -/
theorem readByGrammar_iff {content : List Char} (clean : nul ∉ content) :
    ReadByGrammar content ↔ ∀ line ∈ fileLines content, ¬Misread line := by
  rw [← confvarCreate_eq_grammarEntries_iff clean]
  constructor
  · exact ReadByGrammar.entries
  · intro entries
    refine ⟨entries, entries.trans (confvarCreate_uncommentedFile clean).symm, ?_⟩
    intro key
    rw [entries]
    exact confvarValue_grammarEntries content key

/-- An `=` in a comment is harmless with nothing behind it. -/
theorem readByGrammar_commented :
    ReadByGrammar "sawang = test # the name\n# key =\n\nq = a=b#c=d".toList :=
  (readByGrammar_iff (by decide)).mpr (by decide)

/-- A setting that is commented out is read under the empty name. -/
theorem not_readByGrammar : ¬∀ content, nul ∉ content → ReadByGrammar content := by
  intro always
  have entries := (always "# a=b".toList (by decide)).entries
  exact absurd entries (by decide)

/-! ## Rewriting -/

/-- One line `name=value` for each entry. -/
def rendered (head : List ConfVar) : List Char :=
  head.flatMap fun p => p.name ++ '=' :: p.value ++ ['\n']

/-- A text that squeezing leaves alone, without newline and NUL. -/
def Squeezed (text : List Char) : Prop :=
  ∀ c ∈ text, c ≠ '#' ∧ isBlank c = false ∧ c ≠ '\n' ∧ c ≠ nul

/-- The entries that the source can read. -/
structure ConfVar.Readable (p : ConfVar) : Prop where
  name : Squeezed p.name
  value : Squeezed p.value
  named : '=' ∉ p.name
  present : p.value ≠ []

theorem squeezed_eq_self {text : List Char} (plain : Squeezed text) : squeezed text = text := by
  induction text with
  | nil => rfl
  | cons c text inductionHypothesis =>
      obtain ⟨own, others⟩ := List.forall_mem_cons.mp plain
      rw [squeezed_kept text own.1 own.2.1, inductionHypothesis others]

theorem squeezed_squeezed {text : List Char} (unended : '\n' ∉ text) (clean : nul ∉ text) :
    Squeezed (squeezed text) := by
  intro c member
  obtain ⟨inside, plain, visible⟩ := mem_squeezed member
  refine ⟨plain, visible, ?_, ?_⟩
  · rintro rfl
    exact unended inside
  · rintro rfl
    exact clean inside

theorem readable_of_lineEntry {line : List Char} {p : ConfVar} (unended : '\n' ∉ line)
    (clean : nul ∉ line) (read : lineEntry line = some p) : p.Readable := by
  by_cases split : '=' ∈ line
  · obtain ⟨name, value, rfl, first⟩ := List.eq_append_cons_of_mem split
    rw [lineEntry_of_split first] at read
    unfold splitEntry at read
    split at read
    · cases read
    · rename_i present
      cases read
      rw [List.mem_append, List.mem_cons, not_or, not_or] at unended clean
      exact {
        name := squeezed_squeezed unended.1 clean.1
        value := squeezed_squeezed unended.2.2 clean.2.2
        named := fun member => first (mem_squeezed member).1
        present := present }
  · unfold lineEntry at read
    rw [dropWhile_absent split] at read
    cases read

/-- A readable entry is read from its own line. -/
theorem lineEntry_of_readable {p : ConfVar} (readable : p.Readable) :
    lineEntry (p.name ++ '=' :: p.value) = some p := by
  rw [lineEntry_of_split readable.named]
  unfold splitEntry
  rw [squeezed_eq_self readable.name, squeezed_eq_self readable.value,
    if_neg readable.present]

theorem filterMap_rendered {head : List ConfVar} (readable : ∀ p ∈ head, p.Readable) :
    (fileLines (rendered head)).filterMap lineEntry = head := by
  induction head with
  | nil => rfl
  | cons p head inductionHypothesis =>
      obtain ⟨own, others⟩ := List.forall_mem_cons.mp readable
      have unended : '\n' ∉ p.name ++ '=' :: p.value := by
        rw [List.mem_append, List.mem_cons]
        rintro (named | separates | valued)
        · exact (own.name _ named).2.2.1 rfl
        · exact absurd separates (by decide)
        · exact (own.value _ valued).2.2.1 rfl
      have lines : rendered (p :: head) = (p.name ++ '=' :: p.value) ++ '\n' :: rendered head := by
        simp [rendered]
      rw [lines, fileLines_of_newline unended, List.filterMap_cons,
        lineEntry_of_readable own, inductionHypothesis others]

theorem nul_not_mem_rendered {head : List ConfVar} (readable : ∀ p ∈ head, p.Readable) :
    nul ∉ rendered head := by
  intro member
  obtain ⟨p, listed, has⟩ := List.mem_flatMap.mp member
  have own := readable p listed
  rw [List.mem_append, List.mem_append, List.mem_cons, List.mem_singleton] at has
  rcases has with (named | separates | valued) | newline
  · exact (own.name _ named).2.2.2 rfl
  · exact absurd separates (by decide)
  · exact (own.value _ valued).2.2.2 rfl
  · exact absurd newline (by decide)

/-- What is read from a file is readable. -/
theorem readable_of_create {content : List Char} (clean : nul ∉ content) :
    ∀ p ∈ create content, p.Readable := by
  rw [create_eq_filterMap clean]
  intro p member
  obtain ⟨line, listed, read⟩ := List.mem_filterMap.mp member
  obtain ⟨unended, inside⟩ := mem_of_mem_fileLines listed
  exact readable_of_lineEntry unended (fun has => clean (inside has)) read

/-- A configuration that was read is read back from its own text. -/
theorem confvarCreate_rendered {content : List Char} (clean : nul ∉ content) :
    confvarCreate (some (rendered (confvarCreate (some content)))) =
      confvarCreate (some content) := by
  have readable := readable_of_create clean
  exact (create_eq_filterMap (nul_not_mem_rendered readable)).trans (filterMap_rendered readable)

/-- An empty name and a value with an `=` in it survive. -/
theorem confvarCreate_rendered_commented :
    confvarCreate (some (rendered (confvarCreate (some "# a = b=c # d\nsawang=test".toList)))) =
      [⟨[], "b=c".toList⟩, ⟨"sawang".toList, "test".toList⟩] :=
  (confvarCreate_rendered (by decide)).trans (by decide)

end Sawang
