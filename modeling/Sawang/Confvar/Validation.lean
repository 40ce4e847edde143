import Sawang.Confvar.Grammar

/-!
# Accepted configurations

A file is accepted just if each mandatory key has a line of its own, and the message
about any other file names the first key without one.  The first line of a key decides,
so lines added at the end change nothing that is set already.
-/

namespace Sawang

open CString

/-- A line of the file sets the key. -/
def Sets (content key : List Char) : Prop :=
  ∃ line ∈ fileLines content, ∃ value, lineEntry line = some ⟨key, value⟩

/-- What `confvar_validate` makes of a file. -/
inductive Validated (content : List Char) : Except (List Char) (List ConfVar) → Prop
  | accepted (complete : ∀ key ∈ mandatory, Sets content key) :
      Validated content (.ok ((fileLines content).filterMap lineEntry))
  | empty (nothing : ∀ key, ¬Sets content key) :
      Validated content (.error "invalid configuration file content".toList)
  | missing {before after : List (List Char)} {key : List Char}
      (split : mandatory = before ++ key :: after)
      (there : ∀ earlier ∈ before, Sets content earlier) (absent : ¬Sets content key)
      (something : ∃ other, Sets content other) :
      Validated content (.error ("configuration file does not have key ".toList ++ key))

theorem confvarValue_create_eq_none {content : List Char} (clean : nul ∉ content)
    (key : List Char) : confvarValue (create content) key = none ↔ ¬Sets content key := by
  unfold confvarValue Sets
  rw [Option.map_eq_none_iff, List.find?_eq_none, create_eq_filterMap clean]
  constructor
  · rintro unset ⟨line, member, value, entry⟩
    exact unset _ (List.mem_filterMap.mpr ⟨line, member, entry⟩) (decide_eq_true rfl)
  · intro unset entry listed named
    obtain ⟨line, member, read⟩ := List.mem_filterMap.mp listed
    obtain ⟨name, value⟩ := entry
    obtain rfl := of_decide_eq_true named
    exact unset ⟨line, member, value, read⟩

/-- No mandatory key is too long for the buffer, and none is empty. -/
theorem take_mandatory {key : List Char} (asked : key ∈ mandatory) :
    key.take (buflen - 1) = key ∧ 0 < key.length := by
  revert key
  decide

theorem confvarAbsent_of_missing {content : List Char} (clean : nul ∉ content)
    {before after : List (List Char)} {key : List Char}
    (split : mandatory = before ++ key :: after)
    (there : ∀ earlier ∈ before, Sets content earlier) (absent : ¬Sets content key) :
    confvarAbsent (create content) = key := by
  have asked : key ∈ mandatory := by
    rw [split]
    exact List.mem_append_right _ List.mem_cons_self
  have found : mandatory.find? (fun key => confvarValue (create content) key = none) =
      some key := by
    rw [List.find?_eq_some_iff_append]
    refine ⟨decide_eq_true ((confvarValue_create_eq_none clean key).mpr absent), before, after,
      split, fun earlier member => ?_⟩
    have set := there earlier member
    simp [confvarValue_create_eq_none clean, set]
  unfold confvarAbsent
  rw [found]
  exact (take_mandatory asked).1

/-- The first mandatory key without a line, if there is one. -/
theorem exists_missing {content : List Char} (keys : List (List Char))
    (incomplete : ¬∀ key ∈ keys, Sets content key) :
    ∃ before key after, keys = before ++ key :: after ∧
      (∀ earlier ∈ before, Sets content earlier) ∧ ¬Sets content key := by
  induction keys with
  | nil => exact absurd (fun key member => absurd member List.not_mem_nil) incomplete
  | cons head rest inductionHypothesis =>
      by_cases set : Sets content head
      · have later : ¬∀ key ∈ rest, Sets content key := fun complete =>
          incomplete (List.forall_mem_cons.mpr ⟨set, complete⟩)
        obtain ⟨before, key, after, rfl, there, absent⟩ := inductionHypothesis later
        exact ⟨head :: before, key, after, rfl, List.forall_mem_cons.mpr ⟨set, there⟩, absent⟩
      · exact ⟨[], head, rest, rfl, nofun, set⟩

theorem create_eq_nil_iff {content : List Char} (clean : nul ∉ content) :
    create content = [] ↔ ∀ key, ¬Sets content key := by
  rw [create_eq_filterMap clean, List.filterMap_eq_nil_iff]
  constructor
  · rintro nothing key ⟨line, member, value, read⟩
    rw [nothing line member] at read
    cases read
  · intro nothing line member
    cases read : lineEntry line with
    | none => rfl
    | some entry => exact absurd ⟨line, member, entry.value, read⟩ (nothing entry.name)

theorem confvarValidate_of_complete {content : List Char} (clean : nul ∉ content)
    (complete : ∀ key ∈ mandatory, Sets content key) :
    confvarValidate (some content) = .ok (create content) := by
  have something : create content ≠ [] := by
    rw [ne_eq, create_eq_nil_iff clean]
    exact fun nothing => nothing confPidfile (complete confPidfile List.mem_cons_self)
  have found : confvarAbsent (create content) = [] := by
    unfold confvarAbsent
    rw [List.find?_eq_none.mpr]
    intro key asked
    simp [confvarValue_create_eq_none clean, complete key asked]
  unfold confvarValidate
  dsimp only [confvarCreate]
  rw [if_neg something, found, List.length_nil, if_neg (Nat.lt_irrefl 0)]

theorem validated_confvarValidate {content : List Char} (clean : nul ∉ content) :
    Validated content (confvarValidate (some content)) := by
  by_cases complete : ∀ key ∈ mandatory, Sets content key
  · rw [confvarValidate_of_complete clean complete, create_eq_filterMap clean]
    exact .accepted complete
  · unfold confvarValidate
    dsimp only [confvarCreate]
    by_cases nothing : create content = []
    · rw [if_pos nothing]
      exact .empty ((create_eq_nil_iff clean).mp nothing)
    · obtain ⟨before, key, after, split, there, absent⟩ := exists_missing mandatory complete
      have asked : key ∈ mandatory := by
        rw [split]
        exact List.mem_append_right _ List.mem_cons_self
      rw [if_neg nothing, confvarAbsent_of_missing clean split there absent,
        if_pos (take_mandatory asked).2]
      refine .missing split there absent ?_
      rw [create_eq_nil_iff clean] at nothing
      simpa using nothing

/-! ## Lines added at the end -/

theorem fileLines_append (content more : List Char) :
    fileLines (content ++ '\n' :: more) = fileLines content ++ fileLines more := by
  induction content using fileLines_induction with
  | ends line unended =>
      rw [fileLines_of_newline unended, fileLines_of_end unended, List.cons_append,
        List.nil_append]
  | continues line rest unended inductionHypothesis =>
      rw [List.append_assoc, List.cons_append, fileLines_of_newline unended,
        inductionHypothesis, fileLines_of_newline unended, List.cons_append]

theorem nul_not_mem_append {content more : List Char} (clean : nul ∉ content)
    (pure : nul ∉ more) : nul ∉ content ++ '\n' :: more := by
  rw [List.mem_append, List.mem_cons]
  rintro (inside | newline | added)
  · exact clean inside
  · exact absurd newline (by decide)
  · exact pure added

theorem create_append {content more : List Char} (clean : nul ∉ content) (pure : nul ∉ more) :
    create (content ++ '\n' :: more) = create content ++ create more := by
  rw [create_eq_filterMap (nul_not_mem_append clean pure), create_eq_filterMap clean,
    create_eq_filterMap pure, fileLines_append, List.filterMap_append]

/-- The first line of a key decides. -/
theorem confvarValue_append (head added : List ConfVar) {key value : List Char}
    (set : confvarValue head key = some value) :
    confvarValue (head ++ added) key = some value := by
  unfold confvarValue at set ⊢
  obtain ⟨entry, found, rfl⟩ := Option.map_eq_some_iff.mp set
  rw [List.find?_append, found]
  rfl

theorem confvarValidate_append {content more : List Char} (clean : nul ∉ content)
    (pure : nul ∉ more) {head : List ConfVar}
    (accepted : confvarValidate (some content) = .ok head) :
    confvarValidate (some (content ++ '\n' :: more)) = .ok (head ++ create more) := by
  have validated := validated_confvarValidate clean
  rw [accepted] at validated
  cases validated with
  | accepted complete =>
      rw [← create_eq_filterMap clean, ← create_append clean pure]
      apply confvarValidate_of_complete (nul_not_mem_append clean pure)
      intro key asked
      obtain ⟨line, member, value, read⟩ := complete key asked
      refine ⟨line, ?_, value, read⟩
      rw [fileLines_append]
      exact List.mem_append_left _ member

/-- The validation accepts a file, or names the first missing key, exactly as the lines
say.  Lines added to an accepted file add entries behind its own, and change no value. -/
theorem validation_exact {content : List Char} (clean : nul ∉ content) :
    Validated content (confvarValidate (some content)) ∧
      ∀ head, confvarValidate (some content) = .ok head → ∀ more, nul ∉ more →
        ∃ added, confvarValidate (some (content ++ '\n' :: more)) = .ok (head ++ added) ∧
          ∀ key value, confvarValue head key = some value →
            confvarValue (head ++ added) key = some value :=
  ⟨validated_confvarValidate clean, fun head accepted more pure =>
    ⟨create more, confvarValidate_append clean pure accepted,
      fun _ _ set => confvarValue_append head (create more) set⟩⟩

private def acceptedFile : List Char := "pidfile=p\nsawang=s\ngonggo=g\nlogpath=.".toList

private def acceptedHead : List ConfVar :=
  [⟨confPidfile, ['p']⟩, ⟨confSawang, ['s']⟩, ⟨confGonggo, ['g']⟩, ⟨confLogpath, ['.']⟩]

/-- A later line does not rename the proxy. -/
theorem validation_exact_renamed :
    Validated acceptedFile (confvarValidate (some acceptedFile)) ∧
      ∃ added, confvarValidate (some (acceptedFile ++ '\n' :: "sawang=t".toList)) =
          .ok (acceptedHead ++ added) ∧
        confvarValue (acceptedHead ++ added) confSawang = some ['s'] := by
  have clean : nul ∉ acceptedFile := by decide
  have accepted : confvarValidate (some acceptedFile) = .ok acceptedHead := by rfl
  obtain ⟨validated, extended⟩ := validation_exact clean
  obtain ⟨added, longer, kept⟩ := extended acceptedHead accepted "sawang=t".toList (by decide)
  exact ⟨validated, added, longer, kept confSawang ['s'] (by decide)⟩

end Sawang
