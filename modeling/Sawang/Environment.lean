import Sawang.Foundation.JsonText
import Mathlib.Data.List.Perm.Basic

/-!
# The libraries under the proxy

The proxy is written against cJSON and GLib and is linked with the callbacks of
one application.  `Environment` collects what the model takes from there: the
documented laws of the library functions are fields, so a result over an
arbitrary environment holds for every library that keeps its documentation.
-/

namespace Sawang

structure Environment where
  /-- `cJSON_PrintUnformatted`. -/
  printUnformatted : Json → String
  /-- `cJSON_Parse`; `none` is the NULL pointer. -/
  parse : String → Option Json
  parse_printUnformatted : ∀ tree, parse (printUnformatted tree) = some tree
  printUnformatted_ne_empty : ∀ tree, printUnformatted tree ≠ ""
  /-- The order in which an iterator walks the entries of a hash table. -/
  hashOrder : List (Σ _ : String, List String) → List (Σ _ : String, List String)
  hashOrder_perm : ∀ entries, (hashOrder entries).Perm entries
  /-- Whether the application supplies a `ProxyMultiRespondClear`. -/
  hasMultirespondClear : Bool

namespace Environment

theorem printUnformatted_injective (env : Environment) :
    Function.Injective env.printUnformatted := by
  intro left right equal
  have parsed := congrArg env.parse equal
  rw [env.parse_printUnformatted, env.parse_printUnformatted] at parsed
  exact Option.some.inj parsed

/-- The environment concrete runs are executed in: the text format of
`JsonText`, insertion order, and the optional callback present. -/
def reference : Environment where
  printUnformatted := JsonText.print
  parse := JsonText.parse
  parse_printUnformatted := JsonText.parse_print
  printUnformatted_ne_empty := JsonText.print_ne_empty
  hashOrder := id
  hashOrder_perm := fun entries => List.Perm.refl entries
  hasMultirespondClear := true

end Environment

/-! ## Shared memory -/

/-- How `shm_open` and `mmap` of a segment end, and whether memory stands behind the
mapping, as `ftruncate` is to make sure; its own result is not looked at. -/
structure SegmentOutcome where
  opened : Bool
  mapped : Bool
  stored : Bool

namespace SegmentOutcome

variable (segment : SegmentOutcome)

def Usable : Prop := segment.opened = true ∧ segment.mapped = true ∧ segment.stored = true

/-- Memory stands behind the mapping, if there is one. -/
def Backed : Prop :=
  segment.opened = true → segment.mapped = true → segment.stored = true

/-- The first stage that fails decides. -/
theorem stages {motive : SegmentOutcome → Prop}
    (unopened : ∀ mapped stored, motive ⟨false, mapped, stored⟩)
    (unmapped : ∀ stored, motive ⟨true, false, stored⟩)
    (unstored : motive ⟨true, true, false⟩) (usable : motive ⟨true, true, true⟩)
    (segment : SegmentOutcome) : motive segment := by
  obtain ⟨opened, mapped, stored⟩ := segment
  cases opened with
  | false => exact unopened mapped stored
  | true =>
      cases mapped with
      | false => exact unmapped stored
      | true =>
          cases stored with
          | false => exact unstored
          | true => exact usable

instance : Decidable segment.Usable := inferInstanceAs (Decidable (_ ∧ _))

instance : Decidable segment.Backed := inferInstanceAs (Decidable (_ → _ → _))

end SegmentOutcome

end Sawang
