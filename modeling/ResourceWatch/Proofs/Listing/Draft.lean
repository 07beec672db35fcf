import ResourceWatch.Proofs.Listing.Bounds
import ResourceWatch.Proofs.Listing.Succession
import ResourceWatch.Proofs.Text.Blank

/-!
Drafts and the calls that fill them. A call sets one field and leaves the others alone, so of the
calls that set a field the last one counts, wherever the others stand among them. The page number is
checked first and the size after it. To go on by pages moves the number and nothing else.
-/

namespace ResourceWatch.Listing

namespace Draft

namespace Call

def number? : Call → Option UInt32
  | .pageNumber value => some value
  | _ => none

def size? : Call → Option (Option UInt32)
  | .pageSize value => some (some value)
  | .maybePageSize value => some value
  | _ => none

def order? : Call → Option String
  | .orderBy text => some text
  | _ => none

end Call

section Last

variable {Value Other : Type}

def lastGiven (given : Call → Option Value) (calls : List Call) : Option Value :=
  (calls.filterMap given).getLast?

theorem last_given_cons (given : Call → Option Value) (call : Call) (rest : List Call) :
    lastGiven given (call :: rest) = (lastGiven given rest).or (given call) := by
  simp only [lastGiven, List.filterMap_cons]
  cases given call with
  | none => rw [Option.or_none]
  | some value =>
      rw [List.getLast?_cons]
      cases (rest.filterMap given).getLast? <;> rfl

theorem last_given_map (given : Call → Option Value) (change : Value → Other) (calls : List Call) :
    lastGiven (fun call => (given call).map change) calls = (lastGiven given calls).map change := by
  rw [lastGiven, lastGiven, ← List.getLast?_map, List.map_filterMap]

/-- A field is set by the calls that give something for it and by no others. -/
def SetBy (field : Draft → Value) (given : Call → Option Value) : Prop :=
  ∀ draft call, field (apply draft call) = (given call).getD (field draft)

theorem SetBy.last {field : Draft → Value} {given : Call → Option Value}
    (set : SetBy field given) (draft : Draft) (calls : List Call) :
    field (draft.applyAll calls) = (lastGiven given calls).getD (field draft) := by
  induction calls generalizing draft with
  | nil => rfl
  | cons call rest ih =>
      have later : field (draft.applyAll (call :: rest)) =
          (lastGiven given rest).getD (field (draft.apply call)) := ih (draft.apply call)
      rw [later, set, last_given_cons]
      cases lastGiven given rest <;> rfl

end Last

section Fields

def fieldOf (text : String) : Option String :=
  if (Text.trim text).isEmpty then none else some (Text.trim text)

/-- What is ordered by when an ordering is asked for or not: the text without the blanks around it,
and nothing when it is all blank. -/
inductive Orders : Option String → Option String → Prop where
  | unset : Orders none none
  | blank {text : String} (blank : ∀ char ∈ text.toList, Text.isBlank char = true) :
      Orders (some text) none
  | field {text name : String} (trimmed : Text.TrimsTo text name) (named : name ≠ "") :
      Orders (some text) (some name)

theorem orders_iff (asked order : Option String) :
    Orders asked order ↔ order = asked.bind fieldOf := by
  constructor
  · intro orders
    cases orders with
    | unset => rfl
    | blank blank =>
        have nothing := (Text.trim_empty_iff _).mpr blank
        simp [fieldOf, nothing]
    | field trimmed named =>
        have kept := (Text.trim_iff _ _).mpr trimmed
        simp [fieldOf, kept, named]
  · rintro rfl
    cases asked with
    | none => exact .unset
    | some text =>
        simp only [Option.bind_some, fieldOf, String.isEmpty_iff]
        split
        · rename_i nothing
          exact .blank ((Text.trim_empty_iff text).mp nothing)
        · rename_i named
          exact .field ((Text.trim_iff text _).mp rfl) named

theorem number_set : SetBy pageNumber Call.number? := by
  intro draft call
  cases call <;> simp [apply, Call.number?]

theorem size_set : SetBy pageSize Call.size? := by
  intro draft call
  cases call <;> simp [apply, Call.size?]

theorem order_set : SetBy orderBy (fun call => call.order?.map fieldOf) := by
  intro draft call
  cases call <;> simp [apply, Call.order?, fieldOf]

theorem number_of_calls (calls : List Call) :
    (applyAll {} calls).pageNumber = (lastGiven Call.number? calls).getD 1 :=
  number_set.last {} calls

theorem size_of_calls (calls : List Call) :
    (applyAll {} calls).pageSize = (lastGiven Call.size? calls).join := by
  have last : (applyAll {} calls).pageSize = (lastGiven Call.size? calls).getD none :=
    size_set.last {} calls
  rw [last]
  cases lastGiven Call.size? calls <;> rfl

theorem order_of_calls (calls : List Call) :
    Orders (lastGiven Call.order? calls) (applyAll {} calls).orderBy := by
  have last : (applyAll {} calls).orderBy =
      (lastGiven (fun call => call.order?.map fieldOf) calls).getD none :=
    order_set.last {} calls
  rw [orders_iff, last, last_given_map]
  cases lastGiven Call.order? calls <;> rfl

end Fields

section Checks

theorem build_unnumbered_iff (draft : Draft) :
    draft.build = .error .invalidPageNumber ↔ draft.pageNumber = 0 := by
  by_cases unnumbered : draft.pageNumber = 0
  · simp [build, unnumbered]
  · cases sized : draft.pageSize with
    | none => simp [build, unnumbered, sized]
    | some size => by_cases large : maxPageSize < size.toNat <;> simp [build, unnumbered, sized, large]

theorem build_oversized_iff (draft : Draft) (requested : Int) :
    draft.build = .error (.pageSizeOutOfRange requested) ↔
      draft.pageNumber ≠ 0 ∧ ∃ size, draft.pageSize = some size ∧
        maxPageSize < size.toNat ∧ requested = size.toNat := by
  by_cases unnumbered : draft.pageNumber = 0
  · simp [build, unnumbered]
  · cases sized : draft.pageSize with
    | none => simp [build, unnumbered, sized]
    | some size =>
        by_cases large : maxPageSize < size.toNat
        · simp [build, unnumbered, sized, large, eq_comm]
        · simp [build, unnumbered, sized, large]

end Checks

theorem build_of_fitting (draft : Draft) (numbered : draft.pageNumber ≠ 0)
    (fits : ∀ size, draft.pageSize = some size → size.toNat ≤ maxPageSize) :
    draft.build = .ok draft.options := by
  have positive : draft.pageNumber.toNat ≠ 0 := fun zero => numbered (UInt32.toNat_inj.mp zero)
  exact (draft.build_iff _).mpr ⟨rfl, Nat.one_le_iff_ne_zero.mpr positive, fits⟩

/-- What is built of a draft hangs on the last call of each field alone: the number, which is one if
none was set, the size, and the ordering. Without a page number, or else with a size that is too
large, nothing is built. So many pages on, only the number of what was built has changed. -/
theorem last_calls_decide_options (calls : List Call) :
    let number := (lastGiven Call.number? calls).getD 1
    let size := (lastGiven Call.size? calls).join
    let built := (applyAll {} calls).build
    (built = .error .invalidPageNumber ↔ number = 0) ∧
    (∀ requested, built = .error (.pageSizeOutOfRange requested) ↔
      number ≠ 0 ∧ ∃ asked, size = some asked ∧ maxPageSize < asked.toNat ∧
        requested = asked.toNat) ∧
    (number ≠ 0 → (∀ asked, size = some asked → asked.toNat ≤ maxPageSize) →
      ∃ options, built = .ok options ∧ options.pageNumber = number ∧ options.pageSize = size ∧
        Orders (lastGiven Call.order? calls) options.orderBy) ∧
    ∀ options, built = .ok options → ∀ pages,
      (options.pagesOn pages).pageNumber.toNat = min (number.toNat + pages) 4294967295 ∧
        (options.pagesOn pages).pageSize = options.pageSize ∧
        (options.pagesOn pages).orderBy = options.orderBy := by
  intro number size built
  have numbered : (applyAll {} calls).pageNumber = number := number_of_calls calls
  have sized : (applyAll {} calls).pageSize = size := size_of_calls calls
  refine ⟨?_, ?_, ?_, ?_⟩
  · rw [← numbered]
    exact build_unnumbered_iff _
  · intro requested
    rw [← numbered, ← sized]
    exact build_oversized_iff _ requested
  · intro given fits
    rw [← numbered] at given
    rw [← sized] at fits
    exact ⟨_, build_of_fitting _ given fits, numbered, sized, order_of_calls calls⟩
  · intro options made pages
    obtain ⟨rfl, _⟩ := (build_iff _ options).mp made
    refine ⟨?_, Options.pages_on_size _ pages, ?_⟩
    · rw [← numbered]
      exact Options.pages_on_number _ pages
    · rw [Options.pages_on_eq]

/-- A size that was too large and is given up again, and a number that runs up to the largest. -/
theorem cleared_draft_counts_on :
    let calls : List Call := [.pageSize 20000, .orderBy " name ", .pageNumber 4294967290,
      .maybePageSize none]
    ∃ options, (applyAll {} calls).build = .ok options ∧ options.pageSize = none ∧
      Orders (some " name ") options.orderBy ∧
      (options.pagesOn 9).pageNumber.toNat = 4294967295 := by
  intro calls
  obtain ⟨_, _, builds, onward⟩ := last_calls_decide_options calls
  have cleared : (lastGiven Call.size? calls).join = none := rfl
  obtain ⟨options, built, _, unsized, orders⟩ :=
    builds (by decide) fun asked given => absurd (cleared.symm.trans given) (by simp)
  exact ⟨options, built, unsized, orders, (onward options built 9).1⟩

end Draft

end ResourceWatch.Listing
