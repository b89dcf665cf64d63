import EditorLaunch.Proofs.Path.NormalForm

/-!
# Cleaning keeps destinations

A clean path leads to the same places as the path that it comes from, and there is only
one clean path to lead there: paths have the same clean form exactly if they begin alike
and lead from every directory to the same place.
-/

namespace EditorLaunch.Path

theorem arrival_cleanForm (directory : List (List Char)) (path : List Char) :
    arrival directory (cleanForm path) = arrival directory path := by
  obtain ⟨route, takes⟩ := exists_takes path
  rw [takes.cleanForm_eq, route.takes_text.arrival_eq, takes.arrival_eq]

/-- Paths that begin alike and lead to the same place from every directory with a name have
the same clean form. -/
theorem cleanForm_eq_of_arrival_eq {path other : List Char}
    (rootedEq : isRooted path = isRooted other)
    (arrivalEq : ∀ directory, (∀ name ∈ directory, IsName name) →
      arrival directory path = arrival directory other) :
    cleanForm path = cleanForm other := by
  obtain ⟨route, takes⟩ := exists_takes path
  obtain ⟨otherRoute, otherTakes⟩ := exists_takes other
  have same : route = otherRoute := by
    apply Route.eq_of_follow_eq
    · rw [← takes.rooted_eq, ← otherTakes.rooted_eq, rootedEq]
    · intro directory named
      rw [← takes.arrival_eq, ← otherTakes.arrival_eq, arrivalEq directory named]
  rw [takes.cleanForm_eq, otherTakes.cleanForm_eq, same]

/-- A clean path leads to where the path leads, from every directory.  Two paths have the
same clean form exactly if both begin at the root or neither does, and they lead from
every directory to the same place; for this it is enough that they do so from those that
names lead to. -/
theorem clean_eq_clean_iff (path other : String) :
    (∀ directory, arrival directory (clean path).toList = arrival directory path.toList) ∧
    (clean path = clean other ↔
      isRooted path.toList = isRooted other.toList ∧
        ∀ directory, arrival directory path.toList = arrival directory other.toList) ∧
    (clean path = clean other ↔
      isRooted path.toList = isRooted other.toList ∧
        ∀ directory, (∀ name ∈ directory, IsName name) →
          arrival directory path.toList = arrival directory other.toList) := by
  have keeps (text : String) (directory : List (List Char)) :
      arrival directory (clean text).toList = arrival directory text.toList := by
    rw [clean, String.toList_ofList, arrival_cleanForm]
  have same (equal : clean path = clean other) :
      isRooted path.toList = isRooted other.toList ∧
        ∀ directory, arrival directory path.toList = arrival directory other.toList := by
    constructor
    · have formsEq : cleanForm path.toList = cleanForm other.toList :=
        String.ofList_injective equal
      rw [← isRooted_cleanForm path.toList, formsEq, isRooted_cleanForm]
    · intro directory
      rw [← keeps path, equal, keeps other]
  refine ⟨keeps path, ⟨same, ?everywhere⟩, ⟨?alike, ?named⟩⟩
  case everywhere =>
    rintro ⟨rootedEq, arrivalEq⟩
    exact congrArg String.ofList
      (cleanForm_eq_of_arrival_eq rootedEq fun directory _ => arrivalEq directory)
  case alike =>
    intro equal
    exact ⟨(same equal).1, fun directory _ => (same equal).2 directory⟩
  case named =>
    rintro ⟨rootedEq, arrivalEq⟩
    exact congrArg String.ofList (cleanForm_eq_of_arrival_eq rootedEq arrivalEq)

end EditorLaunch.Path
