import EditorLaunch.Proofs.Opening.Stages
import EditorLaunch.Proofs.Path.Destination

/-!
# Folders and what they hold

A path divides behind its last slash into a folder and an element.  Walking the path is
walking to the folder and then the element, whether the folder is written as it stands
or in its clean form, so that folder and element together come down to the path.  This
is the folder that the bridge is told of when it is asked for a session.
-/

namespace EditorLaunch

namespace Path

/-- What stands behind the last slash of a path, or all of it without a slash. -/
def base (path : String) : String :=
  String.ofList (lastElement path.toList)

theorem throughLastSlash_append_lastElement (path : List Char) :
    throughLastSlash path ++ lastElement path = path := by
  rw [throughLastSlash, lastElement, ← List.reverse_append, List.takeWhile_append_dropWhile,
    List.reverse_reverse]

theorem undivided_lastElement (path : List Char) : '/' ∉ lastElement path := by
  intro member
  have passes := List.all_eq_true.mp List.all_takeWhile _ (List.mem_reverse.mp member)
  exact absurd passes (by decide)

theorem throughLastSlash_cases (path : List Char) :
    throughLastSlash path = [] ∨ ∃ front, throughLastSlash path = front ++ ['/'] := by
  cases kept : path.reverse.dropWhile (· != '/') with
  | nil => exact .inl (by rw [throughLastSlash, kept]; rfl)
  | cons letter rest =>
      have stops := List.head?_dropWhile_not (· != '/') path.reverse
      rw [kept] at stops
      obtain rfl : letter = '/' := by simpa using stops
      exact .inr ⟨rest.reverse, by rw [throughLastSlash, kept, List.reverse_cons]⟩

theorem lastElement_of_throughLastSlash_eq_nil {path : List Char}
    (none : throughLastSlash path = []) : lastElement path = path := by
  have whole := throughLastSlash_append_lastElement path
  rwa [none, List.nil_append] at whole

theorem throughLastSlash_of_undivided {path : List Char} (undivided : '/' ∉ path) :
    throughLastSlash path = [] := by
  rcases throughLastSlash_cases path with none | ⟨front, through⟩
  · exact none
  · have whole := throughLastSlash_append_lastElement path
    rw [through] at whole
    have divided : '/' ∈ front ++ ['/'] ++ lastElement path := by simp
    exact absurd (whole ▸ divided) undivided

theorem isRooted_append {front : List Char} (filled : front ≠ []) (behind : List Char) :
    isRooted (front ++ behind) = isRooted front := by
  cases front with
  | nil => exact absurd rfl filled
  | cons letter rest => rfl

theorem isRooted_of_undivided {path : List Char} (undivided : '/' ∉ path) :
    isRooted path = false := by
  apply Bool.eq_false_iff.mpr
  intro rooted
  exact undivided (List.mem_of_head? (isRooted_iff.mp rooted))

theorem isRooted_throughLastSlash (path : List Char) :
    isRooted (throughLastSlash path) = isRooted path := by
  rcases throughLastSlash_cases path with none | ⟨front, through⟩
  · have undivided := undivided_lastElement path
    rw [lastElement_of_throughLastSlash_eq_nil none] at undivided
    rw [none, isRooted_of_undivided undivided]
    rfl
  · have filled : throughLastSlash path ≠ [] := by
      rw [through]
      exact List.append_ne_nil_of_right_ne_nil _ (List.cons_ne_nil _ _)
    rw [← isRooted_append filled (lastElement path), throughLastSlash_append_lastElement]

theorem arrival_element (directory : List (List Char)) (front : List Char)
    {element : List Char} (undivided : '/' ∉ element) :
    arrival directory (front ++ '/' :: element) =
      move (arrival directory (front ++ ['/'])) element := by
  have rootedEq : isRooted (front ++ '/' :: element) = isRooted (front ++ ['/']) := by
    cases front <;> rfl
  rw [arrival, arrival, rootedEq, List.splitOn_append_cons_self,
    List.splitOn_append_cons_self, List.splitOn_eq_singleton undivided, List.splitOn_nil,
    List.foldl_append, List.foldl_append]
  rfl

theorem arrival_slash (directory : List (List Char)) {front : List Char}
    (filled : front ≠ []) :
    arrival directory (front ++ ['/']) = arrival directory front := by
  rw [arrival, isRooted_append filled, List.splitOn_append_cons_self, List.splitOn_nil,
    List.foldl_append]
  rfl

/-- A path leads to its last element from where it leads through its last slash. -/
theorem arrival_lastElement (directory : List (List Char)) (path : List Char) :
    arrival directory path =
      move (arrival directory (throughLastSlash path)) (lastElement path) := by
  have undivided := undivided_lastElement path
  rcases throughLastSlash_cases path with none | ⟨front, through⟩
  · have whole := lastElement_of_throughLastSlash_eq_nil none
    rw [whole] at undivided
    rw [none, whole, arrival, List.splitOn_eq_singleton undivided,
      isRooted_of_undivided undivided]
    rfl
  · have whole := throughLastSlash_append_lastElement path
    rw [through, List.append_assoc] at whole
    rw [through, ← arrival_element directory front undivided]
    exact congrArg (arrival directory) whole.symm

/-- The clean folder leads to the last element as well. -/
theorem arrival_folder (directory : List (List Char)) (path : List Char) :
    arrival directory (cleanForm (throughLastSlash path) ++ '/' :: lastElement path) =
      arrival directory path := by
  rw [arrival_element directory _ (undivided_lastElement path),
    arrival_slash directory (isNormal_cleanForm _).ne_nil, arrival_cleanForm,
    ← arrival_lastElement]

theorem cleanForm_folder_append (path : List Char) :
    cleanForm (cleanForm (throughLastSlash path) ++ '/' :: lastElement path) =
      cleanForm path := by
  apply cleanForm_eq_of_arrival_eq
  · rw [isRooted_append (isNormal_cleanForm _).ne_nil, isRooted_cleanForm,
      isRooted_throughLastSlash]
  · exact fun directory _ => arrival_folder directory path

/-- No element of a clean path from the root goes back. -/
theorem back_notMem_of_isRooted {path : List Char} (rooted : isRooted path = true) :
    back ∉ (cleanForm path).splitOn '/' := by
  obtain ⟨route, takes⟩ := exists_takes path
  have fromRoot : route.rooted = true := takes.rooted_eq ▸ rooted
  have elementsEq : route.elements = route.names.reverse := by
    rw [Route.elements, route.grounded fromRoot]
    rfl
  have named : back ∉ route.elements := by
    rw [elementsEq, List.mem_reverse]
    exact fun member => (route.ordinary back member).notBack rfl
  rw [takes.cleanForm_eq, Route.splitOn_text, fromRoot]
  split
  · decide
  · exact fun member => (List.mem_cons.mp member).elim (by decide) named

theorem toList_folder (path : String) :
    (folder path).toList = cleanForm (throughLastSlash path.toList) :=
  String.toList_ofList

theorem toList_base (path : String) : (base path).toList = lastElement path.toList :=
  String.toList_ofList

theorem clean_folder_append_base (path : String) :
    clean (folder path ++ "/" ++ base path) = clean path := by
  rw [← String.toList_inj, clean, clean, String.toList_ofList, String.toList_ofList,
    String.toList_append, String.toList_append, toList_folder, toList_base, List.append_assoc]
  exact cleanForm_folder_append path.toList

/-- The folder of a path and the element behind its last slash recombine to the path.  The
folder is clean, begins at the root exactly if the path does, and then never goes back;
without a slash in the path it is the place itself.  Whatever path the gateway answers,
its folder is what the bridge is told in every session that is asked for. -/
theorem folder_holds_base (path : String) :
    (∃ front, path = front ++ base path ∧ '/' ∉ (base path).toList ∧
      (front = "" ∨ front.toList.getLast? = some '/')) ∧
    clean (folder path ++ "/" ++ base path) = clean path ∧
    clean (folder path) = folder path ∧
    ((folder path).toList.head? = some '/' ↔ path.toList.head? = some '/') ∧
    ('/' ∉ path.toList → folder path = ".") ∧
    (path.toList.head? = some '/' → back ∉ (folder path).toList.splitOn '/') ∧
    (∀ directory, arrival directory path.toList =
      move (arrival directory (folder path).toList) (base path).toList) ∧
    ∀ (opener : Opener) (clock : Clock) (target : FileTarget) (caller : Caller)
      (request : SessionRequest) (token : String),
      .openSession request token ∈ (opener.openFile clock target caller).run.asked →
        ∃ reference metadata,
          opener.Finds clock target caller reference token metadata ∧
            request.folder = folder metadata.path ∧
            clean (request.folder ++ "/" ++ base metadata.path) = clean metadata.path := by
  refine ⟨?division, clean_folder_append_base path, ?fixed, ?beginning, ?bare, ?onward,
    ?walked, ?session⟩
  case division =>
    refine ⟨String.ofList (throughLastSlash path.toList), ?_, ?_, ?_⟩
    · rw [← String.toList_inj, String.toList_append, String.toList_ofList, toList_base,
        throughLastSlash_append_lastElement]
    · rw [toList_base]
      exact undivided_lastElement path.toList
    · rcases throughLastSlash_cases path.toList with none | ⟨front, through⟩
      · exact .inl (by rw [none])
      · exact .inr (by rw [String.toList_ofList, through, List.getLast?_concat])
  case fixed =>
    rw [← String.toList_inj, clean, String.toList_ofList, toList_folder, cleanForm_eq_self_iff]
    exact isNormal_cleanForm _
  case beginning =>
    rw [← isRooted_iff, ← isRooted_iff, toList_folder, isRooted_cleanForm,
      isRooted_throughLastSlash]
  case bare =>
    intro undivided
    rw [folder, throughLastSlash_of_undivided undivided]
    rfl
  case onward =>
    intro begins
    have rooted : isRooted (throughLastSlash path.toList) = true := by
      rw [isRooted_throughLastSlash]
      exact isRooted_iff.mpr begins
    rw [toList_folder]
    exact back_notMem_of_isRooted rooted
  case walked =>
    intro directory
    rw [toList_folder, toList_base, arrival_cleanForm]
    exact arrival_lastElement directory path.toList
  case session =>
    intro opener clock target caller request token asked
    obtain ⟨reference, metadata, mode, kind, catalogue, address, offers, rfl⟩ :=
      (Opener.reaches_asked opener clock target caller).offers asked
    exact ⟨reference, metadata, offers.toFinds, rfl, clean_folder_append_base metadata.path⟩

example : folder "/home//Letters/./Draft.odt" = "/home/Letters" := by decide

end Path

end EditorLaunch
