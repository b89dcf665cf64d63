import EditorLaunch.Proofs.Path.Route
import Mathlib.Data.List.Basic

/-!
# The form of clean paths

The text of a route reads back as the route: its elements are those that the walk keeps,
and walking them keeps them all.  So the texts of routes are exactly the paths that
cleaning leaves as they are.
-/

namespace EditorLaunch.Path

/-- The form of clean paths: the root, the place where one is, or elements between single
slashes.  Those that go back stand in front of all names, and never behind the root. -/
inductive IsNormal : List Char → Prop where
  | root : IsNormal ['/']
  | here : IsNormal here
  | elements (rooted : Bool) (climbs : Nat) (names : List (List Char))
      (nonempty : List.replicate climbs back ++ names ≠ [])
      (ordinary : ∀ name ∈ names, IsName name)
      (grounded : rooted = true → climbs = 0) :
      IsNormal ((if rooted then ['/'] else []) ++
        List.intercalate ['/'] (List.replicate climbs back ++ names))

theorem isRooted_iff {path : List Char} : isRooted path = true ↔ path.head? = some '/' :=
  beq_iff_eq

theorem ne_nil_of_filled {path : List Char} (filled : [] ∉ path.splitOn '/') : path ≠ [] := by
  rintro rfl
  exact filled (List.mem_singleton_self _)

theorem isRooted_of_filled {path : List Char} (filled : [] ∉ path.splitOn '/') :
    isRooted path = false := by
  cases path with
  | nil => rfl
  | cons letter rest =>
      apply beq_eq_false_iff_ne.mpr
      intro begins
      obtain rfl : letter = '/' := Option.some.inj begins
      rw [List.splitOn_cons_eq_if_modifyHead, if_pos (beq_self_eq_true _)] at filled
      exact filled List.mem_cons_self

theorem getLast?_of_filled {path : List Char} (filled : [] ∉ path.splitOn '/') :
    path.getLast? ≠ some '/' := by
  intro ends
  obtain ⟨front, rfl⟩ := List.getLast?_eq_some_iff.mp ends
  rw [List.splitOn_append_cons_self, List.splitOn_nil] at filled
  exact filled (List.mem_append_right _ (List.mem_singleton_self _))

namespace Route

variable (route : Route)

/-- The elements of a clean path in the order in which they stand. -/
def elements : List (List Char) :=
  List.replicate route.climbs back ++ route.names.reverse

/-- The elements of a clean path with slashes between them. -/
def joined : List Char :=
  List.intercalate ['/'] route.elements

theorem reverse_stack : route.stack.reverse = route.elements := by
  rw [stack, List.reverse_append, List.reverse_replicate, elements]

variable {route}

theorem filled_of_mem_elements {element : List Char} (member : element ∈ route.elements) :
    element ≠ [] ∧ '/' ∉ element := by
  rcases List.mem_append.mp member with goesBack | isName
  · rw [List.eq_of_mem_replicate goesBack]
    decide
  · have isName := route.ordinary element (List.mem_reverse.mp isName)
    exact ⟨isName.filled, isName.undivided⟩

theorem splitOn_joined (nonempty : route.elements ≠ []) :
    route.joined.splitOn '/' = route.elements :=
  List.splitOn_intercalate '/' (fun _ member => (filled_of_mem_elements member).2) nonempty

theorem filled_joined (nonempty : route.elements ≠ []) : [] ∉ route.joined.splitOn '/' := by
  rw [splitOn_joined nonempty]
  exact fun member => (filled_of_mem_elements member).1 rfl

theorem text_of_isEmpty (isEmpty : route.elements = []) :
    route.text = if route.rooted then ['/'] else here := by
  rw [text, reverse_stack, isEmpty]
  rfl

theorem text_of_nonempty (nonempty : route.elements ≠ []) :
    route.text = (if route.rooted then ['/'] else []) ++ route.joined := by
  have filled : route.joined.isEmpty = false :=
    List.isEmpty_eq_false_iff.mpr (ne_nil_of_filled (filled_joined nonempty))
  rw [text, reverse_stack]
  change (if route.rooted then '/' :: route.joined
    else if route.joined.isEmpty then here else route.joined) = _
  rw [filled]
  cases route.rooted <;> rfl

theorem isRooted_text : isRooted route.text = route.rooted := by
  rcases eq_or_ne route.elements [] with isEmpty | nonempty
  · rw [text_of_isEmpty isEmpty]
    cases route.rooted <;> rfl
  · rw [text_of_nonempty nonempty]
    cases route.rooted with
    | true => rfl
    | false => exact isRooted_of_filled (filled_joined nonempty)

theorem foldl_step_names {names : List (List Char)} (ordinary : ∀ name ∈ names, IsName name)
    (rooted : Bool) (base : List (List Char)) :
    names.reverse.foldl (step rooted) base = names ++ base := by
  induction names with
  | nil => rfl
  | cons name others ih =>
      have isName := ordinary name List.mem_cons_self
      rw [List.reverse_cons, List.foldl_append,
        ih fun other member => ordinary other (List.mem_cons_of_mem _ member)]
      exact isName.step_eq rooted (others ++ base)

theorem foldl_step_replicate (climbs : Nat) :
    (List.replicate climbs back).foldl (step false) [] = List.replicate climbs back := by
  induction climbs with
  | zero => rfl
  | succ climbs ih =>
      rw [List.replicate_succ', List.foldl_append, ih, ← List.replicate_succ']
      exact step_back_replicate climbs

/-- Walking the elements of a clean path keeps them all. -/
theorem walk_elements (route : Route) : walk route.rooted route.elements = route.stack := by
  have climbed : (List.replicate route.climbs back).foldl (step route.rooted) [] =
      List.replicate route.climbs back := by
    cases rooted : route.rooted with
    | true => rw [route.grounded rooted]; rfl
    | false => exact foldl_step_replicate route.climbs
  rw [walk, elements, List.foldl_append, climbed, foldl_step_names route.ordinary]
  rfl

theorem splitOn_text (route : Route) :
    route.text.splitOn '/' =
      if route.elements = [] then (if route.rooted then [[], []] else [here])
      else if route.rooted then [] :: route.elements else route.elements := by
  split
  · rename_i isEmpty
    rw [text_of_isEmpty isEmpty]
    cases route.rooted <;> rfl
  · rename_i nonempty
    rw [text_of_nonempty nonempty]
    cases route.rooted with
    | true =>
        have front := List.splitOn_append_cons_self (a := '/') [] route.joined
        rw [splitOn_joined nonempty] at front
        exact front
    | false => exact splitOn_joined nonempty

theorem walk_splitOn_text (route : Route) :
    walk route.rooted (route.text.splitOn '/') = route.stack := by
  rw [← walk_elements, splitOn_text]
  split
  · rename_i isEmpty
    rw [isEmpty]
    cases route.rooted <;> rfl
  · cases route.rooted <;> rfl

/-- The text of a route takes the route. -/
theorem takes_text (route : Route) : Takes route.text route :=
  takes_of_walk_eq isRooted_text (isRooted_text.symm ▸ route.walk_splitOn_text)

theorem isNormal_text (route : Route) : IsNormal route.text := by
  rcases eq_or_ne route.elements [] with isEmpty | nonempty
  · rw [text_of_isEmpty isEmpty]
    cases route.rooted with
    | true => exact .root
    | false => exact .here
  · rw [text_of_nonempty nonempty]
    exact .elements route.rooted route.climbs route.names.reverse nonempty
      (fun name member => route.ordinary name (List.mem_reverse.mp member)) route.grounded

end Route

/-- The normal paths are the texts of routes. -/
theorem IsNormal.exists_route {path : List Char} (normal : IsNormal path) :
    ∃ route : Route, path = route.text := by
  cases normal with
  | root => exact ⟨.empty true, rfl⟩
  | here => exact ⟨.empty false, rfl⟩
  | elements rooted climbs names nonempty ordinary grounded =>
      let route : Route :=
        ⟨rooted, climbs, names.reverse,
          fun name member => ordinary name (List.mem_reverse.mp member), grounded⟩
      have elementsEq : route.elements = List.replicate climbs back ++ names := by
        rw [Route.elements, List.reverse_reverse]
      refine ⟨route, ?_⟩
      rw [Route.text_of_nonempty (elementsEq ▸ nonempty), Route.joined, elementsEq]

theorem isNormal_cleanForm (path : List Char) : IsNormal (cleanForm path) := by
  obtain ⟨route, takes⟩ := exists_takes path
  rw [takes.cleanForm_eq]
  exact route.isNormal_text

theorem cleanForm_eq_self_iff {path : List Char} : cleanForm path = path ↔ IsNormal path := by
  constructor
  · intro fixed
    exact fixed ▸ isNormal_cleanForm path
  · intro normal
    obtain ⟨route, rfl⟩ := normal.exists_route
    exact route.takes_text.cleanForm_eq

theorem isRooted_cleanForm (path : List Char) : isRooted (cleanForm path) = isRooted path := by
  obtain ⟨route, takes⟩ := exists_takes path
  rw [takes.cleanForm_eq, Route.isRooted_text, takes.rooted_eq]

theorem IsNormal.ne_nil {path : List Char} (normal : IsNormal path) : path ≠ [] := by
  obtain ⟨route, rfl⟩ := normal.exists_route
  rcases eq_or_ne route.elements [] with isEmpty | nonempty
  · rw [Route.text_of_isEmpty isEmpty]
    cases route.rooted <;> decide
  · rw [Route.text_of_nonempty nonempty]
    exact List.append_ne_nil_of_right_ne_nil _
      (ne_nil_of_filled (Route.filled_joined nonempty))

/-- Only the root ends with a slash. -/
theorem IsNormal.eq_root_of_getLast? {path : List Char} (normal : IsNormal path)
    (ends : path.getLast? = some '/') : path = ['/'] := by
  obtain ⟨route, rfl⟩ := normal.exists_route
  rcases eq_or_ne route.elements [] with isEmpty | nonempty
  · rw [Route.text_of_isEmpty isEmpty] at ends ⊢
    cases rooted : route.rooted with
    | true => rfl
    | false => rw [rooted] at ends; exact absurd ends (by decide)
  · have filled := Route.filled_joined nonempty
    rw [Route.text_of_nonempty nonempty, List.getLast?_append_of_ne_nil _
      (ne_nil_of_filled filled)] at ends
    exact absurd ends (getLast?_of_filled filled)

/-- A clean path is not empty and has the normal form: only the root ends with a slash, and
there is a slash in front exactly if the path began with one.  Cleaning it again changes
nothing, and the paths that cleaning leaves as they are, are all paths of that form. -/
theorem clean_is_normal (path : String) :
    clean path ≠ "" ∧
    IsNormal (clean path).toList ∧
    ((clean path).toList.getLast? = some '/' → clean path = "/") ∧
    ((clean path).toList.head? = some '/' ↔ path.toList.head? = some '/') ∧
    clean (clean path) = clean path ∧
    (clean path = path ↔ IsNormal path.toList) := by
  have textEq : (clean path).toList = cleanForm path.toList := String.toList_ofList
  have normal : IsNormal (clean path).toList := textEq ▸ isNormal_cleanForm path.toList
  have fixed_iff (other : String) : clean other = other ↔ IsNormal other.toList := by
    rw [← String.toList_inj, clean, String.toList_ofList, cleanForm_eq_self_iff]
  refine ⟨?nonempty, normal, ?ending, ?beginning, (fixed_iff _).mpr normal, fixed_iff path⟩
  case nonempty =>
    intro isEmpty
    exact normal.ne_nil (isEmpty ▸ rfl)
  case ending =>
    intro ends
    exact String.toList_inj.mp (normal.eq_root_of_getLast? ends)
  case beginning =>
    have rootedEq : isRooted (clean path).toList = isRooted path.toList :=
      textEq ▸ isRooted_cleanForm path.toList
    rw [← isRooted_iff, ← isRooted_iff, rootedEq]

example : clean "a/../../b//./c/" = "../b/c" := by decide

end EditorLaunch.Path
