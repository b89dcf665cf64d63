import EditorLaunch.Path.Basic

/-!
# Where paths lead

A path is walked from a directory, element by element.  Whatever the directory is, the
walk comes down to going back a number of times and then following names: this is the
route of the path.  The stack of a clean path holds exactly a route, and a route is told
by where it leads, so that paths with the same destinations have the same clean form.
-/

namespace EditorLaunch.Path

/-- Walks one element from a directory, which is given by the names that lead to it, the
nearest first.  Going back from the root leads nowhere else. -/
def move (directory : List (List Char)) (element : List Char) : List (List Char) :=
  if element = [] ∨ element = here then directory
  else if element = back then directory.tail
  else element :: directory

/-- Where a walk begins that is told of a directory. -/
def origin (rooted : Bool) (directory : List (List Char)) : List (List Char) :=
  if rooted then [] else directory

/-- The directory that a path leads to. -/
def arrival (directory : List (List Char)) (path : List Char) : List (List Char) :=
  (path.splitOn '/').foldl move (origin (isRooted path) directory)

/-- An element that leads into a directory. -/
structure IsName (element : List Char) : Prop where
  filled : element ≠ []
  notHere : element ≠ here
  notBack : element ≠ back
  undivided : '/' ∉ element

/-- What a path comes down to: so many times back, and then along names, of which the
last one stands first. -/
@[ext]
structure Route where
  rooted : Bool
  climbs : Nat
  names : List (List Char)
  ordinary : ∀ name ∈ names, IsName name
  grounded : rooted = true → climbs = 0

theorem undivided_of_mem_splitOn {path element : List Char}
    (member : element ∈ path.splitOn '/') : '/' ∉ element := by
  induction path generalizing element with
  | nil =>
      rw [List.splitOn_nil, List.mem_singleton] at member
      exact member ▸ List.not_mem_nil
  | cons letter rest ih =>
      rw [List.splitOn_cons_eq_if_modifyHead] at member
      split at member
      · rcases List.mem_cons.mp member with rfl | inRest
        · exact List.not_mem_nil
        · exact ih inRest
      · rename_i notSlash
        obtain ⟨first, others, pieces⟩ :=
          List.exists_cons_of_ne_nil (List.splitOn_ne_nil '/' rest)
        rw [pieces] at member ih
        rcases List.mem_cons.mp member with rfl | inOthers
        · intro inside
          rcases List.mem_cons.mp inside with rfl | inFirst
          · exact notSlash (beq_self_eq_true '/')
          · exact ih List.mem_cons_self inFirst
        · exact ih (List.mem_cons_of_mem _ inOthers)

theorem IsName.move_eq {name : List Char} (isName : IsName name)
    (directory : List (List Char)) : move directory name = name :: directory := by
  rw [move, if_neg (not_or.mpr ⟨isName.filled, isName.notHere⟩), if_neg isName.notBack]

theorem IsName.step_eq {name : List Char} (isName : IsName name) (rooted : Bool)
    (stack : List (List Char)) : step rooted stack name = name :: stack := by
  rw [step.eq_def, if_neg (not_or.mpr ⟨isName.filled, isName.notHere⟩),
    if_neg isName.notBack]

theorem step_back_of_ne {nearest : List Char} (notBack : nearest ≠ back) (rooted : Bool)
    (others : List (List Char)) : step rooted (nearest :: others) back = others := by
  change (if nearest = back then _ else others) = others
  rw [if_neg notBack]

theorem step_back_replicate (climbs : Nat) :
    step false (List.replicate climbs back) back = List.replicate (climbs + 1) back := by
  cases climbs <;> rfl

namespace Route

/-- What the walk of a path keeps, the nearest first. -/
def stack (route : Route) : List (List Char) :=
  route.names ++ List.replicate route.climbs back

/-- The clean path that takes the route. -/
def text (route : Route) : List Char :=
  write route.rooted route.stack.reverse

/-- Where the route leads. -/
def follow (route : Route) (directory : List (List Char)) : List (List Char) :=
  route.names ++ (origin route.rooted directory).drop route.climbs

/-- The route that stays where it is, or at the root. -/
def empty (rooted : Bool) : Route where
  rooted := rooted
  climbs := 0
  names := []
  ordinary := by simp
  grounded := fun _ => rfl

theorem takeWhile_stack (route : Route) :
    route.stack.takeWhile (· != back) = route.names := by
  have passes : ∀ name ∈ route.names, (name != back) = true := fun name member =>
    bne_iff_ne.mpr (route.ordinary name member).notBack
  rw [stack, List.takeWhile_append_of_pos passes]
  cases route.climbs with
  | zero => exact List.append_nil _
  | succ climbs => exact List.append_nil _

theorem eq_of_stack_eq {route other : Route} (rootedEq : route.rooted = other.rooted)
    (stackEq : route.stack = other.stack) : route = other := by
  have namesEq : route.names = other.names := by
    rw [← route.takeWhile_stack, ← other.takeWhile_stack, stackEq]
  have climbsEq : route.climbs = other.climbs := by
    have lengths := congrArg List.length stackEq
    simp only [stack, namesEq, List.length_append, List.length_replicate] at lengths
    omega
  exact Route.ext rootedEq climbsEq namesEq

/-- Routes that lead to the same place from every directory with a name are the same. -/
theorem eq_of_follow_eq {route other : Route} (rootedEq : route.rooted = other.rooted)
    (followEq : ∀ directory, (∀ name ∈ directory, IsName name) →
      route.follow directory = other.follow directory) :
    route = other := by
  have namesEq : route.names = other.names := by
    have fromRoot := followEq [] fun _ member => absurd member List.not_mem_nil
    simpa [follow, origin] using fromRoot
  have climbsEq : route.climbs = other.climbs := by
    cases rooted : route.rooted with
    | true => rw [route.grounded rooted, other.grounded (rootedEq ▸ rooted)]
    | false =>
        -- below a directory that is deep enough, the depth tells how far a route climbs
        have isName : IsName ['a'] :=
          ⟨by decide, by decide, by decide, by decide⟩
        have lengths := congrArg List.length
          (followEq (List.replicate (route.climbs + other.climbs) ['a'])
            fun name member => List.eq_of_mem_replicate member ▸ isName)
        simp only [follow, origin, ← rootedEq, rooted, namesEq, List.length_append,
          List.length_drop, List.length_replicate, Bool.false_eq_true, if_false] at lengths
        omega
  exact Route.ext rootedEq climbsEq namesEq

/-- One more element leads from a route to a route, both on the stack and in every
directory. -/
theorem exists_step (route : Route) {element : List Char} (undivided : '/' ∉ element) :
    ∃ later : Route, later.rooted = route.rooted ∧
      step route.rooted route.stack element = later.stack ∧
      ∀ directory, move (route.follow directory) element = later.follow directory := by
  obtain ⟨rooted, climbs, names, ordinary, grounded⟩ := route
  by_cases stays : element = [] ∨ element = here
  · refine ⟨⟨rooted, climbs, names, ordinary, grounded⟩, rfl, ?_, fun directory => ?_⟩
    · rw [step.eq_def, if_pos stays]
    · rw [move, if_pos stays]
  by_cases goesBack : element = back
  · subst goesBack
    -- going back takes the nearest name; without one it climbs, unless it is at the root
    cases names with
    | cons nearest others =>
        have isName := ordinary nearest List.mem_cons_self
        refine ⟨⟨rooted, climbs, others, fun name member =>
            ordinary name (List.mem_cons_of_mem _ member), grounded⟩,
          rfl, ?_, fun directory => ?_⟩
        · exact step_back_of_ne isName.notBack _ _
        · rfl
    | nil =>
        cases rooted with
        | true =>
            obtain rfl : climbs = 0 := grounded rfl
            exact ⟨empty true, rfl, rfl, fun _ => rfl⟩
        | false =>
            refine ⟨⟨false, climbs + 1, [], ordinary, nofun⟩, rfl, ?_, fun directory => ?_⟩
            · exact step_back_replicate climbs
            · change (directory.drop climbs).tail = directory.drop (climbs + 1)
              rw [List.tail_drop]
  · have isName : IsName element :=
      ⟨fun isEmpty => stays (.inl isEmpty), fun isHere => stays (.inr isHere), goesBack,
        undivided⟩
    refine ⟨⟨rooted, climbs, element :: names, ?_, grounded⟩, rfl, ?_, fun directory => ?_⟩
    · intro name member
      rcases List.mem_cons.mp member with rfl | inNames
      · exact isName
      · exact ordinary name inNames
    · exact isName.step_eq _ _
    · exact isName.move_eq _

/-- A walk leads from a route to a route. -/
theorem exists_walk (route : Route) {elements : List (List Char)}
    (undivided : ∀ element ∈ elements, '/' ∉ element) :
    ∃ later : Route, later.rooted = route.rooted ∧
      elements.foldl (step route.rooted) route.stack = later.stack ∧
      ∀ directory, elements.foldl move (route.follow directory) = later.follow directory := by
  induction elements generalizing route with
  | nil => exact ⟨route, rfl, rfl, fun _ => rfl⟩
  | cons element rest ih =>
      obtain ⟨next, nextRooted, stepEq, moveEq⟩ :=
        route.exists_step (undivided element List.mem_cons_self)
      obtain ⟨later, laterRooted, walkEq, followEq⟩ :=
        ih next fun other member => undivided other (List.mem_cons_of_mem _ member)
      refine ⟨later, laterRooted.trans nextRooted, ?_, fun directory => ?_⟩
      · rw [List.foldl_cons, stepEq, ← nextRooted]
        exact walkEq
      · rw [List.foldl_cons, moveEq]
        exact followEq directory

end Route

/-- A route is that of a path: it begins where the path begins, the walk of the path
keeps its stack, and it leads to where the path leads. -/
structure Takes (path : List Char) (route : Route) : Prop where
  rooted_eq : isRooted path = route.rooted
  walk_eq : walk (isRooted path) (path.splitOn '/') = route.stack
  arrival_eq : ∀ directory, arrival directory path = route.follow directory

theorem Takes.cleanForm_eq {path : List Char} {route : Route} (takes : Takes path route) :
    cleanForm path = route.text := by
  rw [Route.text, ← takes.walk_eq, ← takes.rooted_eq]
  rfl

/-- Every path takes a route. -/
theorem exists_takes (path : List Char) : ∃ route, Takes path route := by
  obtain ⟨route, rootedEq, walkEq, followEq⟩ :=
    (Route.empty (isRooted path)).exists_walk
      fun element (member : element ∈ path.splitOn '/') => undivided_of_mem_splitOn member
  exact ⟨route, rootedEq.symm, walkEq, followEq⟩

/-- What the walk of a path keeps settles its route. -/
theorem takes_of_walk_eq {path : List Char} {route : Route}
    (rootedEq : isRooted path = route.rooted)
    (walkEq : walk (isRooted path) (path.splitOn '/') = route.stack) : Takes path route := by
  obtain ⟨other, takes⟩ := exists_takes path
  have same : other = route :=
    Route.eq_of_stack_eq (takes.rooted_eq.symm.trans rootedEq) (takes.walk_eq.symm.trans walkEq)
  exact same ▸ takes

end EditorLaunch.Path
