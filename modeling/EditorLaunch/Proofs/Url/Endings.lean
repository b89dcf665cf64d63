import EditorLaunch.Proofs.Unicode.Blank
import EditorLaunch.Proofs.Url.Appending

/-!
# Paths that go on

A path may be put behind an address that has a path of its own.  Resolving the elements of
the longer path passes those in front first and keeps what is left of them, and a plain
path behind them stays as it is.  So the longer path is the one that ends with a slash,
and the plain path behind that slash.  The shorter path differs from it in slashes at
its end only, and the two fit together if there is a single slash to share.
-/

namespace EditorLaunch

namespace Url

/-- What is kept of elements that others follow, the nearest first. -/
def passed (kept : List (List Char)) : List (List Char) → List (List Char)
  | [] => kept
  | element :: rest =>
      if isBack element then passed (goBack kept) rest
      else if isHere element then passed kept rest
      else passed (element :: kept) rest

theorem passed_append (kept elements following : List (List Char)) :
    passed kept (elements ++ following) = passed (passed kept elements) following := by
  induction elements generalizing kept with
  | nil => rfl
  | cons element rest ih =>
      rw [List.cons_append, passed, passed]
      split
      · exact ih _
      · split
        · exact ih _
        · exact ih _

theorem resolve_append {following : List (List Char)} (filled : following ≠ [])
    (kept elements : List (List Char)) :
    resolve .common kept (elements ++ following) =
      resolve .common (passed kept elements) following := by
  induction elements generalizing kept with
  | nil => rfl
  | cons element rest ih =>
      have goesOn : (rest ++ following).isEmpty = false := by simp [filled]
      have noFile : (SchemeKind.common == .file) = false := rfl
      rw [List.cons_append, resolve, passed]
      simp only [goesOn, noFile, Bool.false_and, Bool.false_eq_true, if_false]
      split
      · exact ih _
      · split
        · exact ih _
        · exact ih _

/-- An element that is a name: it is written as it is, and is no dots. -/
structure IsName (element : List Char) : Prop where
  written : Percent.encode Percent.escapedInPath element = element
  noBack : isBack element = false
  noHere : isHere element = false

theorem isName_nil : IsName [] :=
  ⟨by decide, by decide, by decide⟩

theorem resolve_names {names : List (List Char)} (areNames : ∀ name ∈ names, IsName name)
    (kept : List (List Char)) : resolve .common kept names = names.reverse ++ kept := by
  induction names generalizing kept with
  | nil => rfl
  | cons name rest ih =>
      have isName := areNames name List.mem_cons_self
      have noFile : (SchemeKind.common == .file) = false := rfl
      rw [resolve]
      simp only [isName.noBack, isName.noHere, noFile, Bool.false_and, Bool.false_eq_true,
        if_false]
      rw [ih fun other member => areNames other (List.mem_cons_of_mem _ member),
        List.reverse_cons, List.append_assoc, List.singleton_append]

/-- A last element leaves a slash at the end if it is dots, and stays if it is not. -/
theorem resolve_cases {elements : List (List Char)} (filled : elements ≠ [])
    (kept : List (List Char)) :
    resolve .common kept elements = [] :: passed kept elements ∨
      passed kept elements ≠ [] ∧ resolve .common kept elements = passed kept elements := by
  induction elements generalizing kept with
  | nil => exact absurd rfl filled
  | cons element rest ih =>
      have noFile : (SchemeKind.common == .file) = false := rfl
      cases rest with
      | nil =>
          simp only [resolve, passed, noFile, List.isEmpty_nil, Bool.false_and,
            Bool.false_eq_true, if_false, if_true]
          split
          · exact .inl rfl
          · split
            · exact .inl rfl
            · exact .inr ⟨List.cons_ne_nil _ _, rfl⟩
      | cons next others =>
          rw [resolve, passed]
          simp only [noFile, List.isEmpty_cons, Bool.false_and, Bool.false_eq_true, if_false]
          split
          · exact ih (List.cons_ne_nil _ _) _
          · split
            · exact ih (List.cons_ne_nil _ _) _
            · exact ih (List.cons_ne_nil _ _) _

/-- A path behind a slash that is read as it is. -/
structure IsPlain (path : List Char) : Prop where
  noBackslash : '\\' ∉ path
  names : ∀ name ∈ path.splitOn '/', IsName name

theorem splitOn_replicate (count : Nat) :
    (List.replicate count '/').splitOn '/' = List.replicate (count + 1) [] := by
  induction count with
  | zero => rfl
  | succ count ih =>
      have first := List.splitOn_append_cons_self (a := '/') [] (List.replicate count '/')
      rw [List.nil_append, ih, List.splitOn_nil] at first
      rw [List.replicate_succ, first]
      rfl

theorem isPlain_replicate (count : Nat) : IsPlain (List.replicate count '/') := by
  constructor
  · intro member
    exact absurd (List.eq_of_mem_replicate member) (by decide)
  · intro name member
    rw [splitOn_replicate] at member
    rw [List.eq_of_mem_replicate member]
    exact isName_nil

theorem splitPath_append (front behind : List Char) :
    splitPath .common (front ++ '/' :: behind) =
      splitPath .common front ++ splitPath .common behind := by
  rw [splitPath, List.map_append, List.map_cons]
  exact List.splitOn_append_cons_self _ _

theorem IsPlain.map_encode {path : List Char} (plain : IsPlain path) :
    (splitPath .common path).map (Percent.encode Percent.escapedInPath) =
      path.splitOn '/' := by
  have slashes : ∀ letter ∈ path,
      (if isSlash .common letter then '/' else letter) = letter := by
    intro letter member
    have noBackslash : letter ≠ '\\' := by
      rintro rfl
      exact plain.noBackslash member
    by_cases isSlash : letter = '/'
    · rw [isSlash]
      rfl
    · simp [Url.isSlash, isSlash, noBackslash]
  have written : ∀ name ∈ path.splitOn '/',
      Percent.encode Percent.escapedInPath name = name := fun name member =>
    (plain.names name member).written
  rw [splitPath, List.map_congr_left slashes, List.map_id', List.map_congr_left written,
    List.map_id']

/-- A path that is empty or begins with a slash of either kind. -/
def Begins (path : List Char) : Prop :=
  ∀ first ∈ path.head?, isSlash .common first = true

theorem begins_of_stops {path : List Char} (stops : Stops path) (unmarked : Unmarked path) :
    Begins path := by
  intro first isFirst
  have ends := stops first isFirst
  obtain ⟨noQuestion, noNumber⟩ :=
    endsPath_eq_false_iff.mp (unmarked first (List.mem_of_mem_head? isFirst))
  simpa [endsAuthority, noQuestion, noNumber] using ends

/-- The elements in front of a slash that follows a path. -/
def elementsBefore : List Char → List (List Char)
  | [] => []
  | _ :: rest => (splitPath .common rest).map (Percent.encode Percent.escapedInPath)

/-- What is left of these elements. -/
def leftBefore (path : List Char) : List (List Char) :=
  (passed [] (elementsBefore path)).reverse

/-- A path that goes on behind its first slash is what comes of its elements. -/
theorem readPath_cons {first : Char} {rest : List Char} (slash : isSlash .common first = true) :
    readPath .common (first :: rest) =
      '/' :: ['/'].intercalate
        (resolve .common [] (elementsBefore (first :: rest))).reverse := by
  rw [readPath, if_neg (by simp), readElements]
  simp only [slash, if_true]
  rfl

variable {front tail slashes : List Char}

theorem readPath_eq_of_plain (begins : Begins front) (plain : IsPlain tail) :
    readPath .common (front ++ '/' :: tail) =
      '/' :: ['/'].intercalate (leftBefore front ++ tail.splitOn '/') := by
  have filled : tail.splitOn '/' ≠ [] := List.splitOn_ne_nil _ _
  have elements : readElements .common (front ++ '/' :: tail) =
      leftBefore front ++ tail.splitOn '/' := by
    have resolved : readElements .common (front ++ '/' :: tail) =
        (resolve .common [] (elementsBefore front ++ tail.splitOn '/')).reverse := by
      rw [← plain.map_encode]
      cases front with
      | nil => rfl
      | cons first rest =>
          have isSlash := begins first rfl
          rw [List.cons_append, readElements]
          simp only [isSlash, if_true]
          rw [splitPath_append, List.map_append]
          rfl
    rw [resolved, resolve_append filled, resolve_names plain.names, List.reverse_append,
      List.reverse_reverse]
    rfl
  rw [readPath, if_neg (by simp [SchemeKind.isSpecial])]
  simp only [elements]
  rfl

theorem intercalate_append (before : List (List Char)) {names : List (List Char)}
    (filled : names ≠ []) :
    ['/'].intercalate (before ++ names) =
      ['/'].intercalate (before ++ [[]]) ++ ['/'].intercalate names := by
  induction before with
  | nil => rfl
  | cons element rest ih =>
      rw [List.cons_append, List.cons_append,
        List.intercalate_cons_of_ne_nil (List.append_ne_nil_of_right_ne_nil _ filled),
        List.intercalate_cons_of_ne_nil (List.append_ne_nil_of_right_ne_nil _ (by simp)), ih,
        List.append_assoc _ _ (['/'].intercalate names)]

theorem intercalate_append_nil {elements : List (List Char)} (filled : elements ≠ []) :
    ['/'].intercalate (elements ++ [[]]) = ['/'].intercalate elements ++ ['/'] := by
  induction elements with
  | nil => exact absurd rfl filled
  | cons element rest ih =>
      cases rest with
      | nil => simp
      | cons next others =>
          rw [List.cons_append, List.intercalate_cons_of_ne_nil (by simp),
            List.intercalate_cons_of_ne_nil (List.cons_ne_nil _ _),
            ih (List.cons_ne_nil _ _), List.append_assoc _ _ ['/']]

/-- A plain path stands behind the slash that ends the path before it. -/
theorem readPath_append (begins : Begins front) (plain : IsPlain tail) :
    readPath .common (front ++ '/' :: tail) = readPath .common (front ++ ['/']) ++ tail := by
  have nothing : IsPlain [] := isPlain_replicate 0
  rw [readPath_eq_of_plain begins plain, readPath_eq_of_plain begins nothing,
    intercalate_append _ (List.splitOn_ne_nil _ _), List.intercalate_splitOn,
    List.splitOn_nil, List.cons_append]

/-- Slashes at the end of a path are all that is lost or won by others behind it. -/
theorem trimEndWhile_readPath (begins : Begins front)
    (onlySlashes : ∀ letter ∈ slashes, letter = '/') :
    trimEndWhile (· == '/') (readPath .common (front ++ slashes)) =
      trimEndWhile (· == '/') (readPath .common (front ++ ['/'])) := by
  cases slashes with
  | cons slash others =>
      obtain rfl := onlySlashes slash List.mem_cons_self
      have othersSlashes : ∀ letter ∈ others, letter = '/' := fun letter member =>
        onlySlashes letter (List.mem_cons_of_mem _ member)
      have plain : IsPlain others := by
        rw [List.eq_replicate_of_mem othersSlashes]
        exact isPlain_replicate _
      rw [readPath_append begins plain, trimEndWhile_append (by simpa using othersSlashes)]
  | nil =>
      rw [List.append_nil]
      cases front with
      | nil => rfl
      | cons first rest =>
          have nothing : IsPlain [] := isPlain_replicate 0
          have isSlash := begins first rfl
          have filled : elementsBefore (first :: rest) ≠ [] := by
            intro isEmpty
            exact List.splitOn_ne_nil _ _ (List.map_eq_nil_iff.mp isEmpty)
          rw [readPath_cons isSlash, readPath_eq_of_plain begins nothing, List.splitOn_nil]
          rcases resolve_cases filled [] with isDots | ⟨isFilled, isName⟩
          · rw [isDots, List.reverse_cons, leftBefore]
          · rw [isName, leftBefore,
              intercalate_append_nil (by simpa using isFilled), ← List.cons_append,
              trimEndWhile_append (by simp)]

theorem exists_readPath_slash (begins : Begins front) :
    ∃ body, readPath .common (front ++ ['/']) = body ++ ['/'] := by
  have nothing : IsPlain [] := isPlain_replicate 0
  rw [readPath_eq_of_plain begins nothing, List.splitOn_nil]
  by_cases isEmpty : leftBefore front = []
  · rw [isEmpty]
    exact ⟨[], rfl⟩
  · rw [intercalate_append_nil isEmpty]
    exact ⟨'/' :: ['/'].intercalate (leftBefore front), rfl⟩

theorem eq_trimEndWhile_iff (body : List Char) :
    body = trimEndWhile (· == '/') body ↔ ¬ ['/', '/'] <:+ body ++ ['/'] := by
  rcases List.eq_nil_or_concat body with rfl | ⟨others, last, rfl⟩
  · exact iff_of_true rfl (by decide)
  · rw [List.concat_eq_append]
    constructor
    · rintro kept ⟨front, ended⟩
      have isSlash : last = '/' := by
        have twoSlashes : front ++ ['/'] ++ ['/'] = others ++ [last] ++ ['/'] := by
          simpa using ended
        have lastEq := List.append_inj_right' (List.append_cancel_right twoSlashes) rfl
        exact (List.singleton_inj.mp lastEq).symm
      rw [isSlash, trimEndWhile_append (by simp)] at kept
      have shorter := length_trimEndWhile_le (· == '/') others
      have sameLength := congrArg List.length kept
      simp only [List.length_append, List.length_singleton] at sameLength
      omega
    · intro single
      have noSlash : (last == '/') = false := by
        rw [beq_eq_false_iff_ne]
        rintro rfl
        exact single ⟨others, by simp⟩
      rw [trimEndWhile, List.reverse_append, List.reverse_singleton, List.singleton_append,
        List.dropWhile_cons_of_neg (by simp [noSlash])]
      simp

/-- A path and a plain one behind it share one slash, unless there are two. -/
theorem readPath_keeps_iff (begins : Begins front)
    (onlySlashes : ∀ letter ∈ slashes, letter = '/') (plain : IsPlain tail) :
    readPath .common (front ++ '/' :: tail) =
        trimEndWhile (· == '/') (readPath .common (front ++ slashes)) ++ '/' :: tail ↔
      ¬ ['/', '/'] <:+ readPath .common (front ++ ['/']) := by
  obtain ⟨body, ended⟩ := exists_readPath_slash begins
  have divided : '/' :: tail = ['/'] ++ tail := rfl
  rw [readPath_append begins plain, trimEndWhile_readPath begins onlySlashes, divided,
    ← List.append_assoc, List.append_left_inj, ended, trimEndWhile_append (by simp),
    List.append_left_inj]
  exact eq_trimEndWhile_iff body

end Url

end EditorLaunch
