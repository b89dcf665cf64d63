import EditorLaunch.Proofs.Url.Host
import Mathlib.Data.List.TakeDrop
import Mathlib.Data.List.TakeWhile

/-!
# Authorities by themselves

The authority of an address is read from the letters up to the first slash, question
mark or number sign.  Whatever stands behind them changes neither the user nor the host
nor the port, and is left over as it is.
-/

namespace EditorLaunch

namespace Url

/-- Letters that are read as one authority. -/
def Within (letters : List Char) : Prop :=
  ∀ letter ∈ letters, endsAuthority .common letter = false

/-- A text that is over, or goes on with a letter that ends an authority. -/
def Stops (letters : List Char) : Prop :=
  ∀ letter ∈ letters.head?, endsAuthority .common letter = true

theorem within_append {before behind : List Char} :
    Within (before ++ behind) ↔ Within before ∧ Within behind :=
  List.forall_mem_append

theorem within_takeWhile (letters : List Char) :
    Within (letters.takeWhile (!endsAuthority .common ·)) := by
  intro letter member
  simpa using List.mem_takeWhile_imp member

theorem stops_dropWhile (letters : List Char) :
    Stops (letters.dropWhile (!endsAuthority .common ·)) := by
  intro letter first
  have refused := List.head?_dropWhile_not (!endsAuthority .common ·) letters
  rw [first] at refused
  simpa using refused

theorem takeWhile_of_stops {letters : List Char} (stops : Stops letters) :
    letters.takeWhile (!endsAuthority .common ·) = [] := by
  cases letters with
  | nil => rfl
  | cons letter rest => simp [stops letter rfl]

theorem takeWhile_append_of_within {letters behind : List Char} (within : Within letters)
    (stops : Stops behind) :
    (letters ++ behind).takeWhile (!endsAuthority .common ·) = letters := by
  rw [List.takeWhile_append_of_pos fun letter member => by simp [within letter member],
    takeWhile_of_stops stops, List.append_nil]

/-- The user in the letters of an authority. -/
def userIn (letters : List Char) : List Char × List Char :=
  if letters.contains '@' then
    readUser (((letters.reverse.dropWhile (· != '@')).drop 1).reverse)
  else ([], [])

/-- What stands behind the user in the letters of an authority. -/
def behindUser (letters : List Char) : List Char :=
  if letters.contains '@' then (letters.reverse.takeWhile (· != '@')).reverse else letters

theorem within_behindUser {letters : List Char} (within : Within letters) :
    Within (behindUser letters) := by
  unfold behindUser
  split
  · intro letter member
    have inLetters := List.takeWhile_subset _ (List.mem_reverse.mp member)
    exact within letter (List.mem_reverse.mp inLetters)
  · exact within

theorem userIn_append {letters behind : List Char} (noUser : '@' ∉ behind) :
    userIn (letters ++ behind) = userIn letters := by
  have passes : ∀ letter ∈ behind.reverse, (letter != '@') = true := by
    intro letter member
    rw [bne_iff_ne]
    rintro rfl
    exact noUser (List.mem_reverse.mp member)
  simp only [userIn, List.contains_eq_mem, List.mem_append, noUser, or_false,
    List.reverse_append, List.dropWhile_append_of_pos passes]

theorem splitUser_append {letters behind : List Char} (within : Within letters)
    (stops : Stops behind) {user : List Char × List Char} {rest : List Char}
    (reads : splitUser .common (letters ++ behind) = .ok (user, rest)) :
    user = userIn letters ∧ rest = behindUser letters ++ behind := by
  unfold splitUser at reads
  simp only [takeWhile_append_of_within within stops, List.drop_left] at reads
  unfold userIn behindUser
  split at reads
  · rename_i named
    split at reads
    · cases reads
    · obtain ⟨rfl, rfl⟩ := Prod.mk.inj (Except.ok.inj reads)
      simp only [named, if_true, and_self]
  · rename_i unnamed
    obtain ⟨rfl, rfl⟩ := Prod.mk.inj (Except.ok.inj reads)
    simp only [unnamed, Bool.false_eq_true, if_false, and_self]

theorem splitUser_of_host {letters behind : List Char} (within : Within letters)
    (stops : Stops behind) (someHost : behindUser letters ≠ []) :
    splitUser .common (letters ++ behind) =
      .ok (userIn letters, behindUser letters ++ behind) := by
  unfold splitUser
  simp only [takeWhile_append_of_within within stops, List.drop_left]
  unfold userIn behindUser at *
  split
  · rename_i named
    rw [if_pos named] at someHost
    have filled := List.isEmpty_eq_false_iff.mpr someHost
    simp only [filled, Bool.and_false, Bool.false_and, Bool.false_eq_true, if_false]
  · rfl

theorem splitHost_append {letters behind : List Char} (within : Within letters)
    (stops : Stops behind) (inBrackets : Bool) :
    splitHost .common inBrackets (letters ++ behind) =
      ((splitHost .common inBrackets letters).1,
        (splitHost .common inBrackets letters).2 ++ behind) := by
  induction letters generalizing inBrackets with
  | nil =>
      cases behind with
      | nil => rfl
      | cons letter rest => simp [splitHost, stops letter rfl]
  | cons letter rest ih =>
      obtain ⟨-, restWithin⟩ := List.forall_mem_cons.mp within
      simp only [List.cons_append, splitHost]
      split
      · rfl
      · simp only [ih restWithin]

/-- What stands behind a host within an authority is a port, or nothing. -/
theorem splitHost_cases {letters : List Char} (within : Within letters)
    (inBrackets : Bool) :
    (splitHost .common inBrackets letters).2 = [] ∨
      ∃ rest, (splitHost .common inBrackets letters).2 = ':' :: rest ∧ Within rest := by
  induction letters generalizing inBrackets with
  | nil => exact .inl rfl
  | cons letter rest ih =>
      obtain ⟨letterWithin, restWithin⟩ := List.forall_mem_cons.mp within
      unfold splitHost
      split
      · rename_i ends
        simp only [letterWithin, Bool.false_or, Bool.and_eq_true, beq_iff_eq] at ends
        exact .inr ⟨rest, by rw [ends.1], restWithin⟩
      · exact ih restWithin _

/-- A host of a common scheme is never empty. -/
theorem isEmpty_of_readCommon {letters : List Char} {host : Host}
    (reads : Host.readCommon letters = .ok host) : host.isEmpty = false := by
  have written := isWritten_readCommon reads
  cases host with
  | name letters => simpa [Host.isEmpty] using written.1
  | short address => rfl
  | long address => rfl

theorem isDigit_of_ends {letter : Char} (ends : endsAuthority .common letter = true) :
    letter.isDigit = false := by
  simp only [endsAuthority, isSlash, SchemeKind.isSpecial, Bool.true_and, Bool.or_eq_true,
    beq_iff_eq] at ends
  rcases ends with ((rfl | rfl) | rfl) | rfl <;> rfl

theorem span_isDigit_append {letters behind : List Char} (stops : Stops behind) :
    (letters ++ behind).span Char.isDigit =
      (letters.takeWhile Char.isDigit, letters.dropWhile Char.isDigit ++ behind) := by
  have noDigits : behind.takeWhile Char.isDigit = [] ∧
      behind.dropWhile Char.isDigit = behind := by
    cases behind with
    | nil => exact ⟨rfl, rfl⟩
    | cons letter rest => simp [isDigit_of_ends (stops letter rfl)]
  rw [List.span_eq_takeWhile_dropWhile]
  induction letters with
  | nil => simp [noDigits]
  | cons letter rest ih =>
      obtain ⟨taken, dropped⟩ := Prod.mk.inj ih
      rw [List.cons_append, List.takeWhile_cons, List.dropWhile_cons, taken, dropped,
        List.takeWhile_cons, List.dropWhile_cons]
      split <;> rfl

theorem splitPort_of_stops (scheme : List Char) {letters : List Char}
    (stops : Stops letters) : splitPort scheme letters = .ok (none, letters) := by
  unfold splitPort
  split
  · exact absurd (stops ':' rfl) (by decide)
  · rfl

/-- Letters of the authority behind the digits of a port are refused, whatever
follows. -/
theorem splitPort_cons {scheme letters behind : List Char} (within : Within letters)
    (stops : Stops behind) :
    splitPort scheme (':' :: (letters ++ behind)) =
      (splitPort scheme (':' :: letters)).map fun found => (found.1, behind) := by
  simp only [splitPort, span_isDigit_append stops, List.span_eq_takeWhile_dropWhile]
  cases others : letters.dropWhile Char.isDigit with
  | nil =>
      cases behind with
      | nil =>
          simp only [List.nil_append, Bool.not_true, Bool.false_eq_true, or_false]
          split_ifs <;> rfl
      | cons next rest =>
          have ends := stops next rfl
          simp only [List.nil_append, ends, Bool.not_true, Bool.false_eq_true, or_false]
          split_ifs <;> rfl
  | cons letter rest =>
      have inLetters : letter ∈ letters :=
        List.dropWhile_subset _ (others ▸ List.mem_cons_self)
      simp [within letter inLetters, Except.map]

theorem splitPort_append {scheme letters behind : List Char} (stops : Stops behind)
    (isPort : letters = [] ∨ ∃ rest, letters = ':' :: rest ∧ Within rest)
    {port : Option UInt16} {rest : List Char}
    (reads : splitPort scheme (letters ++ behind) = .ok (port, rest)) :
    rest = behind ∧ ∀ other, Stops other →
      splitPort scheme (letters ++ other) = .ok (port, other) := by
  rcases isPort with rfl | ⟨digits, rfl, within⟩
  · rw [List.nil_append, splitPort_of_stops scheme stops] at reads
    obtain ⟨rfl, rfl⟩ := Prod.mk.inj (Except.ok.inj reads)
    exact ⟨rfl, fun other => splitPort_of_stops scheme⟩
  · rw [List.cons_append, splitPort_cons within stops] at reads
    cases found : splitPort scheme (':' :: digits) with
    | error failure => simp [found, Except.map] at reads
    | ok outcome =>
        simp only [found, Except.map, Except.ok.injEq, Prod.mk.injEq] at reads
        obtain ⟨rfl, rfl⟩ := reads
        refine ⟨rfl, fun other otherStops => ?_⟩
        rw [List.cons_append, splitPort_cons within otherStops, found]
        rfl

theorem head?_append_eq_colon {letters behind : List Char} (stops : Stops behind)
    (isPort : letters = [] ∨ ∃ rest, letters = ':' :: rest ∧ Within rest) :
    ((letters ++ behind).head? == some ':') = !letters.isEmpty := by
  rcases isPort with rfl | ⟨rest, rfl, -⟩
  · cases behind with
    | nil => rfl
    | cons letter rest =>
        have isEnd := stops letter rfl
        have other : letter ≠ ':' := by
          rintro rfl
          exact absurd isEnd (by decide)
        simp [other]
  · rfl

/-- An authority is read from its own letters, whatever stands behind them. -/
theorem readAuthority_append {scheme letters behind : List Char} (within : Within letters)
    (stops : Stops behind) {authority : Authority} {rest : List Char}
    (reads : readAuthority scheme .common (letters ++ behind) = .ok (authority, rest)) :
    rest = behind ∧ (authority.username, authority.password) = userIn letters ∧
      ∀ other, Stops other →
        readAuthority scheme .common (letters ++ other) = .ok (authority, other) := by
  have withinHost := within_behindUser within
  have isPort := splitHost_cases withinHost false
  unfold readAuthority at reads
  simp only [bind_eq_ok_iff] at reads
  obtain ⟨⟨user, afterUser⟩, userEq, ⟨⟩, someHost, host, hostEq, ⟨⟩, noPort,
    ⟨port, afterPort⟩, portEq, ⟨⟩, noUser, reads⟩ := reads
  obtain ⟨rfl, rfl⟩ := splitUser_append within stops userEq
  simp only [splitHost_append withinHost stops] at someHost hostEq noPort portEq
  obtain ⟨rfl, elsewhere⟩ := splitPort_append stops isPort portEq
  obtain ⟨rfl, rfl⟩ := Prod.mk.inj (Except.ok.inj reads)
  refine ⟨rfl, rfl, fun other otherStops => ?_⟩
  have hostLetters : behindUser letters ≠ [] := by
    intro noHost
    rw [noHost] at someHost
    cases someHost
  rw [head?_append_eq_colon stops isPort] at noPort
  unfold readAuthority
  simp only [splitUser_of_host within otherStops hostLetters, bind, Except.bind,
    splitHost_append withinHost otherStops, someHost, hostEq,
    head?_append_eq_colon otherStops isPort, noPort, elsewhere other otherStops, noUser]
  rfl

end Url

end EditorLaunch
