import Mathlib.Data.List.Forall2
import Mathlib.Data.List.TakeDrop

/-!
# What readers share

Readers work item by item, piece by piece and step by step.  What they make of a
list stands item by item beside it, what stands in joined pieces stands in one of
them or joins them, and a reader of several steps succeeds only if each step does.
-/

namespace EditorLaunch

variable {α β ε : Type}

theorem bind_eq_ok_iff {first : Except ε α} {next : α → Except ε β} {result : β} :
    (first >>= next) = .ok result ↔
      ∃ value, first = .ok value ∧ next value = .ok result := by
  cases first with
  | ok value => simp [bind, Except.bind]
  | error failure => simp [bind, Except.bind]

theorem forall₂_of_mapM_eq_some {read : α → Option β} {items : List α} {results : List β}
    (mapped : items.mapM read = some results) :
    List.Forall₂ (fun item result => read item = some result) items results := by
  induction items generalizing results with
  | nil =>
      simp only [List.mapM_nil, Option.pure_def, Option.some.injEq] at mapped
      exact mapped ▸ .nil
  | cons item rest ih =>
      simp only [List.mapM_cons, Option.bind_eq_bind, Option.bind_eq_some_iff,
        Option.pure_def, Option.some.injEq] at mapped
      obtain ⟨result, first, others, later, rfl⟩ := mapped
      exact .cons first (ih later)

theorem exists_of_mem_of_mapM_eq_some {read : α → Option β} {items : List α}
    {results : List β} {result : β} (mapped : items.mapM read = some results)
    (member : result ∈ results) : ∃ item ∈ items, read item = some result := by
  have beside := forall₂_of_mapM_eq_some mapped
  clear mapped
  induction beside with
  | nil => cases member
  | cons first _ ih =>
      rcases List.mem_cons.mp member with rfl | inRest
      · exact ⟨_, List.mem_cons_self, first⟩
      · obtain ⟨item, inItems, readEq⟩ := ih inRest
        exact ⟨item, List.mem_cons_of_mem _ inItems, readEq⟩

theorem exists_result_of_mapM_eq_some {read : α → Option β} {items : List α} {results : List β}
    {item : α} (mapped : items.mapM read = some results) (member : item ∈ items) :
    ∃ result, read item = some result := by
  have beside := forall₂_of_mapM_eq_some mapped
  clear mapped
  induction beside with
  | nil => cases member
  | cons first _ ih =>
      rcases List.mem_cons.mp member with rfl | inRest
      · exact ⟨_, first⟩
      · exact ih inRest

/-- What goes on otherwise is divided from items of a kind before it. -/
theorem span_append {test : α → Bool} {items behind : List α}
    (passes : ∀ item ∈ items, test item = true)
    (stops : ∀ first ∈ behind.head?, test first = false) :
    (items ++ behind).span test = (items, behind) := by
  have nothing : behind.takeWhile test = [] ∧ behind.dropWhile test = behind := by
    cases behind with
    | nil => exact ⟨rfl, rfl⟩
    | cons first others => simp [stops first rfl]
  rw [List.span_eq_takeWhile_dropWhile, List.takeWhile_append_of_pos passes,
    List.dropWhile_append_of_pos passes, nothing.1, nothing.2, List.append_nil]

/-- From behind, items are divided at the last sign. -/
theorem span_reverse_append [BEq α] [LawfulBEq α] {sign : α} (front : List α) {behind : List α}
    (absent : sign ∉ behind) :
    (front ++ sign :: behind).reverse.span (· != sign) =
      (behind.reverse, sign :: front.reverse) := by
  rw [List.reverse_append, List.reverse_cons, List.append_assoc, List.singleton_append]
  refine span_append (fun item member => ?_) (by simp)
  rw [bne_iff_ne]
  rintro rfl
  exact absent (List.mem_reverse.mp member)

theorem mem_of_mem_intercalate {sign item : α} {pieces : List (List α)}
    (member : item ∈ List.intercalate [sign] pieces) :
    item = sign ∨ ∃ piece ∈ pieces, item ∈ piece := by
  induction pieces with
  | nil => cases member
  | cons first rest ih =>
      cases rest with
      | nil =>
          rw [List.intercalate_singleton] at member
          exact .inr ⟨first, List.mem_cons_self, member⟩
      | cons second others =>
          rw [List.intercalate_cons_cons, List.mem_append, List.mem_append,
            List.mem_singleton] at member
          rcases member with (inFirst | isSign) | inRest
          · exact .inr ⟨first, List.mem_cons_self, inFirst⟩
          · exact .inl isSign
          · rcases ih inRest with isSign | ⟨piece, inPieces, inPiece⟩
            · exact .inl isSign
            · exact .inr ⟨piece, List.mem_cons_of_mem _ inPieces, inPiece⟩

end EditorLaunch
