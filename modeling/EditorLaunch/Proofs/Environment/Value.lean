import EditorLaunch.Proofs.Environment.Spelling
import EditorLaunch.Proofs.Settings.Value

/-!
# Variables are tidy

What a variable holds is read as a tree in which nothing is missing, and the names of its
tables stand once after the last value of each has been kept.
-/

namespace EditorLaunch

namespace Environment

open RawSetting (Tidy)

variable {setting : RawSetting} {found members : List (String × RawSetting)}

/-- A tree without missing values outside of lists. -/
inductive Present : RawSetting → Prop
  | flag (value : Bool) : Present (.flag value)
  | integer (value : Int) : Present (.integer value)
  | float (value : Float) : Present (.float value)
  | letter (value : Char) : Present (.letter value)
  | text (value : String) : Present (.text value)
  | list (items : List RawSetting) : Present (.list items)
  | table {members : List (String × RawSetting)}
      (each : ∀ member ∈ members, Present member.2) : Present (.table members)

theorem tidy_distinctMembers (tidy : Tidy (.table found))
    (each : ∀ member ∈ members, (distinct member.2).Tidy) :
    Tidy (.table (distinctMembers found members)) := by
  induction members generalizing found with
  | nil =>
      rw [distinctMembers]
      exact tidy
  | cons first rest ih =>
      obtain ⟨tidyFirst, tidyRest⟩ := List.forall_mem_cons.mp each
      rw [distinctMembers]
      exact ih (RawSetting.tidy_put tidy tidyFirst) tidyRest

theorem Present.tidy_distinct (present : Present setting) : (distinct setting).Tidy := by
  induction present with
  | table each ih =>
      rw [distinct]
      exact tidy_distinctMembers (.table List.nodup_nil (by simp)) ih
  | _ =>
      rw [distinct]
      constructor

mutual

theorem Spells.present {characters rest : List Char} {setting : RawSetting} :
    Spells characters setting rest → Present setting
  | .intro begins => begins.present

theorem Begins.present {characters rest : List Char} {setting : RawSetting} :
    Begins characters setting rest → Present setting
  | .yes _ => .flag true
  | .no _ => .flag false
  | .table each => .table each.present
  | .list _ => .list _
  | .quoted _ => .text _
  | .letter letter _ => .letter letter
  | .float _ _ => .float _
  | .integer _ _ _ => .integer _
  | .text _ _ _ => .text _

theorem SpellPairs.present {characters rest : List Char} {members : List (String × RawSetting)} :
    SpellPairs characters members rest → ∀ member ∈ members, Present member.2
  | .none _ => by simp
  | .last _ _ spells => List.forall_mem_singleton.mpr spells.present
  | .more _ _ spells others => List.forall_mem_cons.mpr ⟨spells.present, others.present⟩

end

/-- What a variable holds is read as a tidy tree. -/
theorem tidy_read (content : String) : (read content).Tidy := by
  by_cases noValue : ∀ setting, ¬ Spells content.toList setting []
  · rw [read_of_not_spells noValue]
    exact .text content
  · push Not at noValue
    obtain ⟨setting, spells⟩ := noValue
    rw [read_of_spells spells]
    exact spells.present.tidy_distinct

end Environment

end EditorLaunch
