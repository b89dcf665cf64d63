import EditorLaunch.Proofs.Readers
import EditorLaunch.Proofs.Settings.Value
import EditorLaunch.Settings.Decode
import Mathlib.Data.List.Pairwise

/-!
# Settings one by one

A section is read by going through the members of a table, so it matters that its settings do
not touch each other: each is put and found again under one name, putting one leaves what is
found of the others, and together they are all there is.  Then reading a tidy table gives
every setting the value that the table has under its name, or leaves its default, and fails
exactly if one of these values cannot be read.
-/

namespace EditorLaunch

namespace Settings

open RawSetting (Tidy)

variable {σ α β : Type}

/-- A value is what was read, or its default if nothing was given. -/
def Taken (decode : Decoder α) (raw? : Option RawSetting) (default value : α) : Prop :=
  match raw? with
  | some raw => decode raw = .ok value
  | none => value = default

/-- Something was given that cannot be read. -/
def Refused (decode : Decoder α) (raw? : Option RawSetting) : Prop :=
  ∃ raw error, raw? = some raw ∧ decode raw = .error error

instance (decode : Decoder α) (raw? : Option RawSetting) : Decidable (Refused decode raw?) :=
  match raw? with
  | none => .isFalse fun ⟨_, _, given, _⟩ => by cases given
  | some raw =>
      match decoded : decode raw with
      | .ok _ => .isFalse fun ⟨_, _, given, fails⟩ => by
          obtain rfl := Option.some.inj given
          rw [decoded] at fails
          cases fails
      | .error error => .isTrue ⟨raw, error, rfl, decoded⟩

instance [DecidableEq α] (decode : Decoder α) (raw? : Option RawSetting) (default value : α) :
    Decidable (Taken decode raw? default value) :=
  match raw? with
  | none => inferInstanceAs (Decidable (value = default))
  | some raw => inferInstanceAs (Decidable (decode raw = .ok value))

theorem not_refused_of_taken {decode : Decoder α} {raw? : Option RawSetting} {default value : α}
    (taken : Taken decode raw? default value) : ¬ Refused decode raw? := by
  rintro ⟨raw, error, rfl, fails⟩
  have reads : decode raw = .ok value := taken
  rw [fails] at reads
  cases reads

theorem Taken.unique {decode : Decoder α} {raw? : Option RawSetting} {default value other : α}
    (taken : Taken decode raw? default value) (takenOther : Taken decode raw? default other) :
    value = other := by
  cases raw? with
  | none => exact (show value = default from taken).trans (Eq.symm takenOther)
  | some raw =>
      have reads : decode raw = .ok value := taken
      exact Except.ok.inj (reads.symm.trans takenOther)

/-- A setting of a section: how it is read, put and found again. -/
structure Part (σ : Type) where
  key : String
  Value : Type
  decode : Decoder Value
  put : σ → Value → σ
  get : σ → Value

def Part.field (part : Part σ) : Field σ :=
  Settings.field part.key part.decode part.put

@[simp]
theorem Part.name_field (part : Part σ) : part.field.name = part.key :=
  rfl

theorem Part.set_field (part : Part σ) (settings : σ) (raw : RawSetting) :
    part.field.set settings raw = (part.decode raw).map (part.put settings) := by
  change ((part.decode raw).bind fun value => .ok (part.put settings value)) = _
  cases part.decode raw <;> rfl

/-- Putting one of two settings leaves the other one. -/
def Part.Apart (left right : Part σ) : Prop :=
  (∀ settings value, left.get (right.put settings value) = left.get settings) ∧
    ∀ settings value, right.get (left.put settings value) = right.get settings

/-- The settings of a section, which do not touch each other and are all there is of it. -/
structure Layout (σ : Type) where
  parts : List (Part σ)
  nodup : (parts.map Part.key).Nodup := by decide
  get_put : ∀ part ∈ parts, ∀ settings value, part.get (part.put settings value) = value := by
    simp
  apart : parts.Pairwise Part.Apart := by simp [Part.Apart]
  complete : ∀ left right, (∀ part ∈ parts, part.get left = part.get right) → left = right := by
    rintro ⟨⟩ ⟨⟩ same
    simpa using same

namespace Layout

variable {layout : Layout σ} {part other : Part σ} {entries members : List (String × RawSetting)}
  {settings defaults : σ} {raw : RawSetting} {name : String}

def fields (layout : Layout σ) : List (Field σ) :=
  layout.parts.map Part.field

theorem eq_of_key_eq (member : part ∈ layout.parts) (otherMember : other ∈ layout.parts)
    (same : part.key = other.key) : part = other :=
  List.inj_on_of_nodup_map layout.nodup member otherMember same

theorem get_put_of_ne (member : part ∈ layout.parts) (otherMember : other ∈ layout.parts)
    (differ : part.key ≠ other.key) (settings : σ) (value : other.Value) :
    part.get (other.put settings value) = part.get settings := by
  have symmetric : Std.Symm (Part.Apart (σ := σ)) := ⟨fun _ _ apart => ⟨apart.2, apart.1⟩⟩
  exact (layout.apart.forall member otherMember fun same => differ (congrArg _ same)).1 _ _

/-- What has become of settings that were read: each value is the given one or the default, or
one of the given values has been refused, and the error names it. -/
inductive Reads (layout : Layout σ) (raw? : String → Option RawSetting) (defaults : σ) :
    Except DecodeError σ → Prop
  | taken {settings : σ} (each : ∀ part ∈ layout.parts,
      Taken part.decode (raw? part.key) (part.get defaults) (part.get settings)) :
      Reads layout raw? defaults (.ok settings)
  | refused {part : Part σ} {raw : RawSetting} {error : DecodeError}
      (member : part ∈ layout.parts) (given : raw? part.key = some raw)
      (fails : part.decode raw = .error error) :
      Reads layout raw? defaults (.error ⟨part.key :: error.path, error.fault⟩)

theorem setMember_of_mem (member : part ∈ layout.parts) (settings : σ) (raw : RawSetting) :
    setMember layout.fields settings (part.key, raw) =
      under part.key ((part.decode raw).map (part.put settings)) := by
  have found : layout.fields.find? (·.name == part.key) = some part.field := by
    rw [fields, List.find?_map, Option.map_eq_some_iff]
    refine ⟨part, ?_, rfl⟩
    cases reached : layout.parts.find? ((·.name == part.key) ∘ Part.field) with
    | none =>
        have missed := List.find?_eq_none.mp reached part member
        exact absurd (beq_self_eq_true part.key) missed
    | some other =>
        have same : other.key = part.key := by simpa using List.find?_some reached
        rw [eq_of_key_eq (List.mem_of_find?_eq_some reached) member same]
  rw [setMember, found, ← Part.set_field]

theorem setMember_of_unknown (unknown : ∀ part ∈ layout.parts, part.key ≠ name) (settings : σ)
    (raw : RawSetting) : setMember layout.fields settings (name, raw) = .ok settings := by
  have missing : layout.fields.find? (·.name == name) = none := by
    rw [List.find?_eq_none, fields, List.forall_mem_map]
    intro part member
    rw [Part.name_field, beq_iff_eq]
    exact unknown part member
  rw [setMember, missing]

theorem lookup_cons_of_ne {key : String} (differ : key ≠ name) :
    ((name, raw) :: entries).lookup key = entries.lookup key := by
  rw [RawSetting.lookup_cons, if_neg differ]

theorem Reads.of_unknown {outcome : Except DecodeError σ}
    (unknown : ∀ part ∈ layout.parts, part.key ≠ name)
    (later : layout.Reads (entries.lookup ·) settings outcome) :
    layout.Reads (((name, raw) :: entries).lookup ·) settings outcome := by
  cases later with
  | refused member given fails =>
      refine .refused member ?_ fails
      rwa [lookup_cons_of_ne (unknown _ member)]
  | taken each =>
      refine .taken fun part member => ?_
      rw [lookup_cons_of_ne (unknown part member)]
      exact each part member

/-- A value that is put stays there, for no later one is for the same setting. -/
theorem Reads.of_put {outcome : Except DecodeError σ} {value : part.Value}
    (member : part ∈ layout.parts) (decoded : part.decode raw = .ok value)
    (missing : part.key ∉ entries.map Prod.fst)
    (later : layout.Reads (entries.lookup ·) (part.put settings value) outcome) :
    layout.Reads (((part.key, raw) :: entries).lookup ·) settings outcome := by
  have noLater := RawSetting.lookup_eq_none missing
  cases later with
  | @refused other otherRaw _ otherMember given fails =>
      have differ : other.key ≠ part.key := by
        intro same
        rw [same, noLater] at given
        cases given
      refine .refused otherMember ?_ fails
      rwa [lookup_cons_of_ne differ]
  | taken each =>
      refine .taken fun other otherMember => ?_
      have taken := each other otherMember
      by_cases same : other.key = part.key
      · obtain rfl := eq_of_key_eq otherMember member same
        rw [noLater] at taken
        have kept : other.get _ = other.get (other.put settings value) := taken
        rw [layout.get_put other member] at kept
        rw [RawSetting.lookup_cons, if_pos rfl]
        exact decoded.trans (congrArg _ kept.symm)
      · rw [get_put_of_ne otherMember member same] at taken
        rwa [lookup_cons_of_ne same]

theorem reads_foldlM (once : (entries.map Prod.fst).Nodup) (settings : σ) :
    layout.Reads (entries.lookup ·) settings
      (entries.foldlM (setMember layout.fields) settings) := by
  induction entries generalizing settings with
  | nil => exact .taken fun _ _ => rfl
  | cons entry rest ih =>
      obtain ⟨name, raw⟩ := entry
      obtain ⟨missing, restOnce⟩ := List.nodup_cons.mp once
      rw [List.foldlM_cons]
      by_cases known : ∃ part ∈ layout.parts, part.key = name
      · obtain ⟨part, member, rfl⟩ := known
        rw [setMember_of_mem member]
        cases decoded : part.decode raw with
        | error error =>
            refine .refused member ?_ decoded
            rw [RawSetting.lookup_cons, if_pos rfl]
        | ok value => exact (ih restOnce (part.put settings value)).of_put member decoded missing
      · have unknown : ∀ part ∈ layout.parts, part.key ≠ name := fun part member same =>
          known ⟨part, member, same⟩
        rw [setMember_of_unknown unknown]
        exact (ih restOnce settings).of_unknown unknown

/-- Reading a table in which each name stands once. -/
theorem reads_table (once : (members.map Prod.fst).Nodup) (defaults : σ) :
    layout.Reads (members.lookup ·) defaults
      (Settings.fields layout.fields defaults (.table members)) := by
  have perm : (RawSetting.sorted members).Perm members := List.mergeSort_perm _ _
  have sortedOnce := (perm.map Prod.fst).nodup_iff.mpr once
  have same : ∀ key, (RawSetting.sorted members).lookup key = members.lookup key :=
    RawSetting.lookup_perm perm once
  have reads : layout.Reads _ defaults (Settings.fields layout.fields defaults (.table members)) :=
    reads_foldlM sortedOnce defaults
  simpa only [same] using reads

end Layout

end Settings

end EditorLaunch
