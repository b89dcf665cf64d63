import EditorLaunch.Http.OpenQuery

/-!
# Which file a query names

The two parameters of a query are collected pair by pair.  As long as neither of
them stands twice, what has been collected is what has been passed; the first one
that stands twice ends the reading.  The file is then named by the identifier
unless that is empty, and otherwise by the path.
-/

namespace EditorLaunch

namespace Http

namespace OpenQuery

/-- Neither parameter stands twice. -/
structure Readable (pairs : List Form.Pair) : Prop where
  fileId : pairs.countP (·.1 == "fileId") ≤ 1
  filePath : pairs.countP (·.1 == "filePath") ≤ 1

/-- A parameter is the first one that stands twice. -/
def RepeatsFirst (pairs : List Form.Pair) (name : String) : Prop :=
  ∃ before value behind, pairs = before ++ (name, value) :: behind ∧ Readable before ∧
    (name = "fileId" ∨ name = "filePath") ∧ ∃ earlier, (name, earlier) ∈ before

theorem RepeatsFirst.not_readable {pairs : List Form.Pair} {name : String}
    (repeats : RepeatsFirst pairs name) : ¬ Readable pairs := by
  obtain ⟨before, value, behind, rfl, -, known, earlier, member⟩ := repeats
  have twice : 2 ≤ (before ++ (name, value) :: behind).countP (·.1 == name) := by
    have first : 0 < before.countP (·.1 == name) :=
      List.countP_pos_iff.mpr ⟨_, member, by simp⟩
    rw [List.countP_append, List.countP_cons_of_pos (by simp)]
    omega
  rintro ⟨idOnce, pathOnce⟩
  rcases known with rfl | rfl
  · omega
  · omega

/-- A slot holds the value of the pair of a name, which stands at most once. -/
structure SlotHolds (pairs : List Form.Pair) (name : String) (slot : Option String) :
    Prop where
  once : pairs.countP (·.1 == name) ≤ 1
  holds : ∀ value, slot = some value ↔ (name, value) ∈ pairs

variable {before : List Form.Pair} {name : String} {slot : Option String}

theorem SlotHolds.nil : SlotHolds [] name none :=
  ⟨by simp, by simp⟩

theorem SlotHolds.pass {pair : Form.Pair} (slotHolds : SlotHolds before name slot)
    (other : pair.1 ≠ name) : SlotHolds (before ++ [pair]) name slot := by
  constructor
  · rw [List.countP_append, List.countP_singleton, if_neg (by simpa using other)]
    exact slotHolds.once
  · intro value
    have differs : (name, value) ≠ pair := by
      rintro rfl
      exact other rfl
    rw [slotHolds.holds, List.mem_append, List.mem_singleton, or_iff_left differs]

theorem SlotHolds.fill {value : String} (slotHolds : SlotHolds before name none) :
    SlotHolds (before ++ [(name, value)]) name (some value) := by
  have absent (other : String) : (name, other) ∉ before := by
    rw [← slotHolds.holds]
    simp
  constructor
  · have none : before.countP (·.1 == name) = 0 := by
      rw [List.countP_eq_zero]
      rintro ⟨otherName, other⟩ member named
      obtain rfl : otherName = name := by simpa using named
      exact absent other member
    have one : [(name, value)].countP (·.1 == name) = 1 := by simp
    have both : (before ++ [(name, value)]).countP (·.1 == name) = 0 + 1 := by
      rw [List.countP_append, none, one]
    exact Nat.le_of_eq both
  · intro other
    rw [List.mem_append, List.mem_singleton, or_iff_right (absent other), Prod.mk.injEq,
      Option.some.injEq]
    simp [eq_comm]

/-- What has been collected is what has been passed. -/
structure Collects (pairs : List Form.Pair) (query : OpenQuery) : Prop where
  fileId : SlotHolds pairs "fileId" query.fileId?
  filePath : SlotHolds pairs "filePath" query.filePath?

theorem Collects.readable {pairs : List Form.Pair} {query : OpenQuery}
    (collects : Collects pairs query) : Readable pairs :=
  ⟨collects.fileId.once, collects.filePath.once⟩

/-- One more pair is collected, or it repeats a parameter. -/
theorem Collects.take {query : OpenQuery} (collects : Collects before query)
    (pair : Form.Pair) :
    (∃ next, query.take pair = .ok next ∧ Collects (before ++ [pair]) next) ∨
      ∃ name, query.take pair = .error ⟨name⟩ ∧ name = pair.1 ∧
        (name = "fileId" ∨ name = "filePath") ∧ ∃ earlier, (name, earlier) ∈ before := by
  obtain ⟨fileId?, filePath?⟩ := query
  obtain ⟨name, value⟩ := pair
  have differ : idName ≠ pathName := by decide
  unfold OpenQuery.take
  by_cases isId : name = idName
  · subst isId
    cases fileId? with
    | none =>
        exact .inl ⟨_, rfl, collects.fileId.fill, collects.filePath.pass differ⟩
    | some earlier =>
        exact .inr ⟨idName, rfl, rfl, .inl rfl, earlier,
          (collects.fileId.holds earlier).mp rfl⟩
  · by_cases isPath : name = pathName
    · subst isPath
      cases filePath? with
      | none =>
          exact .inl ⟨_, rfl, collects.fileId.pass differ.symm, collects.filePath.fill⟩
      | some earlier =>
          exact .inr ⟨pathName, rfl, rfl, .inr rfl, earlier,
            (collects.filePath.holds earlier).mp rfl⟩
    · rw [if_neg isId, if_neg isPath]
      exact .inl ⟨_, rfl, collects.fileId.pass isId, collects.filePath.pass isPath⟩

theorem Collects.foldlM {query : OpenQuery} (collects : Collects before query)
    (behind : List Form.Pair) :
    (∃ last, behind.foldlM OpenQuery.take query = .ok last ∧
        Collects (before ++ behind) last) ∨
      ∃ name, behind.foldlM OpenQuery.take query = .error ⟨name⟩ ∧
        RepeatsFirst (before ++ behind) name := by
  induction behind generalizing before query with
  | nil => exact .inl ⟨query, rfl, by rwa [List.append_nil]⟩
  | cons pair rest ih =>
      rw [List.foldlM_cons]
      rcases collects.take pair with ⟨next, takes, nextCollects⟩ |
        ⟨name, takes, rfl, known, earlier⟩
      · rw [takes, List.append_cons before pair rest]
        exact ih nextCollects
      · rw [takes]
        exact .inr ⟨pair.1, rfl, before, pair.2, rest, rfl, collects.readable, known, earlier⟩

theorem Collects.nil : Collects [] ⟨none, none⟩ :=
  ⟨.nil, .nil⟩

/-- A query is read, or it repeats a parameter. -/
theorem ofText_cases (query : String) :
    (∃ found, ofText query = .ok found ∧ Collects (Form.decode query) found) ∨
      ∃ name, ofText query = .error ⟨name⟩ ∧ RepeatsFirst (Form.decode query) name :=
  Collects.nil.foldlM (Form.decode query)

theorem Readable.exists_collects {pairs : List Form.Pair} (readable : Readable pairs) :
    ∃ query, Collects pairs query := by
  rcases Collects.nil.foldlM pairs with ⟨query, -, collects⟩ | ⟨name, -, repeats⟩
  · exact ⟨query, collects⟩
  · exact absurd readable repeats.not_readable

/-- The file that parameters name. -/
inductive Chooses (pairs : List Form.Pair) : FileTarget → Prop where
  | encodedId {encoded : String} (stands : ("fileId", encoded) ∈ pairs)
      (filled : encoded ≠ "") : Chooses pairs (.encodedId encoded)
  | path {location : String} (noId : ∀ encoded, ("fileId", encoded) ∈ pairs → encoded = "")
      (stands : ("filePath", location) ∈ pairs) (filled : location ≠ "") :
      Chooses pairs (.path location)

theorem filter_filled_eq_some_iff {slot : Option String} {value : String} :
    slot.filter (!·.isEmpty) = some value ↔ slot = some value ∧ value ≠ "" := by
  simp [Option.filter_eq_some_iff]

theorem filter_filled_eq_none_iff {slot : Option String} :
    slot.filter (!·.isEmpty) = none ↔ ∀ value, slot = some value → value = "" := by
  simp [Option.filter_eq_none_iff]

theorem Collects.target_of_chooses {pairs : List Form.Pair} {query : OpenQuery}
    {target : FileTarget} (collects : Collects pairs query)
    (chooses : Chooses pairs target) : query.target = .ok target := by
  unfold OpenQuery.target
  cases chooses with
  | encodedId stands filled =>
      have held := (collects.fileId.holds _).mpr stands
      rw [filter_filled_eq_some_iff.mpr ⟨held, filled⟩]
  | path noId stands filled =>
      have held := (collects.filePath.holds _).mpr stands
      have empty : query.fileId?.filter (!·.isEmpty) = none := by
        rw [filter_filled_eq_none_iff]
        intro encoded idHeld
        exact noId encoded ((collects.fileId.holds encoded).mp idHeld)
      rw [empty, filter_filled_eq_some_iff.mpr ⟨held, filled⟩]

theorem Chooses.unique {pairs : List Form.Pair} {target other : FileTarget}
    (readable : Readable pairs) (chooses : Chooses pairs target)
    (otherChooses : Chooses pairs other) : target = other := by
  obtain ⟨query, collects⟩ := readable.exists_collects
  have found := collects.target_of_chooses chooses
  rw [collects.target_of_chooses otherChooses] at found
  exact (Except.ok.inj found).symm

/-- The parameters that were collected choose a file, or they are empty. -/
theorem Collects.target_cases {pairs : List Form.Pair} {query : OpenQuery}
    (collects : Collects pairs query) :
    (∃ target, query.target = .ok target ∧ Chooses pairs target) ∨
      query.target = .error (.missingParameter "fileID parameter missing in request") ∧
        ∀ target, ¬ Chooses pairs target := by
  cases identified : query.fileId?.filter (!·.isEmpty) with
  | some encoded =>
      obtain ⟨held, filled⟩ := filter_filled_eq_some_iff.mp identified
      have chooses := Chooses.encodedId ((collects.fileId.holds encoded).mp held) filled
      exact .inl ⟨_, collects.target_of_chooses chooses, chooses⟩
  | none =>
      cases located : query.filePath?.filter (!·.isEmpty) with
      | some location =>
          obtain ⟨held, filled⟩ := filter_filled_eq_some_iff.mp located
          have noId (encoded : String) (stands : ("fileId", encoded) ∈ pairs) :
              encoded = "" :=
            filter_filled_eq_none_iff.mp identified encoded
              ((collects.fileId.holds encoded).mpr stands)
          have chooses :=
            Chooses.path noId ((collects.filePath.holds location).mp held) filled
          exact .inl ⟨_, collects.target_of_chooses chooses, chooses⟩
      | none =>
          have missing :
              query.target = .error (.missingParameter "fileID parameter missing in request") := by
            rw [OpenQuery.target, identified, located]
          refine .inr ⟨missing, ?_⟩
          intro target chooses
          have found := collects.target_of_chooses chooses
          rw [missing] at found
          cases found

end OpenQuery

end Http

end EditorLaunch
