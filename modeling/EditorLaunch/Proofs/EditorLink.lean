import EditorLaunch.EditorLink
import EditorLaunch.Proofs.Url.Parts

/-!
# What links to editors carry

The link for a session is the address of the editor, read and written again with
another query.  The token leaves the query under every spelling, whoever put it
there, and nothing else does: the remaining parameters are those that were read,
sorted by name and otherwise in their order.
-/

namespace EditorLaunch

namespace EditorLink

/-- Pairs without those of one name, in the order of names and, within a name, in
their own order. -/
structure SortedWithout (name : String) (pairs kept : List Form.Pair) : Prop where
  sorted : kept.Pairwise (·.1 ≤ ·.1)
  without : ∀ pair ∈ kept, pair.1 ≠ name
  others : ∀ other ≠ name,
    kept.filter (·.1 == other) = pairs.filter (·.1 == other)

/-- The value of the first pair of a name, or an empty text without one. -/
inductive FirstValue (name : String) : List Form.Pair → String → Prop where
  | absent {pairs : List Form.Pair} (none : ∀ pair ∈ pairs, pair.1 ≠ name) :
      FirstValue name pairs ""
  | found {before behind : List Form.Pair} {value : String}
      (first : ∀ pair ∈ before, pair.1 ≠ name) :
      FirstValue name (before ++ (name, value) :: behind) value

theorem FirstValue.cons {name value : String} {pair : Form.Pair} {pairs : List Form.Pair}
    (other : pair.1 ≠ name) (rest : FirstValue name pairs value) :
    FirstValue name (pair :: pairs) value := by
  cases rest with
  | absent none => exact .absent (List.forall_mem_cons.mpr ⟨other, none⟩)
  | @found before behind value first =>
      rw [← List.cons_append]
      exact .found (List.forall_mem_cons.mpr ⟨other, first⟩)

theorem firstValue_tokenOf (pairs : List Form.Pair) :
    FirstValue tokenName pairs (tokenOf pairs) := by
  induction pairs with
  | nil => exact .absent (by simp)
  | cons pair rest ih =>
      obtain ⟨name, value⟩ := pair
      by_cases named : name = tokenName
      · subst named
        have valueEq : tokenOf ((tokenName, value) :: rest) = value := by
          simp [tokenOf]
        have first : FirstValue tokenName ([] ++ (tokenName, value) :: rest) value :=
          .found (by simp)
        rw [valueEq]
        exact first
      · have same : tokenOf ((name, value) :: rest) = tokenOf rest := by
          have differs : (tokenName == name) = false := by
            simpa using fun same => named same.symm
          simp [tokenOf, List.lookup_cons, differs]
        rw [same]
        exact ih.cons named

theorem name_le_trans (left middle right : Form.Pair)
    (first : decide (left.1 ≤ middle.1) = true) (second : decide (middle.1 ≤ right.1) = true) :
    decide (left.1 ≤ right.1) = true := by
  rw [decide_eq_true_eq] at first second ⊢
  exact String.le_trans first second

theorem name_le_total (left right : Form.Pair) :
    (decide (left.1 ≤ right.1) || decide (right.1 ≤ left.1)) = true := by
  rw [Bool.or_eq_true, decide_eq_true_eq, decide_eq_true_eq]
  exact String.le_total left.1 right.1

theorem pairwise_sortPairs (pairs : List Form.Pair) :
    (sortPairs pairs).Pairwise (·.1 ≤ ·.1) := by
  have sorted := List.pairwise_mergeSort name_le_trans name_le_total pairs
  exact sorted.imp fun ordered => of_decide_eq_true ordered

/-- Sorting leaves the pairs of one name in their order. -/
theorem filter_sortPairs (pairs : List Form.Pair) (name : String) :
    (sortPairs pairs).filter (·.1 == name) = pairs.filter (·.1 == name) := by
  have ordered : (pairs.filter (·.1 == name)).Pairwise
      fun left right => decide (left.1 ≤ right.1) = true := by
    refine List.pairwise_of_forall_mem_list ?_
    intro left leftMember right rightMember
    have leftName : left.1 = name := by simpa using (List.mem_filter.mp leftMember).2
    have rightName : right.1 = name := by simpa using (List.mem_filter.mp rightMember).2
    have sameName : left.1 = right.1 := leftName.trans rightName.symm
    exact decide_eq_true (sameName ▸ String.le_refl left.1)
  have kept : (pairs.filter (·.1 == name)).Sublist (sortPairs pairs) :=
    List.sublist_mergeSort name_le_trans name_le_total ordered List.filter_sublist
  have within := kept.filter (·.1 == name)
  rw [List.filter_filter] at within
  simp only [Bool.and_self] at within
  have same : (sortPairs pairs).Perm pairs := List.mergeSort_perm pairs _
  exact (within.eq_of_length (same.filter _).length_eq.symm).symm

theorem sortedWithout_otherPairs (pairs : List Form.Pair) :
    SortedWithout tokenName pairs (otherPairs pairs) := by
  refine ⟨pairwise_sortPairs _, ?_, ?_⟩
  · intro pair member
    have same : (otherPairs pairs).Perm (pairs.filter (·.1 != tokenName)) :=
      List.mergeSort_perm _ _
    simpa using (List.mem_filter.mp (same.mem_iff.mp member)).2
  · intro other differs
    rw [otherPairs, filter_sortPairs, List.filter_filter]
    refine List.filter_congr ?_
    intro pair _
    by_cases named : pair.1 = other
    · simp [named, differs]
    · simp [named]

/-- What `assemble` does when it succeeds. -/
theorem assemble_eq_ok {editorAddress : String} {handle : SessionHandle}
    {lifetime : Duration} {now : Int} {link : EditorLink}
    (assembled : assemble editorAddress handle lifetime now = .ok link) :
    ∃ url, Url.parse (editorAddress ++ "&WOPISrc=" ++ handle.text) = .ok url ∧
      link.address = (withQuery url (otherPairs url.pairs)).text ∧
      link.accessToken = tokenOf url.pairs := by
  unfold assemble at assembled
  dsimp only at assembled
  split at assembled
  · cases assembled
  · rename_i url parsed
    obtain ⟨expiresAt, -, linkEq⟩ := bind_eq_ok_iff.mp assembled
    obtain rfl := Except.ok.inj linkEq
    exact ⟨url, parsed, rfl, rfl⟩

theorem divided_withQuery {url : Url} (divided : url.Divided) (pairs : List Form.Pair) :
    (withQuery url pairs).Divided := by
  unfold withQuery
  split
  · unfold Url.withoutQuery
    split
    · rename_i letters pathEq _
      have passes := divided.path
      rw [pathEq] at passes
      refine ⟨divided.scheme, divided.authority, passes.subset ?_⟩
      intro letter member
      have kept := List.dropWhile_subset _ (List.mem_reverse.mp member)
      exact List.mem_reverse.mp kept
    · exact ⟨divided.scheme, divided.authority, divided.path⟩
  · exact ⟨divided.scheme, divided.authority, divided.path⟩

theorem query_withoutQuery (url : Url) : url.withoutQuery.query = none := by
  unfold Url.withoutQuery
  split <;> rfl

/-- The query of a link holds the pairs, and there is none without pairs. -/
theorem query_withQuery (url : Url) (pairs : List Form.Pair) :
    (withQuery url pairs).query =
      if pairs.isEmpty then none else some (Form.encode pairs).toList := by
  unfold withQuery
  split
  · exact query_withoutQuery url
  · rfl

theorem numberSign_not_mem_query (url : Url) (pairs : List Form.Pair) :
    ∀ query ∈ (withQuery url pairs).query, '#' ∉ query := by
  intro query member inQuery
  rw [query_withQuery] at member
  split at member
  · cases member
  · obtain rfl := Option.some.inj member
    exact Form.ne_numberSign_of_mem_encode inQuery rfl

theorem withQuery_of_rooted {url : Url} {letters : List Char}
    (rooted : url.path = .rooted letters) (pairs : List Form.Pair) :
    withQuery url pairs = { url with query := (withQuery url pairs).query } := by
  unfold withQuery
  split
  · unfold Url.withoutQuery
    split
    · rename_i opaqueEq _
      rw [rooted] at opaqueEq
      cases opaqueEq
    · rfl
  · rfl

/-- The link for a session is the address that was put together, with another query.
Its token is the first one of that address.  Its own query, which can be found in
its text, decodes to the other parameters of that address in the order of their
names, so that none of them is named like the token; without other parameters it
has no query.  Everything else is kept, except that a path without structure may
lose blanks at its end. -/
theorem link_of_assemble {editorAddress : String} {handle : SessionHandle}
    {lifetime : Duration} {now : Int} {link : EditorLink}
    (assembled : assemble editorAddress handle lifetime now = .ok link) :
    ∃ (url returned : Url) (kept : List Form.Pair),
      Url.parse (editorAddress ++ "&WOPISrc=" ++ handle.text) = .ok url ∧
      FirstValue "access_token" url.pairs link.accessToken ∧
      SortedWithout "access_token" url.pairs kept ∧
      link.address = returned.text ∧ Url.queryIn link.address = returned.query ∧
      (kept = [] → returned.query = none) ∧
      (kept ≠ [] → ∃ query, returned.query = some query ∧
        Form.decode (String.ofList query) = kept) ∧
      ∀ letters, url.path = .rooted letters →
        returned = { url with query := returned.query } := by
  obtain ⟨url, parsed, addressEq, tokenEq⟩ := assemble_eq_ok assembled
  have divided := divided_withQuery (Url.divided_parse parsed) (otherPairs url.pairs)
  refine ⟨url, withQuery url (otherPairs url.pairs), otherPairs url.pairs, parsed,
    tokenEq ▸ firstValue_tokenOf url.pairs, sortedWithout_otherPairs url.pairs, addressEq,
    ?_, ?_, ?_, ?_⟩
  · rw [addressEq]
    exact Url.queryIn_text divided (numberSign_not_mem_query url _)
  · intro none
    rw [query_withQuery, none]
    rfl
  · intro some
    refine ⟨(Form.encode (otherPairs url.pairs)).toList, ?_, ?_⟩
    · rw [query_withQuery, if_neg (by simpa using some)]
    · rw [String.ofList_toList, Form.decode_encode]
  · intro letters rooted
    exact withQuery_of_rooted rooted _

/-- An address with two parameters of one name, with a token that is spelled in two
ways, and with the handle of a session that brings a third one. -/
def smuggledAddress : Url :=
  { scheme := "office".toList
    authority := some ⟨[], [], .name ['h'], none⟩
    path := .rooted "/edit".toList
    query := some
      "z=1&access_token=one&a=%26&z=0&access%5Ftoken=two&WOPISrc=x&access_token=three".toList
    fragment := none }

/-- None of the tokens stays, and the first one is taken. -/
theorem link_of_smuggled_token :
    ∃ link kept query,
      assemble "office://h/edit?z=1&access_token=one&a=%26&z=0&access%5Ftoken=two"
        ⟨"x&access_token=three"⟩ (.ofSeconds 60) 0 = .ok link ∧
      link.accessToken = "one" ∧
      SortedWithout "access_token"
        [("z", "1"), ("access_token", "one"), ("a", "&"), ("z", "0"),
          ("access_token", "two"), ("WOPISrc", "x"), ("access_token", "three")] kept ∧
      Url.queryIn link.address = some query ∧ Form.decode (String.ofList query) = kept := by
  have parsed : Url.parse
      ("office://h/edit?z=1&access_token=one&a=%26&z=0&access%5Ftoken=two" ++ "&WOPISrc=" ++
        "x&access_token=three") = .ok smuggledAddress := by
    rfl
  have pairsEq : smuggledAddress.pairs =
      [("z", "1"), ("access_token", "one"), ("a", "&"), ("z", "0"),
        ("access_token", "two"), ("WOPISrc", "x"), ("access_token", "three")] := by
    decide +kernel
  have assembled :
      assemble "office://h/edit?z=1&access_token=one&a=%26&z=0&access%5Ftoken=two"
        ⟨"x&access_token=three"⟩ (.ofSeconds 60) 0 =
      .ok ⟨(withQuery smuggledAddress (otherPairs smuggledAddress.pairs)).text,
        tokenOf smuggledAddress.pairs, 60000⟩ := by
    unfold assemble
    dsimp only
    rw [parsed]
    rfl
  obtain ⟨url, returned, kept, reads, -, sorted, -, queryEq, -, filled, -⟩ :=
    link_of_assemble assembled
  obtain rfl : smuggledAddress = url := Except.ok.inj (parsed.symm.trans reads)
  have stays : kept ≠ [] := by
    rintro rfl
    have others := sorted.others "a" (by decide)
    rw [pairsEq] at others
    revert others
    decide
  obtain ⟨query, queryIs, decoded⟩ := filled stays
  refine ⟨_, kept, query, assembled, ?_, pairsEq ▸ sorted, queryEq.trans queryIs, decoded⟩
  rw [pairsEq]
  rfl

end EditorLink

end EditorLaunch
