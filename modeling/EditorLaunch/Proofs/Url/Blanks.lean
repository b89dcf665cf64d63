import EditorLaunch.Proofs.Url.Endings

/-!
# Blanks at the end of an address

Blanks at the end of an address are cut off when it is read by itself, and come to stand
inside the longer address once a path is put behind it.  There they are part of what they
stand behind: no host and no port is read with blanks, and the last element of a path gets
escapes for them, which make it longer than a path without them can be.
-/

namespace EditorLaunch

namespace Percent

/-- An octet that belongs to no escape is left alone. -/
theorem mem_decode {octet : UInt8} (noSign : octet ≠ 0x25) (noDigit : digitValue? octet = none)
    {octets : List UInt8} (member : octet ∈ octets) : octet ∈ decode octets := by
  fun_induction decode octets with
  | case1 high low rest first second secondDigit firstDigit ih =>
      have notHigh : octet ≠ high := by
        rintro rfl
        rw [noDigit] at firstDigit
        cases firstDigit
      have notLow : octet ≠ low := by
        rintro rfl
        rw [noDigit] at secondDigit
        cases secondDigit
      simp only [List.mem_cons, noSign, notHigh, notLow, false_or] at member
      exact List.mem_cons_of_mem _ (ih member)
  | case2 high low rest noEscape ih =>
      exact List.mem_cons_of_mem _ (ih ((List.mem_cons.mp member).resolve_left noSign))
  | case3 other rest noEscape ih =>
      rcases List.mem_cons.mp member with rfl | inRest
      · exact List.mem_cons_self
      · exact List.mem_cons_of_mem _ (ih inRest)
  | case4 => exact member

end Percent

namespace Url

variable {blanks : List Char}

theorem octet_of_isTrimmed {letter : Char} (blank : isTrimmed letter = true) :
    UInt8.ofNat letter.toNat ≠ 0x25 ∧
      Percent.digitValue? (UInt8.ofNat letter.toNat) = none := by
  have noneFits : ∀ code ≤ 0x20, UInt8.ofNat code ≠ 0x25 ∧
      Percent.digitValue? (UInt8.ofNat code) = none := by decide
  exact noneFits letter.toNat (of_decide_eq_true blank)

theorem not_isTrimmed_of_toAscii? {name written : List Char}
    (writes : DomainName.toAscii? name = some written) :
    ∀ letter ∈ name, isTrimmed letter = false := by
  unfold DomainName.toAscii? at writes
  split at writes
  · cases writes
  · rename_i noBlank
    intro letter member
    by_contra blank
    refine noBlank (List.any_eq_true.mpr ⟨letter, member, ?_⟩)
    simpa [isTrimmed] using blank

/-- No host is read from letters with blanks at their end. -/
theorem readCommon_ne_ok {letters : List Char} {host : Host}
    (blank : ∀ letter ∈ blanks, isTrimmed letter = true) (filled : blanks ≠ []) :
    Host.readCommon (letters ++ blanks) ≠ .ok host := by
  intro reads
  obtain ⟨others, last, blanksEq⟩ := (List.eq_nil_or_concat blanks).resolve_left filled
  have lastBlank : isTrimmed last = true := blank last (by simp [blanksEq])
  have isLast : (letters ++ blanks).getLast? = some last := by simp [blanksEq]
  unfold Host.readCommon at reads
  split at reads
  · rename_i rest starts
    unfold Host.readBracketed at reads
    split at reads
    · rename_i closes
      rw [starts, List.getLast?_cons, closes, Option.getD_some, Option.some.injEq] at isLast
      exact ne_of_isTrimmed ']' (by decide) lastBlank isLast.symm
    · cases reads
  · split at reads
    · cases reads
    · cases reads
    · rename_i domain _ domainEq
      obtain ⟨name, spells, writes⟩ := Option.bind_eq_some_iff.mp domainEq
      have ascii : last.toNat < 0x80 := Nat.lt_of_le_of_lt (of_decide_eq_true lastBlank) (by decide)
      have inLetters : last ∈ letters ++ blanks := List.mem_of_getLast? isLast
      obtain ⟨noSign, noDigit⟩ := octet_of_isTrimmed lastBlank
      have decoded := Percent.mem_decode noSign noDigit
        ((Utf8.mem_encode_iff ascii).mpr inLetters)
      rw [Utf8.toText?_eq_some_iff.mp spells] at decoded
      have inName : last ∈ name.toList := (Utf8.mem_encode_iff ascii).mp decoded
      rw [not_isTrimmed_of_toAscii? writes last inName] at lastBlank
      cases lastBlank

theorem behindUser_append {letters behind : List Char} (noUser : '@' ∉ behind) :
    behindUser (letters ++ behind) = behindUser letters ++ behind := by
  have passes : ∀ letter ∈ behind.reverse, (letter != '@') = true := by
    intro letter member
    rw [bne_iff_ne]
    rintro rfl
    exact noUser (List.mem_reverse.mp member)
  simp only [behindUser, List.contains_eq_mem, List.mem_append, noUser, or_false,
    List.reverse_append, List.takeWhile_append_of_pos passes, List.reverse_reverse]
  split <;> rfl

/-- Letters without a colon belong to the host they stand behind, or to its port. -/
theorem splitHost_append_of_noColon {letters behind : List Char} (within : Within behind)
    (noColon : ':' ∉ behind) (inBrackets : Bool) :
    splitHost .common inBrackets (letters ++ behind) =
      if (splitHost .common inBrackets letters).2 = [] then
        ((splitHost .common inBrackets letters).1 ++ behind, [])
      else ((splitHost .common inBrackets letters).1,
        (splitHost .common inBrackets letters).2 ++ behind) := by
  induction letters generalizing inBrackets with
  | nil =>
      rw [List.nil_append]
      induction behind generalizing inBrackets with
      | nil => rfl
      | cons letter rest ih =>
          obtain ⟨letterWithin, restWithin⟩ := List.forall_mem_cons.mp within
          rw [List.mem_cons, not_or] at noColon
          have other : (letter == ':') = false := beq_eq_false_iff_ne.mpr (Ne.symm noColon.1)
          simp only [splitHost, letterWithin, other, Bool.false_and, Bool.or_self,
            Bool.false_eq_true, if_false, ih restWithin noColon.2, if_true, List.nil_append]
  | cons letter rest ih =>
      simp only [List.cons_append, splitHost]
      split
      · rfl
      · generalize (if letter = '[' then true else if letter = ']' then false else inBrackets) =
          brackets
        by_cases noPort : (splitHost .common brackets rest).2 = []
        · simp [ih, noPort]
        · simp [ih, noPort]

/-- No port is read from digits with blanks behind them. -/
theorem splitPort_ne_ok {scheme letters behind : List Char} {found : Option UInt16 × List Char}
    (within : Within letters) (blank : ∀ letter ∈ blanks, isTrimmed letter = true)
    (filled : blanks ≠ []) (stops : Stops behind) :
    splitPort scheme (':' :: (letters ++ blanks ++ behind)) ≠ .ok found := by
  have allWithin : Within (letters ++ blanks) :=
    within_append.mpr ⟨within, within_of_isTrimmed blank⟩
  obtain ⟨first, rest, blanksEq⟩ := List.exists_cons_of_ne_nil filled
  have noDigit : first.isDigit = false := by
    have firstBlank : isTrimmed first = true := blank first (by simp [blanksEq])
    by_contra digit
    rw [Bool.not_eq_false, Char.isDigit, Bool.and_eq_true, decide_eq_true_eq] at digit
    have above : 0x30 ≤ first.toNat := UInt32.le_iff_toNat_le.mp digit.1
    have below : first.toNat ≤ 0x20 := of_decide_eq_true firstBlank
    omega
  obtain ⟨next, others, nextEq⟩ : ∃ next others,
      (letters ++ blanks).dropWhile Char.isDigit = next :: others := by
    refine List.exists_cons_of_ne_nil fun nothing => ?_
    have digit := List.dropWhile_eq_nil_iff.mp nothing first (by simp [blanksEq])
    rw [noDigit] at digit
    cases digit
  have nextWithin : endsAuthority .common next = false :=
    allWithin next (List.dropWhile_subset _ (nextEq ▸ List.mem_cons_self))
  rw [splitPort_cons allWithin stops]
  simp [splitPort, List.span_eq_takeWhile_dropWhile, nextEq, nextWithin, Except.map]

/-- No authority is read from letters with blanks at their end. -/
theorem readAuthority_ne_ok {scheme letters behind : List Char} {found : Authority × List Char}
    (within : Within letters) (blank : ∀ letter ∈ blanks, isTrimmed letter = true)
    (filled : blanks ≠ []) (stops : Stops behind) :
    readAuthority scheme .common (letters ++ blanks ++ behind) ≠ .ok found := by
  intro reads
  have noSign (sign : Char) (above : 0x20 < sign.toNat) : sign ∉ blanks := fun member =>
    ne_of_isTrimmed sign above (blank sign member) rfl
  have blanksWithin := within_of_isTrimmed blank
  have allWithin : Within (letters ++ blanks) := within_append.mpr ⟨within, blanksWithin⟩
  unfold readAuthority at reads
  simp only [bind_eq_ok_iff] at reads
  obtain ⟨⟨user, afterUser⟩, userEq, ⟨⟩, -, host, hostEq, ⟨⟩, -, port, portEq, -⟩ := reads
  obtain ⟨-, rfl⟩ := splitUser_append allWithin stops userEq
  rw [behindUser_append (noSign '@' (by decide))] at hostEq portEq
  have withinHost := within_behindUser within
  simp only [splitHost_append (within_append.mpr ⟨withinHost, blanksWithin⟩) stops,
    splitHost_append_of_noColon blanksWithin (noSign ':' (by decide))] at hostEq portEq
  rcases splitHost_cases withinHost false with noPort | ⟨digits, isPort, digitsWithin⟩
  · rw [if_pos noPort] at hostEq
    exact readCommon_ne_ok blank filled hostEq
  · rw [isPort, if_neg (List.cons_ne_nil _ _)] at portEq
    exact splitPort_ne_ok digitsWithin blank filled stops portEq

theorem exists_splitOn_append {sign : Char} {behind : List Char} (noSign : sign ∉ behind)
    (letters : List Char) :
    ∃ before last, letters.splitOn sign = before ++ [last] ∧
      (letters ++ behind).splitOn sign = before ++ [last ++ behind] := by
  induction letters with
  | nil => exact ⟨[], [], List.splitOn_nil _, List.splitOn_eq_singleton noSign⟩
  | cons letter rest ih =>
      obtain ⟨before, last, alone, longer⟩ := ih
      rw [List.cons_append, List.splitOn_cons_eq_if_modifyHead, alone,
        List.splitOn_cons_eq_if_modifyHead, longer]
      split
      · exact ⟨[] :: before, last, rfl, rfl⟩
      · cases before with
        | nil => exact ⟨[], letter :: last, rfl, rfl⟩
        | cons first others => exact ⟨(letter :: first) :: others, last, rfl, rfl⟩

/-- The letters that elements take up in a path, with a slash for each. -/
def room (elements : List (List Char)) : Nat :=
  (elements.flatMap ('/' :: ·)).length

theorem room_nil : room [] = 0 :=
  rfl

theorem room_cons (element : List Char) (rest : List (List Char)) :
    room (element :: rest) = element.length + 1 + room rest := by
  rw [room, List.flatMap_cons, List.length_append, List.length_cons]
  rfl

theorem room_append (before behind : List (List Char)) :
    room (before ++ behind) = room before + room behind := by
  rw [room, List.flatMap_append, List.length_append]
  rfl

theorem room_reverse (elements : List (List Char)) : room elements.reverse = room elements := by
  induction elements with
  | nil => rfl
  | cons element rest ih =>
      rw [List.reverse_cons, room_append, ih, room_cons, room_cons, room_nil]
      omega

theorem length_intercalate (elements : List (List Char)) :
    (['/'].intercalate elements).length = room elements - 1 := by
  induction elements with
  | nil => rfl
  | cons element rest ih =>
      cases rest with
      | nil => simp [room_cons, room_nil]
      | cons next others =>
          rw [List.intercalate_cons_of_ne_nil (List.cons_ne_nil _ _), List.length_append,
            List.length_append, ih]
          simp only [room_cons, List.length_singleton]
          omega

theorem room_goBack_le (kept : List (List Char)) : room (goBack kept) ≤ room kept := by
  cases kept with
  | nil => exact Nat.le_refl 0
  | cons nearest others =>
      rw [goBack]
      split
      · exact Nat.le_refl _
      · rw [room_cons]
        exact Nat.le_add_left _ _

/-- A last element that is resolved takes up no more than it would as a name. -/
theorem room_resolve_le (kept : List (List Char)) (element : List Char) :
    room (resolve .common kept [element]) ≤ room kept + element.length + 1 := by
  have back := room_goBack_le kept
  have noFile : (SchemeKind.common == .file) = false := rfl
  simp only [resolve, noFile, List.isEmpty_nil, Bool.false_and, Bool.false_eq_true, if_false,
    if_true]
  split
  · rw [room_cons, List.length_nil]
    omega
  · split
    · rw [room_cons, List.length_nil]
      omega
    · rw [room_cons]
      omega

/-- The elements that are resolved, in small letters. -/
def dotted : List (List Char) :=
  [".", "%2e", "..", "%2e.", ".%2e", "%2e%2e"].map String.toList

theorem mem_dotted {element : List Char}
    (resolved : isBack element = true ∨ isHere element = true) :
    element.map Char.toLower ∈ dotted := by
  simp only [isBack, isHere, Bool.or_eq_true, beq_iff_eq] at resolved
  rw [dotted, ← String.toList_ofList (l := element.map Char.toLower)]
  refine List.mem_map_of_mem ?_
  simp only [List.mem_cons, List.not_mem_nil, or_false]
  tauto

theorem exists_encode_blanks (blank : ∀ letter ∈ blanks, isTrimmed letter = true)
    (filled : blanks ≠ []) :
    ∃ before, ∃ code ≤ 0x20, Percent.encode Percent.escapedInPath blanks =
      before ++ Percent.escape (.ofNat code) := by
  obtain ⟨others, last, rfl⟩ := (List.eq_nil_or_concat blanks).resolve_left filled
  have lastBlank : isTrimmed last = true := blank last (by simp)
  have below : last.toNat ≤ 0x20 := of_decide_eq_true lastBlank
  have escaped : Percent.encodeChar Percent.escapedInPath last =
      Percent.escape (.ofNat last.toNat) :=
    holds_of_codes (fun letter => Percent.encodeChar Percent.escapedInPath letter =
      Percent.escape (.ofNat letter.toNat)) (by decide) (Nat.lt_succ_of_le below)
  refine ⟨Percent.encode Percent.escapedInPath others, last.toNat, below, ?_⟩
  rw [List.concat_eq_append, Percent.encode, List.flatMap_append, List.flatMap_singleton, escaped]
  rfl

/-- An element with escaped blanks at its end is a name. -/
theorem not_resolved_of_blanks (blank : ∀ letter ∈ blanks, isTrimmed letter = true)
    (filled : blanks ≠ []) (element : List Char) :
    isBack (element ++ Percent.encode Percent.escapedInPath blanks) = false ∧
      isHere (element ++ Percent.encode Percent.escapedInPath blanks) = false := by
  obtain ⟨before, code, below, encoded⟩ := exists_encode_blanks blank filled
  have otherEnds : ∀ code ≤ 0x20, ∀ dots ∈ dotted,
      (((Percent.escape (.ofNat code)).map Char.toLower).reverse.take 2) ≠
        dots.reverse.take 2 := by decide
  have notDotted : (element ++ Percent.encode Percent.escapedInPath blanks).map Char.toLower ∉
      dotted := by
    intro member
    refine otherEnds code below _ member ?_
    rw [encoded]
    simp [Percent.escape]
  constructor
  · exact Bool.eq_false_iff.mpr fun back => notDotted (mem_dotted (.inl back))
  · exact Bool.eq_false_iff.mpr fun here => notDotted (mem_dotted (.inr here))

variable {front tail : List Char}

/-- Blanks behind a path belong to its last element. -/
theorem exists_elementsBefore (blank : ∀ letter ∈ blanks, isTrimmed letter = true) (first : Char)
    (rest : List Char) :
    ∃ others last, elementsBefore (first :: rest) = others ++ [last] ∧
      elementsBefore (first :: rest ++ blanks) =
        others ++ [last ++ Percent.encode Percent.escapedInPath blanks] := by
  have noSlash : ∀ letter ∈ blanks, (if isSlash .common letter then '/' else letter) = letter := by
    intro letter member
    have within := within_of_isTrimmed blank letter member
    simp only [endsAuthority, Bool.or_eq_false_iff] at within
    simp [within.1.1]
  have kept : blanks.map (fun letter => if isSlash .common letter then '/' else letter) =
      blanks := by
    rw [List.map_congr_left noSlash, List.map_id']
  obtain ⟨before, last, alone, longer⟩ := exists_splitOn_append
    (fun member => ne_of_isTrimmed '/' (by decide) (blank '/' member) rfl)
    (rest.map fun letter => if isSlash .common letter then '/' else letter)
  refine ⟨before.map (Percent.encode Percent.escapedInPath),
    Percent.encode Percent.escapedInPath last, ?_, ?_⟩
  · rw [elementsBefore, splitPath, alone, List.map_append]
    rfl
  · rw [List.cons_append, elementsBefore, splitPath, List.map_append, kept, longer,
      List.map_append, List.map_singleton, Percent.encode, List.flatMap_append]
    rfl

variable {first : Char} {rest last : List Char} {others : List (List Char)}

theorem length_trimEndWhile_readPath_le (begins : Begins (first :: rest))
    (elements : elementsBefore (first :: rest) = others ++ [last]) :
    (trimEndWhile (· == '/') (readPath .common (first :: rest))).length ≤
      room (passed [] others) + last.length + 1 := by
  have resolved := room_resolve_le (passed [] others) last
  refine (length_trimEndWhile_le _ _).trans ?_
  rw [readPath_cons (begins first rfl), elements, resolve_append (by simp), List.length_cons,
    length_intercalate, room_reverse]
  omega

theorem length_readPath_of_name (begins : Begins (first :: rest))
    (elements : elementsBefore (first :: rest) = others ++ [last])
    (noBack : isBack last = false) (noHere : isHere last = false) :
    (readPath .common (first :: rest ++ ['/'])).length =
      room (passed [] others) + last.length + 2 := by
  have left : leftBefore (first :: rest) = (passed [] others).reverse ++ [last] := by
    rw [leftBefore, elements, passed_append]
    simp [passed, noBack, noHere]
  have leftFilled : leftBefore (first :: rest) ≠ [] := by
    rw [left]
    simp
  have nothing : IsPlain [] := isPlain_replicate 0
  rw [readPath_eq_of_plain begins nothing, List.splitOn_nil, intercalate_append_nil leftFilled,
    List.length_cons, List.length_append, length_intercalate, left, room_append, room_reverse,
    room_cons, room_nil, List.length_singleton]
  omega

/-- A path with blanks inside is longer than what was read without them can get. -/
theorem readPath_ne_of_blanks (blank : ∀ letter ∈ blanks, isTrimmed letter = true)
    (filled : blanks ≠ []) (begins : Begins front) (frontFilled : front ≠ [])
    (plain : IsPlain tail) :
    readPath .common (front ++ blanks ++ '/' :: tail) ≠
      trimEndWhile (· == '/') (readPath .common front) ++ '/' :: tail := by
  obtain ⟨first, rest, rfl⟩ := List.exists_cons_of_ne_nil frontFilled
  obtain ⟨others, last, alone, longer⟩ := exists_elementsBefore blank first rest
  obtain ⟨noBack, noHere⟩ := not_resolved_of_blanks blank filled last
  have longerBegins : Begins (first :: rest ++ blanks) := fun letter isFirst =>
    begins letter isFirst
  have escapes : 0 < (Percent.encode Percent.escapedInPath blanks).length := by
    obtain ⟨before, code, -, encoded⟩ := exists_encode_blanks blank filled
    rw [encoded, List.length_append]
    exact Nat.add_pos_right _ (Nat.succ_pos 2)
  have trimmedLength := length_trimEndWhile_readPath_le begins alone
  have longerLength : (readPath .common (first :: rest ++ blanks ++ ['/'])).length = _ :=
    length_readPath_of_name longerBegins longer noBack noHere
  intro same
  rw [readPath_append longerBegins plain] at same
  have sameLength := congrArg List.length same
  rw [List.length_append, List.length_append, List.length_cons, longerLength,
    List.length_append] at sameLength
  omega

/-- A path behind an address with blanks at its end does not stand behind the path of the
address. -/
theorem path_ne_of_blanks {host path : String} {url longer : Url} (reads : parse host = .ok url)
    (common : SchemeKind.ofScheme url.scheme = .common)
    (cutOff : relevant host.toList ≠ begun host.toList) (isTail : IsTail path.toList)
    (starts : path.toList = '/' :: tail) (plain : IsPlain tail)
    (longerReads : parse (Outbound.trimAddress host ++ path) = .ok longer)
    (noQuery : longer.query = none) (noFragment : longer.fragment = none) :
    longer.path ≠ .rooted (trimEndWhile (· == '/') url.path.letters ++ path.toList) := by
  obtain ⟨letters, blanks, slashes, authority, behind, goesOn⟩ := exists_goesOn reads common
  have filled : blanks ≠ [] := fun noBlanks => cutOff (goesOn.noBlanks.mpr noBlanks)
  obtain rfl : slashes = [] := goesOn.notBoth.resolve_left filled
  obtain ⟨inside, outside, rfl, within, outsideStops, rfl, -, elsewhere⟩ :=
    readAuthority_outside goesOn.onlySlashes goesOn.reads
  have outsideFilled : outside ≠ [] := by
    rintro rfl
    rw [goesOn.longer path isTail, List.append_nil, ← List.append_assoc] at longerReads
    cases found : readAuthority url.scheme .common (inside ++ blanks ++ path.toList) with
    | error failure =>
        rw [found] at longerReads
        cases longerReads
    | ok other => exact readAuthority_ne_ok within goesOn.blank filled isTail.stops found
  have longerStops : Stops (outside ++ (blanks ++ path.toList)) := by
    intro letter first
    rw [List.head?_append_of_ne_nil _ outsideFilled] at first
    exact outsideStops letter first
  rw [goesOn.longer path isTail, List.append_assoc, elsewhere _ longerStops] at longerReads
  obtain rfl := Except.ok.inj longerReads
  have unmarked := unmarked_of_finish noQuery noFragment
  have outsideUnmarked := (unmarked_append.mp unmarked).1
  have urlEq := goesOn.whole
  rw [List.append_nil, finish_of_unmarked outsideUnmarked] at urlEq
  dsimp only
  rw [finish_of_unmarked unmarked, urlEq, starts, ← List.append_assoc]
  intro same
  exact readPath_ne_of_blanks goesOn.blank filled
    (begins_of_stops outsideStops outsideUnmarked) outsideFilled plain (UrlPath.rooted.inj same)

end Url

end EditorLaunch
