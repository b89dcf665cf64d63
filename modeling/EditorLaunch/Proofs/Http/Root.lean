import EditorLaunch.Proofs.Http.Routing
import EditorLaunch.Proofs.Unicode.Blank

/-!
# Roots

The root of the service loses the blanks around it and then the slashes at its end, and it
gets a slash in front if it has none.  What is left does not end with a slash, but it is not
always a root under which requests arrive: slashes in front are all kept, while requests
lose theirs but for one, and a blank before the slashes at the end comes to stand at the end.
A root without such slashes and blanks is left as it is the next time.
-/

namespace EditorLaunch

open Http

variable {root : String} {blank : Char}

/-- A root without blanks around it and without slashes at its end. -/
def keptRoot (root : String) : List Char :=
  trimEndWhile (· == '/') (trimBlanks root.toList)

/-- A root that has several slashes in front of something else. -/
def Doubled (root : String) : Prop :=
  ∃ rest, trimBlanks root.toList = '/' :: '/' :: rest ∧ ∃ letter ∈ rest, letter ≠ '/'

/-- A root that has a blank before the slashes at its end. -/
def Parted (root : String) (blank : Char) : Prop :=
  isBlank blank = true ∧
    ∃ front count, trimBlanks root.toList = front ++ blank :: List.replicate count '/'

theorem exists_slashes (root : String) :
    ∃ count, trimBlanks root.toList = keptRoot root ++ List.replicate count '/' := by
  obtain ⟨slashes, areSlashes, divided⟩ :=
    exists_append_of_trimEndWhile (· == '/') (trimBlanks root.toList)
  refine ⟨slashes.length, ?_⟩
  rw [keptRoot, ← List.eq_replicate_length.mpr fun letter member =>
    beq_iff_eq.mp (areSlashes letter member)]
  exact divided

theorem getLast?_keptRoot (root : String) : (keptRoot root).getLast? ≠ some '/' := by
  intro isLast
  exact absurd (not_of_mem_getLast?_trimEndWhile isLast) (by decide)

theorem doubled_iff : Doubled root ↔ ['/', '/'] <+: keptRoot root := by
  obtain ⟨count, divided⟩ := exists_slashes root
  have noEnd := getLast?_keptRoot root
  constructor
  · rintro ⟨rest, written, letter, inRest, noSlash⟩
    rw [written] at divided
    match keptEq : keptRoot root with
    | [] =>
        rw [keptEq, List.nil_append] at divided
        have inSlashes : letter ∈ List.replicate count '/' :=
          divided ▸ List.mem_cons_of_mem _ (List.mem_cons_of_mem _ inRest)
        exact absurd (List.mem_replicate.mp inSlashes).2 noSlash
    | [only] =>
        rw [keptEq] at divided noEnd
        obtain rfl := (List.cons.inj divided).1
        exact absurd rfl noEnd
    | first :: second :: others =>
        rw [keptEq] at divided
        obtain ⟨rfl, behind⟩ := List.cons.inj divided
        obtain ⟨rfl, -⟩ := List.cons.inj behind
        exact ⟨others, rfl⟩
  · rintro ⟨others, keptEq⟩
    rw [← keptEq] at divided noEnd
    refine ⟨others ++ List.replicate count '/', divided, ?_⟩
    cases reversed : others.getLast? with
    | none =>
        rw [List.getLast?_eq_none_iff] at reversed
        rw [reversed] at noEnd
        exact absurd rfl noEnd
    | some last =>
        refine ⟨last, List.mem_append_left _ (List.mem_of_getLast? reversed), ?_⟩
        rintro rfl
        apply noEnd
        rw [List.getLast?_append, reversed]
        rfl

theorem parted_iff (white : isBlank blank = true) :
    Parted root blank ↔ (keptRoot root).getLast? = some blank := by
  constructor
  · rintro ⟨-, front, count, written⟩
    have noSlash : (blank == '/') = false := by
      rw [beq_eq_false_iff_ne]
      rintro rfl
      exact absurd white (by decide)
    have slashes : ∀ letter ∈ List.replicate count '/', (letter == '/') = true := by
      intro letter member
      rw [(List.mem_replicate.mp member).2]
      rfl
    have divided : front ++ blank :: List.replicate count '/' =
        front ++ [blank] ++ List.replicate count '/' := by simp
    rw [keptRoot, written, divided, trimEndWhile_append slashes, trimEndWhile_eq_rdropWhile,
      List.rdropWhile_concat, noSlash]
    exact List.getLast?_concat
  · intro isLast
    obtain ⟨front, keptEq⟩ := List.getLast?_eq_some_iff.mp isLast
    obtain ⟨count, divided⟩ := exists_slashes root
    refine ⟨white, front, count, ?_⟩
    rw [divided, keptEq, List.append_assoc, List.singleton_append]

/-- Puts a slash in front if there is none. -/
def rooted : List Char → List Char
  | '/' :: rest => '/' :: rest
  | letters => '/' :: letters

theorem rooted_of_head? {letters : List Char} (slash : letters.head? = some '/') :
    rooted letters = letters := by
  obtain ⟨rest, rfl⟩ := List.head?_eq_some_iff.mp slash
  rfl

theorem rooted_of_ne {letters : List Char} (noSlash : letters.head? ≠ some '/') :
    rooted letters = '/' :: letters := by
  unfold rooted
  split
  · exact absurd rfl noSlash
  · rfl

theorem head?_rooted (letters : List Char) : (rooted letters).head? = some '/' := by
  unfold rooted
  split <;> rfl

theorem getLast?_rooted {letters : List Char} (filled : letters ≠ []) :
    (rooted letters).getLast? = letters.getLast? := by
  by_cases slash : letters.head? = some '/'
  · rw [rooted_of_head? slash]
  · rw [rooted_of_ne slash, List.getLast?_cons_of_ne_nil filled]

theorem toList_normalizedRoot (settings : WebSettings) :
    settings.normalizedRoot.toList = rooted (keptRoot settings.root) := by
  unfold WebSettings.normalizedRoot
  have kept : trimEndWhile (· == '/') (trimBlanks settings.root.toList) =
    keptRoot settings.root := rfl
  dsimp only
  rw [kept]
  split
  · rename_i isEmpty
    rw [isEmpty]
    rfl
  · rename_i starts
    rw [starts, String.toList_ofList]
    rfl
  · rename_i noSlash
    rw [String.toList_ofList, rooted_of_ne]
    intro slash
    obtain ⟨rest, starts⟩ := List.head?_eq_some_iff.mp slash
    exact noSlash rest starts

theorem normalizedRoot_eq_slash_iff (settings : WebSettings) :
    settings.normalizedRoot = "/" ↔ keptRoot settings.root = [] := by
  have noEnd := getLast?_keptRoot settings.root
  rw [← String.toList_inj, toList_normalizedRoot]
  constructor
  · intro alone
    by_contra filled
    rw [← getLast?_rooted filled, alone] at noEnd
    exact noEnd rfl
  · intro isEmpty
    rw [isEmpty]
    rfl

theorem solid_iff (settings : WebSettings) :
    settings.normalizedRoot = "/" ∨ Route.Solid settings.normalizedRoot.toList ↔
      ¬ Doubled settings.root := by
  have noEnd := getLast?_keptRoot settings.root
  rw [normalizedRoot_eq_slash_iff, toList_normalizedRoot, doubled_iff]
  constructor
  · rintro (isEmpty | solid) ⟨others, keptEq⟩
    · rw [isEmpty] at keptEq
      cases keptEq
    · obtain ⟨first, rest, starts, noSlash⟩ := solid.rooted
      rw [← keptEq] at starts
      exact noSlash (List.cons.inj (List.cons.inj starts).2).1.symm
  · intro single
    rcases eq_or_ne (keptRoot settings.root) [] with isEmpty | filled
    · exact .inl isEmpty
    · refine .inr ⟨?_, by rwa [getLast?_rooted filled]⟩
      by_cases slash : (keptRoot settings.root).head? = some '/'
      · obtain ⟨rest, starts⟩ := List.head?_eq_some_iff.mp slash
        rw [starts] at single noEnd ⊢
        cases rest with
        | nil => exact absurd rfl noEnd
        | cons second others =>
            refine ⟨second, others, rfl, ?_⟩
            rintro rfl
            exact single ⟨others, rfl⟩
      · obtain ⟨first, rest, starts⟩ := List.exists_cons_of_ne_nil filled
        rw [rooted_of_ne slash]
        refine ⟨first, rest, by rw [starts], ?_⟩
        rintro rfl
        exact slash (by rw [starts]; rfl)

/-- A root keeps a blank at its end exactly if it is the one that stood before the slashes. -/
theorem getLast?_normalizedRoot_iff (settings : WebSettings) (white : isBlank blank = true) :
    settings.normalizedRoot.toList.getLast? = some blank ↔ Parted settings.root blank := by
  rw [parted_iff white, toList_normalizedRoot]
  by_cases isEmpty : keptRoot settings.root = []
  · rw [isEmpty]
    refine iff_of_false ?_ (by rintro ⟨⟩)
    intro isSlash
    obtain rfl : '/' = blank := Option.some.inj isSlash
    exact absurd white (by decide)
  · rw [getLast?_rooted isEmpty]

theorem keptRoot_isPrefix {letters : List Char} (slash : letters.head? = some '/') :
    keptRoot (String.ofList letters) <+: trimBlanks letters ∧
      trimBlanks letters <+: letters := by
  obtain ⟨rest, rfl⟩ := List.head?_eq_some_iff.mp slash
  have front : ('/' :: rest).dropWhile isBlank = '/' :: rest :=
    List.dropWhile_cons_of_neg (by decide)
  rw [keptRoot, String.toList_ofList]
  refine ⟨List.rdropWhile_prefix _ _, ?_⟩
  rw [trimBlanks, front]
  exact List.rdropWhile_prefix _ _

theorem rooted_keptRoot_eq_iff {letters : List Char} (slash : letters.head? = some '/')
    (noEnd : letters = ['/'] ∨ letters.getLast? ≠ some '/') :
    rooted (keptRoot (String.ofList letters)) = letters ↔
      ∀ last ∈ letters.getLast?, isBlank last = false := by
  obtain ⟨keptPrefix, trimmedPrefix⟩ := keptRoot_isPrefix slash
  constructor
  · intro fixed
    cases keptEq : keptRoot (String.ofList letters) with
    | nil =>
        rw [keptEq] at fixed
        rw [← fixed]
        rintro _ ⟨⟩
        decide
    | cons first rest =>
        have firstSlash : first = '/' := by
          obtain ⟨others, rfl⟩ := List.head?_eq_some_iff.mp slash
          obtain ⟨behind, divided⟩ := keptPrefix.trans trimmedPrefix
          rw [keptEq] at divided
          exact (List.cons.inj divided).1
        rw [rooted_of_head? (by rw [keptEq, firstSlash]; rfl)] at fixed
        -- all letters are kept, so no blank is taken away
        have whole : trimBlanks letters = letters :=
          trimmedPrefix.eq_of_length_le (fixed ▸ keptPrefix).length_le
        intro last isLast
        rw [← whole] at isLast
        exact isBlank_of_mem_getLast?_trimBlanks isLast
  · intro solid
    have whole : trimBlanks letters = letters := by
      refine trimBlanks_eq_self (fun first isFirst => ?_) solid
      obtain rfl : '/' = first := Option.some.inj (slash.symm.trans isFirst)
      decide
    rcases noEnd with rfl | noEnd
    · decide
    · have kept : keptRoot (String.ofList letters) = letters := by
        rw [keptRoot, String.toList_ofList, whole, trimEndWhile_eq_rdropWhile,
          List.rdropWhile_eq_self_iff]
        intro filled isSlash
        rw [beq_iff_eq] at isSlash
        exact noEnd (isSlash ▸ List.getLast?_eq_some_getLast filled)
      rw [kept, rooted_of_head? slash]

theorem normalizedRoot_again_iff (settings : WebSettings) :
    { settings with root := settings.normalizedRoot }.normalizedRoot = settings.normalizedRoot ↔
      ∀ blank, ¬ Parted settings.root blank := by
  have slash : settings.normalizedRoot.toList.head? = some '/' := by
    rw [toList_normalizedRoot]
    exact head?_rooted _
  have noEnd : settings.normalizedRoot.toList = ['/'] ∨
      settings.normalizedRoot.toList.getLast? ≠ some '/' := by
    rcases eq_or_ne (keptRoot settings.root) [] with isEmpty | filled
    · exact .inl (by rw [toList_normalizedRoot, isEmpty]; rfl)
    · right
      rw [toList_normalizedRoot, getLast?_rooted filled]
      exact getLast?_keptRoot _
  have fixed := rooted_keptRoot_eq_iff slash noEnd
  rw [String.ofList_toList] at fixed
  rw [← String.toList_inj, toList_normalizedRoot { settings with root := _ }, fixed]
  constructor
  · intro solid blank parted
    have ends := (getLast?_normalizedRoot_iff settings parted.1).mpr parted
    exact absurd parted.1 (by simp [solid blank ends])
  · intro whole last isLast
    by_contra white
    rw [Bool.not_eq_false] at white
    exact whole last ((getLast?_normalizedRoot_iff settings white).mp isLast)

namespace Http

namespace Target

theorem fitsPath_of_ofPath? {letters : List Char} {target : Target}
    (reads : ofPath? letters = some target) :
    ∀ letter ∈ target.path, fitsPath letter = true := by
  simp only [ofPath?] at reads
  -- with a query or without one, the path is the same
  split at reads
  all_goals
    split at reads
    · rename_i fits
      obtain rfl := Option.some.inj reads
      rw [Bool.and_eq_true, List.all_eq_true] at fits
      exact fits.1
    · cases reads

theorem fitsPath_of_ofHost? {letters : List Char} {target : Target}
    (reads : ofHost? letters = some target) :
    ∀ letter ∈ target.path, fitsPath letter = true := by
  simp only [ofHost?, Option.bind_eq_bind, Option.bind_eq_some_iff] at reads
  obtain ⟨⟨hasScheme, rest⟩, -, reads⟩ := reads
  split at reads
  · cases reads
  · split at reads
    · split at reads
      · cases reads
      · obtain ⟨found, foundEq, targetEq⟩ := Option.bind_eq_some_iff.mp reads
        obtain rfl := Option.some.inj targetEq
        dsimp only
        split
        · exact List.forall_mem_singleton.mpr (by decide)
        · exact fitsPath_of_ofPath? foundEq
    · split at reads
      · obtain rfl := Option.some.inj reads
        exact List.forall_mem_nil _
      · cases reads

/-- A path that was read has only letters that fit it. -/
theorem fitsPath_of_ofText? {address : String} {target : Target}
    (reads : ofText? address = some target) :
    ∀ letter ∈ target.path, fitsPath letter = true := by
  unfold ofText? at reads
  split at reads
  · cases reads
  · split at reads
    · exact fitsPath_of_ofPath? reads
    · obtain rfl := Option.some.inj reads
      exact List.forall_mem_singleton.mpr (by decide)
    · exact fitsPath_of_ofHost? reads

theorem fitsPath_of_isBlank (white : isBlank blank = true) (ascii : blank.toNat < 0x7F) :
    fitsPath blank = false := by
  have unfit : ∀ code ≤ 0x20, fitsPath (Char.ofNat code) = false := by decide
  have low : blank.toNat ≤ 0x20 := by
    simp only [isBlank, Bool.or_eq_true, Bool.and_eq_true, decide_eq_true_eq,
      beq_iff_eq] at white
    omega
  have held := unfit blank.toNat low
  rwa [Char.ofNat_toNat] at held

theorem mem_path_of_mem_normalized {target : Target} {letter : Char}
    (member : letter ∈ target.normalized.path) : letter = '/' ∨ letter ∈ target.path := by
  unfold normalized at member
  split at member
  · refine (List.mem_cons.mp member).imp_right fun inTrimmed => ?_
    have inReversed := List.dropWhile_subset _ (List.mem_reverse.mp inTrimmed)
    exact List.dropWhile_subset _ (List.mem_reverse.mp inReversed)
  · exact .inr member

/-- No path begins with two slashes once it is normalized. -/
theorem not_doubled_normalized (target : Target) :
    ¬ ['/', '/'] <+: target.normalized.path := by
  unfold normalized
  split
  · rintro ⟨others, starts⟩
    obtain ⟨rest, dropped⟩ :=
      List.rdropWhile_prefix (· == '/') (target.path.dropWhile (· == '/'))
    have stops := List.head?_dropWhile_not (· == '/') target.path
    have trimmedEq : '/' :: others =
        (target.path.dropWhile (· == '/')).rdropWhile (· == '/') := (List.cons.inj starts).2
    rw [← dropped, ← trimmedEq] at stops
    simp at stops
  · rename_i single
    intro doubled
    rw [← List.isPrefixOf_iff_prefix] at doubled
    exact single (by rw [doubled, Bool.or_true])

end Target

namespace Service

variable {service : Service} {request : Request}

/-- Below a root with two slashes in front nothing is found. -/
theorem findsNothing_of_doubled (doubled : Doubled service.settings.web.root)
    (get : request.method = "GET") : service.FindsNothing request := by
  apply findsNothing_of_ne get
  intro route arrives
  have keptDoubled := doubled_iff.mp doubled
  obtain ⟨others, keptEq⟩ := keptDoubled
  have below : service.settings.web.normalizedRoot ≠ "/" := by
    rw [Ne, normalizedRoot_eq_slash_iff, ← keptEq]
    exact List.cons_ne_nil _ _
  apply request.target.not_doubled_normalized
  rw [arrives, Route.base, if_neg below, toList_normalizedRoot, ← keptEq]
  exact ⟨others ++ route.path, rfl⟩

/-- Below a root with a letter that no path can have nothing is found. -/
theorem findsNothing_of_unfit {letter : Char} {address : String} {headers : Headers}
    (member : letter ∈ service.settings.web.normalizedRoot.toList)
    (unfit : Target.fitsPath letter = false)
    (built : Request.build? "GET" address headers = some request) :
    service.FindsNothing request := by
  simp only [Request.build?, Option.bind_eq_bind, Option.bind_eq_some_iff] at built
  obtain ⟨target, reads, built⟩ := built
  split at built
  · obtain rfl := Option.some.inj built
    apply findsNothing_of_ne rfl
    intro route arrives
    have noSlash : letter ≠ '/' := by
      rintro rfl
      exact absurd unfit (by decide)
    have below : service.settings.web.normalizedRoot ≠ "/" := by
      intro isSlash
      rw [isSlash] at member
      exact noSlash (List.mem_singleton.mp member)
    have inPath : letter ∈ target.normalized.path := by
      rw [arrives, Route.base, if_neg below]
      exact List.mem_append_left _ member
    have fits := Target.fitsPath_of_ofText? reads letter
      ((Target.mem_path_of_mem_normalized inPath).resolve_left noSlash)
    rw [unfit] at fits
    cases fits
  · cases built

end Service

end Http

/-- The root of the service is a slash, or begins with a slash, does not end with one and
has no blank in front.  It begins with one slash only unless it is written with several, and
it ends with a blank, and is not the same the next time, exactly if it is written with a blank
before the slashes at its end.  Such roots are of no use: below two slashes, and below a
blank of ASCII, no request finds anything. -/
theorem normalizedRoot_is_canonical_iff (settings : WebSettings) :
    (settings.normalizedRoot = "/" ∨ settings.normalizedRoot.toList.head? = some '/' ∧
      settings.normalizedRoot.toList.getLast? ≠ some '/') ∧
    (∀ first ∈ settings.normalizedRoot.toList.head?, isBlank first = false) ∧
    (settings.normalizedRoot = "/" ∨ Route.Solid settings.normalizedRoot.toList ↔
      ¬ Doubled settings.root) ∧
    (∀ blank, isBlank blank = true →
      (settings.normalizedRoot.toList.getLast? = some blank ↔ Parted settings.root blank)) ∧
    ({ settings with root := settings.normalizedRoot }.normalizedRoot =
      settings.normalizedRoot ↔ ∀ blank, ¬ Parted settings.root blank) ∧
    (∀ service : Service, service.settings.web = settings →
      (Doubled settings.root → ∀ request, request.method = "GET" →
        service.FindsNothing request) ∧
      (∀ blank, Parted settings.root blank → blank.toNat < 0x7F →
        ∀ address headers request, Request.build? "GET" address headers = some request →
          service.FindsNothing request)) := by
  have slash : settings.normalizedRoot.toList.head? = some '/' := by
    rw [toList_normalizedRoot]
    exact head?_rooted _
  refine ⟨?shape, ?front, solid_iff settings, fun blank => getLast?_normalizedRoot_iff settings,
    normalizedRoot_again_iff settings, ?use⟩
  case shape =>
    rcases eq_or_ne (keptRoot settings.root) [] with isEmpty | filled
    · exact .inl ((normalizedRoot_eq_slash_iff settings).mpr isEmpty)
    · refine .inr ⟨slash, ?_⟩
      rw [toList_normalizedRoot, getLast?_rooted filled]
      exact getLast?_keptRoot _
  case front =>
    intro first isFirst
    obtain rfl : '/' = first := Option.some.inj (slash.symm.trans isFirst)
    decide
  case use =>
    rintro service rfl
    refine ⟨fun doubled request => Service.findsNothing_of_doubled doubled,
      fun blank parted ascii address headers request built => ?_⟩
    have ends := (getLast?_normalizedRoot_iff _ parted.1).mpr parted
    exact Service.findsNothing_of_unfit (List.mem_of_getLast? ends)
      (Target.fitsPath_of_isBlank parted.1 ascii) built

/-- Two slashes in front stay, and so does a blank before a slash at the end, which is
taken away the next time only. -/
theorem roots_that_are_not_canonical :
    WebSettings.normalizedRoot { root := "//office" } = "//office" ∧
    WebSettings.normalizedRoot { root := "/office /" } = "/office " ∧
    WebSettings.normalizedRoot { root := "/office " } = "/office" := by
  decide

end EditorLaunch
