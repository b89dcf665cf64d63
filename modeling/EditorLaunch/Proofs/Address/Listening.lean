import EditorLaunch.Proofs.Address.Text
import EditorLaunch.Server

/-!
# Addresses to listen at

The service listens at the host and the port of its settings.  The port is put behind the
host, and both are read again as one text, in which a long address has to stand in brackets.
The text of a short address is therefore a host, and that of a long address is none: what is
reported for it can be used as a host again only in brackets, and without its zone.
-/

namespace EditorLaunch

variable {letters digits : List Char} {port : UInt16}

namespace SocketAddress

theorem number?_eq_some_iff {bound value : Nat} :
    number? bound digits = some value ↔
      digits ≠ [] ∧ (∀ digit ∈ digits, digit.isDigit = true) ∧
        decimalValue digits = value ∧ value < bound := by
  unfold number?
  change (if digits.isEmpty = true ∨ (!digits.all Char.isDigit) = true then none
    else if decimalValue digits < bound then some (decimalValue digits) else none) = some value ↔ _
  split
  · rename_i refused
    refine iff_of_false (by rintro ⟨⟩) ?_
    rintro ⟨filled, areDigits, -⟩
    rcases refused with isEmpty | noDigits
    · exact filled (List.isEmpty_iff.mp isEmpty)
    · rw [List.all_eq_true.mpr areDigits] at noDigits
      cases noDigits
  · rename_i accepted
    simp only [not_or, List.isEmpty_iff, Bool.not_eq_true', Bool.not_eq_false,
      List.all_eq_true] at accepted
    obtain ⟨filled, areDigits⟩ := accepted
    constructor
    · intro reads
      split at reads
      · rename_i below
        obtain rfl := Option.some.inj reads
        exact ⟨filled, areDigits, rfl, below⟩
      · cases reads
    · rintro ⟨-, -, rfl, below⟩
      exact if_pos below

theorem number?_toDigits {bound value : Nat} (below : value < bound) :
    number? bound (Nat.toDigits 10 value) = some value :=
  number?_eq_some_iff.mpr ⟨Nat.toDigits_ne_nil, List.all_eq_true.mp (all_isDigit_toDigits value),
    decimalValue_toDigits value, below⟩

/-- The letters that name the host of an address: those of a short address, or in brackets
some spelling of a long one, perhaps with a zone. -/
inductive Names (port : UInt16) : List Char → SocketAddress → Prop where
  | short (host : IpV4) : Names port host.text.toList { host := .short host, port }
  | long {spelling : List Char} {host : IpV6} (spells : IpV6.ofLetters? spelling = some host) :
      Names port ('[' :: spelling ++ [']']) { host := .long host, port }
  | zoned {spelling digits : List Char} {host : IpV6} {zone : Nat}
      (spells : IpV6.ofLetters? spelling = some host)
      (counts : number? 0x100000000 digits = some zone) :
      Names port ('[' :: (spelling ++ '%' :: digits) ++ [']'])
        { host := .long host, port, zone := .ofNat zone }

theorem notMem_of_spells {sign : Char} (noSpelling : ¬ IpV6.IsSpelling sign) {host : IpV6}
    (spells : IpV6.ofLetters? letters = some host) : sign ∉ letters :=
  fun member => noSpelling (IpV6.isSpelling_of_ofLetters? spells sign member)

theorem bracketed?_eq_some_iff {host : IpV6} {zone : UInt32} :
    bracketed? letters = some (host, zone) ↔
      (IpV6.ofLetters? letters = some host ∧ zone = 0) ∨
        ∃ spelling digits number, letters = spelling ++ '%' :: digits ∧
          IpV6.ofLetters? spelling = some host ∧
          number? 0x100000000 digits = some number ∧ zone = .ofNat number := by
  constructor
  · intro reads
    have divided : letters.takeWhile (· != '%') ++ letters.dropWhile (· != '%') = letters :=
      List.takeWhile_append_dropWhile
    have stops := List.head?_dropWhile_not (· != '%') letters
    simp only [bracketed?, List.span_eq_takeWhile_dropWhile] at reads
    split at reads
    · rename_i alone
      rw [alone, List.append_nil] at divided
      obtain ⟨spelled, spells, same⟩ := Option.bind_eq_some_iff.mp reads
      obtain ⟨rfl, rfl⟩ := Prod.mk.inj (Option.some.inj same)
      exact .inl ⟨divided ▸ spells, rfl⟩
    · rename_i sign digits behind
      obtain ⟨number, counts, reads⟩ := Option.bind_eq_some_iff.mp reads
      obtain ⟨spelled, spells, same⟩ := Option.bind_eq_some_iff.mp reads
      obtain ⟨rfl, rfl⟩ := Prod.mk.inj (Option.some.inj same)
      have isPercent : sign = '%' := by
        rw [behind] at stops
        simpa using stops
      rw [behind, isPercent] at divided
      exact .inr ⟨_, digits, number, divided.symm, spells, counts, rfl⟩
  · rintro (⟨spells, rfl⟩ | ⟨spelling, digits, number, rfl, spells, counts, rfl⟩)
    · have noPercent : '%' ∉ letters := notMem_of_spells (by decide) spells
      have whole : (letters ++ []).span (· != '%') = (letters, []) :=
        span_append (fun letter member => bne_iff_ne.mpr fun same => noPercent (same ▸ member))
          (by simp)
      rw [List.append_nil] at whole
      simp only [bracketed?, whole, spells, Option.bind_eq_bind, Option.bind_some,
        Option.pure_def]
    · have noPercent : '%' ∉ spelling := notMem_of_spells (by decide) spells
      have divided : (spelling ++ '%' :: digits).span (· != '%') = (spelling, '%' :: digits) :=
        span_append (fun letter member => bne_iff_ne.mpr fun same => noPercent (same ▸ member))
          (by simp)
      simp only [bracketed?, divided, counts, spells, Option.bind_eq_bind, Option.bind_some,
        Option.pure_def]

theorem at?_eq_some_iff {address : SocketAddress} :
    at? letters port = some address ↔ Names port letters address := by
  constructor
  · intro reads
    unfold at? at reads
    split at reads
    · rename_i rest
      split at reads
      · rename_i ends
        obtain ⟨front, rfl⟩ := List.getLast?_eq_some_iff.mp ends
        rw [List.dropLast_concat] at reads
        obtain ⟨⟨host, zone⟩, inBrackets, rfl⟩ := Option.map_eq_some_iff.mp reads
        rcases bracketed?_eq_some_iff.mp inBrackets with
          ⟨spells, rfl⟩ | ⟨spelling, digits, number, rfl, spells, counts, rfl⟩
        · exact .long spells
        · exact .zoned spells counts
      · cases reads
    · obtain ⟨host, spells, rfl⟩ := Option.map_eq_some_iff.mp reads
      rw [IpV4.ofLetters?_eq_some_iff] at spells
      rw [spells]
      exact .short host
  · intro names
    cases names with
    | short host =>
        have spells := IpV4.ofLetters?_eq_some_iff.mpr (Eq.refl host.text.toList)
        have noBracket : '[' ∉ host.text.toList :=
          IpV4.sign_notMem_text (by decide) (by decide) host
        unfold at?
        split
        · rename_i starts
          rw [starts] at noBracket
          exact absurd List.mem_cons_self noBracket
        · rw [spells, Option.map_some]
    | long spells =>
        have inBrackets := bracketed?_eq_some_iff.mpr (.inl ⟨spells, rfl⟩)
        simp only [at?, List.cons_append, List.getLast?_concat, List.dropLast_concat, inBrackets,
          if_true, Option.map_some]
    | zoned spells counts =>
        have inBrackets := bracketed?_eq_some_iff.mpr
          (.inr ⟨_, _, _, rfl, spells, counts, rfl⟩)
        simp only [at?, List.cons_append, List.getLast?_concat, List.dropLast_concat, inBrackets,
          if_true, Option.map_some]

/-- No spelling of a long address is a host as it stands. -/
theorem at?_of_spells {host : IpV6} (spells : IpV6.ofLetters? letters = some host) :
    at? letters port = none := by
  have noBracket : '[' ∉ letters := notMem_of_spells (by decide) spells
  unfold at?
  split
  · exact absurd List.mem_cons_self noBracket
  · rw [IpV4.ofLetters?_of_long spells, Option.map_none]

/-- The port is what stands behind the last colon, whatever the host is. -/
theorem ofText?_port (host : String) (port : UInt16) :
    ofText? s!"{host}:{port.toNat}" = at? host.toList port := by
  have written : s!"{host}:{port.toNat}".toList =
      host.toList ++ ':' :: Nat.toDigits 10 port.toNat := by
    have colon : (toString ":").toList = [':'] := rfl
    have same : toString host = host := rfl
    simp [colon, same]
  have noColon : ':' ∉ Nat.toDigits 10 port.toNat :=
    IpV4.sign_notMem_toDigits (by decide) port.toNat
  have divided := span_reverse_append host.toList noColon
  rw [List.span_eq_takeWhile_dropWhile] at divided
  obtain ⟨taken, left⟩ := Prod.mk.inj divided
  have counts : number? 0x10000 (Nat.toDigits 10 port.toNat) = some port.toNat :=
    number?_toDigits port.toNat_lt
  simp only [ofText?, written, taken, left, List.reverse_reverse, counts, Option.bind_eq_bind,
    Option.bind_some, UInt16.ofNat_toNat]

/-- The same address without its zone. -/
def withoutZone (address : SocketAddress) : SocketAddress :=
  { address with zone := 0, unzoned := fun _ => rfl }

theorem Names.port_eq {address : SocketAddress} (names : Names port letters address) :
    address.port = port := by
  cases names with
  | short => rfl
  | long => rfl
  | zoned => rfl

/-- The host of a short address names the address again, that of a long one does not. -/
theorem at?_reported (address : SocketAddress) :
    at? address.host.text.toList address.port = some address ↔ address.host.isLong = false := by
  obtain ⟨host, port, zone, unzoned⟩ := address
  cases host with
  | short host =>
      obtain rfl : zone = 0 := unzoned rfl
      exact iff_of_true (at?_eq_some_iff.mpr (.short host)) rfl
  | long host =>
      have refused : at? host.mixedText.toList port = none :=
        at?_of_spells (IpV6.ofLetters?_mixedText host)
      refine iff_of_false (fun reads => ?_) (by rintro ⟨⟩)
      have accepted : at? host.mixedText.toList port = some _ := reads
      rw [refused] at accepted
      cases accepted

theorem at?_bracketed_reported {address : SocketAddress} (long : address.host.isLong = true) :
    at? ('[' :: address.host.text.toList ++ [']']) address.port = some address.withoutZone := by
  obtain ⟨host, port, zone, unzoned⟩ := address
  cases host with
  | short host => cases long
  | long host => exact at?_eq_some_iff.mpr (.long (IpV6.ofLetters?_mixedText host))

end SocketAddress

namespace WebSettings

open SocketAddress

variable {settings : WebSettings} {host : String} {address : SocketAddress} {κ : Type}

/-- The same settings with another host and another port. -/
def listeningAt (settings : WebSettings) (host : String) (port : UInt16) : WebSettings :=
  { settings with host, port }

theorem result_listen (settings : WebSettings) :
    (settings.listen : Traced κ _).result = settings.listeningAddress := by
  unfold listen
  split
  · rename_i failure refused
    exact refused.symm
  · rename_i address accepted
    exact accepted.symm

theorem listeningAddress_eq_ok_iff :
    (settings.listeningAt host port).listeningAddress = .ok address ↔
      at? host.toList port = some address := by
  unfold listeningAddress listeningAt
  rw [ofText?_port]
  cases at? host.toList port with
  | none => exact iff_of_false (by rintro ⟨⟩) (by rintro ⟨⟩)
  | some found => exact ⟨fun same => by cases same; rfl, fun same => by cases same; rfl⟩

theorem listeningAddress_eq_error (refused : at? host.toList port = none) :
    (settings.listeningAt host port).listeningAddress = .error ⟨⟩ := by
  unfold listeningAddress listeningAt
  rw [ofText?_port, refused]

theorem toList_bracketed (host : String) :
    s!"[{host}]".toList = '[' :: host.toList ++ [']'] := by
  have opening : (toString "[").toList = ['['] := rfl
  have closing : (toString "]").toList = [']'] := rfl
  have same : toString host = host := rfl
  simp [opening, closing, same]

/-- The service listens at a short address that its settings name, and reports it.  A long
address is refused as it stands and has to be named in brackets, perhaps with a zone; other
hosts there are none.  What is reported for a short address is a host for the same address,
what is reported for a long one is no host, and in brackets it names the address without its
zone. -/
theorem hosts_listened_at (settings : WebSettings) (port : UInt16) :
    (∀ host, ((settings.listeningAt host port).listen : Traced κ _).result =
      (settings.listeningAt host port).listeningAddress) ∧
    (∀ host : IpV4, (settings.listeningAt host.text port).listeningAddress =
      .ok { host := .short host, port }) ∧
    (∀ host : IpV6, IpV6.ofLetters? host.mixedText.toList = some host ∧
      ∀ spelling : String, IpV6.ofLetters? spelling.toList = some host →
        (settings.listeningAt spelling port).listeningAddress = .error ⟨⟩ ∧
        (settings.listeningAt s!"[{spelling}]" port).listeningAddress =
          .ok { host := .long host, port }) ∧
    (∀ host address, (settings.listeningAt host port).listeningAddress = .ok address ↔
      Names port host.toList address) ∧
    (∀ host address, (settings.listeningAt host port).listeningAddress = .ok address →
      address.port = port ∧
      ((settings.listeningAt address.host.text address.port).listeningAddress = .ok address ↔
        address.host.isLong = false) ∧
      (address.host.isLong = true →
        (settings.listeningAt s!"[{address.host.text}]" address.port).listeningAddress =
          .ok address.withoutZone)) := by
  refine ⟨fun host => result_listen _, fun host => ?short, fun host => ?long,
    fun host address => ?all, fun host address accepted => ?again⟩
  case short => exact listeningAddress_eq_ok_iff.mpr (at?_eq_some_iff.mpr (.short host))
  case long =>
    refine ⟨IpV6.ofLetters?_mixedText host, fun spelling spells => ⟨?_, ?_⟩⟩
    · exact listeningAddress_eq_error (at?_of_spells spells)
    · rw [listeningAddress_eq_ok_iff, toList_bracketed]
      exact at?_eq_some_iff.mpr (.long spells)
  case all => rw [listeningAddress_eq_ok_iff, at?_eq_some_iff]
  case again =>
    rw [listeningAddress_eq_ok_iff, at?_eq_some_iff] at accepted
    refine ⟨accepted.port_eq, ?_, fun isLong => ?_⟩
    · rw [listeningAddress_eq_ok_iff, at?_reported]
    · rw [listeningAddress_eq_ok_iff, toList_bracketed, at?_bracketed_reported isLong]

/-- The text of a long address is no host, and what is reported for it is none. -/
theorem long_host_refused :
    ∃ host : IpV6, host.mixedText = "::1" ∧
      WebSettings.listeningAddress { host := "::1", port := 9105 } = .error ⟨⟩ ∧
      WebSettings.listeningAddress { host := "[::1]", port := 9105 } =
        .ok { host := .long host, port := 9105 } := by
  refine ⟨⟨[0, 0, 0, 0, 0, 0, 0, 1], rfl⟩, ?_, ?_, ?_⟩
  · decide
  · decide
  · decide

end WebSettings

end EditorLaunch
