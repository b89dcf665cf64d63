import EditorLaunch.Trace
import EditorLaunch.Unicode.Blank

/-!
# Log filters

Each log message belongs to a target.  A filter is a list of directives, each of
which says how much the targets that begin with a text may log, from nothing up
to traces.  The directive with the longest such text decides, and the later one
of two with the same text.  Where no directive fits nothing is logged.  A
directive may also be meant for messages within a span or with certain fields
only; such a one says nothing about other messages.
-/

namespace EditorLaunch

/-- How many kinds of messages may be logged: errors are the first kind, and the
other kinds follow in the order of `Level`. -/
abbrev Threshold : Type := Nat

def Level.rank : Level → Nat
  | error => 1
  | warn => 2
  | info => 3
  | debug => 4
  | trace => 5

/-- The names of thresholds, each at its place. -/
def thresholdNames : List (List Char) :=
  ["off", "error", "warn", "info", "debug", "trace"].map String.toList

def thresholdNumber? (letters : List Char) : Option Threshold :=
  let digits := match letters with
    | '+' :: rest => rest
    | others => others
  if digits.isEmpty || !digits.all Char.isDigit then none
  else
    let value := digits.foldl (fun value digit => value * 10 + (digit.toNat - '0'.toNat)) 0
    if value ≤ Level.rank .trace then some value else none

/-- Reads a threshold: a number, or a name in any case. -/
def threshold? (letters : List Char) : Option Threshold :=
  (thresholdNumber? letters).or (thresholdNames.idxOf? (letters.map Char.toLower))

/-- What a directive is about and how much it lets pass. -/
structure Directive where
  target : List Char
  isScoped : Bool
  fields : List (List Char)
  threshold : Threshold
deriving DecidableEq, Repr

namespace Directive

def mayBegin (character : Char) : Bool :=
  character.isAlphanum || character == '-' || character == ':' || character == '_' ||
    (0x80 ≤ character.toNat && !isBlank character)

/-- The threshold behind the equality sign; none means that everything passes. -/
def givenThreshold? (letters : List Char) : Option Threshold :=
  if letters.isEmpty then some (Level.rank .trace) else threshold? letters

/-- Reads what stands behind a span: nothing, or a threshold. -/
def ofTail? (target : List Char) (isScoped : Bool) (fields : List (List Char)) :
    List Char → Option Directive
  | [] => some ⟨target, isScoped, fields, Level.rank .trace⟩
  | '=' :: rest => do return ⟨target, isScoped, fields, ← givenThreshold? rest⟩
  | _ => none

/-- Reads a span behind its bracket, with or without a field. -/
def ofSpan? (target letters : List Char) : Option Directive :=
  let (name, rest) := letters.span fun character => character != ']' && character != '\x7b'
  match rest with
  | ']' :: behind => ofTail? target true [] behind
  | '\x7b' :: behind =>
      let (field, last) := behind.span (· != '\x7d')
      match last with
      | '\x7d' :: ']' :: behind =>
          if field.isEmpty then none
          else ofTail? target (!name.isEmpty || field.contains '=') [field] behind
      | _ => none
  | _ => none

/-- Reads a directive.  Its parts are looked for without the blanks around it and
cut out, at the same places, with them. -/
def read? (letters : List Char) : Option Directive :=
  let kept := trimBlanks letters
  match kept with
  | [] => none
  | '[' :: rest => ofSpan? [] rest
  | first :: _ =>
      let place := (kept.takeWhile fun character => character != '=' && character != '[').length
      let name := letters.take place
      let behind := letters.drop (place + 1)
      if !mayBegin first then none
      else
        match kept[place]? with
        | some '=' => do return ⟨name, false, [], ← givenThreshold? behind⟩
        | some _ => ofSpan? name behind
        | none =>
            match threshold? letters with
            | some threshold => some ⟨[], false, [], threshold⟩
            | none => some ⟨letters, false, [], Level.rank .trace⟩

/-- Whether a directive decides about the messages of a target that stand outside
spans and have no fields but their text. -/
def concerns (directive : Directive) (target : List Char) : Bool :=
  directive.target.isPrefixOf target && !directive.isScoped &&
    directive.fields.all (· == "message".toList)

/-- Whether a directive goes before another one: its target is longer, or it
names more fields. -/
def isFiner (left right : Directive) : Bool :=
  right.target.length < left.target.length ||
    (left.target.length == right.target.length &&
      right.fields.length ≤ left.fields.length)

end Directive

/-- What may be logged. -/
structure Filter where
  directives : List Directive
deriving DecidableEq, Repr

namespace Filter

/-- Reads directives with commas between them; empty ones are passed over. -/
def read? (content : String) : Option Filter := do
  let parts := (content.toList.splitOn ',').filter (!·.isEmpty)
  return ⟨← parts.mapM Directive.read?⟩

/-- The finest directive that decides about a target, the last one of several. -/
def deciding? (filter : Filter) (target : String) : Option Directive :=
  (filter.directives.filter (·.concerns target.toList)).foldl (fun best? next =>
    match best? with
    | some best => some (if next.isFiner best then next else best)
    | none => some next) none

/-- Whether a message of a target may be logged. -/
def allows (filter : Filter) (target : String) (level : Level) : Bool :=
  (filter.deciding? target).any fun directive => level.rank ≤ directive.threshold

def serviceTarget : String := "wopi_server"

/-- The directives of a level of settings: they are about the service itself and,
for traces, also about the handling of requests. -/
def ofLevelText (level : String) : String :=
  let own := serviceTarget ++ "=" ++ level
  if level = "trace" then own ++ ",tower_http=" ++ level else own

end Filter

end EditorLaunch
